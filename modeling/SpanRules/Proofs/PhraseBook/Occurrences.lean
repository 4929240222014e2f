import Mathlib.Data.List.Sort
import SpanRules.Proofs.Pattern.Literals
import SpanRules.Proofs.PhraseBook.Registrations

/-! # What a book of phrases finds

A book finds the places at which the tokens spell a phrase with a surviving registration. The
trie that a history of changes has left behind does not show otherwise.
-/

namespace SpanRules

/-- From `start` on the tokens have the texts of the phrase. -/
def TokenView.Spells (view : TokenView) (attr : TextAttribute) (start : Nat)
    (phrase : List TextId) : Prop :=
  ∀ i (hi : i < phrase.length), view.attr (start + i) (.text attr) = .text phrase[i]

section Spells

variable {view : TokenView} {attr : TextAttribute} {start : Nat} {phrase other : List TextId}

theorem spells_nil : view.Spells attr start [] := by
  intro i hi
  cases hi

theorem spells_cons {id : TextId} : view.Spells attr start (id :: phrase) ↔
    view.attr start (.text attr) = .text id ∧ view.Spells attr (start + 1) phrase := by
  constructor
  · intro h
    refine ⟨h 0 (Nat.zero_lt_succ _), ?_⟩
    intro i hi
    have hnext := h (i + 1) (Nat.succ_lt_succ hi)
    rwa [← Nat.add_assoc, Nat.add_right_comm] at hnext
  · intro h i hi
    obtain ⟨hfirst, hrest⟩ := h
    cases i with
    | zero => exact hfirst
    | succ i =>
        have hnext := hrest i (Nat.lt_of_succ_lt_succ hi)
        rwa [Nat.add_right_comm, Nat.add_assoc] at hnext

/-- The tokens spell at most one phrase of each length. -/
theorem TokenView.Spells.unique (h : view.Spells attr start phrase)
    (hother : view.Spells attr start other) (hlength : phrase.length = other.length) :
    phrase = other := by
  apply List.ext_getElem hlength
  intro i hi hi'
  have hsame := (h i hi).symm.trans (hother i hi')
  exact AttributeValue.text.inj hsame

end Spells

namespace PhraseBook

variable {σ : Type} {b : PhraseBook σ} {view : TokenView} {start node pos left : Nat}

/-! ## Walking down the trie -/

theorem endsBelow_cons {t : Trie} {id : TextId} {child : Nat} {path : List TextId}
    (h : t.child? node id = some child) :
    t.endsBelow node (id :: path) = t.endsBelow child path := by
  rw [Trie.endsBelow, Trie.descend, h, Option.bind_some, Trie.endsBelow]

/-- The next token leads to a child of the node, or the node has no child for it. -/
theorem exists_child_or_none (b : PhraseBook σ) (view : TokenView) (node pos : Nat) :
    (∃ id child, view.attr pos (.text b.attr) = .text id ∧
      b.trie.child? node id = some child) ∨
    ∀ id, view.attr pos (.text b.attr) = .text id → b.trie.child? node id = none := by
  by_cases hnext : ∃ id child,
      view.attr pos (.text b.attr) = .text id ∧ b.trie.child? node id = some child
  · exact Or.inl hnext
  · apply Or.inr
    intro id hid
    apply Option.eq_none_iff_forall_ne_some.mpr
    intro child hchild
    exact hnext ⟨id, child, hid, hchild⟩

theorem walk_succ {id : TextId} {child : Nat}
    (hid : view.attr pos (.text b.attr) = .text id) (hchild : b.trie.child? node id = some child) :
    b.walk view start node pos (left + 1) =
      (b.trie.terminalsAt child).map (⟨·, start, pos + 1⟩) ++
        b.walk view start child (pos + 1) left := by
  simp [walk, hid, AttributeValue.textId?, hchild]

theorem walk_eq_nil
    (h : ∀ id, view.attr pos (.text b.attr) = .text id → b.trie.child? node id = none) :
    b.walk view start node pos left = [] := by
  cases left with
  | zero => rfl
  | succ left =>
      rw [walk]
      cases hid : (view.attr pos (.text b.attr)).textId? with
      | none => rfl
      | some id =>
          have hnone := h id (AttributeValue.textId?_eq_some_iff.mp hid)
          simp [hnone]

/-- A walk finds the keys at the ends of the paths that the tokens spell. -/
theorem mem_walk {m : Match} : m ∈ b.walk view start node pos left ↔ m.start = start ∧
    ∃ path ≠ [], m.stop = pos + path.length ∧ path.length ≤ left ∧
      view.Spells b.attr pos path ∧ m.key ∈ b.trie.endsBelow node path := by
  induction left generalizing node pos with
  | zero =>
      simp only [walk, List.not_mem_nil, false_iff]
      intro hm
      obtain ⟨-, path, hne, -, hlength, -⟩ := hm
      exact hne (List.eq_nil_of_length_eq_zero (Nat.le_zero.mp hlength))
  | succ left ih =>
      rcases b.exists_child_or_none view node pos with ⟨id, child, hid, hchild⟩ | hnone
      · rw [walk_succ hid hchild, List.mem_append, ih, List.mem_map]
        constructor
        · intro hm
          rcases hm with ⟨key, hkey, rfl⟩ | ⟨hstart, path, -, hstop, hlength, hspells, hkey⟩
          · refine ⟨rfl, [id], List.cons_ne_nil _ _, rfl, by simp, ?_, ?_⟩
            · exact spells_cons.mpr ⟨hid, spells_nil⟩
            · rw [endsBelow_cons hchild]
              exact hkey
          · refine ⟨hstart, id :: path, List.cons_ne_nil _ _, ?_, ?_, ?_, ?_⟩
            · rw [hstop, List.length_cons]
              omega
            · exact Nat.succ_le_succ hlength
            · exact spells_cons.mpr ⟨hid, hspells⟩
            · rwa [endsBelow_cons hchild]
        · intro hm
          obtain ⟨rfl, path, hne, hstop, hlength, hspells, hkey⟩ := hm
          obtain ⟨id', rest, rfl⟩ := List.exists_cons_of_ne_nil hne
          obtain ⟨hid', hrest⟩ := spells_cons.mp hspells
          obtain rfl := AttributeValue.text.inj (hid'.symm.trans hid)
          rw [endsBelow_cons hchild] at hkey
          by_cases hnil : rest = []
          · subst hnil
            exact Or.inl ⟨m.key, hkey, by rw [← show m.stop = pos + 1 from hstop]⟩
          · refine Or.inr ⟨rfl, rest, hnil, ?_, Nat.le_of_succ_le_succ hlength, hrest, hkey⟩
            rw [hstop, List.length_cons]
            omega
      · rw [walk_eq_nil hnone]
        simp only [List.not_mem_nil, false_iff]
        intro hm
        obtain ⟨-, path, hne, -, -, hspells, hkey⟩ := hm
        obtain ⟨id, rest, rfl⟩ := List.exists_cons_of_ne_nil hne
        rw [Trie.endsBelow, Trie.descend, hnone id (spells_cons.mp hspells).1] at hkey
        exact absurd hkey List.not_mem_nil

/-- A walk finds shorter paths first, and the keys of one path in the order of a relation if they
end there in that order. Below a child a path stands for the one with its token in front. -/
theorem pairwise_walk (R : List TextId → TextId → TextId → Prop)
    (hR : ∀ path, (b.trie.endsBelow node path).Pairwise (R path)) :
    (b.walk view start node pos left).Pairwise fun m n =>
      m.stop < n.stop ∨ m.stop = n.stop ∧
        ∃ path, view.Spells b.attr pos path ∧ pos + path.length = m.stop ∧ R path m.key n.key := by
  induction left generalizing node pos R with
  | zero => exact .nil
  | succ left ih =>
      rcases b.exists_child_or_none view node pos with ⟨id, child, hid, hchild⟩ | hnone
      · have hhere : (b.trie.terminalsAt child).Pairwise (R [id]) := by
          have hends := hR [id]
          rwa [endsBelow_cons hchild] at hends
        rw [walk_succ hid hchild]
        refine List.pairwise_append.mpr ⟨List.pairwise_map.mpr (hhere.imp ?_), ?_, ?_⟩
        · intro j k hjk
          exact Or.inr ⟨rfl, [id], spells_cons.mpr ⟨hid, spells_nil⟩, rfl, hjk⟩
        · have hrest := @ih child (pos + 1) (fun path => R (id :: path)) ?_
          · refine hrest.imp ?_
            intro m n hmn
            rcases hmn with hlt | ⟨hstop, path, hspells, hlength, hkeys⟩
            · exact Or.inl hlt
            · refine Or.inr ⟨hstop, id :: path, spells_cons.mpr ⟨hid, hspells⟩, ?_, hkeys⟩
              rw [← hlength, List.length_cons]
              omega
          · intro path
            rw [← endsBelow_cons hchild]
            exact hR (id :: path)
        · intro m hm n hn
          obtain ⟨key, -, rfl⟩ := List.mem_map.mp hm
          obtain ⟨-, path, hne, hstop, -⟩ := mem_walk.mp hn
          have := List.length_pos_of_ne_nil hne
          exact Or.inl (by change pos + 1 < n.stop; omega)
      · rw [walk_eq_nil hnone]
        exact .nil

/-! ## Finding phrases -/

section Finding

variable {attr : TextAttribute} {log : Registrations}

theorem mem_find (h : b.Logs attr log) {m : Match} :
    m ∈ b.find view ↔ m.start < m.stop ∧ m.stop ≤ view.size ∧
      ∃ phrase, (m.key, phrase) ∈ log ∧ phrase.length = m.stop - m.start ∧
        view.Spells attr m.start phrase := by
  simp only [find, List.mem_flatMap, List.mem_range, mem_walk, h.attr, h.ends,
    Registrations.mem_keysOf]
  constructor
  · intro hm
    obtain ⟨start, hstart, rfl, phrase, hne, hstop, hlength, hspells, hkey⟩ := hm
    have := List.length_pos_of_ne_nil hne
    exact ⟨by omega, by omega, phrase, hkey, by omega, hspells⟩
  · intro hm
    obtain ⟨hlt, hstop, phrase, hkey, hlength, hspells⟩ := hm
    have hne : phrase ≠ [] := by
      apply List.ne_nil_of_length_pos
      omega
    exact ⟨m.start, by omega, rfl, phrase, hne, by omega, by omega, hspells, hkey⟩

/-- Matches by start, then by stop, then by the first registrations of their phrase. -/
def Precedes (log : Registrations) (attr : TextAttribute) (view : TokenView) (m n : Match) :
    Prop :=
  m.start < n.start ∨ m.start = n.start ∧ (m.stop < n.stop ∨ m.stop = n.stop ∧
    ∃ phrase, phrase.length = m.stop - m.start ∧ view.Spells attr m.start phrase ∧
      log.idxOf (m.key, phrase) < log.idxOf (n.key, phrase))

instance : Std.Irrefl (Precedes log attr view) where
  irrefl m h := by
    rcases h with hstart | ⟨-, hstop | ⟨-, phrase, -, -, hkeys⟩⟩
    · exact Nat.lt_irrefl _ hstart
    · exact Nat.lt_irrefl _ hstop
    · exact Nat.lt_irrefl _ hkeys

instance : Std.Antisymm (Precedes log attr view) where
  antisymm m n hmn hnm := by
    exfalso
    rcases hmn with hstart | ⟨hstart, hmn⟩
    · rcases hnm with hnm | ⟨hnm, -⟩ <;> omega
    · rcases hnm with hnm | ⟨-, hnm⟩
      · omega
      · rcases hmn with hstop | ⟨hstop, phrase, hlength, hspells, hkeys⟩
        · rcases hnm with hnm | ⟨hnm, -⟩ <;> omega
        · rcases hnm with hnm | ⟨-, other, hlength', hspells', hkeys'⟩
          · omega
          · rw [← hstart] at hspells'
            obtain rfl := hspells.unique hspells' (by omega)
            omega

theorem pairwise_find (h : b.Logs attr log) :
    (b.find view).Pairwise (Precedes log attr view) := by
  refine List.pairwise_flatMap.mpr ⟨?_, List.pairwise_lt_range.imp ?_⟩
  · intro start hstart
    let R (phrase : List TextId) (j k : TextId) : Prop :=
      log.idxOf (j, phrase) < log.idxOf (k, phrase)
    have hR (path : List TextId) : (b.trie.endsBelow 0 path).Pairwise (R path) := by
      rw [h.ends]
      exact Registrations.pairwise_keysOf
    refine (pairwise_walk R hR).imp_of_mem ?_
    intro m n hm hn hmn
    obtain ⟨rfl, -⟩ := mem_walk.mp hm
    obtain ⟨hsame, -⟩ := mem_walk.mp hn
    rw [h.attr] at hmn
    rcases hmn with hlt | ⟨hstop, phrase, hspells, hlength, hkeys⟩
    · exact Or.inr ⟨hsame.symm, Or.inl hlt⟩
    · exact Or.inr ⟨hsame.symm, Or.inr ⟨hstop, phrase, by omega, hspells, hkeys⟩⟩
  · intro start later hlt m hm n hn
    obtain ⟨rfl, -⟩ := mem_walk.mp hm
    obtain ⟨rfl, -⟩ := mem_walk.mp hn
    exact Or.inl hlt

/-- What is found depends on the registrations alone, not on the nodes of the trie. -/
theorem find_eq_of_logs {c : PhraseBook σ} (hb : b.Logs attr log) (hc : c.Logs attr log) :
    b.find view = c.find view := by
  refine (pairwise_find hb).eq_of_mem_iff (pairwise_find hc) ?_
  intro m
  rw [mem_find hb, mem_find hc]

end Finding

end PhraseBook

/-! ## Removed keys -/

variable [Hashing]

/-- The change is an addition under the key. -/
def PhraseChange.adds {σ : Type} (key : TextId) : PhraseChange σ → Bool
  | .add other _ _ => .of other = key
  | .remove _ => false

namespace PhraseBook

variable {σ : Type}

/-- Without the additions under a key the registrations of the key are missing, and no others. -/
theorem foldl_register_filter (attr : TextAttribute) (changes : List (PhraseChange σ))
    (key : TextId) :
    (changes.filter fun c => !c.adds key).foldl (register attr) [] =
      (changes.foldl (register attr) []).filter (·.1 ≠ key) := by
  induction changes using List.reverseRecOn with
  | nil => rfl
  | append_singleton changes c ih =>
      rw [List.filter_append, List.foldl_append, List.foldl_append, ih]
      cases c with
      | add other handler phrases =>
          by_cases hkey : .of other = key
          · simp [PhraseChange.adds, hkey, register]
          · simp [PhraseChange.adds, hkey, register, List.filter_map, Function.comp_def]
      | remove other =>
          simp only [PhraseChange.adds, Bool.not_false, List.filter_cons_of_pos,
            List.filter_nil, List.foldl_cons, List.foldl_nil, register, List.filter_filter]
          congr 1
          funext r
          exact Bool.and_comm _ _

theorem survivors_erase (attr : TextAttribute) (changes later : List (PhraseChange σ))
    (key : String) :
    survivors attr ((changes.filter fun c => !c.adds (.of key)) ++ .remove key :: later) =
      survivors attr (changes ++ .remove key :: later) := by
  rw [survivors_eq, survivors_eq, List.foldl_append, List.foldl_append, foldl_register_filter,
    List.foldl_cons, List.foldl_cons]
  congr 1
  simp [register]

/-- After any changes a book finds exactly the places at which the tokens spell a phrase with a
surviving registration, each once for each key and in order. Which registrations survive can be
told from the changes alone. A removed key leaves no trace: the book finds what it would have
found had nothing been added under the key before. -/
theorem find_survivors (attr : TextAttribute) (changes : List (PhraseChange σ))
    (view : TokenView) :
    let log := survivors attr changes
    log = changes.foldl (register attr) [] ∧
    (∀ m, m ∈ (history attr changes).find view ↔ m.start < m.stop ∧ m.stop ≤ view.size ∧
      ∃ phrase, (m.key, phrase) ∈ log ∧ phrase.length = m.stop - m.start ∧
        view.Spells attr m.start phrase) ∧
    ((history attr changes).find view).Pairwise (Precedes log attr view) ∧
    ∀ key later, (history attr (changes ++ .remove key :: later)).find view =
      (history attr ((changes.filter fun c => !c.adds (.of key)) ++ .remove key :: later)).find
        view := by
  intro log
  have h := logs_history attr changes
  refine ⟨survivors_eq attr changes, fun m => mem_find h, pairwise_find h, ?_⟩
  intro key later
  have herased :=
    logs_history attr ((changes.filter fun c => !c.adds (.of key)) ++ .remove key :: later)
  rw [survivors_erase] at herased
  exact find_eq_of_logs (logs_history attr _) herased

end PhraseBook

end SpanRules
