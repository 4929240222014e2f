import Mathlib.Data.Finset.Card
import Mathlib.Data.List.Infix
import SpanRules.Proofs.Match.Handlers
import SpanRules.Proofs.PhraseBook.LiteralRules

/-! # The nodes of a trie are the beginnings of phrases

Entering a phrase makes the nodes that its path lacks, and no operation takes a node away. So the
nodes other than the root are the beginnings of all phrases that have ever been entered, each lying
at the end of its own path. The keys at a node are those whose phrases end there.
-/

namespace SpanRules

namespace Trie

variable {t : Trie} {node m : Nat} {id key : TextId} {path front rest : List TextId}
  {phrases : List (List TextId)}

/-! ## Trees -/

/-- The links make a tree with its root at node 0. -/
structure IsTree (t : Trie) : Prop where
  inside {node : Nat} {id : TextId} {child : Nat} :
    t.child? node id = some child → node < t.size ∧ child < t.size
  root (node : Nat) (id : TextId) : t.child? node id ≠ some 0
  link : ∀ node < t.size, node ≠ 0 →
    ∃! link : Nat × TextId, t.child? link.1 link.2 = some node
  path : ∀ node < t.size, ∃! path, t.descend 0 path = some node

/-- Every node can be reached, and the paths are the beginnings of the phrases. -/
structure Grown (t : Trie) (phrases : List (List TextId)) : Prop where
  linked : t.WellLinked
  reached : ∀ node < t.size, ∃ path, t.descend 0 path = some node
  begins (path : List TextId) :
    (∃ node, t.descend 0 path = some node) ↔ path = [] ∨ ∃ phrase ∈ phrases, path <+: phrase

theorem WellLinked.lt_size_of_descend (h : t.WellLinked) (hnode : node < t.size)
    (hm : t.descend node path = some m) : m < t.size := by
  induction path generalizing node with
  | nil => exact Option.some.inj hm ▸ hnode
  | cons id path ih =>
      obtain ⟨child, hchild, hrest⟩ := Option.bind_eq_some_iff.mp hm
      exact ih (h.newer hchild).2 hrest

theorem lt_size_of_child? {child : Nat} (h : t.child? node id = some child) : node < t.size := by
  by_contra hle
  rw [child?, Array.getElem?_eq_none (Nat.le_of_not_lt hle)] at h
  cases h

/-- Where links lead to newer nodes and every node is reached, they make a tree. -/
theorem Grown.isTree (h : t.Grown phrases) : t.IsTree where
  inside hchild := ⟨lt_size_of_child? hchild, (h.linked.newer hchild).2⟩
  root node id hchild := Nat.not_lt_zero node (h.linked.newer hchild).1
  link node hnode hne := by
    obtain ⟨path, hpath⟩ := h.reached node hnode
    rcases path.eq_nil_or_concat with rfl | ⟨front, id, rfl⟩
    · exact absurd (Option.some.inj hpath).symm hne
    · rw [List.concat_eq_append, descend_concat] at hpath
      obtain ⟨parent, -, hchild⟩ := Option.bind_eq_some_iff.mp hpath
      refine ⟨(parent, id), hchild, fun other hother => ?_⟩
      obtain ⟨hparent, hid⟩ := h.linked.once hother hchild
      exact Prod.ext hparent hid
  path node hnode := by
    obtain ⟨path, hpath⟩ := h.reached node hnode
    exact ⟨path, hpath, fun other hother => h.linked.path_unique hother hpath⟩

/-- Apart from the root there is a node for each beginning. -/
theorem Grown.size_eq (h : t.Grown phrases) :
    t.size = ((phrases.flatMap List.inits).toFinset.erase []).card + 1 := by
  let paths : Finset (List TextId) :=
    Insert.insert [] ((phrases.flatMap List.inits).toFinset.erase [])
  have hmem (path : List TextId) : path ∈ paths ↔ ∃ node, t.descend 0 path = some node := by
    rw [h.begins]
    by_cases hnil : path = [] <;> simp [paths, hnil]
  let nodeAt (path : List TextId) : Nat := (t.descend 0 path).getD 0
  have hinj : Set.InjOn nodeAt paths := by
    intro path hpath other hother heq
    obtain ⟨node, hnode⟩ := (hmem path).mp hpath
    obtain ⟨last, hlast⟩ := (hmem other).mp hother
    obtain rfl : node = last := by simpa [nodeAt, hnode, hlast] using heq
    exact h.linked.path_unique hnode hlast
  have himage : paths.image nodeAt = Finset.range t.size := by
    ext node
    rw [Finset.mem_image, Finset.mem_range]
    constructor
    · rintro ⟨path, hpath, rfl⟩
      obtain ⟨node, hnode⟩ := (hmem path).mp hpath
      have hlt := h.linked.lt_size_of_descend h.linked.root hnode
      simpa [nodeAt, hnode] using hlt
    · intro hnode
      obtain ⟨path, hpath⟩ := h.reached node hnode
      exact ⟨path, (hmem path).mpr ⟨node, hpath⟩, by simp [nodeAt, hpath]⟩
  calc
    t.size = (paths.image nodeAt).card := by rw [himage, Finset.card_range]
    _ = paths.card := Finset.card_image_of_injOn hinj
    _ = _ := Finset.card_insert_of_notMem (Finset.notMem_erase _ _)

/-! ## Growth -/

theorem exists_descend_of_prefix (hpath : path <+: front) (h : t.descend node front = some m) :
    ∃ last, t.descend node path = some last := by
  obtain ⟨rest, rfl⟩ := hpath
  rw [descend_append] at h
  obtain ⟨last, hlast, -⟩ := Option.bind_eq_some_iff.mp h
  exact ⟨last, hlast⟩

/-- A new node adds one path. -/
theorem WellLinked.descend_grow (h : t.WellLinked) (hfront : t.descend 0 front = some node)
    (hnew : t.child? node id = none) :
    (t.grow node id).descend 0 (front ++ [id]) = some t.size ∧ ∀ path,
      (∃ m, (t.grow node id).descend 0 path = some m) ↔
        path = front ++ [id] ∨ ∃ m, t.descend 0 path = some m := by
  have hnode : node < t.size := h.lt_size_of_descend h.root hfront
  have hgrow : (t.grow node id).Extends t := extends_grow hnode hnew
  have hlinked : (t.grow node id).WellLinked := h.grow hnode
  have hlast : (t.grow node id).descend 0 (front ++ [id]) = some t.size := by
    rw [descend_concat, hgrow.descend hfront, Option.bind_some, child?_grow hnode,
      if_pos ⟨rfl, rfl⟩]
  refine ⟨hlast, fun path => ⟨?_, ?_⟩⟩
  · rintro ⟨m, hm⟩
    rcases hgrow.descend_or_le hlinked hm with hold | hnew
    · exact Or.inr ⟨m, hold⟩
    · have hlt := hlinked.lt_size_of_descend hlinked.root hm
      rw [size_grow] at hlt
      obtain rfl : m = t.size := by omega
      exact Or.inl (hlinked.path_unique hm hlast)
  · rintro (rfl | ⟨m, hm⟩)
    · exact ⟨t.size, hlast⟩
    · exact ⟨m, hgrow.descend hm⟩

theorem descend_terminate : (t.terminate node key).descend m path = t.descend m path := by
  induction path generalizing m with
  | nil => rfl
  | cons id rest ih => simp only [descend, child?_terminate, ih]

/-- Entering the rest of a phrase below a beginning that has a node makes its further beginnings to
paths and no others, and leaves no node behind that is not reached. -/
theorem WellLinked.descend_insertAt (h : t.WellLinked) (hfront : t.descend 0 front = some node)
    (hreached : ∀ m < t.size, ∃ path, t.descend 0 path = some m) (key : TextId)
    (rest : List TextId) :
    (∀ m < (t.insertAt key node rest).size,
      ∃ path, (t.insertAt key node rest).descend 0 path = some m) ∧
    ∀ path, (∃ m, (t.insertAt key node rest).descend 0 path = some m) ↔
      (∃ m, t.descend 0 path = some m) ∨ path <+: front ++ rest := by
  induction rest generalizing t node front with
  | nil =>
      simp only [insertAt, descend_terminate, size_terminate, List.append_nil]
      refine ⟨hreached, fun path => ⟨Or.inl, fun hpath => hpath.elim id fun hpath => ?_⟩⟩
      exact exists_descend_of_prefix hpath hfront
  | cons x rest ih =>
      rw [← List.singleton_append, ← List.append_assoc, List.singleton_append, insertAt]
      cases hchild : t.child? node x with
      | some child =>
          have hnext : t.descend 0 (front ++ [x]) = some child := by
            rw [descend_concat, hfront, Option.bind_some, hchild]
          exact ih h hnext hreached
      | none =>
          obtain ⟨hnext, hpaths⟩ := h.descend_grow hfront hchild
          have hnode : node < t.size := h.lt_size_of_descend h.root hfront
          have hgrown : ∀ m < (t.grow node x).size,
              ∃ path, (t.grow node x).descend 0 path = some m := by
            intro m hm
            rw [size_grow] at hm
            rcases Nat.lt_succ_iff_lt_or_eq.mp hm with hold | rfl
            · obtain ⟨path, hpath⟩ := hreached m hold
              exact ⟨path, (extends_grow hnode hchild).descend hpath⟩
            · exact ⟨_, hnext⟩
          obtain ⟨hrest, hbegins⟩ := ih (h.grow hnode) hnext hgrown
          refine ⟨hrest, fun path => ?_⟩
          rw [hbegins, hpaths, or_assoc, or_comm, or_assoc]
          refine or_congr_right (or_iff_left_of_imp ?_)
          rintro rfl
          exact List.prefix_append _ _

theorem Grown.insert (h : t.Grown phrases) (key : TextId) (phrase : List TextId) :
    (t.insert key phrase).Grown (phrases ++ [phrase]) := by
  obtain ⟨hreached, hbegins⟩ :=
    h.linked.descend_insertAt (show t.descend 0 [] = some 0 from rfl) h.reached key phrase
  refine ⟨h.linked.insert, hreached, fun path => ?_⟩
  rw [Trie.insert, hbegins, h.begins, List.nil_append, or_assoc]
  simp only [List.mem_append, List.mem_singleton, or_and_right, exists_or, exists_eq_left]

theorem Grown.insertAll (h : t.Grown phrases) (key : TextId) (entered : List (List TextId)) :
    (t.insertAll key entered).Grown (phrases ++ entered) := by
  induction entered generalizing t phrases with
  | nil => rwa [List.append_nil]
  | cons phrase rest ih =>
      have hrest := ih (h.insert key phrase)
      rwa [List.append_assoc] at hrest

theorem Grown.forget (h : t.Grown phrases) (key : TextId) : (t.forget key).Grown phrases where
  linked := h.linked.forget
  reached node hnode := by
    rw [size_forget] at hnode
    simp only [descend_forget, h.reached node hnode]
  begins path := by simp only [descend_forget, h.begins]

theorem grown_empty : Grown {} [] where
  linked := wellLinked_empty
  reached node hnode := ⟨[], congrArg some (Nat.lt_one_iff.mp hnode).symm⟩
  begins path := by
    cases path with
    | nil => simp [descend]
    | cons id rest => simp [descend, child?_empty]

end Trie

/-! ## Books -/

namespace Registrations

variable {log : Registrations} {key id : TextId} {sequences : List (List TextId)}

/-- The phrases registered under a key in order, repetitions included. -/
def phrasesOf (log : Registrations) (key : TextId) : List (List TextId) :=
  (log.filter (·.1 = key)).map (·.2)

theorem mem_phrasesOf {phrase : List TextId} :
    phrase ∈ log.phrasesOf key ↔ (key, phrase) ∈ log := by
  simp [phrasesOf]

theorem phrasesOf_append_map :
    phrasesOf (log ++ sequences.map (key, ·)) id =
      if id = key then log.phrasesOf id ++ sequences else log.phrasesOf id := by
  by_cases hid : id = key
  · simp [phrasesOf, List.filter_map, Function.comp_def, hid]
  · simp [phrasesOf, List.filter_map, Function.comp_def, hid, Ne.symm hid]

theorem phrasesOf_filter_ne :
    phrasesOf (log.filter (·.1 ≠ key)) id = if id = key then [] else log.phrasesOf id := by
  rw [phrasesOf, List.filter_filter]
  by_cases hid : id = key
  · simp [hid]
  · rw [if_neg hid, phrasesOf]
    congr 1
    refine List.filter_congr fun r _ => ?_
    by_cases hr : r.1 = id
    · simp [hr, hid]
    · simp [hr]

end Registrations

namespace PhraseBook

variable [Hashing] {σ : Type} {b b' : PhraseBook σ} {attr : TextAttribute} {log : Registrations}
  {entered : List (List TextId)} {key : String}

/-- The phrases that a change enters: those of an addition, when it succeeds. -/
def newPhrases (b : PhraseBook σ) (c : PhraseChange σ) : List (List TextId) :=
  match b.change c, c with
  | .ok _, .add _ _ phrases => sequencesOf b.attr phrases
  | _, _ => []

/-- The phrases that changes in order enter, also those removed later. -/
def enteredFrom (b : PhraseBook σ) : List (PhraseChange σ) → List (List TextId)
  | [] => []
  | c :: rest => b.newPhrases c ++ (b.attempt c).enteredFrom rest

/-- The trie has grown by the phrases ever entered, and the rules list those registered, which have
tokens and stand under texts. -/
structure Remembers (b : PhraseBook σ) (entered : List (List TextId)) (log : Registrations) :
    Prop where
  trie : b.trie.Grown entered
  filled : ∀ r ∈ log, r.2 ≠ []
  named : ∀ r ∈ log, ∃ key, r.1 = .of key
  rules (id : TextId) : (b.rules.find? id).map (·.phrases) =
    if log.phrasesOf id = [] then none else some (log.phrasesOf id)

theorem exists_of_change_add_eq_ok {handler : Option (Handler σ)} {phrases : List TokenView}
    (h : b.change (.add key handler phrases) = .ok b') :
    sequencesOf b.attr phrases ≠ [] ∧
      b'.trie = b.trie.insertAll (.of key) (sequencesOf b.attr phrases) ∧
      b'.rules = b.rules.insert (.of key)
        ⟨((b.rules.find? (.of key)).map (·.phrases)).getD [] ++ sequencesOf b.attr phrases,
          handler⟩ := by
  rw [change, PhraseBook.add] at h
  cases hcollect : collect (phraseOf b.attr) phrases with
  | error fault => simp [hcollect] at h
  | ok sequences =>
      have hsequences : sequencesOf b.attr phrases = sequences := by
        rw [sequencesOf, hcollect]
      simp only [hcollect, List.isEmpty_iff] at h
      split at h
      · cases h
      · rename_i hne
        obtain rfl := Except.ok.inj h
        rw [hsequences]
        refine ⟨hne, rfl, ?_⟩
        cases b.rules.find? (.of key) <;> rfl

theorem Remembers.attempt (h : b.Remembers entered log) (c : PhraseChange σ) :
    (b.attempt c).Remembers (entered ++ b.newPhrases c) (b.logged log c) := by
  cases hchange : b.change c with
  | error fault => simpa [PhraseBook.attempt, newPhrases, logged, hchange] using h
  | ok b' =>
      unfold PhraseBook.attempt newPhrases logged
      rw [hchange]
      cases c with
      | add key handler phrases =>
          obtain ⟨hne, htrie, hrules⟩ := exists_of_change_add_eq_ok hchange
          refine ⟨htrie ▸ h.trie.insertAll _ _, ?_, ?_, fun id => ?_⟩
          · intro r hr
            rcases List.mem_append.mp hr with hold | hnew
            · exact h.filled r hold
            · obtain ⟨phrase, hphrase, rfl⟩ := List.mem_map.mp hnew
              exact ne_nil_of_mem_sequencesOf hphrase
          · intro r hr
            rcases List.mem_append.mp hr with hold | hnew
            · exact h.named r hold
            · obtain ⟨phrase, -, rfl⟩ := List.mem_map.mp hnew
              exact ⟨key, rfl⟩
          have hknown : ((b.rules.find? (.of key)).map (·.phrases)).getD [] =
              log.phrasesOf (.of key) := by
            rw [h.rules]
            split <;> simp [*]
          rw [hrules, Table.find?_insert, Registrations.phrasesOf_append_map, hknown]
          by_cases hid : id = .of key
          · simp [hid, hne]
          · simp [hid, h.rules]
      | remove key =>
          rw [change, PhraseBook.remove] at hchange
          split at hchange
          · obtain rfl := Except.ok.inj hchange
            refine ⟨by simpa using h.trie.forget _,
              fun r hr => h.filled r (List.mem_of_mem_filter hr),
              fun r hr => h.named r (List.mem_of_mem_filter hr), fun id => ?_⟩
            rw [Table.find?_erase, Registrations.phrasesOf_filter_ne]
            by_cases hid : id = .of key
            · simp [hid]
            · simp [hid, h.rules]
          · cases hchange

theorem Remembers.foldl (h : b.Remembers entered log) (changes : List (PhraseChange σ)) :
    (changes.foldl PhraseBook.attempt b).Remembers (entered ++ b.enteredFrom changes)
      (b.survivorsFrom log changes) := by
  induction changes generalizing b entered log with
  | nil => simpa [enteredFrom, survivorsFrom] using h
  | cons c rest ih =>
      have hrest := ih (h.attempt c)
      rwa [List.append_assoc] at hrest

/-- After any changes the trie has the beginnings of all phrases ever entered, and the rules list
the surviving ones. -/
theorem remembers_history (attr : TextAttribute) (changes : List (PhraseChange σ)) :
    (history attr changes).Remembers (enteredFrom { attr } changes) (survivors attr changes) := by
  have hempty : Remembers (σ := σ) { attr } [] [] :=
    ⟨Trie.grown_empty, nofun, nofun, fun id => by simp [Registrations.phrasesOf]⟩
  exact hempty.foldl changes

theorem Remembers.get_eq (h : b.Remembers entered log) (key : String) :
    if log.phrasesOf (.of key) = [] then b.get key = .error (.notFound key)
    else ∃ handler, b.get key = .ok (handler, log.phrasesOf (.of key)) := by
  have hrules := h.rules (.of key)
  rw [PhraseBook.get]
  split at hrules
  · rename_i hnone
    rw [if_pos hnone, Option.map_eq_none_iff.mp hrules]
  · rename_i hsome
    obtain ⟨r, hr, hphrases⟩ := Option.map_eq_some_iff.mp hrules
    rw [if_neg hsome, hr, ← hphrases]
    exact ⟨r.handler, rfl⟩

/-- What a lookup of a key shows is what is registered under it. -/
theorem Remembers.mem_log_iff (h : b.Remembers entered log) {id : TextId}
    {phrase : List TextId} :
    (id, phrase) ∈ log ↔ ∃ key handler phrases,
      id = .of key ∧ b.get key = .ok (handler, phrases) ∧ phrase ∈ phrases := by
  constructor
  · intro hr
    obtain ⟨key, rfl⟩ : ∃ key, id = .of key := h.named _ hr
    have hphrase := Registrations.mem_phrasesOf.mpr hr
    have hget := h.get_eq key
    rw [if_neg (List.ne_nil_of_mem hphrase)] at hget
    obtain ⟨handler, hget⟩ := hget
    exact ⟨key, handler, _, rfl, hget, hphrase⟩
  · rintro ⟨key, handler, phrases, rfl, hget, hphrase⟩
    have hlisted := h.get_eq key
    split at hlisted
    · simp [hlisted] at hget
    · obtain ⟨_, hlisted⟩ := hlisted
      obtain ⟨-, rfl⟩ := Prod.mk.inj (Except.ok.inj (hlisted.symm.trans hget))
      exact Registrations.mem_phrasesOf.mp hphrase

/-- After any changes, refused ones included, the links of the trie make a tree in which every node
other than the root stands for a beginning of a phrase that has been entered, also when it has been
removed since, and every such beginning has a node. No key ends at the root. At any other node end,
each once, the keys that a lookup shows with the phrase of its path, and a lookup shows the
surviving phrases of its key in the order of their entry, with repetitions. -/
theorem trie_stands_for_phrases (attr : TextAttribute) (changes : List (PhraseChange σ)) :
    let b := history attr changes
    let entered := enteredFrom { attr } changes
    let log := survivors attr changes
    b.trie.IsTree ∧
    b.trie.size = ((entered.flatMap List.inits).toFinset.erase []).card + 1 ∧
    b.trie.terminalsAt 0 = [] ∧
    (∀ path node, b.trie.descend 0 path = some node →
      (b.trie.terminalsAt node).Nodup ∧ ∀ id, id ∈ b.trie.terminalsAt node ↔
        ∃ key handler phrases,
          id = .of key ∧ b.get key = .ok (handler, phrases) ∧ path ∈ phrases) ∧
    (∀ key, if log.phrasesOf (.of key) = [] then b.get key = .error (.notFound key)
      else ∃ handler, b.get key = .ok (handler, log.phrasesOf (.of key))) := by
  intro b entered log
  have h : b.Remembers entered log := remembers_history attr changes
  have hlogs : b.Logs attr log := logs_history attr changes
  have hends {path : List TextId} {node : Nat} (hnode : b.trie.descend 0 path = some node) :
      b.trie.terminalsAt node = log.keysOf path := by
    rw [← hlogs.ends, Trie.endsBelow, hnode]
    rfl
  refine ⟨h.trie.isTree, h.trie.size_eq, ?_, ?_, h.get_eq⟩
  · have hroot : b.trie.terminalsAt 0 = log.keysOf [] := hends rfl
    rw [hroot, List.eq_nil_iff_forall_not_mem]
    intro id hid
    exact h.filled _ (Registrations.mem_keysOf.mp hid) rfl
  · intro path node hnode
    rw [hends hnode]
    refine ⟨Registrations.pairwise_keysOf.imp ?_, fun id => ?_⟩
    · rintro j k hlt rfl
      exact Nat.lt_irrefl _ hlt
    · rw [Registrations.mem_keysOf, h.mem_log_iff]

end PhraseBook

end SpanRules
