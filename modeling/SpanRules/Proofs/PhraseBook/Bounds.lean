import SpanRules.Proofs.Automaton.Bounds
import SpanRules.Proofs.PhraseBook.Refusals

/-! # A book of phrases stays inside

A checked look into a book has no result when a token or a node is missing. The links of a trie
lead to nodes, and walks go no further than the tokens, so nothing is missing.
-/

namespace SpanRules

variable {σ : Type}

/-! ## Reading phrases -/

/-- Collects results of steps that may end outside, up to the first fault. -/
def checkedCollect {α β ε : Type} (f : α → Option (Except ε β)) :
    List α → Option (Except ε (List β))
  | [] => some (.ok [])
  | a :: rest => do
    match ← f a with
    | .error e => return .error e
    | .ok b =>
      match ← checkedCollect f rest with
      | .error e => return .error e
      | .ok bs => return .ok (b :: bs)

theorem checkedCollect_eq {α β ε : Type} {f : α → Option (Except ε β)} {g : α → Except ε β}
    {l : List α} (h : ∀ x ∈ l, f x = some (g x)) : checkedCollect f l = some (collect g l) := by
  induction l with
  | nil => rfl
  | cons x rest ih =>
      rw [checkedCollect, h x List.mem_cons_self, collect, Option.bind_eq_bind, Option.bind_some]
      cases g x with
      | error e => rfl
      | ok b =>
          have hrest := ih fun y hy => h y (List.mem_cons_of_mem x hy)
          simp only [hrest, Option.bind_eq_bind, Option.bind_some]
          cases collect g rest with
          | error e => rfl
          | ok bs => rfl

def checkedText (attr : TextAttribute) (view : TokenView) (index : Nat) :
    Option (Except Fault TextId) := do
  let value ← view.ask index (.text attr)
  match value.textId? with
  | some id => return .ok id
  | none => return .error (.invalidPattern (.notAText index attr))

def checkedPhraseOf (attr : TextAttribute) (view : TokenView) :
    Option (Except Fault (List TextId)) :=
  if view.size = 0 then some (.error (.invalidPattern .emptyPhrase))
  else checkedCollect (checkedText attr view) (List.range view.size)

theorem checkedPhraseOf_eq (attr : TextAttribute) (view : TokenView) :
    checkedPhraseOf attr view = some (phraseOf attr view) := by
  have htext : ∀ index ∈ List.range view.size,
      checkedText attr view index = some (textOrFault attr view index) := by
    intro index hindex
    rw [checkedText, view.ask_of_lt (List.mem_range.mp hindex), textOrFault, Option.bind_eq_bind,
      Option.bind_some]
    cases (view.attr index (.text attr)).textId? with
    | none => rfl
    | some id => rfl
  by_cases hsize : view.size = 0
  · rw [checkedPhraseOf, if_pos hsize, phraseOf, if_pos hsize]
  · rw [checkedPhraseOf, if_neg hsize, phraseOf_of_size_ne_zero hsize, checkedCollect_eq htext]

/-! ## Tries -/

namespace Trie

/-- The node one text further from a node, which has to be there. -/
def checkedChild (t : Trie) (node : Nat) (id : TextId) : Option (Option Nat) := do
  let n ← t.nodes[node]?
  return n.children.find? id

/-- The keys that end at a node, which has to be there. -/
def checkedTerminals (t : Trie) (node : Nat) : Option (List TextId) := do
  let n ← t.nodes[node]?
  return n.terminals

/-- Enters a phrase below a node. Every node on the way has to be there. -/
def checkedInsertAt (t : Trie) (key : TextId) (node : Nat) : List TextId → Option Trie
  | [] => do
    let _ ← t.checkedTerminals node
    return t.terminate node key
  | id :: rest => do
    match ← t.checkedChild node id with
    | some child => t.checkedInsertAt key child rest
    | none => (t.grow node id).checkedInsertAt key t.size rest

def checkedInsertAll (t : Trie) (key : TextId) (phrases : List (List TextId)) : Option Trie :=
  phrases.foldlM (fun t phrase => t.checkedInsertAt key 0 phrase) t

variable {t : Trie} {node : Nat} {key : TextId} {path : List TextId}

theorem checkedChild_eq (hnode : node < t.size) (id : TextId) :
    t.checkedChild node id = some (t.child? node id) := by
  rw [checkedChild, child?, Array.getElem?_eq_getElem hnode]
  rfl

theorem checkedTerminals_eq (hnode : node < t.size) :
    t.checkedTerminals node = some (t.terminalsAt node) := by
  rw [checkedTerminals, terminalsAt, Array.getElem?_eq_getElem hnode]
  rfl

/-- Links lead to nodes, and a new node is there from then on. -/
theorem WellLinked.checkedInsertAt_eq (h : t.WellLinked) (hnode : node < t.size) :
    t.checkedInsertAt key node path = some (t.insertAt key node path) := by
  induction path generalizing t node with
  | nil =>
      rw [checkedInsertAt, checkedTerminals_eq hnode]
      rfl
  | cons id rest ih =>
      rw [checkedInsertAt, checkedChild_eq hnode, insertAt, Option.bind_eq_bind, Option.bind_some]
      cases hchild : t.child? node id with
      | some child => exact ih h (h.newer hchild).2
      | none => exact ih (h.grow hnode) (by simp)

theorem WellLinked.checkedInsertAll_eq (h : t.WellLinked) (phrases : List (List TextId)) :
    t.checkedInsertAll key phrases = some (t.insertAll key phrases) :=
  (foldlM_eq_some_foldl (P := WellLinked) h
    fun _ _ h _ => ⟨h.checkedInsertAt_eq h.root, h.insert⟩).1

end Trie

variable [Hashing]

namespace PhraseBook

/-! ## Checked looks into a book -/

def checkedAdd (b : PhraseBook σ) (key : String) (handler : Option (Handler σ))
    (phrases : List TokenView) : Option (Except Fault (PhraseBook σ)) := do
  match ← checkedCollect (checkedPhraseOf b.attr) phrases with
  | .error fault => return .error fault
  | .ok sequences =>
    if sequences.isEmpty then return .error (.invalidPattern (.noPhrases key))
    else
      let trie ← b.trie.checkedInsertAll (.of key) sequences
      let known := match b.rules.find? (.of key) with
        | some r => r.phrases
        | none => []
      return .ok { b with
        lexicon := b.lexicon.add key
        trie
        rules := b.rules.insert (.of key) ⟨known ++ sequences, handler⟩ }

/-- Makes a change. To remove a key, all nodes are gone through and none is looked up. -/
def checkedChange (b : PhraseBook σ) : PhraseChange σ → Option (Except Fault (PhraseBook σ))
  | .add key handler phrases => b.checkedAdd key handler phrases
  | .remove key => some (b.remove key)

def checkedWalk (b : PhraseBook σ) (view : TokenView) (start node pos : Nat) :
    Nat → Option (List Match)
  | 0 => some []
  | left + 1 => do
    let value ← view.ask pos (.text b.attr)
    match value.textId? with
    | none => return []
    | some id =>
      match ← b.trie.checkedChild node id with
      | none => return []
      | some child =>
        let keys ← b.trie.checkedTerminals child
        let rest ← b.checkedWalk view start child (pos + 1) left
        return keys.map (⟨·, start, pos + 1⟩) ++ rest

def checkedFind (b : PhraseBook σ) (view : TokenView) : Option (List Match) :=
  (List.range view.size).flatMapM fun start => b.checkedWalk view start 0 start (view.size - start)

def checkedRun (b : PhraseBook σ) (document : Document) (world : σ) :
    Option (Outcome Fault (List Match) σ) := do
  let found ← b.checkedFind document.view
  return dispatch b.handlerOf found document world

/-- Whatever is asked of the book, everything that is looked up is there. -/
structure Inside (b : PhraseBook σ) : Prop where
  find (view : TokenView) : b.checkedFind view = some (b.find view)
  run (document : Document) (world : σ) :
    b.checkedRun document world = some (b.run document world)
  change (c : PhraseChange σ) : b.checkedChange c = some (b.change c)

/-! ## A book with a well linked trie -/

section Linked

variable {b : PhraseBook σ} {view : TokenView} {start node pos left : Nat}

theorem checkedAdd_eq (h : b.trie.WellLinked) (key : String) (handler : Option (Handler σ))
    (phrases : List TokenView) :
    b.checkedAdd key handler phrases = some (b.add key handler phrases) := by
  rw [checkedAdd, checkedCollect_eq fun view _ => checkedPhraseOf_eq b.attr view, add,
    Option.bind_eq_bind, Option.bind_some]
  cases collect (phraseOf b.attr) phrases with
  | error fault => rfl
  | ok sequences =>
      dsimp only
      split
      · rfl
      · rw [h.checkedInsertAll_eq]
        rfl

theorem checkedChange_eq (h : b.trie.WellLinked) (c : PhraseChange σ) :
    b.checkedChange c = some (b.change c) := by
  cases c with
  | add key handler phrases => exact checkedAdd_eq h key handler phrases
  | remove key => rfl

omit [Hashing] in
/-- A walk asks no token behind the last one and never leaves the trie. -/
theorem checkedWalk_eq (h : b.trie.WellLinked) (hnode : node < b.trie.size)
    (hleft : pos + left ≤ view.size) :
    b.checkedWalk view start node pos left = some (b.walk view start node pos left) := by
  induction left generalizing node pos with
  | zero => rfl
  | succ left ih =>
      rw [checkedWalk, view.ask_of_lt (by omega), walk, Option.bind_eq_bind, Option.bind_some]
      cases (view.attr pos (.text b.attr)).textId? with
      | none => rfl
      | some id =>
          simp only [Trie.checkedChild_eq hnode, Option.bind_eq_bind, Option.bind_some]
          cases hchild : b.trie.child? node id with
          | none => rfl
          | some child =>
              have hsize := (h.newer hchild).2
              have hrest : b.checkedWalk view start child (pos + 1) left =
                  some (b.walk view start child (pos + 1) left) := ih hsize (by omega)
              simp only [Trie.checkedTerminals_eq hsize, hrest, Option.bind_some]
              rfl

omit [Hashing] in
theorem checkedFind_eq (h : b.trie.WellLinked) (view : TokenView) :
    b.checkedFind view = some (b.find view) := by
  have hwalks : ∀ start ∈ List.range view.size,
      b.checkedWalk view start 0 start (view.size - start) =
        some (b.walk view start 0 start (view.size - start)) := by
    intro start hstart
    have := List.mem_range.mp hstart
    exact checkedWalk_eq h h.root (by omega)
  exact flatMapM_eq_some_flatMap hwalks

theorem inside_of_wellLinked (h : b.trie.WellLinked) : b.Inside where
  find := checkedFind_eq h
  run document world := by
    rw [checkedRun, checkedFind_eq h]
    rfl
  change := checkedChange_eq h

end Linked

theorem inside_history (attr : TextAttribute) (changes : List (PhraseChange σ)) :
    (history attr changes).Inside :=
  inside_of_wellLinked (logs_history attr changes).linked

end PhraseBook

end SpanRules
