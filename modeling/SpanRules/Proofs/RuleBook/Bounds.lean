import SpanRules.Proofs.Automaton.Bounds
import SpanRules.Proofs.RuleBook.Matches

/-! # A book of rules stays inside

A checked look into a book has no result when a key of the automaton or a rule is missing. Since a
book keeps a ledger, its positions lead to rules and its windows to keys, and nothing is missing.
-/

namespace SpanRules

variable {σ : Type}

/-! ## Calling handlers -/

/-- Calls handlers where the way to the handler of a key may end outside. -/
def checkedDispatchFrom (handlerOf : TextId → Option (Option (String × Handler σ)))
    (all : List Match) (index : Nat) : List Match → Document → σ → Option (Outcome Fault Unit σ)
  | [], document, world => some ⟨.ok (), document, world⟩
  | m :: rest, document, world => do
    match ← handlerOf m.key with
    | none => checkedDispatchFrom handlerOf all (index + 1) rest document world
    | some (key, handler) =>
      match handler document index all world with
      | ⟨.error source, document, world⟩ =>
        return ⟨.error (.callback key index source), document, world⟩
      | ⟨.ok (), document, world⟩ =>
        checkedDispatchFrom handlerOf all (index + 1) rest document world

def checkedDispatch (handlerOf : TextId → Option (Option (String × Handler σ)))
    (found : List Match) (document : Document) (world : σ) :
    Option (Outcome Fault (List Match) σ) := do
  let out ← checkedDispatchFrom handlerOf found 0 found document world
  return ⟨out.result.map fun _ => found, out.document, out.world⟩

section Dispatch

variable {checked : TextId → Option (Option (String × Handler σ))}
  {handlerOf : TextId → Option (String × Handler σ)}

theorem checkedDispatchFrom_eq (h : ∀ id, checked id = some (handlerOf id))
    (all : List Match) (index : Nat) (rest : List Match) (document : Document) (world : σ) :
    checkedDispatchFrom checked all index rest document world =
      some (dispatchFrom handlerOf all index rest document world) := by
  fun_induction dispatchFrom handlerOf all index rest document world with
  | case1 index document world => rfl
  | case2 index document world m rest hnone ih =>
      rw [checkedDispatchFrom, h, hnone]
      exact ih
  | case3 index document world m rest key handler hsome source document' world' hfail =>
      rw [checkedDispatchFrom, h, hsome]
      simp [hfail]
  | case4 index document world m rest key handler hsome document' world' hok ih =>
      rw [checkedDispatchFrom, h, hsome]
      simpa [hok] using ih

theorem checkedDispatch_eq (h : ∀ id, checked id = some (handlerOf id)) (found : List Match)
    (document : Document) (world : σ) :
    checkedDispatch checked found document world =
      some (dispatch handlerOf found document world) := by
  rw [checkedDispatch, checkedDispatchFrom_eq h]
  rfl

end Dispatch

/-- The key that a change is about. -/
def RuleChange.key : RuleChange σ → String
  | .add key _ _ => key
  | .addPatterns key _ _ => key
  | .remove key => key

variable [Hashing]

namespace RuleBook

/-! ## Checked looks into a book -/

/-- The rule of a key, which has to stand at the position of the key. -/
def checkedRule (b : RuleBook σ) (id : TextId) : Option (Option (Rule σ)) :=
  match b.positions.find? id with
  | none => some none
  | some position => b.rules[position]?.map some

def checkedGet (b : RuleBook σ) (key : String) :
    Option (Except Fault (Option (Handler σ) × List Pattern)) := do
  match ← b.checkedRule (.of key) with
  | some r => return .ok (r.handler, r.patterns)
  | none => return .error (.notFound key)

/-- All matches and the effort. Every window has to be of a rule with a key. -/
def checkedMeasure (b : RuleBook σ) (view : TokenView) : Option (List Match × Effort) := do
  let searched ← b.automaton.checkedSearch view b.options.prescan
  let found ← searched.1.mapM b.matchOf
  return (found, searched.2)

def checkedFind (b : RuleBook σ) (view : TokenView) : Option (List Match) := do
  let measured ← b.checkedMeasure view
  return measured.1

def checkedHandlerOf (b : RuleBook σ) (id : TextId) : Option (Option (String × Handler σ)) := do
  let r ← b.checkedRule id
  return r.bind fun r => r.handler.map ((b.lexicon.get? id).getD "?", ·)

def checkedRun (b : RuleBook σ) (document : Document) (world : σ) :
    Option (Outcome Fault (List Match) σ) := do
  let found ← b.checkedFind document.view
  checkedDispatch b.checkedHandlerOf found document world

def checkedRunMeasured (b : RuleBook σ) (document : Document) (world : σ) :
    Option (Outcome Fault (List Match × Effort) σ) := do
  let measured ← b.checkedMeasure document.view
  let out ← checkedDispatch b.checkedHandlerOf measured.1 document world
  return ⟨out.result.map fun found => (found, measured.2), out.document, out.world⟩

/-- Makes a change. The rule of a key that has a position has to stand there. -/
def checkedChange (b : RuleBook σ) (c : RuleChange σ) : Option (Except Fault (RuleBook σ)) := do
  let _ ← b.checkedRule (.of c.key)
  return b.change c

/-- Whatever is asked of the book, everything that is looked up is there. -/
structure Inside (b : RuleBook σ) : Prop where
  find (view : TokenView) : b.checkedFind view = some (b.find view)
  measure (view : TokenView) : b.checkedMeasure view = some (b.measure view)
  run (document : Document) (world : σ) :
    b.checkedRun document world = some (b.run document world)
  runMeasured (document : Document) (world : σ) :
    b.checkedRunMeasured document world = some (b.runMeasured document world)
  get (key : String) : b.checkedGet key = some (b.get key)
  change (c : RuleChange σ) : b.checkedChange c = some (b.change c)

/-! ## A book that keeps a ledger -/

namespace Keeps

variable {b : RuleBook σ} {options : Options} {l : Ledger TextId σ}

/-- Every position of a key is that of a rule. -/
theorem checkedRule_eq (h : b.Keeps options l) (id : TextId) :
    b.checkedRule id = some (b.rule? id) := by
  unfold checkedRule rule?
  split
  · rename_i hnone
    rw [hnone]
    rfl
  · rename_i position hposition
    have hkey := h.positions.mp hposition
    rw [Ledger.keys, List.getElem?_map] at hkey
    obtain ⟨e, he, -⟩ := Option.map_eq_some_iff.mp hkey
    have hrule : b.rules[position]? = some e.toRule := by
      rw [h.rules, List.getElem?_map, he, Option.map_some]
    rw [hposition, Option.bind_some, hrule, Option.map_some]

/-- Every window is of a rule, and the automaton has its key. -/
theorem checkedMeasure_eq (h : b.Keeps options l) (view : TokenView) :
    b.checkedMeasure view = some (b.measure view) := by
  have hclosed : b.automaton.Closed := h.automaton ▸ Automaton.closed_ofRules _
  have hkeys : ∀ w ∈ (b.automaton.search view b.options.prescan).1, (b.matchOf w).isSome := by
    intro w hw
    obtain ⟨-, -, r, hr, -⟩ := (mem_search_compile h.compiled).mp hw
    exact Option.isSome_iff_exists.mpr ⟨_, (matchOf_eq_some_iff h.compiled).mpr ⟨r, hr, rfl⟩⟩
  rw [checkedMeasure, hclosed.checkedSearch_eq, Option.bind_eq_bind, Option.bind_some,
    mapM_eq_some_filterMap hkeys]
  rfl

theorem checkedFind_eq (h : b.Keeps options l) (view : TokenView) :
    b.checkedFind view = some (b.find view) := by
  rw [checkedFind, h.checkedMeasure_eq]
  rfl

theorem checkedHandlerOf_eq (h : b.Keeps options l) (id : TextId) :
    b.checkedHandlerOf id = some (b.handlerOf id) := by
  rw [checkedHandlerOf, h.checkedRule_eq]
  rfl

theorem inside (h : b.Keeps options l) : b.Inside where
  find := h.checkedFind_eq
  measure := h.checkedMeasure_eq
  run document world := by
    rw [checkedRun, h.checkedFind_eq]
    exact checkedDispatch_eq h.checkedHandlerOf_eq _ document world
  runMeasured document world := by
    rw [checkedRunMeasured, h.checkedMeasure_eq, Option.bind_eq_bind, Option.bind_some,
      checkedDispatch_eq h.checkedHandlerOf_eq]
    rfl
  get key := by
    rw [checkedGet, h.checkedRule_eq, get]
    cases b.rule? (.of key) with
    | none => rfl
    | some r => rfl
  change c := by
    rw [checkedChange, h.checkedRule_eq]
    rfl

end Keeps

theorem inside_history (options : Options) (changes : List (RuleChange σ)) :
    (history options changes).Inside :=
  (keeps_history options changes).inside

end RuleBook

end SpanRules
