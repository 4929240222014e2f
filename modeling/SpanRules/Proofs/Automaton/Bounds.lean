import SpanRules.Proofs.Automaton.Prescan
import SpanRules.Proofs.Automaton.Reads
import SpanRules.Proofs.Automaton.Sweep

/-! # A search stays inside

A checked search looks states, conditions and stamps up where they have to be, and asks only tokens
that there are; it has no result when something is missing. In an automaton of rules every link
leads to a state and every condition is there, so nothing is ever missing and the checked search is
the search.
-/

namespace SpanRules

/-! ## Checked steps -/

section Checked

variable {α β γ : Type}

/-- A map over a list succeeds when every step does. -/
theorem mapM_eq_some_map {f : α → Option β} {g : α → β} {l : List α}
    (h : ∀ x ∈ l, f x = some (g x)) : l.mapM f = some (l.map g) := by
  induction l with
  | nil => rfl
  | cons x rest ih =>
      have hrest := ih fun y hy => h y (List.mem_cons_of_mem x hy)
      rw [List.mapM_cons, h x List.mem_cons_self, hrest]
      rfl

/-- A list without the elements that have no image keeps all images, when every element has
one. -/
theorem mapM_eq_some_filterMap {f : α → Option β} {l : List α} (h : ∀ x ∈ l, (f x).isSome) :
    l.mapM f = some (l.filterMap f) := by
  induction l with
  | nil => rfl
  | cons x rest ih =>
      obtain ⟨y, hy⟩ := Option.isSome_iff_exists.mp (h x List.mem_cons_self)
      rw [List.mapM_cons, hy, ih fun z hz => h z (List.mem_cons_of_mem x hz),
        List.filterMap_cons_some hy]
      rfl

/-- A partial map over a list succeeds when every step does. -/
theorem filterMapM_eq_some_filterMap {f : α → Option (Option β)} {g : α → Option β} {l : List α}
    (h : ∀ x ∈ l, f x = some (g x)) : l.filterMapM f = some (l.filterMap g) := by
  induction l with
  | nil => rfl
  | cons x rest ih =>
      have hrest := ih fun y hy => h y (List.mem_cons_of_mem x hy)
      rw [List.filterMapM_cons, h x List.mem_cons_self, List.filterMap_cons]
      cases g x with
      | none => exact hrest
      | some y =>
          rw [hrest]
          rfl

/-- Lists found along a list are put together when every step succeeds. -/
theorem flatMapM_eq_some_flatMap {f : α → Option (List β)} {g : α → List β} {l : List α}
    (h : ∀ x ∈ l, f x = some (g x)) : l.flatMapM f = some (l.flatMap g) := by
  induction l with
  | nil => rfl
  | cons x rest ih =>
      have hrest := ih fun y hy => h y (List.mem_cons_of_mem x hy)
      rw [List.flatMapM_cons, h x List.mem_cons_self, hrest]
      rfl

/-- A test of a list succeeds when every single test does. -/
theorem allM_eq_some_all {f : α → Option Bool} {g : α → Bool} {l : List α}
    (h : ∀ x ∈ l, f x = some (g x)) : l.allM f = some (l.all g) := by
  induction l with
  | nil => rfl
  | cons x rest ih =>
      have hrest := ih fun y hy => h y (List.mem_cons_of_mem x hy)
      rw [List.allM_cons, h x List.mem_cons_self, List.all_cons]
      cases hx : g x with
      | false => rfl
      | true => simpa using hrest

/-- A fold succeeds when every step does from a state with a property, and keeps the property. -/
theorem foldlM_eq_some_foldl {f : γ → α → Option γ} {g : γ → α → γ} {P : γ → Prop} {l : List α}
    {s : γ} (hs : P s) (h : ∀ s x, P s → x ∈ l → f s x = some (g s x) ∧ P (g s x)) :
    l.foldlM f s = some (l.foldl g s) ∧ P (l.foldl g s) := by
  induction l generalizing s with
  | nil => exact ⟨rfl, hs⟩
  | cons x rest ih =>
      obtain ⟨hstep, hnext⟩ := h s x hs List.mem_cons_self
      rw [List.foldlM_cons, hstep]
      exact ih hnext fun s y hs hy => h s y hs (List.mem_cons_of_mem x hy)

end Checked

/-- Asks a token for an attribute. Where there is no token, there is no answer. -/
def TokenView.ask (view : TokenView) (index : Nat) (a : Attribute) : Option AttributeValue :=
  if index < view.size then some (view.attr index a) else none

theorem TokenView.ask_of_lt {view : TokenView} {index : Nat} (h : index < view.size)
    (a : Attribute) : view.ask index a = some (view.attr index a) :=
  if_pos h

/-- Whether the condition holds on a token. Without the token there is no answer, unless nothing
has to be asked. -/
def Condition.checkedHolds (c : Condition) (view : TokenView) (index : Nat) : Option Bool :=
  if c.impossible then some false
  else c.checks.allM fun check => (view.ask index check.1).map fun value => value = check.2

theorem Condition.checkedHolds_of_lt {c : Condition} {view : TokenView} {index : Nat}
    (h : index < view.size) : c.checkedHolds view index = some (c.holds view index) := by
  have hchecks := allM_eq_some_all (l := c.checks)
    (f := fun check => (view.ask index check.1).map fun value => decide (value = check.2))
    (g := fun check => decide (view.attr index check.1 = check.2))
    fun check _ => by rw [view.ask_of_lt h, Option.map_some]
  rw [checkedHolds, holds]
  cases c.impossible with
  | true => rfl
  | false => simpa using hchecks

namespace Prescan

variable {view : TokenView} {branches : List Branch}

/-- The texts that a token has for some attributes. -/
def checkedTextsAt (view : TokenView) (attrs : List Attribute) (index : Nat) :
    Option (List (Attribute × TextId)) :=
  attrs.filterMapM fun a => (view.ask index a).map fun value => value.textId?.map (a, ·)

def checkedScan (view : TokenView) (branches : List Branch) : Option Prescan := do
  let present ← (List.range view.size).flatMapM (checkedTextsAt view (wanted branches))
  return { present }

theorem checkedScan_eq : checkedScan view branches = some (scan view branches) := by
  have htexts : ∀ index ∈ List.range view.size, checkedTextsAt view (wanted branches) index =
      some (textsAt view (wanted branches) index) := by
    intro index hindex
    have hask : ∀ a ∈ wanted branches,
        (view.ask index a).map (fun value => value.textId?.map (a, ·)) =
          some ((view.attr index a).textId?.map (a, ·)) := by
      intro a _
      rw [view.ask_of_lt (List.mem_range.mp hindex), Option.map_some]
    rw [checkedTextsAt, filterMapM_eq_some_filterMap hask, textsAt]
  rw [checkedScan, flatMapM_eq_some_flatMap htexts]
  rfl

end Prescan

/-! ## Links -/

/-- The state leads to states, conditions and rules that are there. -/
def State.Inside (states conditions rules : Nat) : State → Prop
  | .consume condition _ next => condition < conditions ∧ next < states
  | .split first second => first < states ∧ second < states
  | .accept rule _ => rule < rules

theorem State.Inside.mono {s : State} {states conditions rules states' conditions' rules' : Nat}
    (h : s.Inside states conditions rules) (hstates : states ≤ states')
    (hconditions : conditions ≤ conditions') (hrules : rules ≤ rules') :
    s.Inside states' conditions' rules' := by
  cases s with
  | consume condition negated next =>
      exact ⟨h.1.trans_le hconditions, h.2.trans_le hstates⟩
  | split first second => exact ⟨h.1.trans_le hstates, h.2.trans_le hstates⟩
  | accept rule pattern => exact Nat.lt_of_lt_of_le h hrules

namespace Automaton

/-- All states of the automaton lead inside, and its branches start inside. -/
structure Closed (a : Automaton) : Prop where
  states {s : State} : s ∈ a.states → s.Inside a.states.size a.conditions.size a.keys.length
  branches {b : Branch} : b ∈ a.branches → b.entry < a.states.size

variable {a : Automaton} {next : Nat}

theorem Closed.addCondition (h : a.Closed) (c : Condition) :
    Closed { a with conditions := a.conditions.push c } where
  states := fun hs => (h.states hs).mono le_rfl (by simp) le_rfl
  branches := h.branches

theorem Closed.push (h : a.Closed) {s : State}
    (hs : s.Inside (a.states.size + 1) a.conditions.size a.keys.length) : (a.push s).Closed where
  states := by
    intro other hother
    rw [Automaton.push, Array.size_push]
    rcases Array.mem_push.mp hother with hold | rfl
    · exact (h.states hold).mono (Nat.le_succ _) le_rfl le_rfl
    · exact hs
  branches := fun hb => (h.branches hb).trans_le (by simp [Automaton.push])

/-- Two states may lead to each other. -/
theorem Closed.push_push (h : a.Closed) {s t : State}
    (hs : s.Inside (a.states.size + 2) a.conditions.size a.keys.length)
    (ht : t.Inside (a.states.size + 2) a.conditions.size a.keys.length) :
    ((a.push s).push t).Closed where
  states := by
    intro other hother
    rw [Automaton.push, Automaton.push, Array.size_push, Array.size_push]
    rcases Array.mem_push.mp hother with hother | rfl
    · rcases Array.mem_push.mp hother with hold | rfl
      · exact (h.states hold).mono (Nat.le_add_right _ 2) le_rfl le_rfl
      · exact hs
    · exact ht
  branches := by
    intro b hb
    rw [Automaton.push, Automaton.push, Array.size_push, Array.size_push]
    exact Nat.lt_add_right 2 (h.branches hb)

theorem Closed.pushSlot (h : a.Closed) (slot : Slot) (hnext : next < a.states.size) :
    (a.pushSlot slot next).1.Closed ∧
      (a.pushSlot slot next).2 < (a.pushSlot slot next).1.states.size := by
  have hcondition := h.addCondition slot.condition
  have hnew : a.conditions.size < (a.conditions.push slot.condition).size := by simp
  unfold Automaton.pushSlot
  cases slot.quantifier with
  | one => exact ⟨hcondition.push ⟨hnew, Nat.lt_succ_of_lt hnext⟩, by simp [Automaton.push]⟩
  | negated => exact ⟨hcondition.push ⟨hnew, Nat.lt_succ_of_lt hnext⟩, by simp [Automaton.push]⟩
  | optional =>
      refine ⟨hcondition.push_push ⟨hnew, ?_⟩ ⟨?_, ?_⟩, by simp [Automaton.push]⟩
      · exact Nat.lt_add_right 2 hnext
      · exact Nat.lt_add_of_pos_right (by decide)
      · exact Nat.lt_add_right 2 hnext
  | oneOrMore =>
      refine ⟨hcondition.push_push ⟨hnew, ?_⟩ ⟨?_, ?_⟩, by simp [Automaton.push]⟩
      · exact Nat.lt_add_one _
      · exact Nat.lt_add_of_pos_right (by decide)
      · exact Nat.lt_add_right 2 hnext
  | zeroOrMore =>
      refine ⟨hcondition.push_push ⟨hnew, ?_⟩ ⟨?_, ?_⟩, by simp [Automaton.push]⟩
      · exact Nat.lt_add_one _
      · exact Nat.lt_add_of_pos_right (by decide)
      · exact Nat.lt_add_right 2 hnext

theorem Closed.pushSlots (h : a.Closed) (hnext : next < a.states.size) (slots : List Slot) :
    (a.pushSlots next slots).1.Closed ∧
      (a.pushSlots next slots).2 < (a.pushSlots next slots).1.states.size := by
  induction slots with
  | nil => exact ⟨h, hnext⟩
  | cons slot rest ih => exact ih.1.pushSlot slot ih.2

theorem Closed.pushPattern (h : a.Closed) {rule : Nat} (hrule : rule < a.keys.length) (index : Nat)
    (p : Pattern) : (a.pushPattern rule index p).Closed := by
  have haccept : (a.push (.accept rule index)).Closed := h.push hrule
  have hhome : a.states.size < (a.push (.accept rule index)).states.size := by
    simp [Automaton.push]
  obtain ⟨hlaid, hentry⟩ := haccept.pushSlots hhome p.slots
  refine ⟨hlaid.states, fun {b} hb => ?_⟩
  rcases List.mem_append.mp hb with hold | hnew
  · exact hlaid.branches hold
  · rw [List.mem_singleton.mp hnew]
    exact hentry

theorem Closed.pushPatterns (h : a.Closed) {rule : Nat} (hrule : rule < a.keys.length) (index : Nat)
    (patterns : List Pattern) : (a.pushPatterns rule index patterns).Closed := by
  induction patterns generalizing a index with
  | nil => exact h
  | cons p rest ih =>
      refine ih (h.pushPattern hrule index p) ?_ (index + 1)
      rwa [keys_pushPattern]

/-- In the automaton of rules every state leads inside. -/
theorem closed_ofRules (rules : List (TextId × List Pattern)) : (ofRules rules).Closed := by
  induction rules using List.reverseRecOn with
  | nil => exact ⟨by simp [ofRules], by simp [ofRules]⟩
  | append_singleton rules rule ih =>
      have hkeyed : Closed { ofRules rules with keys := (ofRules rules).keys ++ [rule.1] } :=
        ⟨fun hs => (ih.states hs).mono le_rfl le_rfl (by simp), ih.branches⟩
      rw [ofRules_append]
      exact hkeyed.pushPatterns (by simp) 0 rule.2

end Automaton

/-! ## Sets of active states -/

namespace Frontier

/-- There is a stamp for each of so many states, and the set lists only these. -/
structure Inside (f : Frontier) (states : Nat) : Prop where
  stamps : f.stamps.size = states
  members : ∀ state ∈ f.members, state < states

/-- Visits the pending states and all that splits lead to. Each of them needs a stamp and has to
be in the arena. -/
def checkedExplore (states : Array State) (f : Frontier) : List Nat → Option Frontier
  | [] => some f
  | state :: pending =>
    if _h : state < f.stamps.size then
      if _hvisited : f.visited state = false then
        match states[state]? with
        | some (.split first second) =>
          checkedExplore states (f.visit state) (first :: second :: pending)
        | some _ => checkedExplore states ((f.visit state).insert state) pending
        | none => none
      else checkedExplore states f pending
    else none
termination_by pending => (f.unvisitedCount, pending.length)
decreasing_by
  · exact Prod.Lex.left _ _ (unvisitedCount_visit_lt _h _hvisited)
  · exact Prod.Lex.left _ _ (unvisitedCount_visit_lt _h _hvisited)
  · exact Prod.Lex.right _ (Nat.lt_succ_self _)

def checkedAddAll (f : Frontier) (states : Array State) (entries : List Nat) : Option Frontier :=
  entries.foldlM (fun f state => checkedExplore states f [state]) f

variable {f : Frontier} {states : Array State} {pending entries : List Nat}

/-- Splits lead to states that are there, so exploring never leaves the arena. -/
theorem checkedExplore_eq
    (hlinks : ∀ {s first second : Nat}, states[s]? = some (.split first second) →
      first < states.size ∧ second < states.size)
    (hsize : f.stamps.size = states.size) (hpending : ∀ s ∈ pending, s < states.size) :
    checkedExplore states f pending = some (explore states f pending) := by
  fun_induction explore states f pending with
  | case1 f => rw [checkedExplore]
  | case2 f state pending hopen first second hsplit ih =>
      have hrest := fun s hs => hpending s (List.mem_cons_of_mem state hs)
      have hvisit : (f.visit state).stamps.size = states.size := by simpa [visit] using hsize
      rw [checkedExplore, dif_pos hopen.1, dif_pos hopen.2, hsplit]
      refine ih hvisit ?_
      rw [List.forall_mem_cons, List.forall_mem_cons]
      exact ⟨(hlinks hsplit).1, (hlinks hsplit).2, hrest⟩
  | case3 f state pending hopen s hne hs ih =>
      have hrest := fun s hs => hpending s (List.mem_cons_of_mem state hs)
      have hvisit : ((f.visit state).insert state).stamps.size = states.size := by
        simpa [visit, insert] using hsize
      rw [checkedExplore, dif_pos hopen.1, dif_pos hopen.2, hs]
      cases s with
      | split first second => exact absurd rfl (hne first second)
      | consume condition negated next => exact ih hvisit hrest
      | accept rule pattern => exact ih hvisit hrest
  | case4 f state pending hopen hnone ih =>
      have hlt := hpending state List.mem_cons_self
      rw [Array.getElem?_eq_getElem hlt] at hnone
      cases hnone
  | case5 f state pending hclosed ih =>
      have hlt : state < f.stamps.size := hsize ▸ hpending state List.mem_cons_self
      have hvisited : ¬f.visited state = false := fun hv => hclosed ⟨hlt, hv⟩
      rw [checkedExplore, dif_pos hlt, dif_neg hvisited]
      exact ih hsize fun s hs => hpending s (List.mem_cons_of_mem state hs)

theorem Inside.explore (h : f.Inside states.size) (pending : List Nat) :
    (explore states f pending).Inside states.size := by
  have hexplored := explored_explore states f pending
  obtain ⟨found, hfound, -, hmem⟩ := hexplored.members
  refine ⟨hexplored.size.trans h.stamps, fun s hs => ?_⟩
  rw [hfound] at hs
  rcases List.mem_append.mp hs with hold | hnew
  · exact h.members s hold
  · obtain ⟨x, hx, -⟩ := ((hmem s).mp hnew).2.2
    exact (Array.getElem?_eq_some_iff.mp hx).1

theorem Inside.renew {count : Nat} (h : f.Inside count) : f.renew.Inside count :=
  ⟨by rw [size_stamps_renew, h.stamps], by simp⟩

theorem inside_start (count : Nat) : (start count).Inside count :=
  ⟨by simp [start], by simp [start]⟩

end Frontier

/-! ## The search -/

namespace Automaton

variable {a : Automaton} {view : TokenView} {start pos : Nat} {f : Frontier} {p : Progress}
  {entries : List Nat}

theorem Closed.inside_of_getElem? (h : a.Closed) {state : Nat} {s : State}
    (hs : a.states[state]? = some s) : s.Inside a.states.size a.conditions.size a.keys.length :=
  h.states (Array.mem_of_getElem? hs)

theorem Closed.checkedAddAll_eq (h : a.Closed) (hf : f.Inside a.states.size)
    (hentries : ∀ s ∈ entries, s < a.states.size) :
    f.checkedAddAll a.states entries = some (f.addAll a.states entries) ∧
      (f.addAll a.states entries).Inside a.states.size := by
  refine foldlM_eq_some_foldl (P := fun f : Frontier => f.Inside a.states.size) hf
    fun f s hf hs => ⟨?_, hf.explore [s]⟩
  refine Frontier.checkedExplore_eq (fun hsplit => h.inside_of_getElem? hsplit) hf.stamps ?_
  intro t ht
  rw [List.mem_singleton.mp ht]
  exact hentries s hs

/-- The state that the token at `pos` leads to from a state, if the state takes it. The state, its
condition and the token have to be there. -/
def checkedTarget (a : Automaton) (view : TokenView) (pos state : Nat) : Option (Option Nat) := do
  match ← a.states[state]? with
  | .consume condition negated next =>
    let c ← a.conditions[condition]?
    let holds ← c.checkedHolds view pos
    return if holds = negated then none else some next
  | _ => return none

theorem Closed.checkedTarget_eq (h : a.Closed) (hpos : pos < view.size) {state : Nat}
    (hstate : state < a.states.size) :
    a.checkedTarget view pos state = some (a.target? view pos state) := by
  have hs := Array.getElem?_eq_getElem hstate
  have hinside := h.inside_of_getElem? hs
  rw [checkedTarget, target?, hs]
  cases hcase : a.states[state] with
  | consume condition negated next =>
      rw [hcase] at hinside
      simp only [Option.bind_eq_bind, Option.bind_some, Array.getElem?_eq_getElem hinside.1,
        Condition.checkedHolds_of_lt hpos]
      rfl
  | split first second => rfl
  | accept rule pattern => rfl

theorem Closed.target?_lt (h : a.Closed) {state next : Nat}
    (ht : a.target? view pos state = some next) : next < a.states.size := by
  obtain ⟨condition, negated, c, hs, -⟩ := target?_eq_some_iff.mp ht
  exact (h.inside_of_getElem? hs).2

def checkedStep (a : Automaton) (view : TokenView) (pos : Nat) (f : Frontier) :
    Option Frontier := do
  let targets ← f.members.filterMapM (a.checkedTarget view pos)
  f.renew.checkedAddAll a.states targets

theorem Closed.checkedStep_eq (h : a.Closed) (hpos : pos < view.size)
    (hf : f.Inside a.states.size) :
    a.checkedStep view pos f = some (a.step view pos f) ∧
      (a.step view pos f).Inside a.states.size := by
  have htargets := filterMapM_eq_some_filterMap
    fun state hstate => h.checkedTarget_eq hpos (hf.members state hstate)
  have hentries : ∀ s ∈ f.members.filterMap (a.target? view pos), s < a.states.size := by
    intro s hs
    obtain ⟨state, -, htarget⟩ := List.mem_filterMap.mp hs
    exact h.target?_lt htarget
  obtain ⟨hadd, hinside⟩ := h.checkedAddAll_eq hf.renew hentries
  refine ⟨?_, hinside⟩
  rw [checkedStep, htargets, step, ← hadd]
  rfl

/-- The rule that a state accepts. The state has to be there. -/
def checkedAcceptedRule (a : Automaton) (state : Nat) : Option (Option Nat) := do
  match ← a.states[state]? with
  | .accept rule _ => return some rule
  | _ => return none

theorem checkedAcceptedRule_eq {state : Nat} (hstate : state < a.states.size) :
    a.checkedAcceptedRule state = some (a.acceptedRule? state) := by
  rw [checkedAcceptedRule, acceptedRule?, Array.getElem?_eq_getElem hstate]
  cases a.states[state] with
  | consume condition negated next => rfl
  | split first second => rfl
  | accept rule pattern => rfl

def checkedAccepted (a : Automaton) (start pos : Nat) (f : Frontier) : Option (List Window) := do
  let rules ← f.members.filterMapM a.checkedAcceptedRule
  return rules.map (⟨start, pos, ·⟩)

theorem checkedAccepted_eq (hf : f.Inside a.states.size) :
    a.checkedAccepted start pos f = some (a.accepted start pos f) := by
  have hrules := filterMapM_eq_some_filterMap
    fun state hstate => checkedAcceptedRule_eq (hf.members state hstate)
  rw [checkedAccepted, hrules]
  rfl

def checkedNote (a : Automaton) (start pos : Nat) (p : Progress) : Option Progress :=
  if start < pos then do
    let accepted ← a.checkedAccepted start pos p.frontier
    return { p with
      found := accepted.foldl (fun found w => w.insert found) p.found
      effort := { p.effort with accepts := p.effort.accepts + accepted.length } }
  else some p

theorem checkedNote_eq (start pos : Nat) (hp : p.frontier.Inside a.states.size) :
    a.checkedNote start pos p = some (a.note start pos p) ∧
      (a.note start pos p).frontier = p.frontier := by
  unfold checkedNote note
  split
  · rw [checkedAccepted_eq hp]
    exact ⟨rfl, rfl⟩
  · exact ⟨rfl, rfl⟩

def checkedAdvance (a : Automaton) (view : TokenView) (pos : Nat) (p : Progress) :
    Option Progress := do
  let next ← a.checkedStep view pos p.frontier
  return { p with
    frontier := next
    effort := { p.effort with
      steps := p.effort.steps + 1
      visited := p.effort.visited + next.members.length } }

theorem Closed.checkedAdvance_eq (h : a.Closed) (hpos : pos < view.size)
    (hp : p.frontier.Inside a.states.size) :
    a.checkedAdvance view pos p = some (a.advance view pos p) ∧
      (a.advance view pos p).frontier.Inside a.states.size := by
  obtain ⟨hstep, hinside⟩ := h.checkedStep_eq hpos hp
  refine ⟨?_, hinside⟩
  rw [checkedAdvance, hstep]
  rfl

def checkedSweep (a : Automaton) (view : TokenView) (start pos : Nat) :
    Nat → Progress → Option Progress
  | 0, p => a.checkedNote start pos p
  | left + 1, p => do
    let p ← a.checkedNote start pos p
    if p.frontier.members.isEmpty then return p
    else
      let p ← a.checkedAdvance view pos p
      a.checkedSweep view start (pos + 1) left p

/-- Tokens are only taken before the end. -/
theorem Closed.checkedSweep_eq (h : a.Closed) {left : Nat} (hleft : pos + left ≤ view.size)
    (hp : p.frontier.Inside a.states.size) :
    a.checkedSweep view start pos left p = some (a.sweep view start pos left p) ∧
      (a.sweep view start pos left p).frontier.Inside a.states.size := by
  induction left generalizing pos p with
  | zero =>
      obtain ⟨hnote, hfrontier⟩ := checkedNote_eq start pos hp
      exact ⟨hnote, hfrontier.symm ▸ hp⟩
  | succ left ih =>
      obtain ⟨hnote, hfrontier⟩ := checkedNote_eq start pos hp
      have hnoted : (a.note start pos p).frontier.Inside a.states.size := hfrontier.symm ▸ hp
      have hpos : pos < view.size := by omega
      obtain ⟨hadvance, hadvanced⟩ := h.checkedAdvance_eq hpos hnoted
      rw [checkedSweep, hnote, sweep, Option.bind_eq_bind, Option.bind_some]
      split
      · exact ⟨rfl, hnoted⟩
      · rw [hadvance]
        exact ih (by omega) hadvanced

def checkedSearchFrom (a : Automaton) (view : TokenView) (entries : List Nat) (p : Progress)
    (start : Nat) : Option Progress := do
  let first ← p.frontier.renew.checkedAddAll a.states entries
  a.checkedSweep view start start (view.size - start)
    { p with
      frontier := first
      effort := { p.effort with
        starts := p.effort.starts + 1
        visited := p.effort.visited + first.members.length } }

theorem Closed.checkedSearchFrom_eq (h : a.Closed) (hentries : ∀ s ∈ entries, s < a.states.size)
    (hstart : start < view.size) (hp : p.frontier.Inside a.states.size) :
    a.checkedSearchFrom view entries p start = some (a.searchFrom view entries p start) ∧
      (a.searchFrom view entries p start).frontier.Inside a.states.size := by
  obtain ⟨hadd, hinside⟩ := h.checkedAddAll_eq hp.renew hentries
  rw [checkedSearchFrom, hadd, searchFrom]
  exact h.checkedSweep_eq (by omega) hinside

theorem Closed.foldlM_checkedSearchFrom (h : a.Closed)
    (hentries : ∀ s ∈ entries, s < a.states.size) (hp : p.frontier.Inside a.states.size) :
    (List.range view.size).foldlM (a.checkedSearchFrom view entries) p =
      some ((List.range view.size).foldl (a.searchFrom view entries) p) :=
  (foldlM_eq_some_foldl (P := fun p : Progress => p.frontier.Inside a.states.size) hp
    fun _ _ hp hstart => h.checkedSearchFrom_eq hentries (List.mem_range.mp hstart) hp).1

def checkedActiveBranches (a : Automaton) (view : TokenView) (prescan : Bool) :
    Option (List Branch) :=
  if prescan then do
    let scan ← Prescan.checkedScan view a.branches
    return a.branches.filter scan.allows
  else some a.branches

theorem checkedActiveBranches_eq {prescan : Bool} :
    a.checkedActiveBranches view prescan = some (a.activeBranches view prescan) := by
  unfold checkedActiveBranches activeBranches
  split
  · rw [Prescan.checkedScan_eq]
    rfl
  · rfl

def checkedSearch (a : Automaton) (view : TokenView) (prescan : Bool) :
    Option (List Window × Effort) := do
  let branches ← a.checkedActiveBranches view prescan
  let entries := branches.map (·.entry)
  let effort : Effort := { active := entries.length, total := a.branches.length }
  if entries.isEmpty then return ([], effort)
  else
    let p ← (List.range view.size).foldlM (a.checkedSearchFrom view entries)
      { frontier := .start a.states.size, effort }
    return (p.found.reverse, p.effort)

/-- A search of an automaton whose links lead inside stays inside. -/
theorem Closed.checkedSearch_eq (h : a.Closed) (view : TokenView) (prescan : Bool) :
    a.checkedSearch view prescan = some (a.search view prescan) := by
  rw [checkedSearch, checkedActiveBranches_eq, search, Option.bind_eq_bind, Option.bind_some]
  dsimp only
  split
  · rfl
  · have hentries : ∀ s ∈ (a.activeBranches view prescan).map (·.entry), s < a.states.size := by
      intro s hs
      obtain ⟨b, hb, rfl⟩ := List.mem_map.mp hs
      exact h.branches (mem_branches_of_mem_activeBranches hb)
    rw [h.foldlM_checkedSearchFrom hentries (Frontier.inside_start a.states.size)]
    rfl

end Automaton

end SpanRules
