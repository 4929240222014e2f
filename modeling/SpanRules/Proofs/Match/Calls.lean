import Mathlib.Data.List.Basic
import Mathlib.Logic.Function.Basic
import Mathlib.Order.Nat
import SpanRules.Match

/-! # The calls of handlers

What a run does is told by its calls: at which matches, with which documents and surroundings, and
what each of them has left behind. The list of calls is complete, in order, and ends with the first
that fails. What a run over several documents does is told by its single runs in the same way.
-/

namespace SpanRules

/-- A call of the handler of a key: the index of the match, what the handler was given, and what
it has left behind. -/
structure Call (σ : Type) where
  index : Nat
  key : String
  document : Document
  world : σ
  left : Outcome String Unit σ

variable {α β σ : Type}

/-- Each call is given what the one before has left, and the first one `document` and `world`.
After the last one `document'` and `world'` are left. -/
def Leads (document : Document) (world : σ) : List (Call σ) → Document → σ → Prop
  | [], document', world' => document' = document ∧ world' = world
  | c :: rest, document', world' =>
    c.document = document ∧ c.world = world ∧
      Leads c.left.document c.left.world rest document' world'

section Calls

variable [Hashing] (names : TextId → Option String) (given : TextId → Option (Handler σ))
  (found : List Match)

/-- The call is one of the handler that is given for the key of a match, with the name of that key,
the index of the match and all matches. -/
def Call.Made (c : Call σ) : Prop :=
  ∃ m handler, found[c.index]? = some m ∧ m.key = .of c.key ∧ names m.key = some c.key ∧
    given m.key = some handler ∧ c.left = handler c.document c.index found c.world

/-- There is a call at every match from `first` to before `stop` whose key has a handler. -/
def CallsAll (first stop : Nat) (calls : List (Call σ)) : Prop :=
  ∀ i m, first ≤ i → i < stop → found[i]? = some m → (given m.key).isSome = true →
    ∃ c ∈ calls, c.index = i

/-- The calls for the matches from `first` on, and what is left of them. Either all handlers have
been called and `done` is the result, or the last one called has failed. -/
structure Dispatched (first : Nat) (document : Document) (world : σ) (done : α)
    (calls : List (Call σ)) (out : Outcome Fault α σ) : Prop where
  increasing : (calls.map (·.index)).Pairwise (· < ·)
  made {c : Call σ} : c ∈ calls → first ≤ c.index ∧ c.Made names given found
  leads : Leads document world calls out.document out.world
  ended :
    (CallsAll given found first found.length calls ∧ (∀ c ∈ calls, c.left.result = .ok ()) ∧
      out.result = .ok done) ∨
    ∃ before last source, calls = before ++ [last] ∧
      CallsAll given found first last.index calls ∧ (∀ c ∈ before, c.left.result = .ok ()) ∧
      last.left.result = .error source ∧
      out.result = .error (.callback last.key last.index source)

end Calls

namespace Dispatched

variable [Hashing] {names : TextId → Option String} {given : TextId → Option (Handler σ)}
  {found : List Match} {first : Nat} {document : Document} {world : σ} {done : α}
  {calls : List (Call σ)} {out : Outcome Fault α σ}

/-- Behind the last match there is nothing to call. -/
theorem nil (h : found.length ≤ first) :
    Dispatched names given found first document world done [] ⟨.ok done, document, world⟩ where
  increasing := List.Pairwise.nil
  made := by simp
  leads := ⟨rfl, rfl⟩
  ended := by
    refine Or.inl ⟨?_, by simp, rfl⟩
    intro i m hlow hhigh
    omega

/-- A match whose key has no handler is passed over. -/
theorem skip {m : Match} (hm : found[first]? = some m) (hgiven : given m.key = none)
    (h : Dispatched names given found (first + 1) document world done calls out) :
    Dispatched names given found first document world done calls out := by
  have hall {stop : Nat} (hcalls : CallsAll given found (first + 1) stop calls) :
      CallsAll given found first stop calls := by
    intro i m' hlow hhigh hm' hsome
    rcases hlow.eq_or_lt with rfl | hlow
    · rw [hm, Option.some.injEq] at hm'
      rw [← hm', hgiven] at hsome
      cases hsome
    · exact hcalls i m' hlow hhigh hm' hsome
  refine ⟨h.increasing, fun hc => ⟨by have := (h.made hc).1; omega, (h.made hc).2⟩, h.leads, ?_⟩
  rcases h.ended with ⟨hcalls, hrest⟩ | ⟨before, last, source, heq, hcalls, hrest⟩
  · exact Or.inl ⟨hall hcalls, hrest⟩
  · exact Or.inr ⟨before, last, source, heq, hall hcalls, hrest⟩

/-- A call that fails is the last one. -/
theorem fail {c : Call σ} {source : String} (hindex : c.index = first)
    (hmade : c.Made names given found) (hfail : c.left.result = .error source) :
    Dispatched names given found first c.document c.world done [c]
      ⟨.error (.callback c.key first source), c.left.document, c.left.world⟩ where
  increasing := List.pairwise_singleton _ _
  made := by
    intro c' hc
    rw [List.mem_singleton.mp hc]
    exact ⟨Nat.le_of_eq hindex.symm, hmade⟩
  leads := ⟨rfl, rfl, rfl, rfl⟩
  ended := by
    refine Or.inr ⟨[], c, source, rfl, ?_, by simp, hfail, by rw [hindex]⟩
    intro i m hlow hhigh
    omega

/-- After a call that succeeds the next ones start from what it has left. -/
theorem call {c : Call σ} (hindex : c.index = first) (hmade : c.Made names given found)
    (hok : c.left.result = .ok ())
    (h : Dispatched names given found (first + 1) c.left.document c.left.world done calls out) :
    Dispatched names given found first c.document c.world done (c :: calls) out := by
  have hall {stop : Nat} (hcalls : CallsAll given found (first + 1) stop calls) :
      CallsAll given found first stop (c :: calls) := by
    intro i m hlow hhigh hm hsome
    rcases hlow.eq_or_lt with rfl | hlow
    · exact ⟨c, List.mem_cons_self, hindex⟩
    · obtain ⟨c', hc', hi⟩ := hcalls i m hlow hhigh hm hsome
      exact ⟨c', List.mem_cons_of_mem _ hc', hi⟩
  refine ⟨?_, ?_, ⟨rfl, rfl, h.leads⟩, ?_⟩
  · rw [List.map_cons, List.pairwise_cons]
    refine ⟨?_, h.increasing⟩
    intro i hi
    obtain ⟨c', hc', rfl⟩ := List.mem_map.mp hi
    have := (h.made hc').1
    omega
  · intro c' hc
    rcases List.mem_cons.mp hc with rfl | hc
    · exact ⟨Nat.le_of_eq hindex.symm, hmade⟩
    · exact ⟨by have := (h.made hc).1; omega, (h.made hc).2⟩
  · rcases h.ended with ⟨hcalls, hoks, hresult⟩ | ⟨before, last, source, rfl, hcalls, hoks, hrest⟩
    · exact Or.inl ⟨hall hcalls, List.forall_mem_cons.mpr ⟨hok, hoks⟩, hresult⟩
    · exact Or.inr ⟨c :: before, last, source, rfl, hall hcalls,
        List.forall_mem_cons.mpr ⟨hok, hoks⟩, hrest⟩

theorem map (f : α → β) (h : Dispatched names given found first document world done calls out) :
    Dispatched names given found first document world (f done) calls
      ⟨out.result.map f, out.document, out.world⟩ := by
  refine ⟨h.increasing, h.made, h.leads, ?_⟩
  rcases h.ended with ⟨hcalls, hoks, hresult⟩ |
    ⟨before, last, source, heq, hcalls, hoks, hfail, hresult⟩
  · exact Or.inl ⟨hcalls, hoks, by rw [hresult]; rfl⟩
  · exact Or.inr ⟨before, last, source, heq, hcalls, hoks, hfail, by rw [hresult]; rfl⟩

end Dispatched

/-! ## Dispatching -/

/-- The handler of a match is the one that is given for its key, together with the name of the
key, which is a text of it. -/
def Serves [Hashing] (handlerOf : TextId → Option (String × Handler σ))
    (names : TextId → Option String) (given : TextId → Option (Handler σ)) (found : List Match) :
    Prop :=
  ∀ m ∈ found, ∃ key, m.key = .of key ∧ names m.key = some key ∧
    handlerOf m.key = (given m.key).map (key, ·)

section Dispatch

variable {handlerOf : TextId → Option (String × Handler σ)}
  {names : TextId → Option String} {given : TextId → Option (Handler σ)}
  {found rest : List Match} {first : Nat} {document : Document} {world : σ} {m : Match}
  {key : String} {handler : Handler σ}

theorem dispatchFrom_of_none (h : handlerOf m.key = none) :
    dispatchFrom handlerOf found first (m :: rest) document world =
      dispatchFrom handlerOf found (first + 1) rest document world := by
  rw [dispatchFrom, h]

theorem dispatchFrom_of_error {source : String} (h : handlerOf m.key = some (key, handler))
    (hfail : (handler document first found world).result = .error source) :
    dispatchFrom handlerOf found first (m :: rest) document world =
      ⟨.error (.callback key first source), (handler document first found world).document,
        (handler document first found world).world⟩ := by
  rw [dispatchFrom, h]
  cases hleft : handler document first found world with
  | mk result document' world' =>
      rw [hleft] at hfail
      obtain rfl : result = .error source := hfail
      simp only [hleft]

theorem dispatchFrom_of_ok (h : handlerOf m.key = some (key, handler))
    (hok : (handler document first found world).result = .ok ()) :
    dispatchFrom handlerOf found first (m :: rest) document world =
      dispatchFrom handlerOf found (first + 1) rest (handler document first found world).document
        (handler document first found world).world := by
  rw [dispatchFrom, h]
  cases hleft : handler document first found world with
  | mk result document' world' =>
      rw [hleft] at hok
      obtain rfl : result = .ok () := hok
      simp only [hleft]

theorem exists_dispatched_from [Hashing] (h : Serves handlerOf names given found)
    (hrest : found.drop first = rest) (document : Document) (world : σ) :
    ∃ calls, Dispatched names given found first document world () calls
      (dispatchFrom handlerOf found first rest document world) := by
  induction rest generalizing first document world with
  | nil => exact ⟨[], Dispatched.nil (List.drop_eq_nil_iff.mp hrest)⟩
  | cons m rest ih =>
      have hm : found[first]? = some m := by
        rw [← Nat.add_zero first, ← List.getElem?_drop, hrest]
        rfl
      have hnext : found.drop (first + 1) = rest := by
        rw [← List.drop_drop, hrest]
        rfl
      obtain ⟨key, hkey, hname, hhandler⟩ := h m (List.mem_of_getElem? hm)
      cases hgiven : given m.key with
      | none =>
          rw [hgiven, Option.map_none] at hhandler
          obtain ⟨calls, hcalls⟩ := ih hnext document world
          rw [dispatchFrom_of_none hhandler]
          exact ⟨calls, hcalls.skip hm hgiven⟩
      | some handler =>
          rw [hgiven, Option.map_some] at hhandler
          let c : Call σ := ⟨first, key, document, world, handler document first found world⟩
          have hmade : c.Made names given found := ⟨m, handler, hm, hkey, hname, hgiven, rfl⟩
          cases hresult : c.left.result with
          | error source =>
              rw [dispatchFrom_of_error hhandler hresult]
              exact ⟨[c], Dispatched.fail rfl hmade hresult⟩
          | ok =>
              obtain ⟨calls, hcalls⟩ := ih hnext c.left.document c.left.world
              rw [dispatchFrom_of_ok hhandler hresult]
              exact ⟨c :: calls, Dispatched.call rfl hmade hresult hcalls⟩

/-- A run calls the handlers of its matches. -/
theorem exists_dispatched [Hashing] (h : Serves handlerOf names given found)
    (document : Document) (world : σ) :
    ∃ calls, Dispatched names given found 0 document world found calls
      (dispatch handlerOf found document world) := by
  obtain ⟨calls, hcalls⟩ := exists_dispatched_from h rfl document world
  exact ⟨calls, hcalls.map fun _ => found⟩

end Dispatch

/-! ## Several documents -/

/-- The runs are those of the first documents in order, each in the surroundings that the one
before has left. They leave their documents and, behind these, the other ones as they were. -/
def Leaves (run : Document → σ → Outcome Fault (List Match) σ) :
    List (Outcome Fault (List Match) σ) → List Document → σ → List Document → σ → Prop
  | [], documents, world, documents', world' => documents' = documents ∧ world' = world
  | _ :: _, [], _, _, _ => False
  | out :: runs, d :: documents, world, documents', world' =>
    out = run d world ∧ ∃ rest, documents' = out.document :: rest ∧
      Leaves run runs documents out.world rest world'

/-- The runs over documents, and what is left of them. Either all of them have found matches, or
the last one has failed. -/
structure Piped (run : Document → σ → Outcome Fault (List Match) σ) (documents : List Document)
    (world : σ) (runs : List (Outcome Fault (List Match) σ)) (out : PipeOutcome σ) : Prop where
  leaves : Leaves run runs documents world out.documents out.world
  ended :
    (runs.length = documents.length ∧ ∃ lists, runs.map (·.result) = lists.map .ok ∧
      out.result = .ok lists) ∨
    ∃ before last fault, runs = before ++ [last] ∧
      (∀ r ∈ before, ∃ found, r.result = .ok found) ∧ last.result = .error fault ∧
      out.result = .error fault

section Pipe

variable {run : Document → σ → Outcome Fault (List Match) σ} {documents : List Document}
  {d : Document} {world : σ}

theorem pipeWith_of_error {fault : Fault} (h : (run d world).result = .error fault) :
    pipeWith run (d :: documents) world =
      ⟨.error fault, (run d world).document :: documents, (run d world).world⟩ := by
  rw [pipeWith]
  cases hleft : run d world with
  | mk result document' world' =>
      rw [hleft] at h
      obtain rfl : result = .error fault := h
      rfl

theorem pipeWith_of_ok {found : List Match} (h : (run d world).result = .ok found) :
    pipeWith run (d :: documents) world =
      ⟨(pipeWith run documents (run d world).world).result.map (found :: ·),
        (run d world).document :: (pipeWith run documents (run d world).world).documents,
        (pipeWith run documents (run d world).world).world⟩ := by
  rw [pipeWith]
  cases hleft : run d world with
  | mk result document' world' =>
      rw [hleft] at h
      obtain rfl : result = .ok found := h
      rfl

/-- Documents are run over in order, up to the first fault. -/
theorem exists_piped (run : Document → σ → Outcome Fault (List Match) σ)
    (documents : List Document) (world : σ) :
    ∃ runs, Piped run documents world runs (pipeWith run documents world) := by
  induction documents generalizing world with
  | nil => exact ⟨[], ⟨rfl, rfl⟩, Or.inl ⟨rfl, [], rfl, rfl⟩⟩
  | cons d documents ih =>
      cases hresult : (run d world).result with
      | error fault =>
          rw [pipeWith_of_error hresult]
          exact ⟨[run d world], ⟨rfl, documents, rfl, rfl, rfl⟩,
            Or.inr ⟨[], run d world, fault, rfl, by simp, hresult, rfl⟩⟩
      | ok found =>
          obtain ⟨runs, hleaves, hended⟩ := ih (run d world).world
          rw [pipeWith_of_ok hresult]
          refine ⟨run d world :: runs, ⟨rfl, _, rfl, hleaves⟩, ?_⟩
          rcases hended with ⟨hlength, lists, hlists, hok⟩ |
            ⟨before, last, fault, rfl, hoks, hfail, herror⟩
          · refine Or.inl ⟨by simp [hlength], found :: lists, ?_, ?_⟩
            · rw [List.map_cons, hresult, hlists, List.map_cons]
            · rw [hok]
              rfl
          · refine Or.inr ⟨run d world :: before, last, fault, rfl,
              List.forall_mem_cons.mpr ⟨⟨found, hresult⟩, hoks⟩, hfail, ?_⟩
            rw [herror]
            rfl

end Pipe

/-! ## The latest handlers -/

/-- The handlers of the keys after changes: a successful addition gives its key another one. -/
def handlersAfter [Hashing] (change : β → α → Except Fault β)
    (gives? : α → Option (String × Option (Handler σ))) (b : β)
    (given : TextId → Option (Handler σ)) : List α → TextId → Option (Handler σ)
  | [] => given
  | c :: rest =>
    match change b c, gives? c with
    | .error _, _ => handlersAfter change gives? b given rest
    | .ok b, none => handlersAfter change gives? b given rest
    | .ok b, some (key, handler) =>
      handlersAfter change gives? b (Function.update given (.of key) handler) rest

end SpanRules
