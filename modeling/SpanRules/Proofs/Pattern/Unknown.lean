import SpanRules.Proofs.Automaton.Prescan
import SpanRules.Proofs.Pattern.Grammar

/-! # Names that stand for no attribute

Where unknown names are let through, a description with one of them holds on no token. What that
makes of its slot depends on the quantifier alone, so the same windows are found for descriptions
from which the unknown names are gone.
-/

namespace SpanRules

instance {name : String} : Decidable (Entry.UnknownName name) :=
  decidable_of_iff (name ≠ "OP" ∧ Attribute.ofName? name = none)
    (and_congr_right fun _ => Attribute.ofName?_eq_none_iff)

namespace Json

/-- The names in a token description that stand for no attribute, in order. -/
def unknownNames : Json → List String
  | .object members => (members.map Prod.fst).filter fun name => Entry.UnknownName name
  | _ => []

variable [Hashing]

/-- What takes the place of a token description with an unknown name: nothing when it may take no
token, and one token of any kind when it has to fail on it. -/
def withoutUnknown (item : Json) : List Json :=
  if item.unknownNames = [] then [item]
  else match Slot.ofJson .ignore item with
    | .ok ⟨_, .optional⟩ | .ok ⟨_, .zeroOrMore⟩ => []
    | .ok ⟨_, .negated⟩ => [.object [("OP", .string "1")]]
    | _ => [item]

/-- A token is required, but there is none on which a description with an unknown name holds. -/
def Hopeless (item : Json) : Prop :=
  item.unknownNames ≠ [] ∧ ∃ slot, Slot.ofJson .ignore item = .ok slot ∧
    (slot.quantifier = .one ∨ slot.quantifier = .oneOrMore)

end Json

/-! ## Refusing unknown names -/

variable [Hashing]

theorem Entry.ofMember_refuse {m : String × Json} {e : Entry}
    (h : Entry.ofMember .ignore m.1 m.2 = .ok e) :
    Entry.ofMember .refuse m.1 m.2 =
      ([m.1].filter fun name => UnknownName name).head?.elim (.ok e) fun name =>
        .error (.unknownAttribute name) := by
  rw [Entry.ofMember_eq_ok_iff] at h
  cases h with
  | quantifier q =>
      have hknown : ¬UnknownName "OP" := fun hname => hname.1 rfl
      simpa [hknown] using Entry.ofMember_of_written (.quantifier q)
  | @check name attr json value hname hvalue =>
      have hknown : ¬UnknownName name := fun hunknown => hunknown.2 attr hname
      simpa [hknown] using Entry.ofMember_of_written (.check hname hvalue)
  | unknown _ hname hjson =>
      simpa [hname] using Entry.ofMember_of_faulty (.unknown rfl hname hjson)

namespace Slot

variable {policy : UnknownPolicy} {item : Json} {slot : Slot}

/-- A description that is let through is refused for its first unknown name, if it has one. -/
theorem ofJson_refuse (h : Slot.ofJson .ignore item = .ok slot) :
    Slot.ofJson .refuse item =
      item.unknownNames.head?.elim (.ok slot) fun name => .error (.unknownAttribute name) := by
  obtain ⟨members, rfl, -⟩ := exists_ofJson_eq_ok_iff.mp ⟨slot, h⟩
  obtain ⟨entries, hentries, rfl⟩ := ofJson_object_eq_ok_iff.mp h
  have hcollect := collect_of_stricter
    (g := fun m : String × Json => Entry.ofMember .refuse m.1 m.2)
    (fun _ _ => Entry.ofMember_refuse) (collect_entries_eq_ok_iff.mpr hentries)
  rw [← List.filter_flatMap, ← List.map_eq_flatMap] at hcollect
  rw [ofJson, hcollect, Json.unknownNames]
  cases (List.filter (fun name => decide (Entry.UnknownName name)) (members.map Prod.fst)).head? <;>
    rfl

theorem impossible_iff (h : Slot.ofJson policy item = .ok slot) :
    slot.condition.impossible = true ↔ item.unknownNames ≠ [] := by
  obtain ⟨members, rfl, -⟩ := exists_ofJson_eq_ok_iff.mp ⟨slot, h⟩
  obtain ⟨entries, hentries, rfl⟩ := ofJson_object_eq_ok_iff.mp h
  rw [impossible_ofEntries hentries]
  simp [Json.unknownNames]

end Slot

omit [Hashing] in
theorem Condition.holds_of_impossible {c : Condition} (h : c.impossible = true) (view : TokenView)
    (index : Nat) : c.holds view index = false := by
  simp [holds, h]

/-! ## Matching without unknown names -/

section Matching

variable {item : Json} {items : List Json} {slot : Slot} {slots : List Slot} {view : TokenView}
  {start stop : Nat}

theorem Slot.collect_of_known (h : Slot.ofJson .ignore item = .ok slot)
    (hknown : item.unknownNames = []) :
    collect (Slot.ofJson .refuse) item.withoutUnknown = .ok [slot] := by
  have hstrict := Slot.ofJson_refuse h
  rw [hknown] at hstrict
  simp [Json.withoutUnknown, hknown, collect, hstrict]

/-- What is read strictly in place of a description with unknown names. -/
theorem Slot.collect_of_unknown (h : Slot.ofJson .ignore item = .ok slot)
    (hunknown : item.unknownNames ≠ []) :
    match slot.quantifier with
    | .one | .oneOrMore => ∃ name, collect (Slot.ofJson .refuse) item.withoutUnknown =
        .error (.unknownAttribute name)
    | .optional | .zeroOrMore => collect (Slot.ofJson .refuse) item.withoutUnknown = .ok []
    | .negated =>
      collect (Slot.ofJson .refuse) item.withoutUnknown = .ok [⟨{ checks := [] }, .one⟩] := by
  obtain ⟨name, hname⟩ := Option.isSome_iff_exists.mp (List.isSome_head?.mpr hunknown)
  have hstrict := Slot.ofJson_refuse h
  rw [hname] at hstrict
  rw [Json.withoutUnknown, if_neg hunknown, h]
  obtain ⟨c, quantifier⟩ := slot
  cases quantifier with
  | one => exact ⟨name, collect_cons_of_error hstrict⟩
  | oneOrMore => exact ⟨name, collect_cons_of_error hstrict⟩
  | optional => rfl
  | zeroOrMore => rfl
  | negated => rfl

/-- A slot that is read leniently takes the segments of what is read strictly in its place. -/
theorem Slot.takes_iff_fits (h : Slot.ofJson .ignore item = .ok slot) :
    slot.Takes view start stop ↔ ∃ others,
      collect (Slot.ofJson .refuse) item.withoutUnknown = .ok others ∧
        Fits view others start stop := by
  by_cases hknown : item.unknownNames = []
  · simp [Slot.collect_of_known h hknown, Fits]
  · have hleft := Slot.collect_of_unknown h hknown
    have hfails := Condition.holds_of_impossible ((Slot.impossible_iff h).mpr hknown) view
    obtain ⟨c, quantifier⟩ := slot
    cases quantifier with
    | one =>
        obtain ⟨name, hleft⟩ := hleft
        simp [hleft, Slot.takes_one, hfails]
    | oneOrMore =>
        obtain ⟨name, hleft⟩ := hleft
        simp [hleft, Slot.takes_oneOrMore, hfails]
    | optional =>
        rw [hleft, Slot.takes_optional rfl, hfails]
        simp [Fits, eq_comm]
    | zeroOrMore =>
        rw [hleft, Slot.takes_zeroOrMore rfl, hfails]
        simp [Fits, eq_comm]
    | negated =>
        rw [hleft, Slot.takes_negated rfl, hfails]
        simp [Fits, Slot.takes_one, Condition.holds, eq_comm]

theorem fits_iff_fits
    (h : List.Forall₂ (fun item slot => Slot.ofJson .ignore item = .ok slot) items slots) :
    Fits view slots start stop ↔ ∃ others,
      collect (Slot.ofJson .refuse) (items.flatMap Json.withoutUnknown) = .ok others ∧
        Fits view others start stop := by
  induction h generalizing start with
  | nil => simp [collect, Fits]
  | @cons item slot items slots hslot _ ih =>
      simp only [Fits, Slot.takes_iff_fits hslot, ih, List.flatMap_cons, collect_append]
      cases collect (Slot.ofJson .refuse) item.withoutUnknown with
      | error fault => simp [bind, Except.bind]
      | ok first =>
          cases collect (Slot.ofJson .refuse) (items.flatMap Json.withoutUnknown) with
          | error fault => simp [bind, Except.bind, Except.map]
          | ok rest => simp [bind, Except.bind, Except.map, fits_append]

/-- Strictly reading what is left fails for hopeless descriptions only. -/
theorem Slot.forall_withoutUnknown_iff (h : Slot.ofJson .ignore item = .ok slot) :
    (∀ left ∈ item.withoutUnknown, ∃ other, Slot.ofJson .refuse left = .ok other) ↔
      ¬item.Hopeless := by
  rw [← exists_collect_eq_ok_iff, Json.Hopeless, h]
  by_cases hknown : item.unknownNames = []
  · simp [Slot.collect_of_known h hknown, hknown]
  · have hleft := Slot.collect_of_unknown h hknown
    obtain ⟨c, quantifier⟩ := slot
    cases quantifier with
    | one =>
        obtain ⟨name, hleft⟩ := hleft
        simp [hleft, hknown]
    | oneOrMore =>
        obtain ⟨name, hleft⟩ := hleft
        simp [hleft, hknown]
    | optional => simpa using ⟨_, hleft⟩
    | zeroOrMore => simpa using ⟨_, hleft⟩
    | negated => simpa using ⟨_, hleft⟩

end Matching

/-! ## Patterns -/

namespace Pattern

/-- What becomes of a pattern whose unknown names are let through. Without such names it is read
strictly to the same pattern, and otherwise refused for the first of them. Its windows are those of
what is left without these names, and there are none when a description is hopeless or nothing is
left. -/
structure Lenient (items : List Json) (p : Pattern) : Prop where
  known : items.flatMap Json.unknownNames = [] → Pattern.ofJson .refuse (.array items) = .ok p
  refused {name : String} : (items.flatMap Json.unknownNames).head? = some name →
    Pattern.ofJson .refuse (.array items) = .error (.unknownAttribute name)
  rewritten {q : Pattern} :
    Pattern.ofJson .refuse (.array (items.flatMap Json.withoutUnknown)) = .ok q →
      ∀ key view prescan, ((Automaton.ofRules [(key, [p])]).search view prescan).1 =
        ((Automaton.ofRules [(key, [q])]).search view prescan).1
  nothing : (∃ item ∈ items, item.Hopeless) ∨ items.flatMap Json.withoutUnknown = [] →
    ∀ key view prescan, ((Automaton.ofRules [(key, [p])]).search view prescan).1 = []
  readable : (∃ q, Pattern.ofJson .refuse (.array (items.flatMap Json.withoutUnknown)) = .ok q) ↔
    ¬((∃ item ∈ items, item.Hopeless) ∨ items.flatMap Json.withoutUnknown = [])

variable {items : List Json} {p q : Pattern} {view : TokenView} {prescan : Bool}

omit [Hashing] in
/-- The windows of a pattern alone are its matches. -/
theorem mem_search_single {key : TextId} {w : Window} :
    w ∈ ((Automaton.ofRules [(key, [p])]).search view prescan).1 ↔
      w.start < w.stop ∧ w.stop ≤ view.size ∧ w.rule = 0 ∧ p.Matches view w.start w.stop := by
  rw [Automaton.mem_search]
  simp [Automaton.placed, eq_comm]

theorem matches_iff_of_lenient
    (h : List.Forall₂ (fun item slot => Slot.ofJson .ignore item = .ok slot) items p.slots)
    {start stop : Nat} (hlt : start < stop) :
    p.Matches view start stop ↔ ∃ q : Pattern,
      Pattern.ofJson .refuse (.array (items.flatMap Json.withoutUnknown)) = .ok q ∧
        q.Matches view start stop := by
  rw [Matches, fits_iff_fits h]
  simp only [ofJson_eq_ok_iff, Json.array.injEq, exists_eq_left', ← collect_eq_ok_iff]
  constructor
  · rintro ⟨slots, hslots, hfits⟩
    have hne : slots ≠ [] := by
      rintro rfl
      exact hlt.ne hfits
    exact ⟨⟨slots, hne⟩, hslots, hfits⟩
  · rintro ⟨q, hq, hfits⟩
    exact ⟨q.slots, hq, hfits⟩

theorem exists_ofJson_array_iff {policy : UnknownPolicy} :
    (∃ p, Pattern.ofJson policy (.array items) = .ok p) ↔
      items ≠ [] ∧ ∀ item ∈ items, ∃ slot, Slot.ofJson policy item = .ok slot := by
  simp only [ofJson_eq_ok_iff, Json.array.injEq, exists_eq_left', ← exists_collect_eq_ok_iff,
    collect_eq_ok_iff]
  constructor
  · rintro ⟨p, hp⟩
    refine ⟨?_, p.slots, hp⟩
    rintro rfl
    exact p.nonempty (List.forall₂_nil_left_iff.mp hp)
  · rintro ⟨hne, slots, hslots⟩
    refine ⟨⟨slots, ?_⟩, hslots⟩
    rintro rfl
    exact hne (List.forall₂_nil_right_iff.mp hslots)

theorem exists_ofJson_withoutUnknown_iff
    (h : List.Forall₂ (fun item slot => Slot.ofJson .ignore item = .ok slot) items p.slots) :
    (∃ q, Pattern.ofJson .refuse (.array (items.flatMap Json.withoutUnknown)) = .ok q) ↔
      ¬((∃ item ∈ items, item.Hopeless) ∨ items.flatMap Json.withoutUnknown = []) := by
  have hread : ∀ item ∈ items, ∃ slot, Slot.ofJson .ignore item = .ok slot :=
    exists_collect_eq_ok_iff.mp ⟨p.slots, collect_eq_ok_iff.mpr h⟩
  have hleft : (∀ left ∈ items.flatMap Json.withoutUnknown, ∃ slot,
      Slot.ofJson .refuse left = .ok slot) ↔ ∀ item ∈ items, ¬item.Hopeless := by
    rw [List.forall_mem_flatMap]
    refine forall₂_congr fun item hitem => ?_
    obtain ⟨slot, hslot⟩ := hread item hitem
    exact Slot.forall_withoutUnknown_iff hslot
  rw [exists_ofJson_array_iff, hleft, not_or, and_comm, not_exists]
  simp only [not_and]

/-- Letting unknown names through rewrites the descriptions that have them. -/
theorem ofJson_ignore_lenient {json : Json} (h : Pattern.ofJson .ignore json = .ok p) :
    ∃ items, json = .array items ∧ p.Lenient items := by
  obtain ⟨items, rfl, hslots⟩ := ofJson_eq_ok_iff.mp h
  have hstrict := collect_of_stricter (fun _ _ => Slot.ofJson_refuse) (collect_eq_ok_iff.mpr hslots)
  have hreadable := exists_ofJson_withoutUnknown_iff hslots
  refine ⟨items, rfl, ?_, ?_, ?_, ?_, hreadable⟩
  · intro hknown
    rw [hknown] at hstrict
    exact ofJson_eq_ok_iff.mpr ⟨items, rfl, collect_eq_ok_iff.mp hstrict⟩
  · intro name hname
    rw [hname] at hstrict
    simp [ofJson, hstrict]
  · intro q hq key view prescan
    have hp := Automaton.searched_search (Automaton.ofRules [(key, [p])]) view prescan
    have hq' := Automaton.searched_search (Automaton.ofRules [(key, [q])]) view prescan
    refine hp.increasing.eq_of_mem_iff hq'.increasing fun w => ?_
    rw [mem_search_single, mem_search_single]
    refine and_congr_right fun hlt => ?_
    rw [matches_iff_of_lenient hslots hlt]
    simp [hq]
  · intro hnothing key view prescan
    refine List.eq_nil_iff_forall_not_mem.mpr fun w hw => ?_
    obtain ⟨hlt, -, -, hmatches⟩ := mem_search_single.mp hw
    obtain ⟨q, hq, -⟩ := (matches_iff_of_lenient hslots hlt).mp hmatches
    exact hreadable.mp ⟨q, hq⟩ hnothing

omit [Hashing] in
/-- A slot for any number of tokens is gone, and a negated one takes the second token. -/
theorem ofJson_ignore_lenient_two_unknown :
    letI := Hashing.folded
    let a : Json := .object [("ORTH", .string "a")]
    let items : List Json := [a, .object [("COLOR", .string "red"), ("OP", .string "*")],
      .object [("OP", .string "!"), ("POS", .string "X"), ("SIZE", .bool true)]]
    let isA : Slot := ⟨{ checks := [(.text .orth, .text (.of "a"))] }, .one⟩
    let p : Pattern := ⟨[isA, ⟨{ checks := [], impossible := true }, .zeroOrMore⟩,
      ⟨{ checks := [(.text .pos, .text (.of "X"))], impossible := true }, .negated⟩], by decide⟩
    let q : Pattern := ⟨[isA, ⟨{ checks := [] }, .one⟩], by decide⟩
    let view : TokenView := ⟨2, fun _ _ => .text (.of "a")⟩
    Pattern.ofJson .ignore (.array items) = .ok p ∧
      items.flatMap Json.withoutUnknown = [a, .object [("OP", .string "1")]] ∧
      Pattern.ofJson .refuse (.array (items.flatMap Json.withoutUnknown)) = .ok q ∧
      Pattern.ofJson .refuse (.array items) = .error (.unknownAttribute "COLOR") ∧
      ⟨0, 2, 0⟩ ∈ ((Automaton.ofRules [(.of "A", [p])]).search view true).1 ∧
      ((Automaton.ofRules [(.of "A", [p])]).search view true).1 =
        ((Automaton.ofRules [(.of "A", [q])]).search view true).1 := by
  let _ := Hashing.folded
  intro a items isA p q view
  have hp : Pattern.ofJson .ignore (.array items) = .ok p := by rfl
  have hleft : items.flatMap Json.withoutUnknown = [a, .object [("OP", .string "1")]] := by
    rfl
  have hq : Pattern.ofJson .refuse (.array (items.flatMap Json.withoutUnknown)) = .ok q := by
    rw [hleft]
    rfl
  obtain ⟨items', hitems, hlenient⟩ := ofJson_ignore_lenient hp
  obtain rfl := Json.array.inj hitems
  exact ⟨hp, hleft, hq, hlenient.refused (by decide +kernel),
    mem_search_single.mpr ⟨by decide, by decide, rfl, by decide +kernel⟩,
    hlenient.rewritten hq _ view true⟩

end Pattern

end SpanRules
