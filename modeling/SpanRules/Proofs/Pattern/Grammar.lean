import Mathlib.Data.List.Nodup
import SpanRules.Proofs.Pattern.Collect
import SpanRules.Text.Hash

/-! # The grammar of token descriptions

Which entries a token description may have, what each of them says, and what is wrong with all
others. Reading a description accepts the grammar and nothing else, and the slot that comes of it
says what the entries say.
-/

namespace SpanRules

/-! ## Names and values -/

namespace Attribute

/-- The name stands for the attribute: they are equal up to the case of ASCII letters. -/
def Named (attr : Attribute) (name : String) : Prop :=
  sameName attr.name name = true

/-- No two attributes share a name. -/
theorem Named.unique {a b : Attribute} {name : String} (ha : a.Named name) (hb : b.Named name) :
    a = b := by
  have hdistinct : ∀ a ∈ all, ∀ b ∈ all, sameName a.name b.name = true → a = b := by
    decide +kernel
  apply hdistinct a (mem_all a) b (mem_all b)
  unfold Named sameName at ha hb
  rw [sameName, beq_iff_eq, eq_of_beq ha, eq_of_beq hb]

theorem Named.ne_quantifierKey {a : Attribute} {name : String} (h : a.Named name) :
    name ≠ quantifierKey := by
  have hnone : ∀ a ∈ all, ¬sameName a.name quantifierKey = true := by decide +kernel
  rintro rfl
  exact hnone a (mem_all a) h

theorem ofName?_eq_some_iff {a : Attribute} {name : String} :
    ofName? name = some a ↔ a.Named name := by
  unfold ofName?
  constructor
  · intro h
    have hname := List.find?_some h
    exact hname
  · intro h
    cases hfind : all.find? fun a => sameName a.name name with
    | none => exact absurd h (List.find?_eq_none.mp hfind a (mem_all a))
    | some b =>
        have hname := List.find?_some hfind
        rw [h.unique hname]

theorem ofName?_eq_none_iff {name : String} :
    ofName? name = none ↔ ∀ a : Attribute, ¬a.Named name := by
  rw [ofName?, List.find?_eq_none]
  constructor
  · intro h a
    exact h a (mem_all a)
  · intro h a _
    exact h a

end Attribute

/-- The kind of the attributes that a scalar may be the value of. -/
def Json.kind? : Json → Option AttributeKind
  | .string _ => some .text
  | .bool _ => some .flag
  | .number _ => some .number
  | .null | .array _ | .object _ => none

namespace AttributeValue

variable [Hashing]

/-- The values of a kind as they are written. A number has to be an integer of 64 bits. -/
inductive Written : AttributeKind → Json → AttributeValue → Prop
  | text (s : String) : Written .text (.string s) (.text (.of s))
  | flag (b : Bool) : Written .flag (.bool b) (.flag b)
  | number {n : Int} (h : Int64.minValue.toInt ≤ n ∧ n ≤ Int64.maxValue.toInt) :
      Written .number (.number (.integer n)) (.number n)

theorem Written.kind?_eq {kind : AttributeKind} {json : Json} {value : AttributeValue}
    (h : Written kind json value) : json.kind? = some kind := by
  cases h <;> rfl

end AttributeValue

theorem fitsWord_iff {n : Int} :
    fitsWord n = true ↔ Int64.minValue.toInt ≤ n ∧ n ≤ Int64.maxValue.toInt := by
  have hmin : Int64.minValue.toInt = -9223372036854775808 := by decide
  have hmax : Int64.maxValue.toInt = 9223372036854775807 := by decide
  simp [fitsWord, hmin, hmax]

theorem Json.isScalar_eq_isSome_kind? (json : Json) : json.isScalar = json.kind?.isSome := by
  cases json <;> rfl

theorem Quantifier.ofMarker?_eq_some_iff {marker : String} {q : Quantifier} :
    ofMarker? marker = some q ↔ marker = q.marker := by
  constructor
  · intro h
    simpa [eq_comm] using List.find?_some h
  · intro h
    rw [h, ofMarker?_marker]

theorem Quantifier.marker_inj {q r : Quantifier} : q.marker = r.marker ↔ q = r := by
  rw [← ofMarker?_eq_some_iff, ofMarker?_marker, Option.some.injEq]

theorem Quantifier.ofJson_of_ne {json : Json} (h : ∀ q : Quantifier, json ≠ .string q.marker) :
    ofJson json = .error (.unknownOperator json) := by
  cases json with
  | string marker =>
      cases hmarker : ofMarker? marker with
      | none => simp [ofJson, hmarker]
      | some q => exact absurd (congrArg Json.string (ofMarker?_eq_some_iff.mp hmarker)) (h q)
  | null => rfl
  | bool b => rfl
  | number x => rfl
  | array items => rfl
  | object members => rfl

namespace AttributeValue

variable [Hashing] {attr : Attribute} {json : Json} {value : AttributeValue}

theorem ofJson_of_written (h : Written attr.kind json value) : ofJson attr json = .ok value := by
  unfold ofJson
  generalize attr.kind = kind at h
  cases h with
  | text s => rfl
  | flag b => rfl
  | number hn => simp [fitsWord_iff.mpr hn]

theorem ofJson_of_not_integer {x : JsonNumber} (hkind : attr.kind = .number)
    (h : ∀ value, ¬Written .number (.number x) value) :
    ofJson attr (.number x) = .error (.notAnInteger attr x) := by
  unfold ofJson
  rw [hkind]
  cases x with
  | integer n =>
      have hn : ¬fitsWord n = true := fun hn => h (.number n) (.number (fitsWord_iff.mp hn))
      simp [hn]
  | float x => rfl

theorem ofJson_of_wrong_kind (hkind : json.kind? ≠ some attr.kind) :
    ofJson attr json = .error (.wrongKind attr json) := by
  unfold ofJson
  generalize attr.kind = kind at hkind
  cases kind <;> cases json <;> first | rfl | exact absurd rfl hkind

/-- Of the values of the right kind, only numbers may be none of the attribute. -/
theorem written_or_number {kind : AttributeKind} (hkind : json.kind? = some kind) :
    (∃ value, Written kind json value) ∨
      ∃ x, json = .number x ∧ kind = .number ∧ ∀ value, ¬Written .number (.number x) value := by
  cases json with
  | string s =>
      obtain rfl := Option.some.inj hkind
      exact Or.inl ⟨_, .text s⟩
  | bool b =>
      obtain rfl := Option.some.inj hkind
      exact Or.inl ⟨_, .flag b⟩
  | number x =>
      obtain rfl := Option.some.inj hkind
      by_cases hvalue : ∃ value, Written .number (.number x) value
      · exact Or.inl hvalue
      · exact Or.inr ⟨x, rfl, rfl, not_exists.mp hvalue⟩
  | null => cases hkind
  | array items => cases hkind
  | object members => cases hkind

end AttributeValue

/-! ## Entries -/

variable [Hashing]

namespace Entry

/-- The name is neither that of the quantifier nor that of an attribute. -/
def UnknownName (name : String) : Prop :=
  name ≠ "OP" ∧ ∀ attr : Attribute, ¬attr.Named name

/-- The entries that a description may have, and what they say. Unknown names are let through
under one of the policies only. -/
inductive Written (policy : UnknownPolicy) : String × Json → Entry → Prop
  | quantifier (q : Quantifier) : Written policy ("OP", .string q.marker) (.quantifier q)
  | check {name : String} {attr : Attribute} {json : Json} {value : AttributeValue}
      (hname : attr.Named name) (hvalue : AttributeValue.Written attr.kind json value) :
      Written policy (name, json) (.check attr value)
  | unknown {name : String} {json : Json} (hpolicy : policy = .ignore)
      (hname : UnknownName name) (hjson : json.kind? ≠ none) :
      Written policy (name, json) .unknown

/-- The faults of entries. What is no scalar is not looked up, and an unknown name goes before
its value. -/
inductive Faulty (policy : UnknownPolicy) : String × Json → Fault → Prop
  | operator {json : Json} (h : ∀ q : Quantifier, json ≠ .string q.marker) :
      Faulty policy ("OP", json) (.invalidPattern (.unknownOperator json))
  | nested {name : String} {json : Json} (hop : name ≠ "OP") (hjson : json.kind? = none) :
      Faulty policy (name, json) (.invalidPattern (.notAScalar name json))
  | unknown {name : String} {json : Json} (hpolicy : policy = .refuse)
      (hname : UnknownName name) (hjson : json.kind? ≠ none) :
      Faulty policy (name, json) (.unknownAttribute name)
  | number {name : String} {attr : Attribute} {number : JsonNumber} (hname : attr.Named name)
      (hkind : attr.kind = .number)
      (h : ∀ value, ¬AttributeValue.Written .number (.number number) value) :
      Faulty policy (name, .number number) (.invalidPattern (.notAnInteger attr number))
  | kind {name : String} {attr : Attribute} {json : Json} (hname : attr.Named name)
      (hjson : json.kind? ≠ none) (hkind : json.kind? ≠ some attr.kind) :
      Faulty policy (name, json) (.invalidPattern (.wrongKind attr json))

variable {policy : UnknownPolicy} {m : String × Json} {e : Entry} {fault : Fault}

theorem ofMember_of_written (h : Written policy m e) : ofMember policy m.1 m.2 = .ok e := by
  cases h with
  | quantifier q => simp [ofMember, quantifierKey, Quantifier.ofJson, Quantifier.ofMarker?_marker]
  | @check name attr json value hname hvalue =>
      have hscalar : json.isScalar = true := by
        rw [Json.isScalar_eq_isSome_kind?, hvalue.kind?_eq, Option.isSome_some]
      simp [ofMember, hname.ne_quantifierKey, hscalar, Attribute.ofName?_eq_some_iff.mpr hname,
        AttributeValue.ofJson_of_written hvalue]
  | unknown hpolicy hname hjson =>
      simp [ofMember, quantifierKey, hname.1, Json.isScalar_eq_isSome_kind?,
        Option.isSome_iff_ne_none.mpr hjson, Attribute.ofName?_eq_none_iff.mpr hname.2, hpolicy]

theorem ofMember_of_faulty (h : Faulty policy m fault) :
    ofMember policy m.1 m.2 = .error fault := by
  cases h with
  | operator h => simp [ofMember, quantifierKey, Quantifier.ofJson_of_ne h]
  | nested hop hjson =>
      simp [ofMember, quantifierKey, hop, Json.isScalar_eq_isSome_kind?, hjson]
  | unknown hpolicy hname hjson =>
      simp [ofMember, quantifierKey, hname.1, Json.isScalar_eq_isSome_kind?,
        Option.isSome_iff_ne_none.mpr hjson, Attribute.ofName?_eq_none_iff.mpr hname.2, hpolicy]
  | number hname hkind h =>
      simp [ofMember, hname.ne_quantifierKey, Json.isScalar,
        Attribute.ofName?_eq_some_iff.mpr hname, AttributeValue.ofJson_of_not_integer hkind h]
  | kind hname hjson hkind =>
      simp [ofMember, hname.ne_quantifierKey, Json.isScalar_eq_isSome_kind?,
        Option.isSome_iff_ne_none.mpr hjson, Attribute.ofName?_eq_some_iff.mpr hname,
        AttributeValue.ofJson_of_wrong_kind hkind]

/-- The grammar says of every entry what it means or what is wrong with it. -/
theorem written_or_faulty (policy : UnknownPolicy) (m : String × Json) :
    (∃ e, Written policy m e) ∨ ∃ fault, Faulty policy m fault := by
  obtain ⟨name, json⟩ := m
  by_cases hop : name = "OP"
  · rw [hop]
    by_cases hmarker : ∃ q : Quantifier, json = .string q.marker
    · obtain ⟨q, rfl⟩ := hmarker
      exact Or.inl ⟨_, .quantifier q⟩
    · exact Or.inr ⟨_, .operator (not_exists.mp hmarker)⟩
  by_cases hjson : json.kind? = none
  · exact Or.inr ⟨_, .nested hop hjson⟩
  by_cases hname : ∃ attr : Attribute, attr.Named name
  · obtain ⟨attr, hname⟩ := hname
    by_cases hkind : json.kind? = some attr.kind
    · rcases AttributeValue.written_or_number hkind with ⟨value, hvalue⟩ | ⟨x, rfl, hattr, hx⟩
      · exact Or.inl ⟨_, .check hname hvalue⟩
      · exact Or.inr ⟨_, .number hname hattr hx⟩
    · exact Or.inr ⟨_, .kind hname hjson hkind⟩
  · rw [not_exists] at hname
    cases policy with
    | refuse => exact Or.inr ⟨_, .unknown rfl ⟨hop, hname⟩ hjson⟩
    | ignore => exact Or.inl ⟨_, .unknown rfl ⟨hop, hname⟩ hjson⟩

theorem ofMember_eq_ok_iff : ofMember policy m.1 m.2 = .ok e ↔ Written policy m e := by
  refine ⟨?_, ofMember_of_written⟩
  intro h
  rcases written_or_faulty policy m with ⟨e', hwritten⟩ | ⟨fault, hfaulty⟩
  · rw [ofMember_of_written hwritten] at h
    exact Except.ok.inj h ▸ hwritten
  · rw [ofMember_of_faulty hfaulty] at h
    cases h

theorem ofMember_eq_error_iff : ofMember policy m.1 m.2 = .error fault ↔ Faulty policy m fault := by
  refine ⟨?_, ofMember_of_faulty⟩
  intro h
  rcases written_or_faulty policy m with ⟨e, hwritten⟩ | ⟨fault', hfaulty⟩
  · rw [ofMember_of_written hwritten] at h
    cases h
  · rw [ofMember_of_faulty hfaulty] at h
    exact Except.error.inj h ▸ hfaulty

theorem Written.unique {e' : Entry} (h : Written policy m e) (h' : Written policy m e') : e = e' :=
  Except.ok.inj ((ofMember_of_written h).symm.trans (ofMember_of_written h'))

theorem written_quantifier_iff {q : Quantifier} :
    Written policy m (.quantifier q) ↔ m = ("OP", .string q.marker) := by
  constructor
  · intro h
    cases h
    rfl
  · intro h
    rw [h]
    exact .quantifier q

theorem Written.eq_unknown_iff (h : Written policy m e) : e = .unknown ↔ UnknownName m.1 := by
  cases h with
  | quantifier q => simp [UnknownName]
  | check hname _ => simpa [UnknownName] using fun _ => ⟨_, hname⟩
  | unknown _ hname _ => simpa using hname

section Reading

variable {members : List (String × Json)} {entries : List Entry}

theorem mem_zip_iff (h : List.Forall₂ (Written policy) members entries) :
    (m, e) ∈ members.zip entries ↔ m ∈ members ∧ Written policy m e := by
  induction h with
  | nil => simp
  | cons hfirst _ ih =>
      rw [List.zip_cons_cons, List.mem_cons, List.mem_cons, Prod.mk.injEq, ih, or_and_right]
      refine or_congr_left (and_congr_right ?_)
      rintro rfl
      constructor
      · rintro rfl
        exact hfirst
      · intro hm
        exact hm.unique hfirst

theorem mem_iff_written (h : List.Forall₂ (Written policy) members entries) :
    e ∈ entries ↔ ∃ m ∈ members, Written policy m e := by
  rw [← List.map_snd_zip (Nat.le_of_eq h.length_eq.symm)]
  simp [← mem_zip_iff h]

theorem exists_written (h : List.Forall₂ (Written policy) members entries) (hm : m ∈ members) :
    ∃ e, Written policy m e := by
  rw [← List.map_fst_zip (Nat.le_of_eq h.length_eq)] at hm
  obtain ⟨⟨m, e⟩, hzip, rfl⟩ := List.mem_map.mp hm
  exact ⟨e, ((mem_zip_iff h).mp hzip).2⟩

end Reading

end Entry

/-! ## Slots -/

namespace Slot

/-- What a description says: the slot has the quantifier that it names, checks the known entries
in the order of their attributes and then of their keys, and holds where all of them do, if all
entries are known. -/
structure Means (policy : UnknownPolicy) (members : List (String × Json)) (s : Slot) : Prop where
  quantifier {q : Quantifier} : ("OP", .string q.marker) ∈ members → s.quantifier = q
  no_quantifier : (∀ json, ("OP", json) ∉ members) → s.quantifier = .one
  checks : ∃ known : List ((String × Json) × Attribute × AttributeValue),
    s.condition.checks = known.map Prod.snd ∧
    known.Pairwise (fun a b =>
      a.2.1.rank < b.2.1.rank ∨ a.2.1.rank = b.2.1.rank ∧ a.1.1 < b.1.1) ∧
    ∀ m attr value, (m, attr, value) ∈ known ↔
      m ∈ members ∧ Entry.Written policy m (.check attr value)
  impossible : s.condition.impossible = true ↔ ∃ m ∈ members, Entry.UnknownName m.1
  holds (view : TokenView) (index : Nat) : s.condition.holds view index = true ↔
    (∀ m ∈ members, ¬Entry.UnknownName m.1) ∧
    ∀ m ∈ members, ∀ attr value, Entry.Written policy m (.check attr value) →
      view.attr index attr = value

/-- What is wrong with a description: the fault of its first faulty entry. -/
inductive Faulty (policy : UnknownPolicy) : Json → Fault → Prop
  | not_object {json : Json} (h : ∀ members, json ≠ .object members) :
      Faulty policy json (.invalidPattern (.notAnObject json))
  | entry {before after : List (String × Json)} {m : String × Json} {fault : Fault}
      (hbefore : ∀ b ∈ before, ∃ e, Entry.Written policy b e)
      (hm : Entry.Faulty policy m fault) :
      Faulty policy (.object (before ++ m :: after)) fault

variable {policy : UnknownPolicy} {members : List (String × Json)} {entries : List Entry}
  {json : Json} {slot : Slot} {fault : Fault}

theorem collect_entries_eq_ok_iff :
    collect (fun m => Entry.ofMember policy m.1 m.2) members = .ok entries ↔
      List.Forall₂ (Entry.Written policy) members entries := by
  rw [collect_eq_ok_iff]
  simp only [Entry.ofMember_eq_ok_iff]

theorem ofJson_object_eq_ok_iff : ofJson policy (.object members) = .ok slot ↔
    ∃ entries, List.Forall₂ (Entry.Written policy) members entries ∧ ofEntries entries = slot := by
  simp only [← collect_entries_eq_ok_iff, ofJson]
  cases collect (fun m => Entry.ofMember policy m.1 m.2) members with
  | error fault => simp
  | ok entries => simp

theorem exists_ofJson_eq_ok_iff : (∃ slot, ofJson policy json = .ok slot) ↔
    ∃ members, json = .object members ∧ ∀ m ∈ members, ∃ e, Entry.Written policy m e := by
  cases json with
  | object members =>
      simp only [Json.object.injEq, exists_eq_left', ← Entry.ofMember_eq_ok_iff,
        ← exists_collect_eq_ok_iff, ofJson]
      cases collect (fun m => Entry.ofMember policy m.1 m.2) members with
      | error fault => simp
      | ok entries => simp
  | null | bool | number | string | array => simp [ofJson]

theorem ofJson_object_eq_error_iff : ofJson policy (.object members) = .error fault ↔
    ∃ before m after, members = before ++ m :: after ∧
      (∀ b ∈ before, ∃ e, Entry.Written policy b e) ∧ Entry.Faulty policy m fault := by
  simp only [← Entry.ofMember_eq_ok_iff, ← Entry.ofMember_eq_error_iff]
  refine Iff.trans ?_ (collect_eq_error_iff
    (f := fun m : String × Json => Entry.ofMember policy m.1 m.2))
  rw [ofJson]
  cases collect (fun m => Entry.ofMember policy m.1 m.2) members with
  | error found => simp
  | ok entries => simp

theorem ofJson_eq_error_iff : ofJson policy json = .error fault ↔ Faulty policy json fault := by
  constructor
  · intro h
    cases json with
    | object members =>
        obtain ⟨before, m, after, rfl, hbefore, hm⟩ := ofJson_object_eq_error_iff.mp h
        exact .entry hbefore hm
    | null | bool | number | string | array =>
        obtain rfl := Except.error.inj h
        exact .not_object (by simp)
  · intro h
    cases h with
    | not_object h =>
        cases json with
        | object members => exact absurd rfl (h members)
        | null | bool | number | string | array => rfl
    | entry hbefore hm => exact ofJson_object_eq_error_iff.mpr ⟨_, _, _, rfl, hbefore, hm⟩

omit [Hashing] in
theorem quantifierOf_cases (entries : List Entry) :
    .quantifier (quantifierOf entries) ∈ entries ∨
      (∀ q, .quantifier q ∉ entries) ∧ quantifierOf entries = .one := by
  induction entries with
  | nil => exact Or.inr ⟨by simp, rfl⟩
  | cons e rest ih =>
      cases e with
      | quantifier q => exact Or.inl List.mem_cons_self
      | check attr value => simpa [quantifierOf] using ih
      | unknown => simpa [quantifierOf] using ih

/-- A member that is a check, beside that check. -/
def known? : (String × Json) × Entry → Option ((String × Json) × Attribute × AttributeValue)
  | (m, .check attr value) => some (m, attr, value)
  | _ => none

omit [Hashing] in
theorem known?_eq_some_iff {p : (String × Json) × Entry} {m : String × Json} {attr : Attribute}
    {value : AttributeValue} : known? p = some (m, attr, value) ↔ p = (m, .check attr value) := by
  obtain ⟨m', e⟩ := p
  cases e <;> simp [known?]

/-- The known members beside their checks, in the order of the members. -/
def knownOf (members : List (String × Json)) (entries : List Entry) :
    List ((String × Json) × Attribute × AttributeValue) :=
  (members.zip entries).filterMap known?

omit [Hashing] in
theorem map_snd_knownOf (h : members.length = entries.length) :
    (knownOf members entries).map Prod.snd = checksOf entries := by
  conv_rhs => rw [← List.map_snd_zip (Nat.le_of_eq h.symm)]
  rw [knownOf, checksOf, List.map_filterMap, List.filterMap_map]
  congr 1
  funext p
  obtain ⟨m, e⟩ := p
  cases e <;> rfl

theorem mem_knownOf (h : List.Forall₂ (Entry.Written policy) members entries) {m : String × Json}
    {attr : Attribute} {value : AttributeValue} :
    (m, attr, value) ∈ knownOf members entries ↔
      m ∈ members ∧ Entry.Written policy m (.check attr value) := by
  simp [knownOf, known?_eq_some_iff, ← Entry.mem_zip_iff h]

omit [Hashing] in
theorem pairwise_knownOf (h : members.length = entries.length)
    (hkeys : members.Pairwise (·.1 < ·.1)) :
    (knownOf members entries).Pairwise (·.1.1 < ·.1.1) := by
  rw [← List.map_fst_zip (Nat.le_of_eq h), List.pairwise_map] at hkeys
  apply hkeys.filterMap
  intro p q hpq known hknown other hother
  obtain rfl := known?_eq_some_iff.mp hknown
  obtain rfl := known?_eq_some_iff.mp hother
  exact hpq

omit [Hashing] in
theorem eq_of_keys_eq (hkeys : members.Pairwise (·.1 < ·.1)) {name : String} {a b : Json}
    (ha : (name, a) ∈ members) (hb : (name, b) ∈ members) : a = b := by
  have hnodup : (members.map Prod.fst).Nodup := by
    rw [List.Nodup, List.pairwise_map]
    apply hkeys.imp
    intro m n hlt heq
    rw [heq] at hlt
    exact String.lt_irrefl _ hlt
  exact congrArg Prod.snd (List.inj_on_of_nodup_map hnodup ha hb rfl)

theorem impossible_ofEntries (h : List.Forall₂ (Entry.Written policy) members entries) :
    (ofEntries entries).condition.impossible = true ↔
      ∃ m ∈ members, Entry.UnknownName m.1 := by
  rw [ofEntries, List.contains_iff_mem, Entry.mem_iff_written h]
  refine exists_congr fun m => and_congr_right fun hm => ?_
  obtain ⟨e, he⟩ := Entry.exists_written h hm
  rw [← he.eq_unknown_iff]
  constructor
  · exact he.unique
  · intro hunknown
    exact hunknown ▸ he

theorem mem_checks_ofEntries (h : List.Forall₂ (Entry.Written policy) members entries)
    {attr : Attribute} {value : AttributeValue} :
    (attr, value) ∈ (ofEntries entries).condition.checks ↔
      ∃ m ∈ members, Entry.Written policy m (.check attr value) := by
  rw [← Entry.mem_iff_written h, ofEntries, sortChecks, mem_sortBy, checksOf, List.mem_filterMap]
  constructor
  · intro hcheck
    obtain ⟨e, he, hsome⟩ := hcheck
    cases e with
    | check attr' value' =>
        obtain ⟨rfl, rfl⟩ := Prod.mk.inj (Option.some.inj hsome)
        exact he
    | quantifier q => cases hsome
    | unknown => cases hsome
  · intro he
    exact ⟨_, he, rfl⟩

theorem quantifier_ofEntries (h : List.Forall₂ (Entry.Written policy) members entries) :
    ("OP", .string (ofEntries entries).quantifier.marker) ∈ members ∨
      (∀ q : Quantifier, ("OP", .string q.marker) ∉ members) ∧
        (ofEntries entries).quantifier = .one := by
  rcases quantifierOf_cases entries with hmem | ⟨hnone, hone⟩
  · obtain ⟨m, hm, hwritten⟩ := (Entry.mem_iff_written h).mp hmem
    rw [Entry.written_quantifier_iff.mp hwritten] at hm
    exact Or.inl hm
  · refine Or.inr ⟨?_, hone⟩
    intro q hq
    exact hnone q ((Entry.mem_iff_written h).mpr ⟨_, hq, .quantifier q⟩)

theorem checks_ofEntries (h : List.Forall₂ (Entry.Written policy) members entries) :
    (ofEntries entries).condition.checks =
      (sortBy (fun a b => a.2.1.rank ≤ b.2.1.rank) (knownOf members entries)).map Prod.snd := by
  rw [ofEntries, ← map_snd_knownOf h.length_eq]
  exact (map_sortBy (fun _ _ => rfl) _).symm

theorem holds_ofEntries (h : List.Forall₂ (Entry.Written policy) members entries)
    (view : TokenView) (index : Nat) :
    (ofEntries entries).condition.holds view index = true ↔
      (∀ m ∈ members, ¬Entry.UnknownName m.1) ∧
      ∀ m ∈ members, ∀ attr value, Entry.Written policy m (.check attr value) →
        view.attr index attr = value := by
  rw [Condition.holds, Bool.and_eq_true, Bool.not_eq_true', ← Bool.not_eq_true,
    impossible_ofEntries h, List.all_eq_true, not_exists]
  simp only [not_and]
  refine and_congr_right fun _ => ?_
  constructor
  · intro hall m hm attr value hwritten
    exact of_decide_eq_true (hall _ ((mem_checks_ofEntries h).mpr ⟨m, hm, hwritten⟩))
  · intro hall check hcheck
    obtain ⟨m, hm, hwritten⟩ := (mem_checks_ofEntries h).mp hcheck
    exact decide_eq_true (hall m hm _ _ hwritten)

/-- Keys that increase make the quantifier one, and the order of the checks that of the keys. -/
theorem means_ofEntries (hkeys : members.Pairwise (·.1 < ·.1))
    (h : List.Forall₂ (Entry.Written policy) members entries) :
    (ofEntries entries).Means policy members where
  quantifier hq := by
    rcases quantifier_ofEntries h with hmem | ⟨hnone, -⟩
    · exact Quantifier.marker_inj.mp (Json.string.inj (eq_of_keys_eq hkeys hmem hq))
    · exact absurd hq (hnone _)
  no_quantifier hop := by
    rcases quantifier_ofEntries h with hmem | ⟨-, hone⟩
    · exact absurd hmem (hop _)
    · exact hone
  checks := by
    refine ⟨_, checks_ofEntries h, pairwise_sortBy (pairwise_knownOf h.length_eq hkeys), ?_⟩
    intro m attr value
    rw [mem_sortBy, mem_knownOf h]
  impossible := impossible_ofEntries h
  holds := holds_ofEntries h

end Slot

/-! ## Patterns -/

namespace Pattern

variable {policy : UnknownPolicy} {json : Json} {pattern : Pattern} {fault : Fault}

/-- What is wrong with a pattern: it has no descriptions, or the first faulty one has a fault. -/
inductive Faulty (policy : UnknownPolicy) : Json → Fault → Prop
  | not_array {json : Json} (h : ∀ items, json ≠ .array items) :
      Faulty policy json (.invalidPattern (.notAnArray json))
  | empty : Faulty policy (.array []) (.invalidPattern .emptyPattern)
  | description {before after : List Json} {item : Json} {fault : Fault}
      (hbefore : ∀ b ∈ before, ∃ slot, Slot.ofJson policy b = .ok slot)
      (hitem : Slot.Faulty policy item fault) :
      Faulty policy (.array (before ++ item :: after)) fault

theorem ofJson_eq_ok_iff : ofJson policy json = .ok pattern ↔
    ∃ items, json = .array items ∧
      List.Forall₂ (fun item slot => Slot.ofJson policy item = .ok slot) items pattern.slots := by
  cases json with
  | array items =>
      simp only [Json.array.injEq, exists_eq_left', ← collect_eq_ok_iff, ofJson]
      cases collect (Slot.ofJson policy) items with
      | error fault => simp
      | ok slots =>
          obtain ⟨patternSlots, hne⟩ := pattern
          by_cases hnil : slots = []
          · simp [ofSlots?, hnil, hne.symm]
          · simp [ofSlots?, hnil]
  | null | bool | number | string | object => simp [ofJson]

theorem ofJson_array_eq_error_iff {items : List Json} :
    ofJson policy (.array items) = .error fault ↔
      (items = [] ∧ fault = .invalidPattern .emptyPattern) ∨
      ∃ before item after, items = before ++ item :: after ∧
        (∀ b ∈ before, ∃ slot, Slot.ofJson policy b = .ok slot) ∧
        Slot.Faulty policy item fault := by
  simp only [← Slot.ofJson_eq_error_iff]
  rw [← collect_eq_error_iff, ofJson]
  cases hcollect : collect (Slot.ofJson policy) items with
  | error found =>
      have hne : items ≠ [] := by
        rintro rfl
        cases hcollect
      simp [hne]
  | ok slots =>
      have hnil : items = [] ↔ slots = [] := by
        rw [← List.length_eq_zero_iff, (collect_eq_ok_iff.mp hcollect).length_eq,
          List.length_eq_zero_iff]
      by_cases hslots : slots = []
      · simp [ofSlots?, hnil, hslots, eq_comm]
      · simp [ofSlots?, hnil, hslots]

theorem ofJson_eq_error_iff : ofJson policy json = .error fault ↔ Faulty policy json fault := by
  constructor
  · intro h
    cases json with
    | array items =>
        rcases ofJson_array_eq_error_iff.mp h with ⟨rfl, rfl⟩ |
          ⟨before, item, after, rfl, hbefore, hitem⟩
        · exact .empty
        · exact .description hbefore hitem
    | null | bool | number | string | object =>
        obtain rfl := Except.error.inj h
        exact .not_array (by simp)
  · intro h
    cases h with
    | not_array h =>
        cases json with
        | array items => exact absurd rfl (h items)
        | null | bool | number | string | object => rfl
    | empty => rfl
    | description hbefore hitem =>
        exact ofJson_array_eq_error_iff.mpr (Or.inr ⟨_, _, _, rfl, hbefore, hitem⟩)

end Pattern

/-- Exactly the objects of the grammar are read as slots, and then the slot says what they say;
every other value is refused with the fault of its first faulty entry. The keys of an object that
has been read from a text increase. Patterns are arrays of such objects, at least one. -/
theorem Slot.ofJson_reads_grammar (policy : UnknownPolicy) (json : Json) :
    ((∃ slot, Slot.ofJson policy json = .ok slot) ↔
      ∃ members, json = .object members ∧ ∀ m ∈ members, ∃ e, Entry.Written policy m e) ∧
    (∀ members slot, json = .object members → members.Pairwise (·.1 < ·.1) →
      Slot.ofJson policy json = .ok slot → slot.Means policy members) ∧
    (∀ fault, Slot.ofJson policy json = .error fault ↔ Slot.Faulty policy json fault) ∧
    (∀ pattern, Pattern.ofJson policy json = .ok pattern ↔ ∃ items, json = .array items ∧
      List.Forall₂ (fun item slot => Slot.ofJson policy item = .ok slot) items pattern.slots) ∧
    (∀ fault, Pattern.ofJson policy json = .error fault ↔ Pattern.Faulty policy json fault) := by
  refine ⟨Slot.exists_ofJson_eq_ok_iff, ?_, fun _ => Slot.ofJson_eq_error_iff,
    fun _ => Pattern.ofJson_eq_ok_iff, fun _ => Pattern.ofJson_eq_error_iff⟩
  intro members slot hjson hkeys hslot
  rw [hjson] at hslot
  obtain ⟨entries, hentries, rfl⟩ := Slot.ofJson_object_eq_ok_iff.mp hslot
  exact Slot.means_ofEntries hkeys hentries

omit [Hashing] in
/-- Two spellings of one attribute are two checks, in the order of the keys, and a name that is
let through although it is unknown leaves the others as they are. -/
theorem Slot.ofJson_reads_grammar_two_spellings :
    letI := Hashing.folded
    let members : List (String × Json) := byKey [("orth", .string "b"), ("LEMMA", .string "c"),
      ("ORTH", .string "a"), ("OP", .string "?"), ("op", .bool true)]
    let slot : Slot := {
      condition := {
        checks := [(.text .orth, .text (.of "a")), (.text .orth, .text (.of "b")),
          (.text .baseForm, .text (.of "c"))]
        impossible := true }
      quantifier := .optional }
    (members.Pairwise (·.1 < ·.1) ∧ Slot.ofJson .ignore (.object members) = .ok slot) ∧
    slot.Means .ignore members := by
  let _ := Hashing.folded
  intro members slot
  have hkeys : members.Pairwise (·.1 < ·.1) := pairwise_byKey _
  have hslot : Slot.ofJson .ignore (.object members) = .ok slot := by rfl
  exact ⟨⟨hkeys, hslot⟩, (Slot.ofJson_reads_grammar .ignore (.object members)).2.1
    members slot rfl hkeys hslot⟩

end SpanRules
