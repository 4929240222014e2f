import SpanRules.Proofs.Pattern.Grammar
import SpanRules.Proofs.RuleBook.Ledger
import SpanRules.Proofs.Text.Distinct
import SpanRules.RuleBook.Search

/-! # Slots as canonical forms

An object that names each attribute at most once is read as a slot with one check for each of them,
in the order of the attributes. So the slot keeps the pairs of attributes and values, the operator
and whether a name is unknown, and it keeps nothing else: neither the order of the members nor the
case of their names. Where two descriptions give one slot, either may stand for the other. What is
kept of a value that is a text is its identity, so the values have to be told apart.
-/

namespace SpanRules

variable {policy : UnknownPolicy} {members others renamed : List (String × Json)}
  {entries entries' : List Entry} {attr : Attribute} {json : Json} {value : AttributeValue}

/-! ## What an object says -/

namespace Json

/-- The attributes that the names of an object stand for, beside their values. -/
def resolved (members : List (String × Json)) : List (Attribute × Json) :=
  members.filterMap fun m => (Attribute.ofName? m.1).map (·, m.2)

/-- The texts that an object gives as values. -/
def texts (members : List (String × Json)) : List String :=
  members.filterMap fun m =>
    match m.2 with
    | .string text => some text
    | _ => none

/-- The operator that an object names. Without one it is that of exactly one token. -/
def operatorOf (members : List (String × Json)) : Json :=
  (entryOf "OP" members).getD (.string "1")

/-- The keys of an object are distinct, and no two of them stand for one attribute. -/
structure NamesOnce (members : List (String × Json)) : Prop where
  keys : (members.map Prod.fst).Nodup
  attributes : ((resolved members).map Prod.fst).Nodup

/-- One value under one name in letters of either case. The name of the operator has one case. -/
structure Recased (m m' : String × Json) : Prop where
  value : m.2 = m'.2
  name : Attribute.sameName m.1 m'.1 = true
  operator : m.1 = "OP" ↔ m'.1 = "OP"

/-- The members of an object in another order and with names in another case. -/
def Respelled (members others : List (String × Json)) : Prop :=
  ∃ renamed, List.Forall₂ Recased members renamed ∧ renamed.Perm others

section Resolved

variable {name : String}

theorem resolved_cons_of_some (h : Attribute.ofName? name = some attr) :
    resolved ((name, json) :: members) = (attr, json) :: resolved members := by
  simp [resolved, h]

theorem resolved_cons_of_none (h : Attribute.ofName? name = none) :
    resolved ((name, json) :: members) = resolved members := by
  simp [resolved, h]

theorem mem_resolved :
    (attr, json) ∈ resolved members ↔ ∃ name, (name, json) ∈ members ∧ attr.Named name := by
  simp only [resolved, List.mem_filterMap, Option.map_eq_some_iff, Attribute.ofName?_eq_some_iff,
    Prod.mk.injEq, Prod.exists]
  constructor
  · rintro ⟨name, _, hmem, _, hname, rfl, rfl⟩
    exact ⟨name, hmem, hname⟩
  · rintro ⟨name, hmem, hname⟩
    exact ⟨name, json, hmem, attr, hname, rfl, rfl⟩

theorem mem_texts_of_resolved {text : String} (h : (attr, .string text) ∈ resolved members) :
    text ∈ texts members := by
  obtain ⟨name, hmem, -⟩ := mem_resolved.mp h
  exact List.mem_filterMap.mpr ⟨_, hmem, rfl⟩

end Resolved

end Json

open Json

variable [Hashing]

/-- Of the ways to write values of a kind none says what another one says, as far as texts are told
apart. -/
theorem AttributeValue.Written.json_unique {kind : AttributeKind} {json' : Json}
    (h : Written kind json value) (h' : Written kind json' value)
    (htexts : ∀ s s', json = .string s → json' = .string s' → TextId.of s = .of s' → s = s') :
    json = json' := by
  cases h with
  | text s =>
      generalize hid : AttributeValue.text (.of s) = value at h'
      cases h' with
      | text s' => rw [htexts s s' rfl rfl (AttributeValue.text.inj hid)]
  | flag b =>
      cases h'
      rfl
  | number _ =>
      cases h'
      rfl

/-! ## From objects to slots -/

namespace Slot

section Reading

variable (h : List.Forall₂ (Entry.Written policy) members entries)
include h

/-- The checks of the entries stand in the order of the members. -/
theorem map_fst_checksOf :
    (checksOf entries).map Prod.fst = (resolved members).map Prod.fst := by
  induction h with
  | nil => rfl
  | @cons m e members entries hentry _ ih =>
      cases hentry with
      | quantifier q =>
          have hop : Attribute.ofName? "OP" = none := by decide +kernel
          rw [resolved_cons_of_none hop]
          exact ih
      | check hname hvalue =>
          rw [resolved_cons_of_some (Attribute.ofName?_eq_some_iff.mpr hname)]
          exact congrArg _ ih
      | unknown hpolicy hname hjson =>
          rw [resolved_cons_of_none (Attribute.ofName?_eq_none_iff.mpr hname.2)]
          exact ih

/-- Attributes that are named once are checked in their order. -/
theorem increasing_checks (hnames : ((resolved members).map Prod.fst).Nodup) :
    (ofEntries entries).condition.checks.Pairwise fun a b => a.1.rank < b.1.rank := by
  rw [← map_fst_checksOf h, List.Nodup, List.pairwise_map] at hnames
  have hsorted : (ofEntries entries).condition.checks.Pairwise fun a b =>
      a.1.rank < b.1.rank ∨ a.1.rank = b.1.rank ∧ a.1 ≠ b.1 := pairwise_sortBy hnames
  apply hsorted.imp
  rintro a b (hlt | ⟨hrank, hne⟩)
  · exact hlt
  · exact absurd (Attribute.rank_injective hrank) hne

theorem mem_checks_iff : (attr, value) ∈ (ofEntries entries).condition.checks ↔
    ∃ json, (attr, json) ∈ resolved members ∧ AttributeValue.Written attr.kind json value := by
  rw [mem_checks_ofEntries h]
  simp only [mem_resolved]
  constructor
  · intro hcheck
    obtain ⟨m, hmem, hwritten⟩ := hcheck
    cases hwritten with
    | @check name _ json _ hname hvalue => exact ⟨json, ⟨name, hmem, hname⟩, hvalue⟩
  · intro hresolved
    obtain ⟨json, ⟨name, hmem, hname⟩, hvalue⟩ := hresolved
    exact ⟨_, hmem, .check hname hvalue⟩

/-- What an object that is read says of an attribute is a value of the attribute. -/
theorem exists_written_of_mem_resolved (hmem : (attr, json) ∈ resolved members) :
    ∃ value, AttributeValue.Written attr.kind json value := by
  obtain ⟨name, hmem, hname⟩ := mem_resolved.mp hmem
  obtain ⟨e, he⟩ := Entry.exists_written h hmem
  cases he with
  | quantifier q => exact absurd rfl hname.ne_quantifierKey
  | check hname' hvalue => exact ⟨_, hname.unique hname' ▸ hvalue⟩
  | unknown _ hunknown _ => exact absurd hname (hunknown.2 attr)

theorem operatorOf_eq (hkeys : (members.map Prod.fst).Nodup) :
    operatorOf members = .string (ofEntries entries).quantifier.marker := by
  rcases quantifier_ofEntries h with hmem | ⟨hnone, hone⟩
  · rw [operatorOf, (mem_iff_entryOf hkeys).mp hmem, Option.getD_some]
  · have hop : entryOf "OP" members = none := by
      rw [entryOf_eq_none, List.mem_map]
      intro hmem
      obtain ⟨⟨name, json⟩, hmem, rfl⟩ := hmem
      obtain ⟨e, he⟩ := Entry.exists_written h hmem
      cases he with
      | quantifier q => exact hnone q hmem
      | check hname _ => exact hname.ne_quantifierKey rfl
      | unknown _ hunknown _ => exact hunknown.1 rfl
    rw [operatorOf, hop, hone]
    rfl

end Reading

/-- A slot of checks knows the values that the object gives to attributes. -/
theorem mem_resolved_of_checks_eq (h : List.Forall₂ (Entry.Written policy) members entries)
    (h' : List.Forall₂ (Entry.Written policy) others entries')
    (htexts : TextId.DistinctOn (texts members ++ texts others))
    (hchecks : (ofEntries entries).condition.checks = (ofEntries entries').condition.checks)
    (hmem : (attr, json) ∈ resolved members) : (attr, json) ∈ resolved others := by
  obtain ⟨value, hvalue⟩ := exists_written_of_mem_resolved h hmem
  have hcheck : (attr, value) ∈ (ofEntries entries).condition.checks :=
    (mem_checks_iff h).mpr ⟨json, hmem, hvalue⟩
  rw [hchecks, mem_checks_iff h'] at hcheck
  obtain ⟨json', hmem', hvalue'⟩ := hcheck
  have hjson : json = json' := by
    apply hvalue.json_unique hvalue'
    rintro s s' rfl rfl
    exact htexts s (List.mem_append_left _ (mem_texts_of_resolved hmem)) s'
      (List.mem_append_right _ (mem_texts_of_resolved hmem'))
  rwa [hjson]

omit [Hashing] in
/-- Checks in the order of their attributes are determined by which there are. -/
theorem checks_eq_of_mem_iff {checks checks' : List (Attribute × AttributeValue)}
    (hchecks : checks.Pairwise fun a b => a.1.rank < b.1.rank)
    (hchecks' : checks'.Pairwise fun a b => a.1.rank < b.1.rank)
    (hmem : ∀ check, check ∈ checks ↔ check ∈ checks') : checks = checks' := by
  have hne {a b : Attribute × AttributeValue} (hlt : a.1.rank < b.1.rank) : a ≠ b := by
    rintro rfl
    exact Nat.lt_irrefl _ hlt
  have hperm : checks.Perm checks' :=
    (List.perm_ext_iff_of_nodup (hchecks.imp hne) (hchecks'.imp hne)).mpr hmem
  exact hperm.eq_of_pairwise (fun a b _ _ hab hba => absurd hab (Nat.lt_asymm hba)) hchecks hchecks'

omit [Hashing] in
theorem eq_of_parts_eq {s t : Slot} (hchecks : s.condition.checks = t.condition.checks)
    (himpossible : s.condition.impossible = t.condition.impossible)
    (hquantifier : s.quantifier = t.quantifier) : s = t := by
  obtain ⟨⟨checks, impossible⟩, quantifier⟩ := s
  obtain ⟨⟨checks', impossible'⟩, quantifier'⟩ := t
  cases hchecks
  cases himpossible
  cases hquantifier
  rfl

/-- The objects say the same of every attribute, name the same operator, and both or neither have an
unknown name. -/
def Agree (members others : List (String × Json)) : Prop :=
  (∀ pair, pair ∈ resolved members ↔ pair ∈ resolved others) ∧
    operatorOf members = operatorOf others ∧
    ((∃ m ∈ members, Entry.UnknownName m.1) ↔ ∃ m ∈ others, Entry.UnknownName m.1)

section Equal

variable (h : List.Forall₂ (Entry.Written policy) members entries)
  (h' : List.Forall₂ (Entry.Written policy) others entries') (hnames : NamesOnce members)
  (hnames' : NamesOnce others)
include h h' hnames hnames'

/-- Objects that agree give one slot, whatever the hash of texts is. -/
theorem ofEntries_eq_of_agree (hagree : Agree members others) :
    ofEntries entries = ofEntries entries' := by
  obtain ⟨hpairs, hoperator, himpossible⟩ := hagree
  rw [operatorOf_eq h hnames.keys, operatorOf_eq h' hnames'.keys] at hoperator
  rw [← impossible_ofEntries h, ← impossible_ofEntries h'] at himpossible
  apply eq_of_parts_eq
  · apply checks_eq_of_mem_iff (increasing_checks h hnames.attributes)
      (increasing_checks h' hnames'.attributes)
    intro check
    rw [mem_checks_iff h, mem_checks_iff h']
    simp only [hpairs]
  · exact Bool.eq_iff_iff.mpr himpossible
  · exact Quantifier.marker_inj.mp (Json.string.inj hoperator)

/-- Where their texts are told apart, objects that give one slot agree. -/
theorem agree_of_ofEntries_eq (htexts : TextId.DistinctOn (texts members ++ texts others))
    (heq : ofEntries entries = ofEntries entries') : Agree members others := by
  have hchecks := congrArg (fun s : Slot => s.condition.checks) heq
  have htexts' : TextId.DistinctOn (texts others ++ texts members) :=
    htexts.mono (List.append_subset.mpr ⟨List.subset_append_right _ _, List.subset_append_left _ _⟩)
  refine ⟨?_, ?_, ?_⟩
  · intro pair
    exact ⟨mem_resolved_of_checks_eq h h' htexts hchecks,
      mem_resolved_of_checks_eq h' h htexts' hchecks.symm⟩
  · rw [operatorOf_eq h hnames.keys, operatorOf_eq h' hnames'.keys, heq]
  · rw [← impossible_ofEntries h, ← impossible_ofEntries h', heq]

end Equal

end Slot

/-! ## Spellings of an object -/

section Spellings

variable {m m' : String × Json} {e : Entry} {slot : Slot}

omit [Hashing] in
theorem Json.Recased.ofName?_eq (h : Recased m m') :
    Attribute.ofName? m'.1 = Attribute.ofName? m.1 := by
  have hname : m.1.toList.map Char.toLower = m'.1.toList.map Char.toLower := eq_of_beq h.name
  simp only [Attribute.ofName?, Attribute.sameName, hname]

theorem Entry.Written.recased (h : Entry.Written policy m e) (hcase : Recased m m') :
    Entry.Written policy m' e := by
  obtain ⟨name', json'⟩ := m'
  cases h with
  | quantifier q =>
      obtain rfl : name' = "OP" := hcase.operator.mp rfl
      obtain rfl : .string q.marker = json' := hcase.value
      exact .quantifier q
  | check hname hvalue =>
      obtain rfl := hcase.value
      rw [← Attribute.ofName?_eq_some_iff, ← hcase.ofName?_eq] at hname
      exact .check (Attribute.ofName?_eq_some_iff.mp hname) hvalue
  | unknown hpolicy hname hjson =>
      obtain rfl := hcase.value
      have hnone := Attribute.ofName?_eq_none_iff.mpr hname.2
      rw [← hcase.ofName?_eq] at hnone
      exact .unknown hpolicy
        ⟨mt hcase.operator.mpr hname.1, Attribute.ofName?_eq_none_iff.mp hnone⟩ hjson

theorem Entry.written_of_recased (h : List.Forall₂ (Entry.Written policy) members entries)
    (hcase : List.Forall₂ Recased members renamed) :
    List.Forall₂ (Entry.Written policy) renamed entries := by
  induction hcase generalizing entries with
  | nil => exact h
  | cons hfirst _ ih =>
      cases h with
      | cons hentry hrest => exact .cons (hentry.recased hfirst) (ih hrest)

omit [Hashing] in
theorem Json.resolved_of_recased (hcase : List.Forall₂ Recased members renamed) :
    resolved renamed = resolved members := by
  induction hcase with
  | nil => rfl
  | @cons m m' _ _ hfirst _ ih =>
      obtain ⟨name, json⟩ := m
      obtain ⟨name', json'⟩ := m'
      obtain rfl : json = json' := hfirst.value
      have hsame : Attribute.ofName? name' = Attribute.ofName? name := hfirst.ofName?_eq
      cases hname : Attribute.ofName? name with
      | none =>
          rw [resolved_cons_of_none hname, resolved_cons_of_none (hsame.trans hname), ih]
      | some attr =>
          rw [resolved_cons_of_some hname, resolved_cons_of_some (hsame.trans hname), ih]

omit [Hashing] in
theorem Json.operatorOf_perm (hkeys : (members.map Prod.fst).Nodup) (hperm : members.Perm others) :
    operatorOf members = operatorOf others := by
  have hkeys' : (others.map Prod.fst).Nodup := (hperm.map Prod.fst).nodup_iff.mp hkeys
  have hentry : entryOf "OP" members = entryOf "OP" others := by
    apply Option.ext
    intro json
    rw [← mem_iff_entryOf hkeys, ← mem_iff_entryOf hkeys', hperm.mem_iff]
  rw [operatorOf, operatorOf, hentry]

/-- Neither the case of the names nor their order changes what is read: members that are only
renamed are read as the same entries. -/
theorem Slot.ofJson_of_respelled (hnames : NamesOnce members)
    (hkeys : (others.map Prod.fst).Nodup) (hspelled : Respelled members others)
    (h : Slot.ofJson policy (.object members) = .ok slot) :
    Slot.ofJson policy (.object others) = .ok slot := by
  obtain ⟨entries, hentries, rfl⟩ := ofJson_object_eq_ok_iff.mp h
  obtain ⟨renamed, hcase, hperm⟩ := hspelled
  have hrenamed := Entry.written_of_recased hentries hcase
  have hread : ∀ m ∈ others, ∃ e, Entry.Written policy m e := by
    intro m hm
    exact Entry.exists_written hrenamed (hperm.mem_iff.mpr hm)
  obtain ⟨slot, hslot⟩ := exists_ofJson_eq_ok_iff.mpr ⟨others, rfl, hread⟩
  obtain ⟨entries', hentries', rfl⟩ := ofJson_object_eq_ok_iff.mp hslot
  have hpairs : (resolved renamed).Perm (resolved others) := hperm.filterMap _
  have hattributes : ((resolved renamed).map Prod.fst).Nodup := by
    rw [resolved_of_recased hcase]
    exact hnames.attributes
  have hnames₁ : NamesOnce renamed :=
    ⟨(hperm.map Prod.fst).nodup_iff.mpr hkeys, hattributes⟩
  have hnames₂ : NamesOnce others :=
    ⟨hkeys, (hpairs.map Prod.fst).nodup_iff.mp hattributes⟩
  have hsame : ofEntries entries = ofEntries entries' := by
    apply ofEntries_eq_of_agree hrenamed hentries' hnames₁ hnames₂
    refine ⟨fun pair => hpairs.mem_iff, operatorOf_perm hnames₁.keys hperm, ?_⟩
    simp only [hperm.mem_iff]
  rw [hslot, hsame]

end Spellings

/-! ## Descriptions in their place -/

/-- In a pattern, a description may stand for another one that gives the same slot. -/
theorem Pattern.ofJson_replace {item other : Json}
    (h : Slot.ofJson policy item = Slot.ofJson policy other) (front back : List Json) :
    Pattern.ofJson policy (.array (front ++ item :: back)) =
      Pattern.ofJson policy (.array (front ++ other :: back)) := by
  rw [Pattern.ofJson, Pattern.ofJson, collect_replace h]

namespace RuleBook

variable {σ : Type}

/-- Among the patterns of a change, one may stand for another one that is read alike. -/
theorem attempt_add_replace (b : RuleBook σ) {p q : Json}
    (h : Pattern.ofJson b.options.unknown p = Pattern.ofJson b.options.unknown q) (key : String)
    (handler : Option (Handler σ)) (ps qs : List Json) :
    b.attempt (.add key handler (ps ++ p :: qs)) =
      b.attempt (.add key handler (ps ++ q :: qs)) := by
  simp [attempt, change, add, collect_replace h]

theorem options_history (options : Options) (changes : List (RuleChange σ)) :
    (history options changes).options = options :=
  (keeps_history options changes).options

/-- Changes that read the same patterns make the same book. -/
theorem history_replace (options : Options) {p q : Json}
    (h : Pattern.ofJson options.unknown p = Pattern.ofJson options.unknown q)
    (before after : List (RuleChange σ)) (key : String) (handler : Option (Handler σ))
    (ps qs : List Json) :
    history options (before ++ .add key handler (ps ++ p :: qs) :: after) =
      history options (before ++ .add key handler (ps ++ q :: qs) :: after) := by
  have hread : Pattern.ofJson (history options before).options.unknown p =
      Pattern.ofJson (history options before).options.unknown q := by
    rw [options_history]
    exact h
  have hchange := attempt_add_replace (history options before) hread key handler ps qs
  rw [history, history, List.foldl_append, List.foldl_append, List.foldl_cons, List.foldl_cons]
  exact congrArg (after.foldl attempt) hchange

end RuleBook

/-- Slots are a canonical form. Two objects that are read, that name each attribute at most once and
whose texts have identities of their own, give the same slot exactly when they give the same values
to the same attributes, name the same operator, and both or neither have a name that is unknown; the
last part does not need the identities. The order of the members and the
case of their names are not seen. Descriptions that give the same slot may stand for each other in
any pattern of any rule: the same is found in every view. -/
theorem Slot.ofJson_canonical (policy : UnknownPolicy) :
    (∀ members others slot slot', NamesOnce members → NamesOnce others →
      Slot.ofJson policy (.object members) = .ok slot →
      Slot.ofJson policy (.object others) = .ok slot' →
      TextId.DistinctOn (texts members ++ texts others) →
      (slot = slot' ↔
        (∀ pair, pair ∈ resolved members ↔ pair ∈ resolved others) ∧
        operatorOf members = operatorOf others ∧
        ((∃ m ∈ members, Entry.UnknownName m.1) ↔ ∃ m ∈ others, Entry.UnknownName m.1))) ∧
    (∀ members others slot, NamesOnce members → (others.map Prod.fst).Nodup →
      Respelled members others → Slot.ofJson policy (.object members) = .ok slot →
      Slot.ofJson policy (.object others) = .ok slot) ∧
    ∀ item other slot, Slot.ofJson policy item = .ok slot → Slot.ofJson policy other = .ok slot →
      ∀ front back,
        Pattern.ofJson policy (.array (front ++ item :: back)) =
          Pattern.ofJson policy (.array (front ++ other :: back)) ∧
        ∀ (σ : Type) (options : Options) (before after : List (RuleChange σ)) key handler ps qs
          view, options.unknown = policy →
          (RuleBook.history options (before ++
            .add key handler (ps ++ .array (front ++ item :: back) :: qs) :: after)).find view =
          (RuleBook.history options (before ++
            .add key handler (ps ++ .array (front ++ other :: back) :: qs) :: after)).find
              view := by
  refine ⟨?_, ?_, ?_⟩
  · intro members others slot slot' hnames hnames' h h' htexts
    obtain ⟨entries, hentries, rfl⟩ := ofJson_object_eq_ok_iff.mp h
    obtain ⟨entries', hentries', rfl⟩ := ofJson_object_eq_ok_iff.mp h'
    exact ⟨agree_of_ofEntries_eq hentries hentries' hnames hnames' htexts,
      ofEntries_eq_of_agree hentries hentries' hnames hnames'⟩
  · intro members others slot hnames hkeys hspelled h
    exact ofJson_of_respelled hnames hkeys hspelled h
  · intro item other slot h h' front back
    have hpattern := Pattern.ofJson_replace (h.trans h'.symm) front back
    refine ⟨hpattern, ?_⟩
    intro σ options before after key handler ps qs view hpolicy
    rw [← hpolicy] at hpattern
    rw [RuleBook.history_replace options hpattern]

omit [Hashing] in
/-- In the other case all names stand in another order, and an unknown one is let through. -/
theorem Slot.ofJson_canonical_other_case :
    letI := Hashing.folded
    let members : List (String × Json) := [("OP", .string "*"), ("Orth", .string "a"),
      ("color", .string "red"), ("is_alpha", .bool true)]
    let others : List (String × Json) := [("Color", .string "red"), ("IS_ALPHA", .bool true),
      ("OP", .string "*"), ("ORTH", .string "a")]
    let slot : Slot := {
      condition := {
        checks := [(.text .orth, .text (.of "a")), (.flag .alpha, .flag true)]
        impossible := true }
      quantifier := .zeroOrMore }
    let book (item : Json) : RuleBook Unit :=
      .history { unknown := .ignore }
        [.add "A" none [.array [.object [("ORTH", .string "b")], item]]]
    let view : TokenView := ⟨1, fun _ _ => .text (.of "b")⟩
    (NamesOnce members ∧ NamesOnce others ∧ Respelled members others ∧
      TextId.DistinctOn (texts members ++ texts others)) ∧
    Slot.ofJson .ignore (.object members) = .ok slot ∧
    Slot.ofJson .ignore (.object others) = .ok slot ∧
    (∀ pair, pair ∈ resolved members ↔ pair ∈ resolved others) ∧
    (book (.object members)).find view = (book (.object others)).find view := by
  let _ := Hashing.folded
  intro members others slot book view
  have hnames : NamesOnce members := ⟨by decide +kernel, by decide +kernel⟩
  have hnames' : NamesOnce others := ⟨by decide +kernel, by decide +kernel⟩
  have hspelled : Respelled members others := by
    refine ⟨[("OP", .string "*"), ("ORTH", .string "a")] ++
      [("Color", .string "red"), ("IS_ALPHA", .bool true)], ?_, List.perm_append_comm⟩
    refine .cons ⟨rfl, ?_, ?_⟩ (.cons ⟨rfl, ?_, ?_⟩ (.cons ⟨rfl, ?_, ?_⟩
      (.cons ⟨rfl, ?_, ?_⟩ .nil)))
    all_goals decide +kernel
  have hslot : Slot.ofJson .ignore (.object members) = .ok slot := by rfl
  have htexts : TextId.DistinctOn (texts members ++ texts others) := by decide +kernel
  obtain ⟨hequal, hspelling, hplace⟩ := ofJson_canonical .ignore
  have hslot' := hspelling members others slot hnames hnames'.keys hspelled hslot
  obtain ⟨-, hfind⟩ := hplace _ _ slot hslot hslot' [.object [("ORTH", .string "b")]] []
  exact ⟨⟨hnames, hnames', hspelled, htexts⟩, hslot, hslot',
    ((hequal members others slot slot hnames hnames' hslot hslot' htexts).mp rfl).1,
    hfind Unit { unknown := .ignore } [] [] "A" none [] [] view rfl⟩

end SpanRules
