import SpanRules.Proofs.Pattern.Collect
import SpanRules.Proofs.PhraseBook.Occurrences
import SpanRules.Proofs.RuleBook.Matches
import SpanRules.Text.Hash

/-! # Phrases as rules

A phrase can be written as a pattern that asks for its texts, one token each. A book of rules
that enters such patterns, and removes keys, along with a book of phrases finds what that one
finds. Where no key is entered twice the two agree on the order as well.
-/

namespace SpanRules

/-! ## Patterns of texts -/

/-- The slot for one token with this text. -/
def Slot.literal (attr : TextAttribute) (id : TextId) : Slot :=
  ⟨{ checks := [(.text attr, .text id)] }, .one⟩

/-- The pattern of a phrase: a slot for each text. -/
def Pattern.literal (attr : TextAttribute) (phrase : List TextId) (h : phrase ≠ []) : Pattern :=
  ⟨phrase.map (Slot.literal attr), by simpa using h⟩

/-- The texts that a pattern compares with, in order. -/
def Pattern.texts (p : Pattern) : List TextId :=
  p.slots.flatMap fun slot => slot.condition.literals.map (·.2)

/-- A phrase as it is written in rules. -/
def Json.ofPhrase (attr : TextAttribute) (words : List String) : Json :=
  .array (words.map fun word => .object [(attr.name, .string word)])

section Literal

variable {attr : TextAttribute} {phrase : List TextId} {view : TokenView} {start stop : Nat}

@[simp] theorem texts_literal (h : phrase ≠ []) :
    (Pattern.literal attr phrase h).texts = phrase := by
  unfold Pattern.texts Pattern.literal
  rw [List.flatMap_map]
  exact List.flatMap_singleton' phrase

theorem holds_literal {id : TextId} :
    (Slot.literal attr id).condition.holds view start = true ↔
      view.attr start (.text attr) = .text id := by
  simp [Slot.literal, Condition.holds]

theorem fits_literals : Fits view (phrase.map (Slot.literal attr)) start stop ↔
    stop = start + phrase.length ∧ view.Spells attr start phrase := by
  induction phrase generalizing start with
  | nil =>
      simp only [List.map_nil, Fits, List.length_nil, Nat.add_zero, spells_nil, and_true]
      exact eq_comm
  | cons id rest ih =>
      have htakes (cut : Nat) : (Slot.literal attr id).Takes view start cut ↔
          view.attr start (.text attr) = .text id ∧ cut = start + 1 := by
        rw [Slot.takes_one rfl, holds_literal]
      simp only [List.map_cons, Fits, htakes, ih, spells_cons, List.length_cons]
      constructor
      · intro h
        obtain ⟨cut, ⟨hid, rfl⟩, rfl, hrest⟩ := h
        exact ⟨by omega, hid, hrest⟩
      · intro h
        obtain ⟨rfl, hid, hrest⟩ := h
        exact ⟨start + 1, ⟨hid, rfl⟩, by omega, hrest⟩

theorem matches_literal (h : phrase ≠ []) :
    (Pattern.literal attr phrase h).Matches view start stop ↔
      stop = start + phrase.length ∧ view.Spells attr start phrase :=
  fits_literals

/-! ## The written form -/

theorem ofName?_name : Attribute.ofName? attr.name = some (.text attr) := by
  cases attr <;> rfl

theorem name_ne_quantifierKey : attr.name ≠ quantifierKey := by
  cases attr <;> decide

section Written

variable [Hashing]

theorem ofJson_literal (policy : UnknownPolicy) (word : String) :
    Slot.ofJson policy (.object [(attr.name, .string word)]) =
      .ok (Slot.literal attr (.of word)) := by
  have hentry : Entry.ofMember policy attr.name (.string word) =
      .ok (.check (.text attr) (.text (.of word))) := by
    simp [Entry.ofMember, name_ne_quantifierKey, Json.isScalar, ofName?_name,
      AttributeValue.ofJson, Attribute.kind]
  simp only [Slot.ofJson, collect, hentry]
  rfl

/-- A written phrase is read as the pattern of its texts. -/
theorem ofJson_ofPhrase (policy : UnknownPolicy) {words : List String}
    (h : words.map TextId.of ≠ []) :
    Pattern.ofJson policy (.ofPhrase attr words) =
      .ok (Pattern.literal attr (words.map TextId.of) h) := by
  have hslots : collect (Slot.ofJson policy)
      (words.map fun word => .object [(attr.name, .string word)]) =
        .ok (words.map fun word => Slot.literal attr (.of word)) := by
    rw [collect_eq_ok_iff, List.forall₂_map_left_iff, List.forall₂_map_right_iff,
      List.forall₂_same]
    intro word _
    exact ofJson_literal policy word
  have hne : (words.map fun word => Slot.literal attr (.of word)) ≠ [] := by simpa using h
  simp only [Pattern.ofJson, Json.ofPhrase, hslots, Pattern.ofSlots?, dif_neg hne,
    Pattern.literal, List.map_map, Function.comp_def]

end Written

end Literal

/-! ## Mirrored changes -/

section Sequences

variable {attr : TextAttribute} {phrase : List TextId}

theorem ne_nil_of_phraseOf {view : TokenView} (h : phraseOf attr view = .ok phrase) :
    phrase ≠ [] := by
  unfold phraseOf at h
  split at h
  · cases h
  · rename_i hsize
    have hlength := (collect_eq_ok_iff.mp h).length_eq
    rw [List.length_range] at hlength
    exact List.ne_nil_of_length_pos (by omega)

theorem ne_nil_of_mem_sequencesOf {phrases : List TokenView}
    (h : phrase ∈ sequencesOf attr phrases) : phrase ≠ [] := by
  unfold sequencesOf at h
  split at h
  · rename_i hcollect
    obtain ⟨view, -, hview⟩ := exists_of_mem_collect hcollect h
    exact ne_nil_of_phraseOf hview
  · cases h

end Sequences

variable {σ : Type}

/-- The change of a book of rules that goes with a change of a book of phrases: it enters the
patterns of the phrases under the same key, or removes the same key. -/
def PhraseChange.mirror (attr : TextAttribute) : PhraseChange σ → RuleChange σ
  | .add key handler phrases =>
    .addPatterns key handler
      ((sequencesOf attr phrases).pmap (Pattern.literal attr) fun _ => ne_nil_of_mem_sequencesOf)
  | .remove key => .remove key

namespace Ledger

/-- The pattern stands under the key. -/
def Lists (l : Ledger TextId σ) (key : TextId) (p : Pattern) : Prop :=
  ∃ e ∈ l, e.key = key ∧ p ∈ e.patterns

/-- The ledger lists what is registered, as patterns, and nothing else. -/
structure Mirrors (l : Ledger TextId σ) (attr : TextAttribute) (log : Registrations) :
    Prop where
  listed {key : TextId} {p : Pattern} : l.Lists key p →
    ∃ phrase h, p = .literal attr phrase h ∧ (key, phrase) ∈ log
  logged {key : TextId} {phrase : List TextId} : (key, phrase) ∈ log →
    ∃ h, l.Lists key (.literal attr phrase h)

variable {attr : TextAttribute} {l : Ledger TextId σ} {log : Registrations} {key other : TextId}
  {handler : Option (Handler σ)} {patterns : List Pattern} {p : Pattern}

theorem lists_enter : Lists (l.enter key handler patterns) other p ↔
    l.Lists other p ∨ other = key ∧ p ∈ patterns := by
  unfold Lists enter
  split
  · rename_i hkey
    obtain ⟨known, hknown, rfl⟩ := List.mem_map.mp hkey
    simp only [List.mem_map, exists_exists_and_eq_and]
    constructor
    · intro h
      obtain ⟨e, he, hother, hp⟩ := h
      by_cases hsame : e.key = known.key
      · simp only [hsame, if_true, List.mem_append] at hother hp
        rcases hp with hp | hp
        · exact Or.inl ⟨e, he, hsame.trans hother, hp⟩
        · exact Or.inr ⟨hother.symm, hp⟩
      · simp only [hsame, if_false] at hother hp
        exact Or.inl ⟨e, he, hother, hp⟩
    · intro h
      rcases h with ⟨e, he, rfl, hp⟩ | ⟨rfl, hp⟩
      · refine ⟨e, he, ?_⟩
        by_cases hsame : e.key = known.key
        · simp [hsame, hp]
        · simp [hsame, hp]
      · exact ⟨known, hknown, by simp [hp]⟩
  · simp [or_and_right, exists_or, eq_comm]

theorem lists_filter_ne : Lists (l.filter (·.key ≠ key)) other p ↔
    l.Lists other p ∧ other ≠ key := by
  simp only [Lists, List.mem_filter, decide_eq_true_eq]
  constructor
  · intro h
    obtain ⟨e, ⟨he, hne⟩, rfl, hp⟩ := h
    exact ⟨⟨e, he, rfl, hp⟩, hne⟩
  · intro h
    obtain ⟨⟨e, he, rfl, hp⟩, hne⟩ := h
    exact ⟨e, ⟨he, hne⟩, rfl, hp⟩

theorem Mirrors.enter (h : l.Mirrors attr log) {sequences : List (List TextId)}
    (hne : ∀ phrase ∈ sequences, phrase ≠ []) :
    Mirrors (l.enter key handler (sequences.pmap (Pattern.literal attr) hne)) attr
      (log ++ sequences.map (key, ·)) where
  listed := by
    intro other p hp
    rcases lists_enter.mp hp with hold | ⟨rfl, hnew⟩
    · obtain ⟨phrase, hphrase, rfl, hlog⟩ := h.listed hold
      exact ⟨phrase, hphrase, rfl, List.mem_append_left _ hlog⟩
    · obtain ⟨phrase, hphrase, rfl⟩ := List.mem_pmap.mp hnew
      exact ⟨phrase, hne phrase hphrase, rfl,
        List.mem_append_right _ (List.mem_map.mpr ⟨phrase, hphrase, rfl⟩)⟩
  logged := by
    intro other phrase hlog
    rcases List.mem_append.mp hlog with hold | hnew
    · obtain ⟨hphrase, hother⟩ := h.logged hold
      exact ⟨hphrase, lists_enter.mpr (Or.inl hother)⟩
    · obtain ⟨sequence, hsequence, heq⟩ := List.mem_map.mp hnew
      obtain ⟨rfl, rfl⟩ := Prod.mk.inj heq
      exact ⟨hne sequence hsequence,
        lists_enter.mpr (Or.inr ⟨rfl, List.mem_pmap.mpr ⟨sequence, hsequence, rfl⟩⟩)⟩

theorem Mirrors.remove (h : l.Mirrors attr log) (key : TextId) :
    Mirrors (l.filter (·.key ≠ key)) attr (log.filter (·.1 ≠ key)) where
  listed := by
    intro other p hp
    obtain ⟨hp, hother⟩ := lists_filter_ne.mp hp
    obtain ⟨phrase, hphrase, rfl, hlog⟩ := h.listed hp
    exact ⟨phrase, hphrase, rfl, List.mem_filter.mpr ⟨hlog, decide_eq_true hother⟩⟩
  logged := by
    intro other phrase hlog
    obtain ⟨hlog, hkey⟩ := List.mem_filter.mp hlog
    obtain ⟨hphrase, hother⟩ := h.logged hlog
    exact ⟨hphrase, lists_filter_ne.mpr ⟨hother, of_decide_eq_true hkey⟩⟩

theorem Mirrors.mem_keys_iff (h : l.Mirrors attr log)
    (hfilled : ∀ e ∈ l, e.patterns ≠ []) : key ∈ l.keys ↔ ∃ phrase, (key, phrase) ∈ log := by
  constructor
  · intro hkey
    obtain ⟨e, he, rfl⟩ := List.mem_map.mp hkey
    obtain ⟨p, hp⟩ := List.exists_mem_of_ne_nil _ (hfilled e he)
    obtain ⟨phrase, -, -, hlog⟩ := h.listed ⟨e, he, rfl, hp⟩
    exact ⟨phrase, hlog⟩
  · intro hlog
    obtain ⟨phrase, hlog⟩ := hlog
    obtain ⟨-, e, he, rfl, -⟩ := h.logged hlog
    exact List.mem_map_of_mem he

section Changes

variable [Hashing] {text : String}

/-- Entering patterns, or none, makes a ledger with what was entered. -/
theorem attempt_addPatterns (unknown : UnknownPolicy) :
    l.attempt .of unknown (.addPatterns text handler patterns) =
      if patterns = [] then l else l.enter (.of text) handler patterns := by
  by_cases hnil : patterns = []
  · simp only [attempt, change, addPatterns, if_pos hnil]
  · simp only [attempt, change, addPatterns, if_neg hnil]

/-- A key that is not listed has nothing to remove. -/
theorem attempt_remove (unknown : UnknownPolicy) :
    l.attempt .of unknown (.remove text) = l.filter (·.key ≠ .of text) := by
  by_cases hkey : .of text ∈ l.keys
  · simp only [attempt, change, if_pos hkey]
  · simp only [attempt, change, if_neg hkey]
    refine (List.filter_eq_self.mpr ?_).symm
    intro e he
    apply decide_eq_true
    intro hsame
    exact hkey (hsame ▸ List.mem_map_of_mem he)

theorem Mirrors.change (h : l.Mirrors attr log) (unknown : UnknownPolicy) (c : PhraseChange σ) :
    (l.attempt .of unknown (c.mirror attr)).Mirrors attr (PhraseBook.register attr log c) := by
  cases c with
  | add key handler phrases =>
      rw [PhraseChange.mirror, attempt_addPatterns, PhraseBook.register]
      split
      · rename_i hnil
        rw [List.pmap_eq_nil_iff.mp hnil, List.map_nil, List.append_nil]
        exact h
      · exact h.enter _
  | remove key =>
      rw [PhraseChange.mirror, attempt_remove]
      exact h.remove (.of key)

/-- After mirrored changes the ledger lists what the changes have registered. -/
theorem mirrors_history (attr : TextAttribute) (unknown : UnknownPolicy)
    (changes : List (PhraseChange σ)) :
    (history .of unknown (changes.map (·.mirror attr))).Mirrors attr
      (changes.foldl (PhraseBook.register attr) []) := by
  induction changes using List.reverseRecOn with
  | nil => exact ⟨by simp [history, Lists], by simp⟩
  | append_singleton changes c ih =>
      rw [history, List.map_append, List.foldl_append, List.foldl_append]
      exact ih.change unknown c

end Changes

/-! ## The order of the registrations -/

/-- The patterns of a ledger as registrations of their texts. -/
def registrations (l : Ledger TextId σ) : Registrations :=
  l.flatMap fun e => e.patterns.map fun p => (e.key, p.texts)

theorem registrations_filter_ne :
    registrations (l.filter (·.key ≠ key)) = l.registrations.filter (·.1 ≠ key) := by
  induction l with
  | nil => rfl
  | cons e l ih =>
      unfold registrations at ih ⊢
      rw [List.flatMap_cons, List.filter_append, ← ih]
      by_cases hkey : e.key = key
      · simp [hkey]
      · simp [hkey, List.filter_map, Function.comp_def]

/-- Patterns under a new key come behind all others. -/
theorem registrations_enter (h : key ∉ l.keys) :
    registrations (l.enter key handler patterns) =
      l.registrations ++ patterns.map fun p => (key, p.texts) := by
  rw [enter, if_neg h, registrations, List.flatMap_append, List.flatMap_singleton]
  rfl

theorem registrations_change [Hashing] (unknown : UnknownPolicy) (c : PhraseChange σ)
    (hnew : ∀ key handler phrases, c = .add key handler phrases → .of key ∉ l.keys) :
    registrations (l.attempt .of unknown (c.mirror attr)) =
      PhraseBook.register attr l.registrations c := by
  cases c with
  | add key handler phrases =>
      rw [PhraseChange.mirror, attempt_addPatterns, PhraseBook.register]
      split
      · rename_i hnil
        rw [List.pmap_eq_nil_iff.mp hnil, List.map_nil, List.append_nil]
      · rw [registrations_enter (hnew key handler phrases rfl), List.map_pmap]
        simp
  | remove key =>
      rw [PhraseChange.mirror, attempt_remove, registrations_filter_ne]
      rfl

/-- The registrations of a key stand where the key stands among all keys. -/
theorem pairwise_registrations (h : l.keys.Nodup) :
    l.registrations.Pairwise fun r s => l.keys.idxOf r.1 ≤ l.keys.idxOf s.1 := by
  refine List.pairwise_flatMap.mpr ⟨?_, ?_⟩
  · intro e _
    refine List.pairwise_map.mpr (List.pairwise_of_forall ?_)
    intro _ _
    exact le_rfl
  · have hplace (i : Nat) (hi : i < l.length) :
        l.keys.idxOf l[i].key = i := by
      have hidx := h.idxOf_getElem i (by simpa [keys] using hi)
      simpa [keys] using hidx
    refine List.pairwise_iff_getElem.mpr ?_
    intro i j hi hj hij r hr s hs
    obtain ⟨p, -, rfl⟩ := List.mem_map.mp hr
    obtain ⟨q, -, rfl⟩ := List.mem_map.mp hs
    rw [hplace, hplace]
    exact hij.le

/-- The key that stands in front has the earlier registration of a phrase. -/
theorem idxOf_registrations_lt (h : l.keys.Nodup) {j k : TextId} {phrase : List TextId}
    (hj : (j, phrase) ∈ l.registrations) (hk : (k, phrase) ∈ l.registrations)
    (hlt : l.keys.idxOf j < l.keys.idxOf k) :
    l.registrations.idxOf (j, phrase) < l.registrations.idxOf (k, phrase) := by
  by_contra hnot
  have hjlt := List.idxOf_lt_length_of_mem hj
  have hklt := List.idxOf_lt_length_of_mem hk
  rcases (Nat.le_of_not_lt hnot).eq_or_lt with heq | hgt
  · have hsame : (k, phrase) = (j, phrase) := (List.idxOf_inj hk).mp heq
    rw [(Prod.mk.inj hsame).1] at hlt
    exact Nat.lt_irrefl _ hlt
  · have hle := List.pairwise_iff_getElem.mp (pairwise_registrations h) _ _ hklt hjlt hgt
    rw [List.getElem_idxOf, List.getElem_idxOf] at hle
    exact Nat.lt_irrefl _ (hlt.trans_le hle)

end Ledger

namespace PhraseBook

variable [Hashing] {attr : TextAttribute} {options : Options} {changes : List (PhraseChange σ)}
  {view : TokenView}

/-- No key is entered while phrases stand under it. -/
def EntersNewKeys (attr : TextAttribute) (changes : List (PhraseChange σ)) : Prop :=
  ∀ i key handler phrases, changes[i]? = some (.add key handler phrases) →
    (history attr (changes.take i)).contains key = false

theorem EntersNewKeys.of_concat {c : PhraseChange σ} (h : EntersNewKeys attr (changes ++ [c])) :
    EntersNewKeys attr changes ∧ ∀ key handler phrases, c = .add key handler phrases →
      (history attr changes).contains key = false := by
  constructor
  · intro i key handler phrases hi
    have hlt : i < changes.length := (List.getElem?_eq_some_iff.mp hi).1
    have hold := h i key handler phrases
    rw [List.getElem?_append_left hlt, List.take_append_of_le_length hlt.le] at hold
    exact hold hi
  · intro key handler phrases hc
    have hlast := h changes.length key handler phrases
    rw [List.getElem?_concat_length, List.take_left' rfl] at hlast
    exact hlast (congrArg some hc)

theorem mem_keys_mirror (key : TextId) :
    key ∈ (Ledger.history .of options.unknown (changes.map (·.mirror attr))).keys ↔
      ∃ phrase, (key, phrase) ∈ survivors attr changes := by
  rw [survivors_eq]
  have hkeeps := RuleBook.keeps_history options (changes.map (·.mirror attr))
  exact (Ledger.mirrors_history attr options.unknown changes).mem_keys_iff fun e => hkeeps.filled

/-- Where keys are new when they are entered, the mirrored ledger lists the registrations in the
order of the log. -/
theorem EntersNewKeys.registrations_eq (h : EntersNewKeys attr changes) :
    (Ledger.history .of options.unknown (changes.map (·.mirror attr))).registrations =
      survivors attr changes := by
  induction changes using List.reverseRecOn with
  | nil => rfl
  | append_singleton changes c ih =>
      obtain ⟨hold, hnew⟩ := h.of_concat
      have hlog : survivors attr (changes ++ [c]) = register attr (survivors attr changes) c := by
        rw [survivors_eq, survivors_eq, List.foldl_append]
        rfl
      rw [hlog, ← ih hold, Ledger.history, List.map_append, List.foldl_append]
      apply Ledger.registrations_change
      intro key handler phrases hc hkey
      have hknown := (logs_history attr changes).known (.of key)
      have hunknown : (history attr changes).rules.contains (.of key) = false :=
        hnew key handler phrases hc
      rw [hunknown] at hknown
      exact absurd (hknown.mpr ((mem_keys_mirror _).mp hkey)) Bool.false_ne_true

/-! ## The two books -/

theorem mem_find_mirror {m : Match} :
    m ∈ (RuleBook.history options (changes.map (·.mirror attr))).find view ↔
      m ∈ (history attr changes).find view := by
  have hkeeps := RuleBook.keeps_history options (changes.map (·.mirror attr))
  have hmirrors := Ledger.mirrors_history attr options.unknown changes
  rw [← survivors_eq] at hmirrors
  rw [RuleBook.mem_find hkeeps.compiled, mem_find (logs_history attr changes), hkeeps.rules]
  refine and_congr_right fun hlt => and_congr_right fun _ => ?_
  constructor
  · intro hm
    obtain ⟨r, hr, hkey, p, hp, hmatches⟩ := hm
    obtain ⟨e, he, rfl⟩ := List.mem_map.mp hr
    obtain ⟨phrase, hphrase, rfl, hlog⟩ := hmirrors.listed ⟨e, he, rfl, hp⟩
    obtain ⟨hstop, hspells⟩ := (matches_literal hphrase).mp hmatches
    exact ⟨phrase, hkey ▸ hlog, by omega, hspells⟩
  · intro hm
    obtain ⟨phrase, hlog, hlength, hspells⟩ := hm
    obtain ⟨hphrase, e, he, hkey, hp⟩ := hmirrors.logged hlog
    exact ⟨e.toRule, List.mem_map_of_mem he, hkey, _, hp,
      (matches_literal hphrase).mpr ⟨by omega, hspells⟩⟩

/-- The keys of one window are those of the one phrase that its tokens spell. -/
theorem pairwise_find_mirror (h : EntersNewKeys attr changes) :
    ((RuleBook.history options (changes.map (·.mirror attr))).find view).Pairwise
      (Precedes (survivors attr changes) attr view) := by
  have hkeeps := RuleBook.keeps_history options (changes.map (·.mirror attr))
  have hkeys : (RuleBook.history options (changes.map (·.mirror attr))).rules.map (·.key) =
      (Ledger.history .of options.unknown (changes.map (·.mirror attr))).keys :=
    hkeeps.map_key_rules
  refine (RuleBook.pairwise_find hkeeps.compiled hkeeps.nodup_rule_keys).imp_of_mem ?_
  intro m n hm hn hmn
  rcases hmn with hstart | ⟨hstart, hstop | ⟨hstop, hplace⟩⟩
  · exact Or.inl hstart
  · exact Or.inr ⟨hstart, Or.inl hstop⟩
  · rw [mem_find_mirror, mem_find (logs_history attr changes)] at hm hn
    obtain ⟨-, -, phrase, hphrase, hlength, hspells⟩ := hm
    obtain ⟨-, -, other, hother, hlength', hspells'⟩ := hn
    rw [← hstart] at hspells'
    obtain rfl := hspells.unique hspells' (by omega)
    refine Or.inr ⟨hstart, Or.inr ⟨hstop, phrase, hlength, hspells, ?_⟩⟩
    rw [RuleBook.place, RuleBook.place, hkeys] at hplace
    have hlog : (Ledger.history .of options.unknown (changes.map (·.mirror attr))).registrations =
        survivors attr changes := h.registrations_eq
    rw [← hlog] at hphrase hother ⊢
    exact Ledger.idxOf_registrations_lt hkeeps.nodup hphrase hother hplace

theorem exists_change_add_iff {b : PhraseBook σ} {key : String} {handler : Option (Handler σ)}
    {phrases : List TokenView} :
    (∃ b', b.change (.add key handler phrases) = .ok b') ↔ sequencesOf b.attr phrases ≠ [] := by
  rw [change, PhraseBook.add, sequencesOf]
  cases collect (phraseOf b.attr) phrases with
  | error fault => simp
  | ok sequences =>
      by_cases hnil : sequences = []
      · simp [hnil]
      · simp [hnil]

theorem exists_addPatterns_iff {b : RuleBook σ} {key : String} {handler : Option (Handler σ)}
    {patterns : List Pattern} :
    (∃ b', b.addPatterns key handler patterns = .ok b') ↔ patterns ≠ [] := by
  by_cases hnil : patterns = []
  · simp [RuleBook.addPatterns, hnil]
  · cases hfind : b.positions.find? (.of key) with
    | none => simp [RuleBook.addPatterns_of_new hnil hfind, hnil]
    | some i => simp [RuleBook.addPatterns_of_known hnil hfind, hnil]

/-- A change and its mirror image succeed together. -/
theorem exists_change_iff_mirror (c : PhraseChange σ) :
    (∃ b', (history attr changes).change c = .ok b') ↔
      ∃ b', (RuleBook.history options (changes.map (·.mirror attr))).change (c.mirror attr) =
        .ok b' := by
  have hlogs := logs_history attr changes
  cases c with
  | add key handler phrases =>
      rw [exists_change_add_iff, hlogs.attr, PhraseChange.mirror, RuleBook.change,
        exists_addPatterns_iff, Ne, Ne, List.pmap_eq_nil_iff]
  | remove key =>
      have hbook : (∃ b', (history attr changes).change (.remove key) = .ok b') ↔
          (history attr changes).rules.contains (.of key) = true := by
        rw [change, PhraseBook.remove]
        split <;> simp_all
      have hrules : (∃ b', (RuleBook.history options (changes.map (·.mirror attr))).change
          (.remove key) = .ok b') ↔ TextId.of key ∈
            (Ledger.history .of options.unknown (changes.map (·.mirror attr))).keys := by
        have hkeeps := RuleBook.keeps_history options (changes.map (·.mirror attr))
        rw [← not_iff_not, ← hkeeps.find?_positions_eq_none, RuleBook.change, RuleBook.remove]
        split <;> simp_all
      rw [hbook, hlogs.known, PhraseChange.mirror, hrules, mem_keys_mirror]

/-- A book of rules in which the phrases stand as patterns finds what the book of phrases finds,
after any changes and whether the tokens are scanned first or not. Where keys are new when they
are entered, the order is the same too. Phrases read from their written form are such patterns,
and mirrored changes are refused together. -/
theorem find_literal_rules (attr : TextAttribute) (options : Options)
    (changes : List (PhraseChange σ)) :
    let b := history attr changes
    let r := RuleBook.history options (changes.map (·.mirror attr))
    (∀ view, (∀ m, m ∈ b.find view ↔ m ∈ r.find view) ∧
      (EntersNewKeys attr changes → b.find view = r.find view)) ∧
    (∀ c : PhraseChange σ, (∃ b', b.change c = .ok b') ↔ ∃ r', r.change (c.mirror attr) = .ok r') ∧
    ∀ words h, Pattern.ofJson options.unknown (.ofPhrase attr words) =
      .ok (.literal attr (words.map TextId.of) h) := by
  intro b r
  refine ⟨?_, fun c => exists_change_iff_mirror c, fun words h => ofJson_ofPhrase _ h⟩
  intro view
  refine ⟨fun m => mem_find_mirror.symm, ?_⟩
  intro hnew
  exact (pairwise_find (logs_history attr changes)).eq_of_mem_iff (pairwise_find_mirror hnew)
    fun m => mem_find_mirror.symm

omit [Hashing] in
/-- Two keys share a phrase, and the first of them is removed and entered again. -/
theorem find_literal_rules_shared_phrase :
    letI := Hashing.folded
    let view : TokenView := ⟨2, fun i _ => .text (.of (if i = 0 then "New" else "York"))⟩
    let changes : List (PhraseChange Unit) :=
      [.add "A" none [view], .add "B" none [view], .remove "A", .add "A" none [view]]
    EntersNewKeys .orth changes ∧
    (RuleBook.history {} (changes.map (·.mirror .orth))).find view =
      (history .orth changes).find view ∧
    (history .orth changes).find view = [⟨.of "B", 0, 2⟩, ⟨.of "A", 0, 2⟩] := by
  let _ := Hashing.folded
  intro view changes
  have hnew : EntersNewKeys .orth changes := by
    intro i key handler phrases hi
    rcases i with _ | _ | _ | _ | i
    · rfl
    · simp only [changes, List.getElem?_cons_succ, List.getElem?_cons_zero, Option.some.injEq,
        PhraseChange.add.injEq] at hi
      rw [← hi.1]
      decide +kernel
    · simp [changes] at hi
    · simp only [changes, List.getElem?_cons_succ, List.getElem?_cons_zero, Option.some.injEq,
        PhraseChange.add.injEq] at hi
      rw [← hi.1]
      decide +kernel
    · simp [changes] at hi
  exact ⟨hnew, (((find_literal_rules .orth {} changes).1 view).2 hnew).symm, by decide +kernel⟩

end PhraseBook

end SpanRules
