import SpanRules.CommandLine.Run
import SpanRules.Proofs.Document.Merging
import SpanRules.Proofs.Match.Handlers
import SpanRules.Proofs.PhraseBook.LiteralRules
import SpanRules.Proofs.PhraseBook.Refusals

/-! # Entering a rule file

The keys of a rule file increase, and each is entered once. The books of a file hold them in this
order, so matches of one span come in the order of their keys, and every match is under a key of the
file.
-/

namespace SpanRules

/-! ## Reading -/

namespace RuleFile

/-- The keys of the patterns increase, and so do those of the phrases. -/
structure Sorted (file : RuleFile) : Prop where
  patterns : file.patterns.Pairwise (·.1 < ·.1)
  phrases : file.phrases.Pairwise (·.1 < ·.1)

variable {β : Type} {file : RuleFile} {item : JsonOutline → Option β} {value : JsonOutline}
  {text : String}

theorem pairwise_readLists {entries : List (String × List β)}
    (h : readLists item value = some entries) : entries.Pairwise (·.1 < ·.1) := by
  unfold readLists at h
  split at h
  · obtain ⟨unsorted, -, rfl⟩ := Option.map_eq_some_iff.mp h
    exact pairwise_byKey unsorted
  · cases h

theorem sorted_readFields {members : List (List StringUnit × JsonOutline)}
    {patterns : Option (List (String × List Json))}
    {phrases : Option (List (String × List String))}
    (hpatterns : (patterns.getD []).Pairwise (·.1 < ·.1))
    (hphrases : (phrases.getD []).Pairwise (·.1 < ·.1))
    (h : readFields patterns phrases members = some file) : file.Sorted := by
  induction members generalizing patterns phrases with
  | nil =>
      obtain rfl := Option.some.inj h
      exact ⟨hpatterns, hphrases⟩
  | cons m rest ih =>
      rw [readFields] at h
      obtain ⟨name, -, h⟩ := Option.bind_eq_some_iff.mp h
      split at h
      · split at h
        · cases h
        · obtain ⟨entries, hread, h⟩ := Option.bind_eq_some_iff.mp h
          have hentries : ((some entries).getD []).Pairwise (·.1 < ·.1) := pairwise_readLists hread
          exact ih hentries hphrases h
      · split at h
        · split at h
          · cases h
          · obtain ⟨entries, hread, h⟩ := Option.bind_eq_some_iff.mp h
            have hentries : ((some entries).getD []).Pairwise (·.1 < ·.1) :=
              pairwise_readLists hread
            exact ih hpatterns hentries h
        · exact ih hpatterns hphrases h

/-- However a file was written, its keys have been put in order. -/
theorem sorted_of_read (h : read text = some file) : file.Sorted := by
  obtain ⟨outline, -, h⟩ := Option.bind_eq_some_iff.mp h
  unfold ofOutline at h
  split at h
  · exact sorted_readFields .nil .nil h
  · obtain rfl := Option.some.inj h
    exact ⟨.nil, .nil⟩
  · obtain ⟨patterns, hpatterns, h⟩ := Option.bind_eq_some_iff.mp h
    obtain rfl := Option.some.inj h
    exact ⟨pairwise_readLists hpatterns, .nil⟩
  · obtain ⟨patterns, hpatterns, h⟩ := Option.bind_eq_some_iff.mp h
    obtain ⟨phrases, hphrases, h⟩ := Option.bind_eq_some_iff.mp h
    obtain rfl := Option.some.inj h
    exact ⟨pairwise_readLists hpatterns, pairwise_readLists hphrases⟩
  · cases h

/-! ## Books -/

section Books

variable [Hashing]

/-- The changes that enter the patterns of a file, key by key. -/
def ruleChanges (file : RuleFile) : List (RuleChange Unit) :=
  file.patterns.map fun e => .add e.1 none e.2

/-- The changes that enter the phrases of a file, key by key. -/
def phraseChanges (file : RuleFile) : List (PhraseChange Unit) :=
  file.phrases.map fun e => .add e.1 none (e.2.map fun text => (Document.ofText text).view)

/-- The book of the patterns of a file. -/
def ruleBook (file : RuleFile) (options : Options) : RuleBook Unit :=
  .history options file.ruleChanges

/-- The book of the phrases of a file. -/
def phraseBook (file : RuleFile) (attr : TextAttribute) : PhraseBook Unit :=
  .history attr file.phraseChanges

end Books

/-- The keys of the patterns in order. -/
def patternKeys (file : RuleFile) : List String :=
  file.patterns.map (·.1)

/-- The keys of the phrases in order. -/
def phraseKeys (file : RuleFile) : List String :=
  file.phrases.map (·.1)

/-- Every key has patterns, all of which can be read, or phrases, all of which have words. -/
structure Accepted [Hashing] (file : RuleFile) (unknown : UnknownPolicy) : Prop where
  patterns : ∀ e ∈ file.patterns, e.2 ≠ [] ∧ ∀ json ∈ e.2, ∃ p, Pattern.ofJson unknown json = .ok p
  phrases : ∀ e ∈ file.phrases, e.2 ≠ [] ∧ ∀ text ∈ e.2, wordsOf text ≠ []

end RuleFile

/-! ## Acceptance -/

variable [Hashing]

theorem RuleBook.exists_add_eq_ok_iff (b : RuleBook Unit) (key : String)
    (handler : Option (Handler Unit)) (patterns : List Json) :
    (∃ b', b.add key handler patterns = .ok b') ↔
      patterns ≠ [] ∧ ∀ json ∈ patterns, ∃ p, Pattern.ofJson b.options.unknown json = .ok p := by
  rw [← exists_collect_eq_ok_iff, RuleBook.add]
  by_cases hnil : patterns = []
  · simp [hnil]
  · cases hcollect : collect (Pattern.ofJson b.options.unknown) patterns with
    | error fault => simp [hnil]
    | ok read =>
        have hread : read ≠ [] := by
          rintro rfl
          cases collect_eq_ok_iff.mp hcollect
          exact hnil rfl
        cases hadd : b.addPatterns key handler read with
        | error fault => exact absurd (addPatterns_eq_error_iff.mp hadd).1 hread
        | ok b' => simp [hnil, hadd]

theorem PhraseBook.exists_add_eq_ok_iff {b : PhraseBook Unit} {key : String}
    {handler : Option (Handler Unit)} {phrases : List TokenView} :
    (∃ b', b.add key handler phrases = .ok b') ↔
      phrases ≠ [] ∧ ∀ view ∈ phrases, view.IsPhrase b.attr := by
  simp only [← exists_phraseOf_eq_ok_iff]
  rw [← exists_collect_eq_ok_iff, PhraseBook.add]
  cases hcollect : collect (phraseOf b.attr) phrases with
  | error fault => simp
  | ok sequences =>
      have hnil : sequences = [] ↔ phrases = [] := by
        have hlength := (collect_eq_ok_iff.mp hcollect).length_eq
        rw [← List.length_eq_zero_iff, ← List.length_eq_zero_iff, hlength]
      by_cases hsequences : sequences = []
      · simp [hsequences, hnil.mp hsequences]
      · simp [hsequences, mt hnil.mpr hsequences]

theorem Document.isPhrase_view {d : Document} {attr : TextAttribute} :
    d.view.IsPhrase attr ↔ d.size ≠ 0 := by
  refine and_iff_left_of_imp fun _ index _ => ?_
  simp only [Document.view]
  split
  · exact ⟨_, rfl⟩
  · exact ⟨_, rfl⟩

theorem PhraseBook.exists_add_texts_iff (b : PhraseBook Unit) (key : String)
    (texts : List String) :
    (∃ b', b.add key none (texts.map fun text => (Document.ofText text).view) = .ok b') ↔
      texts ≠ [] ∧ ∀ text ∈ texts, wordsOf text ≠ [] := by
  simp [exists_add_eq_ok_iff, Document.isPhrase_view, Document.ofText, Document.size_ofWords]

namespace CommandLine

/-- Rules are entered when each of them can be, and then the book is that of the changes. -/
theorem enterRules_eq_ok_iff {b : RuleBook Unit} {options : Options} {l : Ledger TextId Unit}
    (h : b.Keeps options l) (entries : List (String × List Json)) (b' : RuleBook Unit) :
    enterRules b entries = .ok b' ↔
      (∀ e ∈ entries, e.2 ≠ [] ∧ ∀ json ∈ e.2, ∃ p, Pattern.ofJson options.unknown json = .ok p) ∧
      (entries.map fun e => .add e.1 none e.2).foldl RuleBook.attempt b = b' := by
  induction entries generalizing b l with
  | nil => simp [enterRules]
  | cons e rest ih =>
      have hnext := h.attempt (.add e.1 none e.2)
      have hreads := b.exists_add_eq_ok_iff e.1 none e.2
      rw [h.options] at hreads
      rw [enterRules, List.forall_mem_cons, ← hreads, List.map_cons, List.foldl_cons]
      rw [RuleBook.attempt, RuleBook.change] at hnext ⊢
      cases hadd : b.add e.1 none e.2 with
      | error fault => simp
      | ok c =>
          rw [hadd] at hnext
          simp [ih hnext]

/-- Phrases are entered when each of them can be, and then the book is that of the changes. -/
theorem enterPhrases_eq_ok_iff {b : PhraseBook Unit} {attr : TextAttribute}
    {log : Registrations} (h : b.Logs attr log) (entries : List (String × List String))
    (b' : PhraseBook Unit) :
    enterPhrases b entries = .ok b' ↔
      (∀ e ∈ entries, e.2 ≠ [] ∧ ∀ text ∈ e.2, wordsOf text ≠ []) ∧
      (entries.map fun e => .add e.1 none (e.2.map fun text => (Document.ofText text).view)).foldl
        PhraseBook.attempt b = b' := by
  induction entries generalizing b log with
  | nil => simp [enterPhrases]
  | cons e rest ih =>
      let views := e.2.map fun text => (Document.ofText text).view
      have hnext := (h.change (.add e.1 none views)).2
      have hreads := b.exists_add_texts_iff e.1 e.2
      rw [enterPhrases, List.forall_mem_cons, ← hreads, List.map_cons, List.foldl_cons]
      rw [PhraseBook.attempt, PhraseBook.change] at hnext ⊢
      cases hadd : b.add e.1 none views with
      | error fault => simp
      | ok c =>
          rw [hadd] at hnext
          simp [ih hnext]

/-- The options that the arguments ask for in a book of phrases. -/
def Arguments.attr (a : Arguments) : TextAttribute :=
  if a.lower then .lower else .orth

/-- The books of a file can be made when its patterns and phrases are accepted. -/
theorem ofFile_eq_ok_iff {a : Arguments} {file : RuleFile} {b : Books} :
    Books.ofFile a file = .ok b ↔ file.Accepted a.options.unknown ∧
      b = ⟨file.ruleBook a.options, file.phraseBook a.attr⟩ := by
  have hrules := enterRules_eq_ok_iff (RuleBook.keeps_nil a.options) file.patterns
  have hphrases := enterPhrases_eq_ok_iff (PhraseBook.logs_empty a.attr) file.phrases
  rw [Books.ofFile, ← Arguments.attr]
  cases hr : enterRules { options := a.options } file.patterns with
  | error r =>
      refine iff_of_false (by simp) fun h => ?_
      rw [(hrules _).mpr ⟨h.1.patterns, rfl⟩] at hr
      cases hr
  | ok rules =>
      obtain ⟨hpatterns, rfl⟩ := (hrules rules).mp hr
      cases hp : enterPhrases { attr := a.attr } file.phrases with
      | error r =>
          refine iff_of_false (by simp) fun h => ?_
          rw [(hphrases _).mpr ⟨h.1.phrases, rfl⟩] at hp
          cases hp
      | ok phrases =>
          obtain ⟨htexts, rfl⟩ := (hphrases phrases).mp hp
          constructor
          · intro h
            exact ⟨⟨hpatterns, htexts⟩, (Except.ok.inj h).symm⟩
          · intro h
            rw [h.2]
            rfl

end CommandLine

/-! ## The order of the matches -/

/-- Matches by start, then by stop, then by the text of the key, which is one of some keys. -/
def Match.Before (keys : List String) (m n : Match) : Prop :=
  m.start < n.start ∨ m.start = n.start ∧ (m.stop < n.stop ∨ m.stop = n.stop ∧
    ∃ j ∈ keys, ∃ k ∈ keys, m.key = .of j ∧ n.key = .of k ∧ j < k)

/-- The matches are under keys of a list, whose texts can be told, and stand in order. -/
structure Match.Listed (keys : List String) (keyText? : TextId → Option String)
    (found : List Match) : Prop where
  named : ∀ m ∈ found, ∃ key ∈ keys, m.key = .of key ∧ keyText? m.key = some key
  ordered : found.Pairwise (Match.Before keys)

omit [Hashing] in
theorem rel_of_idxOf_lt {α : Type} [BEq α] [LawfulBEq α] {R : α → α → Prop} {l : List α} {x y : α}
    (h : l.Pairwise R) (hx : x ∈ l) (hy : y ∈ l) (hlt : l.idxOf x < l.idxOf y) : R x y := by
  have hrel := List.pairwise_iff_getElem.mp h _ _ (List.idxOf_lt_length_of_mem hx)
    (List.idxOf_lt_length_of_mem hy) hlt
  rwa [List.getElem_idxOf, List.getElem_idxOf] at hrel

/-- Patterns entered under different keys are listed in the order of their entry: the last key is
new to the others and comes behind them. -/
theorem Ledger.keys_history_adds {unknown : UnknownPolicy} {entries : List (String × List Json)}
    (hreads : ∀ e ∈ entries, e.2 ≠ [] ∧ ∀ json ∈ e.2, ∃ p, Pattern.ofJson unknown json = .ok p)
    (hnodup : (entries.map fun e => TextId.of e.1).Nodup) :
    (history (σ := Unit) TextId.of unknown (entries.map fun e => .add e.1 none e.2)).keys =
      entries.map fun e => .of e.1 := by
  induction entries using List.reverseRecOn with
  | nil => rfl
  | append_singleton entries e ih =>
      rw [List.map_append, List.nodup_append] at hnodup
      have hkeys := ih (fun e he => hreads e (List.mem_append_left _ he)) hnodup.1
      obtain ⟨hne, hread⟩ := hreads e (by simp)
      obtain ⟨patterns, hpatterns⟩ := exists_collect_eq_ok_iff.mpr hread
      have hfilled : patterns ≠ [] := by
        have hlength := (collect_eq_ok_iff.mp hpatterns).length_eq
        rwa [← List.length_pos_iff, ← hlength, List.length_pos_iff]
      rw [history] at hkeys ⊢
      rw [List.map_append, List.foldl_append, List.map_append, ← hkeys]
      generalize (entries.map fun e => RuleChange.add e.1 none e.2).foldl _ _ = l at hkeys ⊢
      have hnew : .of e.1 ∉ l.keys := by
        rw [hkeys]
        exact fun hold => hnodup.2.2 (.of e.1) hold (.of e.1) (by simp) rfl
      have hattempt : l.attempt .of unknown (.add e.1 none e.2) =
          l.enter (.of e.1) none patterns := by
        simp [attempt, change, hne, hpatterns, addPatterns, hfilled]
      simp [hattempt, keys_enter, hnew]

/-- An addition enters the text of its key, or no text at all. -/
theorem RuleBook.lexicon_attempt_add {σ : Type} (b : RuleBook σ) (key : String)
    (handler : Option (Handler σ)) (patterns : List Json) :
    (b.attempt (.add key handler patterns)).lexicon = b.lexicon ∨
      (b.attempt (.add key handler patterns)).lexicon = b.lexicon.add key := by
  cases hchange : b.change (.add key handler patterns) with
  | error fault => simp [attempt, hchange]
  | ok b' =>
      right
      rw [attempt, hchange]
      rw [change, add] at hchange
      split at hchange
      · cases hchange
      · split at hchange
        · rename_i read _
          by_cases hnil : read = []
          · simp [addPatterns, hnil] at hchange
          · cases hfind : b.positions.find? (.of key) with
            | none =>
                rw [addPatterns_of_new hnil hfind] at hchange
                exact Except.ok.inj hchange ▸ rfl
            | some position =>
                rw [addPatterns_of_known hnil hfind] at hchange
                exact Except.ok.inj hchange ▸ rfl
        · cases hchange

namespace RuleFile

variable {file : RuleFile} {options : Options} {attr : TextAttribute} {view : TokenView}

omit [Hashing] in
theorem nodup_patternKeys (hsorted : file.Sorted) : file.patternKeys.Nodup :=
  (List.pairwise_map.mpr hsorted.patterns).imp String.ne_of_lt

theorem keys_ruleChanges (hsorted : file.Sorted) (hdistinct : TextId.DistinctOn file.patternKeys)
    (haccepted : file.Accepted options.unknown) :
    (Ledger.history TextId.of options.unknown file.ruleChanges).keys =
      file.patternKeys.map .of := by
  have hnodup := hdistinct.nodup_map (nodup_patternKeys hsorted)
  rw [patternKeys, List.map_map] at hnodup ⊢
  exact Ledger.keys_history_adds haccepted.patterns hnodup

/-- There is a rule for each key, in the order of the keys. -/
theorem map_key_ruleBook (hsorted : file.Sorted) (hdistinct : TextId.DistinctOn file.patternKeys)
    (haccepted : file.Accepted options.unknown) :
    (file.ruleBook options).rules.map (·.key) = file.patternKeys.map .of := by
  rw [← keys_ruleChanges hsorted hdistinct haccepted]
  exact (RuleBook.keeps_history options file.ruleChanges).map_key_rules

theorem isEmpty_ruleBook (hsorted : file.Sorted) (hdistinct : TextId.DistinctOn file.patternKeys)
    (haccepted : file.Accepted options.unknown) :
    (file.ruleBook options).isEmpty = true ↔ file.patterns = [] := by
  have hlength := congrArg List.length (map_key_ruleBook hsorted hdistinct haccepted)
  simp only [List.length_map, patternKeys] at hlength
  rw [RuleBook.isEmpty, List.isEmpty_iff, ← List.length_eq_zero_iff, hlength,
    List.length_eq_zero_iff]

/-- The lexicon of the rules holds no text but their keys. -/
theorem within_ruleBook (file : RuleFile) (options : Options) :
    (file.ruleBook options).lexicon.Within file.patternKeys := by
  have hempty : ({ options } : RuleBook Unit).lexicon.Within file.patternKeys :=
    Lexicon.within_empty _
  refine List.foldlRecOn (motive := fun b => b.lexicon.Within file.patternKeys) file.ruleChanges
    RuleBook.attempt hempty ?_
  intro b hb c hc
  obtain ⟨e, he, rfl⟩ := List.mem_map.mp hc
  rcases b.lexicon_attempt_add e.1 none e.2 with hsame | hadded
  · rw [hsame]
    exact hb
  · rw [hadded]
    exact hb.add (List.mem_map_of_mem he)

/-- The rules find matches in the order of their keys. -/
theorem listed_find_ruleBook (hsorted : file.Sorted)
    (hdistinct : TextId.DistinctOn file.patternKeys) (options : Options)
    (haccepted : file.Accepted options.unknown) (view : TokenView) :
    Match.Listed file.patternKeys (file.ruleBook options).keyText?
      ((file.ruleBook options).find view) := by
  have h := RuleBook.keeps_history options file.ruleChanges
  have hkeys := keys_ruleChanges hsorted hdistinct haccepted
  have hids := map_key_ruleBook hsorted hdistinct haccepted
  have hmem : ∀ m ∈ (file.ruleBook options).find view,
      m.key ∈ (file.ruleBook options).rules.map (·.key) := by
    intro m hm
    obtain ⟨-, -, r, hr, hkey, -⟩ := (RuleBook.mem_find h.compiled).mp hm
    exact List.mem_map.mpr ⟨r, hr, hkey⟩
  constructor
  · intro m hm
    have hid : m.key ∈ file.patternKeys.map .of := hids ▸ hmem m hm
    have hlisted : m.key ∈ (Ledger.history TextId.of options.unknown file.ruleChanges).keys :=
      hkeys.symm ▸ hid
    obtain ⟨key, hkey, hid⟩ := List.mem_map.mp hid
    obtain ⟨text, htext⟩ := h.named hlisted
    have hsame : text = key := (within_ruleBook file options).eq_of_get? h.faithful hdistinct hkey
      (hid.symm ▸ htext)
    exact ⟨key, hkey, hid.symm, h.keyText?_eq_some_iff.mpr ⟨hlisted, hsame ▸ htext⟩⟩
  · have hordered : ((file.ruleBook options).rules.map (·.key)).Pairwise fun i j =>
        ∃ k ∈ file.patternKeys, ∃ l ∈ file.patternKeys, i = .of k ∧ j = .of l ∧ k < l := by
      rw [hids, List.pairwise_map, patternKeys, List.pairwise_map]
      refine hsorted.patterns.imp_of_mem ?_
      intro e f he hf hlt
      exact ⟨_, List.mem_map_of_mem he, _, List.mem_map_of_mem hf, rfl, rfl, hlt⟩
    refine (RuleBook.pairwise_find h.compiled h.nodup_rule_keys).imp_of_mem ?_
    intro m n hm hn hmn
    rcases hmn with hlt | ⟨hstart, hlt | ⟨hstop, hplace⟩⟩
    · exact Or.inl hlt
    · exact Or.inr ⟨hstart, Or.inl hlt⟩
    · exact Or.inr ⟨hstart, Or.inr ⟨hstop, rel_of_idxOf_lt hordered (hmem m hm) (hmem n hn) hplace⟩⟩

/-- The scan of the tokens changes nothing. -/
theorem find_ruleBook_prescan (file : RuleFile) (options : Options) (prescan : Bool)
    (view : TokenView) :
    (file.ruleBook { options with prescan }).find view = (file.ruleBook options).find view := by
  have hscanned := RuleBook.keeps_history { options with prescan } file.ruleChanges
  have h := RuleBook.keeps_history options file.ruleChanges
  exact RuleBook.find_eq_of_rules hscanned.compiled h.compiled (hscanned.rules.trans h.rules.symm)
    view

/-- The registrations of a file are those of its phrases, key by key. -/
theorem survivors_phraseChanges (file : RuleFile) (attr : TextAttribute) :
    PhraseBook.survivors attr file.phraseChanges = file.phrases.flatMap fun e =>
      (sequencesOf attr (e.2.map fun text => (Document.ofText text).view)).map (.of e.1, ·) := by
  rw [PhraseBook.survivors_eq, phraseChanges]
  induction file.phrases using List.reverseRecOn with
  | nil => rfl
  | append_singleton entries e ih =>
      rw [List.map_append, List.foldl_append, ih, List.flatMap_append, List.flatMap_singleton]
      rfl

theorem exists_key_of_mem_survivors {r : TextId × List TextId}
    (h : r ∈ PhraseBook.survivors attr file.phraseChanges) :
    ∃ key ∈ file.phraseKeys, r.1 = .of key := by
  rw [survivors_phraseChanges] at h
  obtain ⟨e, he, hr⟩ := List.mem_flatMap.mp h
  obtain ⟨phrase, -, rfl⟩ := List.mem_map.mp hr
  exact ⟨e.1, List.mem_map_of_mem he, rfl⟩

theorem pairwise_survivors_phraseChanges (hsorted : file.Sorted) :
    (PhraseBook.survivors attr file.phraseChanges).Pairwise fun r s =>
      r.1 = s.1 ∨ ∃ j ∈ file.phraseKeys, ∃ k ∈ file.phraseKeys,
        r.1 = .of j ∧ s.1 = .of k ∧ j < k := by
  rw [survivors_phraseChanges]
  refine List.pairwise_flatMap.mpr ⟨?_, hsorted.phrases.imp_of_mem ?_⟩
  · intro e _
    refine List.pairwise_map.mpr (List.pairwise_of_forall ?_)
    intro _ _
    exact Or.inl rfl
  · intro e f he hf hlt r hr s hs
    obtain ⟨phrase, -, rfl⟩ := List.mem_map.mp hr
    obtain ⟨other, -, rfl⟩ := List.mem_map.mp hs
    exact Or.inr ⟨e.1, List.mem_map_of_mem he, f.1, List.mem_map_of_mem hf, rfl, rfl, hlt⟩

theorem isEmpty_phraseBook {unknown : UnknownPolicy} (haccepted : file.Accepted unknown) :
    (file.phraseBook attr).isEmpty = true ↔ file.phrases = [] := by
  have hlogs := PhraseBook.logs_history attr file.phraseChanges
  constructor
  · intro hempty
    by_contra hne
    obtain ⟨e, he⟩ := List.exists_mem_of_ne_nil _ hne
    have hsequences := PhraseBook.exists_change_add_iff (b := { attr }) |>.mp
      ((PhraseBook.exists_add_texts_iff _ e.1 e.2).mpr (haccepted.phrases e he))
    obtain ⟨phrase, hphrase⟩ := List.exists_mem_of_ne_nil _ hsequences
    have hregistered : (.of e.1, phrase) ∈ PhraseBook.survivors attr file.phraseChanges := by
      rw [survivors_phraseChanges]
      exact List.mem_flatMap.mpr ⟨e, he, List.mem_map_of_mem hphrase⟩
    have hknown := (hlogs.known _).mpr ⟨phrase, hregistered⟩
    have hentries := List.isEmpty_iff.mp hempty
    rw [phraseBook] at hentries
    rw [Table.contains_iff, hentries] at hknown
    cases hknown
  · intro hnil
    rw [phraseBook, phraseChanges, hnil]
    rfl

/-- The lexicon of the phrases holds no text but their keys. -/
theorem within_phraseBook (file : RuleFile) (attr : TextAttribute) :
    (file.phraseBook attr).lexicon.Within file.phraseKeys := by
  have hempty : ({ attr } : PhraseBook Unit).lexicon.Within file.phraseKeys :=
    Lexicon.within_empty _
  refine List.foldlRecOn (motive := fun b => b.lexicon.Within file.phraseKeys) file.phraseChanges
    PhraseBook.attempt hempty ?_
  intro b hb c hc
  obtain ⟨e, he, rfl⟩ := List.mem_map.mp hc
  rw [PhraseBook.attempt]
  cases hchange : b.change (.add e.1 none (e.2.map fun text => (Document.ofText text).view)) with
  | error fault => exact hb
  | ok b' =>
      rw [(PhraseBook.change_add_eq_ok hchange).1]
      exact hb.add (List.mem_map_of_mem he)

/-- The phrases find matches in the order of their keys. -/
theorem listed_find_phraseBook (hsorted : file.Sorted)
    (hdistinct : TextId.DistinctOn file.phraseKeys) (attr : TextAttribute) (view : TokenView) :
    Match.Listed file.phraseKeys (file.phraseBook attr).keyText?
      ((file.phraseBook attr).find view) := by
  have hlogs := PhraseBook.logs_history attr file.phraseChanges
  have hhandlers := PhraseBook.hasHandlers_history attr file.phraseChanges
  have hlog {m : Match} (hm : m ∈ (file.phraseBook attr).find view) :=
    (PhraseBook.mem_find hlogs).mp hm
  constructor
  · intro m hm
    obtain ⟨-, -, phrase, hregistered, -⟩ := hlog hm
    obtain ⟨key, hkey, hid⟩ := exists_key_of_mem_survivors hregistered
    obtain ⟨r, hr⟩ := Option.isSome_iff_exists.mp ((hlogs.known m.key).mpr ⟨phrase, hregistered⟩)
    obtain ⟨⟨text, htext⟩, -⟩ := hhandlers.named hr
    obtain rfl : text = key := (within_phraseBook file attr).eq_of_get? hhandlers.faithful hdistinct
      hkey (hid ▸ htext)
    refine ⟨text, hkey, hid, ?_⟩
    rw [PhraseBook.keyText?, phraseBook, hr, Option.bind_some, htext]
  · refine (PhraseBook.pairwise_find hlogs).imp_of_mem ?_
    intro m n hm hn hmn
    rcases hmn with hlt | ⟨hstart, hlt | ⟨hstop, phrase, hlength, hspells, hidx⟩⟩
    · exact Or.inl hlt
    · exact Or.inr ⟨hstart, Or.inl hlt⟩
    · obtain ⟨-, -, first, hfirst, hfirstLength, hfirstSpells⟩ := hlog hm
      obtain ⟨-, -, second, hsecond, hsecondLength, hsecondSpells⟩ := hlog hn
      obtain rfl := hfirstSpells.unique hspells (by omega)
      rw [← hstart] at hsecondSpells
      obtain rfl := hsecondSpells.unique hspells (by omega)
      refine Or.inr ⟨hstart, Or.inr ⟨hstop, ?_⟩⟩
      rcases rel_of_idxOf_lt (pairwise_survivors_phraseChanges hsorted) hfirst hsecond hidx with
        hsame | hlt
      · have hkeys : m.key = n.key := hsame
        rw [hkeys] at hidx
        exact absurd hidx (Nat.lt_irrefl _)
      · exact hlt

end RuleFile

end SpanRules
