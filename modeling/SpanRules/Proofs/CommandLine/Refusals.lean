import SpanRules.Proofs.CommandLine.RuleFile
import SpanRules.Proofs.RuleBook.Refusals
import SpanRules.Proofs.Text.Bytes

/-! # What ends a run without a search

A run goes through the rule file, its patterns, its phrases and the input in this order, and reports
the first obstacle that it meets, with the cause that the system or the reader of JSON gives. Keys
increase by their bytes, so the first refused key is the one with the least bytes. Whatever the
obstacle, nothing has been printed.
-/

namespace SpanRules

/-! ## Entering entries -/

/-- Entries are entered one after the other. When it does not depend on those before whether an
entry is refused and why, the fault is that of the first refused one. -/
theorem foldlM_eq_error_iff {β α ε : Type} {f : β → α → Except ε β} {P : β → Prop}
    {Refused : α → ε → Prop} {l : List α} {b : β} {fault : ε} (hb : P b)
    (hrefused : ∀ b a fault, P b → (f b a = .error fault ↔ Refused a fault))
    (hkeeps : ∀ b a b', P b → f b a = .ok b' → P b') :
    l.foldlM f b = .error fault ↔ ∃ before a after, l = before ++ a :: after ∧
      (∀ x ∈ before, ∀ fault, ¬Refused x fault) ∧ Refused a fault := by
  induction l generalizing b with
  | nil => simp [pure, Except.pure]
  | cons first rest ih =>
      have hfirst (fault : ε) := hrefused b first fault hb
      rw [List.foldlM_cons]
      cases hstep : f b first with
      | error found =>
          have hfound := (hfirst found).mp hstep
          constructor
          · intro h
            obtain rfl : found = fault := Except.error.inj h
            exact ⟨[], first, rest, rfl, by simp, hfound⟩
          · rintro ⟨before, a, after, hsplit, hbefore, ha⟩
            rcases List.cons_eq_append_iff.mp hsplit with ⟨rfl, hhead⟩ | ⟨tail, rfl, -⟩
            · obtain ⟨rfl, rfl⟩ := List.cons.inj hhead
              exact hstep.symm.trans ((hfirst fault).mpr ha)
            · exact absurd hfound (hbefore first List.mem_cons_self found)
      | ok next =>
          have hpassed (fault : ε) : ¬Refused first fault := by
            rw [← hfirst, hstep]
            exact nofun
          rw [show (Except.ok next >>= fun b => rest.foldlM f b) = rest.foldlM f next from rfl,
            ih (hkeeps b first next hb hstep)]
          constructor
          · rintro ⟨before, a, after, rfl, hbefore, ha⟩
            exact ⟨first :: before, a, after, rfl,
              List.forall_mem_cons.mpr ⟨hpassed, hbefore⟩, ha⟩
          · rintro ⟨before, a, after, hsplit, hbefore, ha⟩
            rcases List.cons_eq_append_iff.mp hsplit with ⟨rfl, hhead⟩ | ⟨tail, rfl, hrest⟩
            · obtain ⟨rfl, rfl⟩ := List.cons.inj hhead
              exact absurd ha (hpassed fault)
            · exact ⟨tail, a, after, hrest, (List.forall_mem_cons.mp hbefore).2, ha⟩

namespace CommandLine

/-! ## The least refused key -/

/-- The entry of this key is refused, and none whose key has lesser bytes is. -/
structure FirstRefused {β : Type} (Refused : String × β → Fault → Prop)
    (entries : List (String × β)) (key : String) (fault : Fault) : Prop where
  refused : ∃ value, (key, value) ∈ entries ∧ Refused (key, value) fault
  first : ∀ e ∈ entries, bytesOf e.1 < bytesOf key → ∀ fault, ¬Refused e fault

section FirstRefused

variable {β : Type} {Refused : String × β → Fault → Prop} {entries : List (String × β)}
  {key : String} {fault : Fault}

/-- Among increasing keys the first refused entry is the one whose key has the least bytes. -/
theorem firstRefused_iff (hsorted : entries.Pairwise (·.1 < ·.1)) :
    FirstRefused Refused entries key fault ↔ ∃ before value after,
      entries = before ++ (key, value) :: after ∧ (∀ e ∈ before, ∀ fault, ¬Refused e fault) ∧
      Refused (key, value) fault := by
  constructor
  · rintro ⟨⟨value, hmem, hrefused⟩, hfirst⟩
    obtain ⟨before, after, rfl⟩ := List.append_of_mem hmem
    refine ⟨before, value, after, rfl, fun e he => ?_, hrefused⟩
    have hlt : e.1 < key := (List.pairwise_append.mp hsorted).2.2 e he _ List.mem_cons_self
    exact hfirst e (List.mem_append_left _ he) (bytesOf_lt_bytesOf hlt)
  · rintro ⟨before, value, after, rfl, hbefore, hrefused⟩
    refine ⟨⟨value, by simp, hrefused⟩, fun e he hlt => ?_⟩
    rcases List.mem_append.mp he with he | he
    · exact hbefore e he
    · rcases List.mem_cons.mp he with rfl | he
      · exact absurd hlt (List.lt_irrefl _)
      · have hgt : key < e.1 := List.rel_of_pairwise_cons (List.pairwise_append.mp hsorted).2.1 he
        exact absurd (bytesOf_lt_bytesOf hgt) (List.lt_asymm hlt)

end FirstRefused

section Entering

variable {γ β : Type} {add : γ → String × β → Except Fault γ} {toRefusal : String → Fault → Refusal}
  {Refused : String × β → Fault → Prop} {P : γ → Prop} {entries : List (String × β)} {b : γ}
  {r : Refusal}

theorem mapError_eq_error_iff {α ε δ : Type} {x : Except ε α} {f : ε → δ} {d : δ} :
    x.mapError f = .error d ↔ ∃ e, d = f e ∧ x = .error e := by
  cases x with
  | error e => simp [Except.mapError, eq_comm]
  | ok a => simp [Except.mapError]

theorem mapError_eq_ok_iff {α ε δ : Type} {x : Except ε α} {f : ε → δ} {a : α} :
    x.mapError f = .ok a ↔ x = .ok a := by
  cases x with
  | error e => simp [Except.mapError]
  | ok a => simp [Except.mapError]

/-- When entries with increasing keys are entered, the refusal names the least refused key. -/
theorem foldlM_mapError_eq_error_iff (hsorted : entries.Pairwise (·.1 < ·.1)) (hb : P b)
    (hrefused : ∀ b e fault, P b → (add b e = .error fault ↔ Refused e fault))
    (hkeeps : ∀ b e b', P b → add b e = .ok b' → P b') :
    entries.foldlM (fun b e => (add b e).mapError (toRefusal e.1)) b = .error r ↔
      ∃ key fault, r = toRefusal key fault ∧ FirstRefused Refused entries key fault := by
  have hstep : ∀ b e r, P b → ((add b e).mapError (toRefusal e.1) = .error r ↔
      ∃ fault, r = toRefusal e.1 fault ∧ Refused e fault) := by
    intro b e r hb
    simp only [mapError_eq_error_iff, hrefused b e _ hb]
  have hpassed : ∀ b e b', P b → (add b e).mapError (toRefusal e.1) = .ok b' → P b' :=
    fun b e b' hb hadd => hkeeps b e b' hb (mapError_eq_ok_iff.mp hadd)
  rw [foldlM_eq_error_iff hb hstep hpassed]
  simp only [firstRefused_iff hsorted]
  constructor
  · rintro ⟨before, e, after, rfl, hbefore, fault, rfl, hrefused⟩
    exact ⟨e.1, fault, rfl, before, e.2, after, rfl,
      fun x hx fault h => hbefore x hx _ ⟨fault, rfl, h⟩, hrefused⟩
  · rintro ⟨key, fault, rfl, before, value, after, rfl, hbefore, hrefused⟩
    exact ⟨before, (key, value), after, rfl,
      fun x hx _ ⟨fault, _, h⟩ => hbefore x hx fault h, fault, rfl, hrefused⟩

end Entering

/-! ## Obstacles -/

variable [Hashing]

/-- An empty book refuses the patterns of the key. -/
def PatternsRefused (unknown : UnknownPolicy) (e : String × List Json) (fault : Fault) : Prop :=
  ({ options := { unknown } } : RuleBook Unit).add e.1 none e.2 = .error fault

/-- There are no phrases under the key, or one of them is blank. -/
inductive PhrasesRefused : String × List String → Fault → Prop
  | none {key : String} : PhrasesRefused (key, []) (.invalidPattern (.noPhrases key))
  | blank {key text : String} {texts : List String} (hmem : text ∈ texts)
      (hblank : isBlank text = true) : PhrasesRefused (key, texts) (.invalidPattern .emptyPhrase)

/-- The first thing that is wrong with a rule file, in words: it is missing, it cannot be read, the
patterns of a key are refused, or the phrases of a key are. -/
inductive FileObstacle (a : Arguments) (complaint : String → String) :
    Except String String → String → Prop
  | missing {cause : String} : FileObstacle a complaint (.error cause)
      ("failed to read rule file " ++ a.rules ++ ": " ++ cause)
  | malformed {text : String} (hread : RuleFile.read text = none) :
      FileObstacle a complaint (.ok text)
        ("invalid rule file " ++ a.rules ++ ": " ++ complaint text)
  | rule {text key : String} {file : RuleFile} {fault : Fault}
      (hread : RuleFile.read text = some file)
      (hfirst : FirstRefused (PatternsRefused a.options.unknown) file.patterns key fault) :
      FileObstacle a complaint (.ok text) ("rule '" ++ key ++ "': " ++ fault.message)
  | phrase {text key : String} {file : RuleFile} {fault : Fault}
      (hread : RuleFile.read text = some file)
      (hpatterns : ∀ e ∈ file.patterns, ∀ fault, ¬PatternsRefused a.options.unknown e fault)
      (hfirst : FirstRefused PhrasesRefused file.phrases key fault) :
      FileObstacle a complaint (.ok text) ("phrase '" ++ key ++ "': " ++ fault.message)

/-- The input is the words of the arguments joined by spaces, or the text on the standard input when
there are none. -/
def Arguments.Takes (a : Arguments) (stdin : Except String String) (input : String) : Prop :=
  a.input ≠ [] ∧ input = joinWords a.input ∨ a.input = [] ∧ stdin = .ok input

/-- The first thing that keeps a run from searching, in words: something about the rule file, or
else a standard input that is needed and cannot be read, or else a blank input. -/
inductive Obstacle (a : Arguments) (s : Surroundings) : String → Prop
  | file {reason : String} (h : FileObstacle a s.complaint s.file reason) : Obstacle a s reason
  | stdin {cause : String} (hfile : ∀ reason, ¬FileObstacle a s.complaint s.file reason)
      (hnone : a.input = []) (hstdin : s.stdin = .error cause) :
      Obstacle a s ("failed to read stdin: " ++ cause)
  | input {input : String} (hfile : ∀ reason, ¬FileObstacle a s.complaint s.file reason)
      (hinput : a.Takes s.stdin input) (hblank : isBlank input = true) :
      Obstacle a s "no input provided"

/-! ## Books that cannot be made -/

section Books

variable {a : Arguments} {file : RuleFile} {r : Refusal}

/-- What a book refuses does not depend on what is in it. -/
theorem add_eq_error_iff_patternsRefused {b : RuleBook Unit} (e : String × List Json)
    (fault : Fault) :
    b.add e.1 none e.2 = .error fault ↔ PatternsRefused b.options.unknown e fault := by
  rw [PatternsRefused, RuleBook.add_eq_error_iff, RuleBook.add_eq_error_iff]

theorem enterRules_eq_error_iff (options : Options) {entries : List (String × List Json)}
    (hsorted : entries.Pairwise (·.1 < ·.1)) :
    enterRules { options } entries = .error r ↔ ∃ key fault, r = .rule key fault ∧
      FirstRefused (PatternsRefused options.unknown) entries key fault := by
  have hfold (b : RuleBook Unit) : enterRules b entries =
      entries.foldlM (fun b e => (b.add e.1 none e.2).mapError (.rule e.1)) b := by
    induction entries generalizing b with
    | nil => rfl
    | cons e rest ih =>
        rw [enterRules, List.foldlM_cons]
        cases b.add e.1 none e.2 with
        | error fault => rfl
        | ok b' => exact ih hsorted.tail b'
  rw [hfold]
  refine foldlM_mapError_eq_error_iff (P := fun b : RuleBook Unit => ∃ l, b.Keeps options l)
    hsorted ⟨[], RuleBook.keeps_nil options⟩ ?_ ?_
  · rintro b e fault ⟨l, h⟩
    rw [add_eq_error_iff_patternsRefused, h.options]
  · rintro b e b' ⟨l, h⟩ hadd
    have hnext := h.attempt (.add e.1 none e.2)
    rw [RuleBook.attempt, RuleBook.change, hadd] at hnext
    exact ⟨_, hnext⟩

theorem size_ofText_eq_zero_iff {text : String} :
    (Document.ofText text).size = 0 ↔ isBlank text = true := by
  rw [Document.ofText, Document.size_ofWords, List.length_eq_zero_iff, isBlank_iff]

/-- A document as a phrase can only lack tokens, since each of its tokens has a text. -/
theorem faultyPhrase_view {d : Document} {attr : TextAttribute} {fault : Fault}
    (h : d.view.FaultyPhrase attr fault) : d.size = 0 ∧ fault = .invalidPattern .emptyPhrase := by
  cases h with
  | empty hsize => exact ⟨hsize, rfl⟩
  | token hi hbefore htoken =>
      have hphrase : d.view.IsPhrase attr := Document.isPhrase_view.mpr (Nat.ne_zero_of_lt hi)
      obtain ⟨id, hid⟩ := hphrase.2 _ hi
      exact absurd hid (htoken id)

theorem phrasesRefused_of_add {b : PhraseBook Unit} {key : String} {texts : List String}
    {fault : Fault}
    (h : b.add key none (texts.map fun text => (Document.ofText text).view) = .error fault) :
    PhrasesRefused (key, texts) fault := by
  rcases PhraseBook.add_eq_error_iff.mp h with ⟨hnil, rfl⟩ | ⟨before, view, after, hsplit, -, hview⟩
  · obtain rfl := List.map_eq_nil_iff.mp hnil
    exact .none
  · have hmem : view ∈ texts.map fun text => (Document.ofText text).view := by simp [hsplit]
    obtain ⟨text, htext, rfl⟩ := List.mem_map.mp hmem
    obtain ⟨hsize, rfl⟩ := faultyPhrase_view hview
    exact .blank htext (size_ofText_eq_zero_iff.mp hsize)

/-- Phrases are refused for one reason only, so it does not matter which of them is found. -/
theorem add_eq_error_iff_phrasesRefused {b : PhraseBook Unit} (e : String × List String)
    (fault : Fault) :
    b.add e.1 none (e.2.map fun text => (Document.ofText text).view) = .error fault ↔
      PhrasesRefused e fault := by
  refine ⟨phrasesRefused_of_add, fun h => ?_⟩
  have haccepts := b.exists_add_texts_iff e.1 e.2
  cases hadd : b.add e.1 none (e.2.map fun text => (Document.ofText text).view) with
  | ok b' =>
      obtain ⟨hne, hwords⟩ := haccepts.mp ⟨b', hadd⟩
      cases h with
      | none => exact absurd rfl hne
      | blank hmem hblank => exact absurd (isBlank_iff.mp hblank) (hwords _ hmem)
  | error found =>
      have hfound := phrasesRefused_of_add hadd
      cases h with
      | none =>
          cases hfound with
          | none => rfl
          | blank hmem _ => cases hmem
      | blank hmem _ =>
          cases hfound with
          | none => cases hmem
          | blank _ _ => rfl

theorem enterPhrases_eq_error_iff (attr : TextAttribute) {entries : List (String × List String)}
    (hsorted : entries.Pairwise (·.1 < ·.1)) :
    enterPhrases { attr } entries = .error r ↔ ∃ key fault, r = .phrase key fault ∧
      FirstRefused PhrasesRefused entries key fault := by
  have hfold (b : PhraseBook Unit) : enterPhrases b entries = entries.foldlM (fun b e =>
      (b.add e.1 none (e.2.map fun text => (Document.ofText text).view)).mapError
        (.phrase e.1)) b := by
    induction entries generalizing b with
    | nil => rfl
    | cons e rest ih =>
        rw [enterPhrases, List.foldlM_cons]
        cases b.add e.1 none (e.2.map fun text => (Document.ofText text).view) with
        | error fault => rfl
        | ok b' => exact ih hsorted.tail b'
  rw [hfold]
  exact foldlM_mapError_eq_error_iff (P := fun _ => True) hsorted trivial
    (fun b e fault _ => add_eq_error_iff_phrasesRefused e fault) fun _ _ _ _ _ => trivial

/-- The books of a file cannot be made when patterns are refused, or else phrases. -/
theorem ofFile_eq_error_iff (hsorted : file.Sorted) : Books.ofFile a file = .error r ↔
    (∃ key fault, r = .rule key fault ∧
      FirstRefused (PatternsRefused a.options.unknown) file.patterns key fault) ∨
    (∀ e ∈ file.patterns, ∀ fault, ¬PatternsRefused a.options.unknown e fault) ∧
      ∃ key fault, r = .phrase key fault ∧ FirstRefused PhrasesRefused file.phrases key fault := by
  have hrules (r : Refusal) := enterRules_eq_error_iff (r := r) a.options hsorted.patterns
  rw [Books.ofFile, ← enterPhrases_eq_error_iff a.attr hsorted.phrases, ← Arguments.attr]
  cases hrun : enterRules { options := a.options } file.patterns with
  | error found =>
      obtain ⟨key, fault, rfl, hfirst⟩ := (hrules found).mp hrun
      obtain ⟨value, hmem, hrefused⟩ := hfirst.refused
      rw [← hrules, hrun]
      simp only [Except.error.injEq]
      refine ⟨Or.inl, fun h => h.resolve_right fun hright => ?_⟩
      exact hright.1 _ hmem fault hrefused
  | ok rules =>
      have hnone (e) (he : e ∈ file.patterns) (fault : Fault) :
          ¬PatternsRefused a.options.unknown e fault := by
        obtain ⟨haccepted, -⟩ :=
          (enterRules_eq_ok_iff (RuleBook.keeps_nil a.options) _ _).mp hrun
        obtain ⟨b, hb⟩ := (RuleBook.exists_add_eq_ok_iff
          { options := { unknown := a.options.unknown } } e.1 none e.2).mpr (haccepted e he)
        rw [PatternsRefused, hb]
        intro h
        cases h
      rw [← hrules, hrun]
      simp only [reduceCtorEq, false_or, and_iff_right hnone]
      cases enterPhrases { attr := a.attr } file.phrases with
      | error found => simp only [Except.error.injEq]
      | ok phrases => simp only [reduceCtorEq]

/-- A rule file with an obstacle is refused for it. -/
theorem fileObstacle_iff {complaint : String → String} {text : Except String String}
    {reason : String} :
    FileObstacle a complaint text reason ↔
      ∃ r, Books.load a complaint text = .error r ∧ reason = r.message := by
  constructor
  · intro h
    cases h with
    | @missing cause => exact ⟨.unreadableFile a.rules cause, rfl, rfl⟩
    | @malformed text hread =>
        exact ⟨.malformedFile a.rules (complaint text), by simp [Books.load, readFile, hread], rfl⟩
    | @rule text key file fault hread hfirst =>
        have hfile := (ofFile_eq_error_iff (RuleFile.sorted_of_read hread)).mpr
          (Or.inl ⟨key, fault, rfl, hfirst⟩)
        exact ⟨_, by simpa [Books.load, readFile, hread] using hfile, rfl⟩
    | @phrase text key file fault hread hpatterns hfirst =>
        have hfile := (ofFile_eq_error_iff (RuleFile.sorted_of_read hread)).mpr
          (Or.inr ⟨hpatterns, key, fault, rfl, hfirst⟩)
        exact ⟨_, by simpa [Books.load, readFile, hread] using hfile, rfl⟩
  · rintro ⟨r, hload, rfl⟩
    cases text with
    | error cause =>
        obtain rfl : Refusal.unreadableFile a.rules cause = r := Except.error.inj hload
        exact .missing
    | ok text =>
        cases hread : RuleFile.read text with
        | none =>
            obtain rfl : Refusal.malformedFile a.rules (complaint text) = r := by
              simpa [Books.load, readFile, hread] using hload
            exact .malformed hread
        | some file =>
            have hfile : Books.ofFile a file = .error r := by
              simpa [Books.load, readFile, hread] using hload
            rcases (ofFile_eq_error_iff (RuleFile.sorted_of_read hread)).mp hfile with
              ⟨key, fault, rfl, hfirst⟩ | ⟨hpatterns, key, fault, rfl, hfirst⟩
            · exact .rule hread hfirst
            · exact .phrase hread hpatterns hfirst

end Books

/-! ## The input -/

section Input

variable {a : Arguments} {stdin : Except String String} {input : String} {r : Refusal}

omit [Hashing] in
theorem inputText_eq_ok_iff : a.inputText stdin = .ok input ↔ a.Takes stdin input := by
  unfold Arguments.inputText Arguments.Takes
  by_cases hnil : a.input = []
  · cases stdin <;> simp [hnil]
  · simp [hnil, joinWords_eq_intercalate, eq_comm (a := input)]

omit [Hashing] in
theorem inputText_eq_error_iff : a.inputText stdin = .error r ↔
    ∃ cause, a.input = [] ∧ stdin = .error cause ∧ r = .unreadableInput cause := by
  unfold Arguments.inputText
  by_cases hnil : a.input = []
  · cases stdin <;> simp [hnil, eq_comm]
  · simp [hnil]

/-- There is no document when there is no input, or a blank one. -/
theorem document_eq_error_iff : a.document stdin = .error r ↔
    (∃ cause, a.input = [] ∧ stdin = .error cause ∧ r = .unreadableInput cause) ∨
    ∃ input, a.Takes stdin input ∧ isBlank input = true ∧ r = .noInput := by
  rw [← inputText_eq_error_iff, Arguments.document]
  simp only [← inputText_eq_ok_iff]
  cases a.inputText stdin with
  | error found => simp
  | ok input => by_cases hblank : isBlank input = true <;> simp [hblank, eq_comm (a := r)]

theorem document_of_takes (h : a.Takes stdin input) (hblank : isBlank input = false) :
    a.document stdin = .ok (.ofText input) := by
  simp [Arguments.document, inputText_eq_ok_iff.mpr h, hblank]

end Input

/-! ## Runs -/

section Runs

variable {a : Arguments} {s : Surroundings} {reason : String}

/-- A run has an obstacle when it has no books or no document. -/
theorem obstacle_iff : Obstacle a s reason ↔ ∃ r, reason = r.message ∧
    (Books.load a s.complaint s.file = .error r ∨
      (∃ books, Books.load a s.complaint s.file = .ok books) ∧ a.document s.stdin = .error r) := by
  have hloaded : (∀ reason, ¬FileObstacle a s.complaint s.file reason) ↔
      ∃ books, Books.load a s.complaint s.file = .ok books := by
    simp only [fileObstacle_iff]
    cases Books.load a s.complaint s.file <;> simp
  constructor
  · intro h
    cases h with
    | file h =>
        obtain ⟨r, hload, rfl⟩ := fileObstacle_iff.mp h
        exact ⟨r, rfl, Or.inl hload⟩
    | @stdin cause hfile hnone hstdin =>
        refine ⟨.unreadableInput cause, rfl, Or.inr ⟨hloaded.mp hfile, ?_⟩⟩
        exact document_eq_error_iff.mpr (Or.inl ⟨cause, hnone, hstdin, rfl⟩)
    | @input input hfile hinput hblank =>
        refine ⟨.noInput, rfl, Or.inr ⟨hloaded.mp hfile, ?_⟩⟩
        exact document_eq_error_iff.mpr (Or.inr ⟨input, hinput, hblank, rfl⟩)
  · rintro ⟨r, rfl, hload | ⟨hbooks, hdocument⟩⟩
    · exact .file (fileObstacle_iff.mpr ⟨r, hload, rfl⟩)
    · rcases document_eq_error_iff.mp hdocument with
        ⟨cause, hnone, hstdin, rfl⟩ | ⟨input, hinput, hblank, rfl⟩
      · exact .stdin (hloaded.mpr hbooks) hnone hstdin
      · exact .input (hloaded.mpr hbooks) hinput hblank

/-- A run with an obstacle prints nothing but the reason. -/
theorem Obstacle.run (h : Obstacle a s reason) :
    run a s = ⟨2, "", "error: " ++ reason ++ "\n"⟩ := by
  obtain ⟨r, rfl, hload | ⟨⟨books, hload⟩, hdocument⟩⟩ := obstacle_iff.mp h
  · simp only [CommandLine.run, hload, Reply.ofRefusal]
  · simp only [CommandLine.run, hload, Books.findings, hdocument, Reply.ofFindings,
      Reply.ofRefusal]

/-- Only the path of the rule file and what to do with unknown attributes count. -/
theorem FileObstacle.congr {complaint : String → String} {file : Except String String}
    {b : Arguments} (h : FileObstacle a complaint file reason) (hrules : b.rules = a.rules)
    (hignore : b.ignoreUnknown = a.ignoreUnknown) : FileObstacle b complaint file reason := by
  have hunknown : b.options.unknown = a.options.unknown := by
    rw [Arguments.options, Arguments.options, hignore]
  cases h with
  | missing => exact hrules ▸ .missing
  | malformed hread => exact hrules ▸ .malformed hread
  | rule hread hfirst => exact .rule hread (hunknown ▸ hfirst)
  | phrase hread hpatterns hfirst => exact .phrase hread (hunknown ▸ hpatterns) hfirst

/-- A run without an obstacle succeeds. -/
theorem run_of_forall_not_obstacle (h : ∀ reason, ¬Obstacle a s reason) :
    (run a s).exit = 0 ∧ (run a s).stderr = "" := by
  cases hload : Books.load a s.complaint s.file with
  | error r => exact (h r.message (obstacle_iff.mpr ⟨r, rfl, Or.inl hload⟩)).elim
  | ok books =>
      cases hdocument : a.document s.stdin with
      | error r =>
          have hobstacle := obstacle_iff.mpr ⟨r, rfl, Or.inr ⟨⟨books, hload⟩, hdocument⟩⟩
          exact (h r.message hobstacle).elim
      | ok document =>
          simp only [CommandLine.run, hload, Books.findings, hdocument, Reply.ofFindings,
            Reply.ofLines, and_self]

/-- With an input the obstacles are those of the rule file and that the input is blank. -/
theorem exists_obstacle_iff {input : String} (h : a.Takes s.stdin input) :
    (∃ reason, Obstacle a s reason) ↔
      (∃ reason, FileObstacle a s.complaint s.file reason) ∨ isBlank input = true := by
  constructor
  · rintro ⟨reason, hobstacle⟩
    cases hobstacle with
    | file hfile => exact Or.inl ⟨reason, hfile⟩
    | stdin _ hnone hstdin =>
        rw [← inputText_eq_ok_iff, inputText_eq_error_iff.mpr ⟨_, hnone, hstdin, rfl⟩] at h
        cases h
    | input _ hinput hblank =>
        rw [← inputText_eq_ok_iff] at h hinput
        obtain rfl := Except.ok.inj (h.symm.trans hinput)
        exact Or.inr hblank
  · rintro (⟨reason, hfile⟩ | hblank)
    · exact ⟨reason, .file hfile⟩
    · by_cases hfile : ∃ reason, FileObstacle a s.complaint s.file reason
      · obtain ⟨reason, hfile⟩ := hfile
        exact ⟨reason, .file hfile⟩
      · exact ⟨_, .input (not_exists.mp hfile) h hblank⟩

end Runs

/-- A run ends without a search exactly when it meets an obstacle. It then prints nothing and
reports the first obstacle, and otherwise it succeeds. What is wrong with a rule file is reported
whatever the input is and whatever else the arguments ask for, apart from what to do with unknown
attributes. Where there is an input, the obstacles are those of the rule file and a blank input;
where it is not blank, there are tokens to search. -/
theorem run_reports_first_obstacle (a : Arguments) (s : Surroundings) :
    let reply := run a s
    (reply.exit = 2 ∧ reply.stdout = "" ↔ ∃ reason, Obstacle a s reason) ∧
    (∀ reason, Obstacle a s reason ↔ reply = ⟨2, "", "error: " ++ reason ++ "\n"⟩) ∧
    ((∀ reason, ¬Obstacle a s reason) → reply.exit = 0 ∧ reply.stderr = "") ∧
    (∀ reason, FileObstacle a s.complaint s.file reason → ∀ (b : Arguments) (t : Surroundings),
      b.rules = a.rules → b.ignoreUnknown = a.ignoreUnknown → t.file = s.file →
        t.complaint = s.complaint → run b t = reply) ∧
    (∀ input, a.Takes s.stdin input →
      (reply.exit = 2 ∧ reply.stdout = "" ↔
        (∃ reason, FileObstacle a s.complaint s.file reason) ∨ isBlank input = true) ∧
      (isBlank input = false → ∃ d, a.document s.stdin = .ok d ∧ 0 < d.size)) := by
  intro reply
  have hsucceeds : (∀ reason, ¬Obstacle a s reason) → reply.exit = 0 ∧ reply.stderr = "" :=
    run_of_forall_not_obstacle
  have hexit : reply.exit = 2 → ∃ reason, Obstacle a s reason := by
    intro htwo
    by_contra hnone
    rw [(hsucceeds (not_exists.mp hnone)).1] at htwo
    cases htwo
  have hiff : reply.exit = 2 ∧ reply.stdout = "" ↔ ∃ reason, Obstacle a s reason := by
    refine ⟨fun h => hexit h.1, ?_⟩
    rintro ⟨reason, h⟩
    simp only [reply, h.run, and_self]
  refine ⟨hiff, fun reason => ⟨Obstacle.run, ?_⟩, hsucceeds, ?_, ?_⟩
  · intro hreply
    obtain ⟨found, h⟩ := hexit (by rw [hreply])
    have hsame : "error: " ++ found ++ "\n" = "error: " ++ reason ++ "\n" :=
      congrArg Reply.stderr (h.run.symm.trans hreply)
    rw [String.append_left_inj, String.append_right_inj] at hsame
    exact hsame ▸ h
  · intro reason h b t hrules hignore hfile hcomplaint
    have hobstacle : FileObstacle b t.complaint t.file reason := by
      rw [hfile, hcomplaint]
      exact h.congr hrules hignore
    simp only [reply, (Obstacle.file h).run, (Obstacle.file hobstacle).run]
  · intro input hinput
    refine ⟨hiff.trans (exists_obstacle_iff hinput), fun hblank => ?_⟩
    refine ⟨.ofText input, document_of_takes hinput hblank, ?_⟩
    rw [Nat.pos_iff_ne_zero, Ne, size_ofText_eq_zero_iff, hblank]
    exact Bool.false_ne_true

end CommandLine

end SpanRules
