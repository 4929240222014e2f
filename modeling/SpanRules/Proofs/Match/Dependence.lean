import SpanRules.Proofs.Automaton.Reads
import SpanRules.Proofs.PhraseBook.Registrations
import SpanRules.Proofs.RuleBook.Matches
import SpanRules.Text.Hash

/-! # What matches depend on

A book of rules looks at the attributes that its patterns name, a book of phrases at the one that
it compares. All other attributes may change, of a document as of any other tokens, and the books
find the same.
-/

namespace SpanRules

variable {σ : Type}

/-! ## Books of rules -/

namespace RuleBook

/-- A pattern of the book names the attribute. -/
def Names (b : RuleBook σ) (a : Attribute) : Prop :=
  ∃ r ∈ b.rules, ∃ p ∈ r.patterns, p.Names a

variable {b : RuleBook σ} {view other : TokenView}

theorem reads_automaton (h : b.automaton = compile b.rules) : b.automaton.Reads b.Names := by
  rw [h, compile]
  apply Automaton.reads_ofRules
  intro rule hrule p hp a ha
  obtain ⟨r, hr, rfl⟩ := List.mem_map.mp hrule
  exact ⟨r, hr, p, hp, ha⟩

theorem measure_congr (h : b.automaton = compile b.rules) (hview : view.AgreesOn other b.Names) :
    b.measure view = b.measure other := by
  rw [measure, measure, Automaton.search_congr (reads_automaton h) hview]

end RuleBook

/-! ## Books of phrases -/

namespace PhraseBook

variable {b : PhraseBook σ} {view other : TokenView}

theorem walk_congr (hview : view.AgreesOn other (· = .text b.attr)) {start node pos left : Nat}
    (hleft : pos + left ≤ view.size) :
    b.walk view start node pos left = b.walk other start node pos left := by
  induction left generalizing node pos with
  | zero => rfl
  | succ left ih =>
      have hrest (child : Nat) :
          b.walk view start child (pos + 1) left = b.walk other start child (pos + 1) left :=
        ih (by omega)
      rw [walk, walk, hview.attr rfl (by omega)]
      simp only [hrest]

theorem find_congr (hview : view.AgreesOn other (· = .text b.attr)) :
    b.find view = b.find other := by
  rw [find, find, ← hview.size]
  refine List.flatMap_congr fun start hstart => ?_
  have hlt := List.mem_range.mp hstart
  exact walk_congr hview (by omega)

end PhraseBook

/-! ## Changes of documents -/

/-- The change is that of a field or of flags, none of which is among the given attributes. -/
def Edit.Spares (named : Attribute → Prop) : Edit → Prop
  | .set _ field _ => ¬named (.text field.sets)
  | .mark _ mask _ => ∀ f, mask.has f = true → ¬named (.flag f)
  | .merge _ _ => False

/-- A field that is set is no other attribute. -/
theorem Token.attr_set {t : Token} {field : TagField} {id : TextId} {a : Attribute}
    (h : a ≠ .text field.sets) : (t.set field id).attr a = t.attr a := by
  cases a with
  | text a =>
      have hne : a ≠ field.sets := fun ha => h (congrArg Attribute.text ha)
      cases field <;> cases a <;> first | rfl | exact absurd rfl hne
  | length => cases field <;> rfl
  | flag f => cases field <;> rfl

theorem Token.attr_assign {t : Token} {mask : FlagSet} {value : Bool} {a : Attribute}
    (h : ∀ f, mask.has f = true → a ≠ .flag f) :
    ({ t with flags := t.flags.assign mask value } : Token).attr a = t.attr a := by
  cases a with
  | text a => cases a <;> rfl
  | length => rfl
  | flag f =>
      have hmask : ¬mask.has f = true := fun hf => h f hf rfl
      simp [Token.attr, hmask]

namespace Document

variable [Hashing] {d : Document} {named : Attribute → Prop}

theorem view_agreesOn_modify {f : Token → Token} {lexicon : Lexicon} (index : Nat)
    (hf : ∀ t a, named a → (f t).attr a = t.attr a) :
    ({ lexicon, tokens := d.tokens.modify index f } : Document).view.AgreesOn d.view named where
  size := List.length_modify _ _ _
  attr {a} ha {i} _ := by
    simp only [view, token?, List.getElem?_modify]
    cases d.tokens[i]? with
    | none => rfl
    | some t =>
        by_cases hi : index = i
        · simp [hi, hf t a ha]
        · simp [hi]

theorem view_agreesOn_edit {e : Edit} (he : e.Spares named) :
    (d.edit e).view.AgreesOn d.view named := by
  cases e with
  | set index field value =>
      refine view_agreesOn_modify index fun t a ha => Token.attr_set ?_
      rintro rfl
      exact he ha
  | mark index mask value =>
      refine view_agreesOn_modify index fun t a ha => Token.attr_assign ?_
      rintro f hf rfl
      exact he f hf ha
  | merge start stop => exact he.elim

theorem view_agreesOn_editAll {edits : List Edit} (hedits : ∀ e ∈ edits, e.Spares named) :
    (d.editAll edits).view.AgreesOn d.view named := by
  induction edits generalizing d with
  | nil => exact ⟨rfl, fun _ _ _ => rfl⟩
  | cons e rest ih =>
      have hfirst := view_agreesOn_edit (d := d) (hedits e List.mem_cons_self)
      have hrest := ih (d := d.edit e) fun e he => hedits e (List.mem_cons_of_mem _ he)
      refine ⟨hrest.size.trans hfirst.size, fun ha i hi => ?_⟩
      exact (hrest.attr ha hi).trans (hfirst.attr ha (hrest.size ▸ hi))

end Document

/-! ## Both books -/

section Books

variable [Hashing]

/-- After any changes, a book of rules finds and counts the same in tokens that agree on the
attributes its patterns name, whether they are scanned first or not, and a book of phrases finds
the same in tokens that agree on the attribute it compares. So setting other fields and flags of a
document changes nothing. -/
theorem find_reads_named_attributes (options : Options) (changes : List (RuleChange σ))
    (attr : TextAttribute) (entries : List (PhraseChange σ)) :
    let b := RuleBook.history options changes
    let p := PhraseBook.history attr entries
    (∀ view other : TokenView, view.AgreesOn other b.Names →
      b.find view = b.find other ∧ b.measure view = b.measure other ∧
      ∀ prescan, b.automaton.search view prescan = b.automaton.search other prescan) ∧
    (∀ view other : TokenView, view.AgreesOn other (· = .text attr) →
      p.find view = p.find other) ∧
    (∀ (d : Document) (edits : List Edit), (∀ e ∈ edits, e.Spares b.Names) →
      b.find (d.editAll edits).view = b.find d.view) ∧
    ∀ (d : Document) (edits : List Edit), (∀ e ∈ edits, e.Spares (· = .text attr)) →
      p.find (d.editAll edits).view = p.find d.view := by
  intro b p
  have hcompiled := (RuleBook.keeps_history options changes).compiled
  have hmeasure {view other : TokenView} (hview : view.AgreesOn other b.Names) :
      b.measure view = b.measure other :=
    RuleBook.measure_congr hcompiled hview
  have hphrases {view other : TokenView} (hview : view.AgreesOn other (· = .text attr)) :
      p.find view = p.find other := by
    rw [← (PhraseBook.logs_history attr entries).attr] at hview
    exact PhraseBook.find_congr hview
  refine ⟨?_, fun view other => hphrases, ?_, ?_⟩
  · intro view other hview
    refine ⟨congrArg Prod.fst (hmeasure hview), hmeasure hview, fun prescan => ?_⟩
    exact Automaton.search_congr (RuleBook.reads_automaton hcompiled) hview prescan
  · intro d edits hedits
    exact congrArg Prod.fst (hmeasure (Document.view_agreesOn_editAll hedits))
  · intro d edits hedits
    exact hphrases (Document.view_agreesOn_editAll hedits)

end Books

/-- A tag and a flag are set that neither book asks for. What was found before is found again. -/
theorem find_reads_named_attributes_tagged :
    letI := Hashing.folded
    let p : Pattern := ⟨[⟨{ checks := [(.text .orth, .text (.of "a"))] }, .oneOrMore⟩], by decide⟩
    let b : RuleBook Unit := RuleBook.history {} [.addPatterns "A" none [p]]
    let q : PhraseBook Unit := PhraseBook.history .lower []
    let d := Document.ofWords ["a", "b"]
    let edits : List Edit := [.set 0 .pos "NOUN", .mark 1 (.ofList [.stop]) true]
    let tagged := d.editAll edits
    ((∀ e ∈ edits, e.Spares b.Names) ∧ (∀ e ∈ edits, e.Spares (· = .text .lower)) ∧
      tagged.view.AgreesOn d.view b.Names ∧ tagged.view.AgreesOn d.view (· = .text .lower)) ∧
    tagged.view.attr 0 (.text .pos) ≠ d.view.attr 0 (.text .pos) ∧
    ⟨.of "A", 0, 1⟩ ∈ b.find d.view ∧
    b.find tagged.view = b.find d.view ∧ b.measure tagged.view = b.measure d.view ∧
    q.find tagged.view = q.find d.view := by
  let _ := Hashing.folded
  intro p b q d edits tagged
  have hrules : b.rules = [⟨.of "A", [p], none⟩] := rfl
  have hnames (a : Attribute) : b.Names a ↔ a = .text .orth := by
    simp [RuleBook.Names, Pattern.Names, hrules, p]
  have hspares {named : Attribute → Prop} (hpos : ¬named (.text .pos))
      (hstop : ¬named (.flag .stop)) : ∀ e ∈ edits, e.Spares named := by
    intro e he
    simp only [edits, List.mem_cons, List.not_mem_nil, or_false] at he
    rcases he with rfl | rfl
    · exact hpos
    · intro f hf
      obtain rfl : f = .stop := by simpa using hf
      exact hstop
  have hbook : ∀ e ∈ edits, e.Spares b.Names := hspares (by simp [hnames]) (by simp [hnames])
  have hphrases : ∀ e ∈ edits, e.Spares (· = .text .lower) := hspares (by simp) (by simp)
  have hview := Document.view_agreesOn_editAll (d := d) hbook
  have hlower := Document.view_agreesOn_editAll (d := d) hphrases
  have hmatches : p.Matches d.view 0 1 := by decide +kernel
  have hcompiled := (RuleBook.keeps_history (σ := Unit) {} [.addPatterns "A" none [p]]).compiled
  have hfound : ⟨.of "A", 0, 1⟩ ∈ b.find d.view :=
    (RuleBook.mem_find hcompiled).mpr
      ⟨by decide, by decide +kernel, _, List.mem_singleton_self _, rfl, p,
        List.mem_singleton_self _, hmatches⟩
  obtain ⟨hfind, hlook, hset, -⟩ :=
    find_reads_named_attributes (σ := Unit) {} [.addPatterns "A" none [p]] .lower []
  exact ⟨⟨hbook, hphrases, hview, hlower⟩, by decide +kernel, hfound, hset d edits hbook,
    (hfind _ _ hview).2.1, hlook _ _ hlower⟩

end SpanRules
