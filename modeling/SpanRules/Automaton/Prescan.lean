import SpanRules.Automaton.Basic

/-! # The literal pre-scan

A pattern whose literal texts do not all occur among the tokens cannot match, so its branch need
not be entered. The scan looks only at the attributes for which some branch requires a text.
-/

namespace SpanRules

/-- The texts found in a sequence of tokens, each with its attribute. -/
structure Prescan where
  present : List (Attribute × TextId)

namespace Prescan

/-- The attributes for which some branch requires a text. -/
def wanted (branches : List Branch) : List Attribute :=
  (branches.flatMap fun b => b.required.map (·.1)).eraseDups

/-- The texts that a token has for some attributes. -/
def textsAt (view : TokenView) (attrs : List Attribute) (index : Nat) :
    List (Attribute × TextId) :=
  attrs.filterMap fun a => (view.attr index a).textId?.map (a, ·)

def scan (view : TokenView) (branches : List Branch) : Prescan where
  present := (List.range view.size).flatMap (textsAt view (wanted branches))

/-- Everything that the branch requires has been found. -/
def allows (s : Prescan) (b : Branch) : Bool :=
  b.required.all (· ∈ s.present)

end Prescan

def Automaton.activeBranches (a : Automaton) (view : TokenView) (prescan : Bool) : List Branch :=
  if prescan then a.branches.filter (Prescan.scan view a.branches).allows else a.branches

end SpanRules
