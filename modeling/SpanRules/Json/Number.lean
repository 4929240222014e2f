import SpanRules.Json.Value

/-! # Numbers in JSON texts -/

namespace SpanRules

/-- A number as written: digits before the point, after it, and a signed exponent. -/
structure NumberText where
  negative : Bool
  whole : List Nat
  fraction : List Nat
  exponent : Option (Bool × List Nat)

/-- Digits gathered into a word of 64 bits, with a power of ten beside it. -/
structure Significand where
  value : Nat
  exponent : Int

namespace Significand

/-- The largest word of 64 bits. -/
def limit : Nat :=
  18446744073709551615

/-- Takes in a digit before the point. Digits that no longer fit count as zeros. -/
def pushWhole (s : Significand × Bool) (digit : Nat) : Significand × Bool :=
  if s.2 ∨ limit < s.1.value * 10 + digit then (⟨s.1.value, s.1.exponent + 1⟩, true)
  else (⟨s.1.value * 10 + digit, s.1.exponent⟩, false)

/-- Takes in a digit after the point. From the first digit that does not fit, all are dropped. -/
def pushFraction (s : Significand × Bool) (digit : Nat) : Significand × Bool :=
  if s.2 ∨ limit < s.1.value * 10 + digit then (s.1, true)
  else (⟨s.1.value * 10 + digit, s.1.exponent - 1⟩, false)

/-- The double next to `value * 10 ^ exponent`, up to the rounding of one multiplication or of
one division for every 308 places; nothing when it is too large for a double. -/
def toFloat? (s : Significand) : Option Float :=
  let start := (UInt64.ofNat s.value).toFloat
  if 0 ≤ s.exponent then
    if s.value = 0 then some start
    else if 308 < s.exponent then none
    else
      let x := start * Float.ofScientific 1 false s.exponent.toNat
      if x.isInf then none else some x
  else
    let places := (-s.exponent).toNat
    if 308 * 4 < places then some 0
    else
      let rounds := (places - 1) / 308
      let x := rounds.repeat (fun x => x / Float.ofScientific 1 false 308) start
      some (x / Float.ofScientific 1 false (places - 308 * rounds))

end Significand

/-- The largest exponent that is read as a number, a word of 32 bits with a sign; beyond it only
its sign counts. -/
def exponentLimit : Nat :=
  2147483647

/-- Keeps an exponent within a word of 32 bits with a sign. -/
def clampExponent (e : Int) : Int :=
  max (-2147483648) (min exponentLimit e)

namespace NumberText

/-- The double a number stands for, without its sign. -/
def magnitude? (t : NumberText) : Option Float :=
  let whole := t.whole.foldl Significand.pushWhole (⟨0, 0⟩, false)
  let all := (t.fraction.foldl Significand.pushFraction (whole.1, false)).1
  match t.exponent with
  | none => all.toFloat?
  | some (negative, digits) =>
    let e := digits.foldl (fun e d => e * 10 + d) 0
    if exponentLimit < e then
      if all.value ≠ 0 ∧ !negative then none else some 0
    else
      let e : Int := if negative then -(e : Int) else e
      { all with exponent := clampExponent (all.exponent + e) }.toFloat?

/-- The largest magnitude of a negative integer of 64 bits. -/
def negativeLimit : Nat :=
  9223372036854775808

/-- The number a text stands for. Without point and exponent it is an integer if it fits 64 bits,
and minus zero does not; all others are doubles. A number too large for a double is refused. -/
def value? (t : NumberText) : Option JsonNumber :=
  let whole := t.whole.foldl (fun n d => n * 10 + d) 0
  let plain := t.fraction.isEmpty && t.exponent.isNone
  if plain ∧ !t.negative ∧ whole ≤ Significand.limit then some (.integer whole)
  else if plain ∧ t.negative ∧ 0 < whole ∧ whole ≤ negativeLimit then some (.integer (-whole))
  else t.magnitude?.map fun x => .float (if t.negative then -x else x)

end NumberText

end SpanRules
