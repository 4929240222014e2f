/-! # Shortest decimals

The shortest decimal that reads back as a given double, found in exact arithmetic. A double is
`mantissa * 2 ^ exponent`; the reals that round to it form an interval, whose ends belong to it
when the mantissa is even. For one digit, two digits and so on, the two neighbours of the value
on the decimal grid of that many digits are tried, and the first grid with a hit wins.
-/

namespace SpanRules

/-- The number `digits * 10 ^ exponent`. -/
structure Decimal where
  digits : Nat
  exponent : Int
deriving DecidableEq, Repr

/-- A quotient of naturals with an interval around it: `low ≤ value ≤ high`, all over `unit`. -/
structure Interval where
  low : Nat
  value : Nat
  high : Nat
  unit : Nat
  closed : Bool

namespace Interval

/-- Divides by a power of ten. -/
def scale (i : Interval) (power : Int) : Interval :=
  if 0 ≤ power then { i with unit := i.unit * Nat.pow 10 power.toNat }
  else
    let factor := Nat.pow 10 (-power).toNat
    { i with low := i.low * factor, value := i.value * factor, high := i.high * factor }

/-- The natural number lies in the interval. -/
def holds (i : Interval) (n : Nat) : Bool :=
  if i.closed then i.low ≤ n * i.unit && n * i.unit ≤ i.high
  else i.low < n * i.unit && n * i.unit < i.high

/-- The natural number in the interval that is next to the value; a tie goes to the even one. -/
def nearest? (i : Interval) : Option Nat :=
  let below := i.value / i.unit
  let above := below + 1
  match i.holds below, i.holds above with
  | false, false => none
  | true, false => some below
  | false, true => some above
  | true, true =>
    let down := i.value - below * i.unit
    let up := above * i.unit - i.value
    if down < up then some below
    else if up < down then some above
    else if below % 2 = 0 then some below else some above

/-- The largest power of ten that is not above the value. -/
def magnitude (i : Interval) : Int :=
  if i.unit ≤ i.value then
    ((Nat.toDigits 10 (i.value / i.unit)).length : Int) - 1
  else
    let gap := (i.unit + i.value - 1) / i.value - 1
    if gap = 0 then 0 else -((Nat.toDigits 10 gap).length : Int)

end Interval

/-- The bit in front of the fraction, which is not stored: `2 ^ 52`. -/
def hiddenBit : Nat :=
  4503599627370496

/-- The bit of the sign: `2 ^ 63`. -/
def signBit : Nat :=
  9223372036854775808

/-- The reals that round to a positive double, from its fields. -/
def roundingInterval (biased fraction : Nat) : Interval :=
  let mantissa := if biased = 0 then fraction else hiddenBit + fraction
  let exponent : Int := (if biased = 0 then 1 else (biased : Int)) - 1077
  let step := if fraction = 0 ∧ 1 < biased then 1 else 2
  let factor := Nat.pow 2 exponent.toNat
  { low := (4 * mantissa - step) * factor
    value := 4 * mantissa * factor
    high := (4 * mantissa + 2) * factor
    unit := Nat.pow 2 (-exponent).toNat
    closed := mantissa % 2 = 0 }

/-- Moves the zeros at the end of the digits into the exponent, at most `count` of them. -/
def Decimal.trim (d : Decimal) : Nat → Decimal
  | 0 => d
  | count + 1 =>
    if d.digits ≠ 0 ∧ d.digits % 10 = 0 then Decimal.trim ⟨d.digits / 10, d.exponent + 1⟩ count
    else d

/-- The shortest decimal in an interval, of at most seventeen digits. -/
def Interval.shortest (i : Interval) : Decimal :=
  let top := i.magnitude
  let grids := (List.range 17).map fun (k : Nat) => top - (k : Int)
  let hit := grids.findSome? fun power => (i.scale power).nearest?.map (Decimal.mk · power)
  (hit.getD ⟨0, 0⟩).trim 17

/-- The shortest decimal that reads back as the magnitude of a finite double. -/
def shortestDecimal (x : Float) : Decimal :=
  let bits := x.toBits.toNat % signBit
  if bits = 0 then ⟨0, 0⟩ else (roundingInterval (bits / hiddenBit) (bits % hiddenBit)).shortest

end SpanRules
