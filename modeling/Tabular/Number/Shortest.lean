import Tabular.Number.Binary64

/-!
# Shortest decimals

The decimal with the fewest digits among those that round to a given binary64 number, and among
these the one nearest to it. Everything is decided in natural-number arithmetic: the reals that
round to `m · 2 ^ q` form an interval between the midpoints to its neighbours, ends included when
`m` is even.
-/

set_option autoImplicit false

namespace Tabular

/-- A natural number scaled by a power of ten. -/
structure Decimal where
  digits : Nat
  power : Int
deriving DecidableEq, Repr, Inhabited

namespace Shortest

/-- The interval of reals that round to a positive finite number, scaled by four units in the last
place: `low / scale ≤ 4 · x ≤ high / scale`. -/
structure Interval where
  low : Nat
  centre : Nat
  high : Nat
  scale : Nat
  closed : Bool

/-- The interval around `m · 2 ^ q`. Below a power of two the gap to the previous number is half as
wide. -/
def Interval.around (x : Binary64) : Interval :=
  let m := x.mantissa
  let below := if x.fraction == 0 && 1 < x.exponentField then 1 else 2
  let factor := Nat.pow 2 x.exponent.toNat
  { low := (4 * m - below) * factor
    centre := 4 * m * factor
    high := (4 * m + 2) * factor
    scale := 4 * Nat.pow 2 (-x.exponent).toNat
    closed := m % 2 == 0 }

/-- Whether `n · unit` lies in the interval, `unit` being a quotient. -/
def Interval.contains (i : Interval) (n : Nat) (unitNumerator unitDenominator : Nat) : Bool :=
  let point := n * unitNumerator * i.scale
  let low := i.low * unitDenominator
  let high := i.high * unitDenominator
  if i.closed then low ≤ point && point ≤ high else low < point && point < high

def powerOfTen (power : Int) : Nat × Nat :=
  if 0 ≤ power then (Nat.pow 10 power.toNat, 1) else (1, Nat.pow 10 (-power).toNat)

/-- The number of digits before the decimal point: the least `k` with `x < 10 ^ k`, counted from a
guess that is at most a few steps off. -/
def pointPosition (numerator denominator : Nat) : Nat → Int → Int
  | 0, k => k
  | fuel + 1, k =>
    let (a, b) := powerOfTen k
    if a * denominator ≤ numerator * b then pointPosition numerator denominator fuel (k + 1)
    else
      let (c, d) := powerOfTen (k - 1)
      if numerator * d < c * denominator then pointPosition numerator denominator fuel (k - 1)
      else k

/-- The grid point nearest to the centre among the two neighbours that lie in the interval. -/
def onGrid? (i : Interval) (power : Int) : Option Decimal :=
  let (a, b) := powerOfTen power
  let below := i.centre * b / (a * i.scale)
  let fits := fun n => i.contains n a b
  match fits below, fits (below + 1) with
  | true, false => some ⟨below, power⟩
  | false, true => some ⟨below + 1, power⟩
  | true, true =>
    let under := i.centre * b - below * a * i.scale
    let above := (below + 1) * a * i.scale - i.centre * b
    if under < above ∨ (under = above ∧ below % 2 = 0) then some ⟨below, power⟩
    else some ⟨below + 1, power⟩
  | false, false => none

def search (i : Interval) (point : Int) : Nat → Nat → Decimal
  | 0, count => ⟨i.centre / i.scale, point - count⟩
  | fuel + 1, count =>
    match onGrid? i (point - count) with
    | some found => found
    | none => search i point fuel (count + 1)

/-- A decimal without trailing zero digits. -/
def strip : Nat → Decimal → Decimal
  | 0, d => d
  | fuel + 1, d =>
    if d.digits % 10 = 0 ∧ d.digits ≠ 0 then strip fuel ⟨d.digits / 10, d.power + 1⟩ else d

/-- The shortest decimal that rounds to the magnitude of a finite number. -/
def decimal (x : Binary64) : Decimal :=
  if x.mantissa = 0 then ⟨0, 0⟩
  else
    let i := Interval.around x
    let guess : Int := ((Nat.log2 i.centre : Int) - Nat.log2 i.scale) * 30103 / 100000
    let point := pointPosition i.centre i.scale 8 guess
    strip 20 (search i point 20 1)

end Shortest

end Tabular
