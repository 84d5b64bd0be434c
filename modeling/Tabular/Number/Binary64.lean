/-!
# Binary64 numbers

The IEEE 754 double-precision numbers, kept as their 64 bits. A finite one is `± m · 2 ^ q` with
natural `m`; conversions round exactly, in natural-number arithmetic, to the nearest number and to
an even one between two equally near.
-/

set_option autoImplicit false

namespace Tabular

/-- A double-precision number, given by its bits. -/
structure Binary64 where
  bits : UInt64
deriving DecidableEq, Repr, Inhabited

namespace Binary64

def negative (x : Binary64) : Bool :=
  x.bits.toNat / Nat.pow 2 63 == 1

def exponentField (x : Binary64) : Nat :=
  x.bits.toNat / Nat.pow 2 52 % Nat.pow 2 11

def fraction (x : Binary64) : Nat :=
  x.bits.toNat % Nat.pow 2 52

def isFinite (x : Binary64) : Bool :=
  x.exponentField != 2047

def isNaN (x : Binary64) : Bool :=
  x.exponentField == 2047 && x.fraction != 0

/-- The natural number `m` of a finite `± m · 2 ^ q`. -/
def mantissa (x : Binary64) : Nat :=
  if x.exponentField == 0 then x.fraction else x.fraction + Nat.pow 2 52

/-- The exponent `q` of a finite `± m · 2 ^ q`. -/
def exponent (x : Binary64) : Int :=
  (Nat.max x.exponentField 1 : Int) - 1075

def isZero (x : Binary64) : Bool :=
  x.isFinite && x.mantissa == 0

/-- The number with the given sign bit and the given bits below it. -/
def ofParts (negative : Bool) (magnitude : Nat) : Binary64 :=
  ⟨UInt64.ofNat (magnitude + if negative then Nat.pow 2 63 else 0)⟩

def zero (negative : Bool) : Binary64 :=
  ofParts negative 0

def infinity (negative : Bool) : Binary64 :=
  ofParts negative (2047 * Nat.pow 2 52)

/-- The quiet number that stands for no number. -/
def nan : Binary64 :=
  ofParts false (2047 * Nat.pow 2 52 + Nat.pow 2 51)

def withSign (negative : Bool) (x : Binary64) : Binary64 :=
  ofParts negative (x.bits.toNat % Nat.pow 2 63)

/-- A quotient rounded to a natural number: the nearest one, an even one for a half. -/
def roundQuotient (numerator denominator : Nat) : Nat :=
  let whole := numerator / denominator
  let twice := 2 * (numerator % denominator)
  if twice < denominator then whole
  else if denominator < twice then whole + 1
  else whole + whole % 2

/-- A positive quotient divided by a power of two and rounded to a natural number. -/
def scaledQuotient (numerator denominator : Nat) (power : Int) : Nat :=
  if 0 ≤ power then roundQuotient numerator (denominator * Nat.pow 2 power.toNat)
  else roundQuotient (numerator * Nat.pow 2 (-power).toNat) denominator

/-- Whether `numerator / denominator` is at least `2 ^ power`. -/
def reaches (numerator denominator : Nat) (power : Int) : Bool :=
  if 0 ≤ power then denominator * Nat.pow 2 power.toNat ≤ numerator
  else denominator ≤ numerator * Nat.pow 2 (-power).toNat

/-- The exponent of two under which a positive quotient has fifty-three binary digits, or the least
exponent there is. -/
def roundingExponent (numerator denominator : Nat) : Int :=
  let guess : Int := (Nat.log2 numerator : Int) - Nat.log2 denominator
  let top := if reaches numerator denominator guess then guess else guess - 1
  if top - 52 < -1074 then -1074 else top - 52

/-- The number nearest to a quotient of natural numbers, with the given sign. -/
def ofQuotient (negative : Bool) (numerator denominator : Nat) : Binary64 :=
  if numerator = 0 then zero negative
  else
    let power := roundingExponent numerator denominator
    let magnitude := scaledQuotient numerator denominator power + (power + 1074).toNat * Nat.pow 2 52
    if 2047 * Nat.pow 2 52 ≤ magnitude then infinity negative else ofParts negative magnitude

/-- The number nearest to `digits · 10 ^ power`. Magnitudes far outside the range of the format are
decided by their number of digits. -/
def ofDecimal (negative : Bool) (digits : Nat) (power : Int) : Binary64 :=
  let size : Int := (toString digits).length + power
  if digits = 0 then zero negative
  else if 400 < size then infinity negative
  else if size < -400 then zero negative
  else if 0 ≤ power then ofQuotient negative (digits * Nat.pow 10 power.toNat) 1
  else ofQuotient negative digits (Nat.pow 10 (-power).toNat)

/-- The number nearest to a natural number. -/
def ofNat (n : Nat) : Binary64 :=
  ofQuotient false n 1

/-- The number nearest to an integer. -/
def ofInt (n : Int) : Binary64 :=
  ofQuotient (n < 0) n.natAbs 1

def magnitude (x : Binary64) : Nat × Nat :=
  if 0 ≤ x.exponent then (x.mantissa * Nat.pow 2 x.exponent.toNat, 1)
  else (x.mantissa, Nat.pow 2 (-x.exponent).toNat)

/-- The product of a finite number and a finite number, rounded. -/
def mul (x y : Binary64) : Binary64 :=
  let (a, b) := x.magnitude
  let (c, d) := y.magnitude
  ofQuotient (x.negative != y.negative) (a * c) (b * d)

/-- The quotient of a finite number by a finite number other than zero, rounded. -/
def div (x y : Binary64) : Binary64 :=
  let (a, b) := x.magnitude
  let (c, d) := y.magnitude
  ofQuotient (x.negative != y.negative) (a * d) (b * c)

/-- The value of a finite number as a signed numerator over a natural denominator. -/
def toQuotient (x : Binary64) : Int × Nat :=
  let (a, b) := x.magnitude
  (if x.negative then -(a : Int) else a, b)

/-- The integer a finite number equals, if it is one. -/
def toInt? (x : Binary64) : Option Int :=
  if x.isFinite then
    let (numerator, denominator) := x.toQuotient
    if numerator % denominator = 0 then some (numerator / denominator) else none
  else none

end Binary64

end Tabular
