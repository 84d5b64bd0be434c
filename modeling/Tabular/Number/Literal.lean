import Tabular.Number.Binary64

/-!
# Number literals

Digits of any radix, and decimal literals: a sign, digits with or without a decimal point among
them, and a power of ten.
-/

set_option autoImplicit false

namespace Tabular

/-- The value of a digit; letters stand for ten and more. -/
def digitValue? (c : Char) : Option Nat :=
  if c.isDigit then some (c.toNat - '0'.toNat)
  else if 'a' ≤ c ∧ c ≤ 'z' then some (c.toNat - 'a'.toNat + 10)
  else if 'A' ≤ c ∧ c ≤ 'Z' then some (c.toNat - 'A'.toNat + 10)
  else none

def natOfDigits? (radix : Nat) (digits : List Char) : Option Nat :=
  if digits.isEmpty then none
  else
    digits.foldl (fun total c => do
      let n ← total
      let d ← digitValue? c
      if d < radix then some (n * radix + d) else none) (some 0)

/-- A decimal literal: `±digits · 10 ^ power`. -/
structure DecimalLiteral where
  negative : Bool
  digits : Nat
  power : Int
deriving DecidableEq, Repr, Inhabited

namespace DecimalLiteral

/-- A sign in front of a text, and the text after it. -/
def splitSign : List Char → Bool × List Char
  | '-' :: rest => (true, rest)
  | '+' :: rest => (false, rest)
  | rest => (false, rest)

def exponent? (text : List Char) : Option Int :=
  match text with
  | [] => some 0
  | c :: rest =>
    if c == 'e' || c == 'E' then do
      let (negative, digits) := splitSign rest
      if !digits.all Char.isDigit then none
      else
        let n ← natOfDigits? 10 digits
        some (if negative then -(n : Int) else n)
    else none

/-- Read a literal. At least one digit stands before the power of ten. -/
def parse? (text : List Char) : Option DecimalLiteral := do
  let (negative, unsigned) := splitSign text
  let (whole, afterWhole) := unsigned.span Char.isDigit
  let (fraction, afterFraction) := match afterWhole with
    | '.' :: rest => rest.span Char.isDigit
    | rest => ([], rest)
  let digits ← natOfDigits? 10 (whole ++ fraction)
  let power ← exponent? afterFraction
  some ⟨negative, digits, power - fraction.length⟩

/-- The binary64 number nearest to a literal. -/
def toBinary64 (literal : DecimalLiteral) : Binary64 :=
  Binary64.ofDecimal literal.negative literal.digits literal.power

end DecimalLiteral

end Tabular
