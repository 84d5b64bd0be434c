import Tabular.Number.Shortest

/-!
# Written forms of binary64 numbers

A number is written with its shortest digits. What remains is a choice of the output format and is
held in one record: where positional form ends, how a whole number is marked, and the words for the
values that are not finite.
-/

set_option autoImplicit false

namespace Tabular

structure NumberStyle where
  /-- Whether the decimal point stands in place when it comes after so many digits. -/
  positional : Int → Bool
  /-- What stands before the digits of a power of ten that is not negative. -/
  exponentSign : String
  /-- What follows the digits of a whole number in positional form. -/
  wholeMark : String
  nan : String
  infinity : String
  negativeInfinity : String

namespace NumberStyle

/-- Cells show every number in positional form and whole numbers without a fraction. -/
def cell : NumberStyle :=
  { positional := fun _ => true
    exponentSign := ""
    wholeMark := ""
    nan := "NaN"
    infinity := "inf"
    negativeInfinity := "-inf" }

/-- Interchange formats keep a fraction on whole numbers, and use an exponent where more than
sixteen digits stand before the point or more than four zeros after it. -/
def interchange : NumberStyle :=
  { positional := fun point => -5 < point && point ≤ 16
    exponentSign := "+"
    wholeMark := ".0"
    nan := "NaN"
    infinity := "inf"
    negativeInfinity := "-inf" }

/-- YAML numbers are interchange numbers without plus signs, and YAML has words of its own for the
others. -/
def yaml : NumberStyle :=
  { interchange with
    exponentSign := ""
    nan := ".nan"
    infinity := ".inf"
    negativeInfinity := "-.inf" }

def zeros (count : Nat) : List Char :=
  List.replicate count '0'

/-- Digits with a decimal point after the first `point` of them; zeros fill the gap to the point. -/
def positionalText (style : NumberStyle) (digits : List Char) (point : Int) : List Char :=
  let count := digits.length
  if point ≤ 0 then '0' :: '.' :: zeros (-point).toNat ++ digits
  else if (count : Int) ≤ point then
    digits ++ zeros (point - count).toNat ++ style.wholeMark.toList
  else digits.take point.toNat ++ '.' :: digits.drop point.toNat

/-- Digits with a decimal point after the first, and the power of ten that corrects for it. -/
def exponentText (style : NumberStyle) (digits : List Char) (point : Int) : List Char :=
  let power := (if 1 ≤ point then style.exponentSign.toList else []) ++ (toString (point - 1)).toList
  match digits with
  | [] => []
  | [d] => d :: 'e' :: power
  | d :: rest => d :: '.' :: rest ++ 'e' :: power

/-- The text of a decimal without sign. -/
def decimalText (style : NumberStyle) (d : Decimal) : List Char :=
  if d.digits = 0 then '0' :: style.wholeMark.toList
  else
    let digits := (toString d.digits).toList
    let point := d.power + digits.length
    if style.positional point then positionalText style digits point
    else exponentText style digits point

def text (style : NumberStyle) (x : Binary64) : String :=
  if x.isNaN then style.nan
  else if !x.isFinite then if x.negative then style.negativeInfinity else style.infinity
  else
    let digits := decimalText style (Shortest.decimal x)
    String.ofList (if x.negative then '-' :: digits else digits)

end NumberStyle

end Tabular
