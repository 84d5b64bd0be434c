/-!
# ASCII letters

Names are compared the way the backing engines compare them: the twenty-six ASCII capitals equal
their lower-case letters and every other character equals only itself.
-/

set_option autoImplicit false

namespace Tabular.Ascii

/-- The lower-case form of a word: ASCII capitals change, every other character stays. -/
def lower (word : String) : String :=
  String.ofList (word.toList.map Char.toLower)

/-- Two words are the same name when their lower-case forms agree. -/
def sameName (left right : String) : Bool :=
  lower left == lower right

/-- The value of a hexadecimal digit, in either case. -/
def hexDigit? (c : Char) : Option Nat :=
  if '0' ≤ c ∧ c ≤ '9' then some (c.toNat - '0'.toNat)
  else if 'a' ≤ c ∧ c ≤ 'f' then some (c.toNat - 'a'.toNat + 10)
  else if 'A' ≤ c ∧ c ≤ 'F' then some (c.toNat - 'A'.toNat + 10)
  else none

def hexNumber? (digits : List Char) : Option Nat :=
  digits.foldl (fun total c => do return (← total) * 16 + (← hexDigit? c)) (some 0)

/-- The lower-case hexadecimal digit of a number below sixteen. -/
def hexChar (n : Nat) : Char :=
  if n < 10 then Char.ofNat ('0'.toNat + n) else Char.ofNat ('a'.toNat + (n - 10))

/-- Whether a byte is one of the blanks of ASCII: space, tab, line feed, form feed or carriage
return. -/
def isBlankByte (b : UInt8) : Bool :=
  b == 0x20 || b == 0x09 || b == 0x0A || b == 0x0C || b == 0x0D

end Tabular.Ascii
