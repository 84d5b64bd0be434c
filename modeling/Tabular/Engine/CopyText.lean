import Tabular.Cell

/-!
# Copy text

The text in which rows are streamed to an engine: one row a line, cells between tabs, `\N` for null.
Backslashes, tabs and line ends inside a text are written as two characters, so that every line
and every tab is one of the format. Numbers and times have none of these and are written as they
are.
-/

set_option autoImplicit false

namespace Tabular

/-- Numbers of the copy text are interchange numbers without plus signs. -/
def NumberStyle.copy : NumberStyle :=
  { interchange with exponentSign := "" }

namespace CopyText

def escapeByte (b : UInt8) : List UInt8 :=
  if b == 0x5C then [0x5C, 0x5C]
  else if b == 0x09 then [0x5C, 0x74]
  else if b == 0x0A then [0x5C, 0x6E]
  else if b == 0x0D then [0x5C, 0x72]
  else [b]

/-- The bytes of a text, escaped. -/
def escape (content : List UInt8) : List UInt8 :=
  content.flatMap escapeByte

def nullMark : List UInt8 := [0x5C, 0x4E]

/-- The lower-case hexadecimal digit of a number below sixteen, as a byte. -/
def hexDigit (value : UInt8) : UInt8 :=
  if value < 10 then 0x30 + value else 0x61 + value - 10

def hexPair (b : UInt8) : List UInt8 :=
  [hexDigit (b >>> 4), hexDigit (b &&& 0x0F)]

/-- Bytes that are not UTF-8: an escaped backslash, an `x` and two digits for each. -/
def hexText (input : List UInt8) : List UInt8 :=
  0x5C :: 0x5C :: 0x78 :: input.flatMap hexPair

def cell : Cell → List UInt8
  | .null => nullMark
  | .bool value => [if value then 0x74 else 0x66]
  | .int value => Utf8.bytes (toString value)
  | .float value => Utf8.bytes (NumberStyle.copy.text value)
  | .text value => escape (Utf8.bytes value)
  | .bytes value =>
    match Utf8.string? value with
    | some text => escape (Utf8.bytes text)
    | none => hexText value
  | .timestamp value => Utf8.bytes value.text

/-- The copy text of a row: the cells at the first `width` positions, null where there is none. -/
def row (width : Nat) (row : Row) : List UInt8 :=
  [0x09].intercalate ((List.range width).map fun i => cell (row.getD i .null)) ++ [0x0A]

end CopyText

end Tabular
