import Tabular.Instant
import Tabular.Number.Style
import Tabular.Text.Ascii
import Tabular.Text.Utf8

/-!
# Cells and rows

A cell is one value of a table, a row a list of cells matched to the columns by position. Every
writer shows a cell by the same text.
-/

set_option autoImplicit false

namespace Tabular

inductive Cell where
  | null
  | bool (value : Bool)
  | int (value : Int)
  | float (value : Binary64)
  | text (value : String)
  /-- Bytes that need not be UTF-8. -/
  | bytes (value : List UInt8)
  | timestamp (value : Instant)
deriving DecidableEq, Repr, Inhabited

abbrev Row := List Cell

/-- A backslash, an `x` and two lower-case hexadecimal digits for every byte. -/
def hexEscape (bytes : List UInt8) : String :=
  String.ofList ('\\' :: 'x' ::
    bytes.flatMap fun b => [Ascii.hexChar (b.toNat / 16), Ascii.hexChar (b.toNat % 16)])

namespace Cell

def isNull : Cell → Bool
  | null => true
  | _ => false

/-- The cell for bytes read from an input: text when they are UTF-8. -/
def ofBytes (input : List UInt8) : Cell :=
  match Utf8.string? input with
  | some string => .text string
  | none => .bytes input

/-- The text of a cell. Null is empty, and bytes that are not UTF-8 are escaped. -/
def toText : Cell → String
  | null => ""
  | bool value => if value then "true" else "false"
  | int value => toString value
  | float value => NumberStyle.cell.text value
  | text value => value
  | bytes value => (Utf8.string? value).getD (hexEscape value)
  | timestamp value => value.text

def isExactly (sentinel : String) : Cell → Bool
  | text value => value == sentinel
  | bytes value => value == Utf8.bytes sentinel
  | _ => false

/-- Null in place of a cell that was read as the sentinel, when there is a sentinel. -/
def nullIf (sentinel : Option String) (cell : Cell) : Cell :=
  match sentinel with
  | none => cell
  | some sentinel => if cell.isExactly sentinel then null else cell

theorem nullIf_word (word : String) : (text word).nullIf (some word) = null :=
  if_pos (beq_self_eq_true word)

theorem nullIf_of_ne {sentinel : Option String} {value : String} (other : sentinel ≠ some value) :
    (text value).nullIf sentinel = text value := by
  cases sentinel with
  | none => rfl
  | some word =>
      refine if_neg fun same => ?_
      exact other (congrArg some (eq_of_beq same).symm)

/-- The text of a cell in an output that may have a word of its own for null. -/
def toTextOr (nullText : Option String) (cell : Cell) : String :=
  match cell, nullText with
  | null, some nullText => nullText
  | cell, _ => cell.toText

end Cell

namespace Row

/-- A row cut to `width` cells, or padded with null. -/
def fit (width : Nat) (row : Row) : Row :=
  row.take width ++ List.replicate (width - row.length) Cell.null

@[simp]
theorem length_fit (width : Nat) (row : Row) : (fit width row).length = width := by
  simp [fit]
  omega

theorem fit_of_length {width : Nat} {row : Row} (length : row.length = width) :
    fit width row = row := by
  rw [fit, ← length, List.take_length, Nat.sub_self, List.replicate_zero, List.append_nil]

end Row

end Tabular
