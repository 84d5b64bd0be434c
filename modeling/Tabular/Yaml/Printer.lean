import Tabular.Document
import Tabular.Number.Style
import Tabular.Text.Ascii
import Tabular.Text.Utf8
import Tabular.Yaml.Cursor
import Tabular.Yaml.Scalar

/-!
# YAML output

Collections are laid out as blocks: every item and entry starts a line, two columns behind its
parent, but a sequence inside a mapping starts at the column of its key. A text is written plainly
where it reads back as itself, with quotes otherwise, and as a literal block if it has line feeds.
-/

set_option autoImplicit false

namespace Tabular.Yaml

/-! ## Where to write -/

/-- What has been written, and what can follow it. -/
structure Sheet where
  /-- The text, in reverse. -/
  text : List Char := []
  column : Nat := 0
  /-- Whether no blank is needed before the next word. -/
  spaced : Bool := true
  /-- Whether the line holds nothing but indentation and marks that count as such. -/
  indented : Bool := true
  openEnded : Bool := false
deriving Repr, Inhabited

namespace Sheet

def put (c : Char) (sheet : Sheet) : Sheet :=
  { sheet with text := c :: sheet.text, column := sheet.column + 1 }

def putAll (text : List Char) (sheet : Sheet) : Sheet :=
  text.foldl (fun sheet c => sheet.put c) sheet

def breakLine (c : Char) (sheet : Sheet) : Sheet :=
  { sheet with text := c :: sheet.text, column := 0 }

/-- Go to a column, on a new line unless this one holds only indentation up to there. -/
def indent (column : Nat) (sheet : Sheet) : Sheet :=
  let fresh := sheet.indented &&
    (sheet.column < column || (sheet.column == column && sheet.spaced))
  let sheet := if fresh then sheet else sheet.breakLine '\n'
  { sheet.putAll (List.replicate (column - sheet.column) ' ') with spaced := true, indented := true }

/-- Write a mark. `apart` asks for a blank before it; `counts` tells that it counts as
indentation. -/
def mark (mark : String) (apart counts : Bool) (sheet : Sheet) : Sheet :=
  let sheet := if apart && !sheet.spaced then sheet.put ' ' else sheet
  { sheet.putAll mark.toList with spaced := false, indented := sheet.indented && counts }

def closed (sheet : Sheet) : Sheet :=
  { sheet with spaced := false, indented := false }

end Sheet

/-! ## Which form a text takes -/

inductive Style where
  | plain
  | singleQuoted
  | doubleQuoted
  | literal
deriving DecidableEq, Repr

def isShown (c : Char) : Bool :=
  let n := c.toNat
  n == 0x0A || (0x20 ≤ n && n ≤ 0x7E) || (0xA0 ≤ n && n < 0xFFFE && n != 0xFEFF)

/-- Whether a blank or a line break comes first, or nothing. -/
def startsBlank : List Char → Bool
  | [] => true
  | c :: _ => isSpaceOrTab c || isBreak c

/-- Whether a text starts with a character that would not be read as the start of plain text. -/
def startsWithIndicator : List Char → Bool
  | [] => false
  | c :: rest =>
    "#,[]\x7b\x7d&*!|>'\"%@`".toList.contains c ||
      ((c == '?' || c == ':' || c == '-') && startsBlank rest)

/-- Whether a colon before a blank or a comment sign behind one stands in a text. `blank` tells
whether a blank comes before it. -/
def holdsIndicator (blank : Bool) : List Char → Bool
  | [] => false
  | c :: rest =>
    (c == ':' && startsBlank rest) || (c == '#' && blank) ||
      holdsIndicator (isSpaceOrTab c || isBreak c) rest

/-- Whether two characters that satisfy the tests stand side by side. -/
def hasPair (first second : Char → Bool) (text : List Char) : Bool :=
  (text.zip text.tail).any fun pair => first pair.1 && second pair.2

/-- Whether a text can be written plainly, as far as its characters are concerned. -/
def canBePlain (text : List Char) : Bool :=
  let edge := fun (c : Option Char) => c.any fun c => c == ' ' || isBreak c
  !(edge text.head? || edge text.getLast? || text.any isBreak || text.any (!isShown ·) ||
    text.take 3 == ['-', '-', '-'] || text.take 3 == ['.', '.', '.'] ||
    startsWithIndicator text || holdsIndicator true text)

def canBeSingleQuoted (text : List Char) : Bool :=
  !(text.any (!isShown ·) || hasPair (· == ' ') isBreak text || hasPair isBreak (· == ' ') text)

def canBeLiteral (text : List Char) : Bool :=
  !(text.isEmpty || text.any (!isShown ·) || hasPair (· == ' ') isBreak text ||
    text.getLast? == some ' ')

/-- Whether a text without quotes would be read as something other than itself. -/
def isAmbiguous (text : List Char) : Bool :=
  match Scalar.ofPlain? text with
  | some (.text _) => Scalar.isPadded text
  | _ => true

def styleOf (simpleKey : Bool) (text : List Char) : Style :=
  let quoted := if canBeSingleQuoted text then Style.singleQuoted else .doubleQuoted
  if simpleKey && text.any isBreak then .doubleQuoted
  else if text.contains '\n' then
    if canBeLiteral text && !simpleKey then .literal else .doubleQuoted
  else if isAmbiguous text || !canBePlain text then quoted
  else .plain

/-! ## Writing texts -/

/-- Write a text between single quotes. `broken` tells that a line break was written last. -/
def singleQuotedBody (column : Nat) : Bool → List Char → Sheet → Sheet
  | broken, [], sheet => if broken then sheet.indent column else sheet
  | broken, c :: rest, sheet =>
    if c == ' ' then singleQuotedBody column broken rest (sheet.put c)
    else if isBreak c then
      let sheet := if !broken && c == '\n' then sheet.breakLine '\n' else sheet
      singleQuotedBody column true rest { sheet.breakLine c with indented := true }
    else
      let sheet := if broken then sheet.indent column else sheet
      let sheet := if c == '\'' then sheet.put c else sheet
      singleQuotedBody column false rest { sheet.put c with indented := false }

/-- The letter behind a backslash for a character that is not shown. -/
def escapedLetter? (c : Char) : Option Char :=
  match c.toNat with
  | 0x00 => some '0'
  | 0x07 => some 'a'
  | 0x08 => some 'b'
  | 0x09 => some 't'
  | 0x0A => some 'n'
  | 0x0B => some 'v'
  | 0x0C => some 'f'
  | 0x0D => some 'r'
  | 0x1B => some 'e'
  | 0x22 => some '"'
  | 0x5C => some '\\'
  | 0x85 => some 'N'
  | 0x2028 => some 'L'
  | 0x2029 => some 'P'
  | _ => none

/-- A number in upper-case hexadecimal digits. -/
def hexDigits (width n : Nat) : List Char :=
  (List.range width).map fun i => (Ascii.hexChar (n / Nat.pow 16 (width - 1 - i) % 16)).toUpper

def doubleQuotedChar (c : Char) : List Char :=
  if isShown c && !isBreak c && c != '"' && c != '\\' then [c]
  else
    match escapedLetter? c with
    | some letter => ['\\', letter]
    | none =>
      let n := c.toNat
      if n ≤ 0xFF then '\\' :: 'x' :: hexDigits 2 n
      else if n ≤ 0xFFFF then '\\' :: 'u' :: hexDigits 4 n
      else '\\' :: 'U' :: hexDigits 8 n

def literalBody (column : Nat) : Bool → List Char → Sheet → Sheet
  | _, [], sheet => sheet
  | broken, c :: rest, sheet =>
    if isBreak c then literalBody column true rest { sheet.breakLine c with indented := true }
    else
      let sheet := if broken then sheet.indent column else sheet
      literalBody column false rest { sheet.put c with indented := false }

/-- What stands behind the mark of a literal block: the indentation if the text starts with a blank,
and what becomes of the line breaks at its end. -/
def literalHeader (text : List Char) : String :=
  let column := if text.head?.any (fun c => c == ' ' || isBreak c) then "2" else ""
  let chomping :=
    match text.reverse with
    | last :: before =>
      if !isBreak last then "-"
      else if before.isEmpty || before.head?.any isBreak then "+"
      else ""
    | [] => "-"
  column ++ chomping

def literal (column : Nat) (text : List Char) (sheet : Sheet) : Sheet :=
  let header := literalHeader text
  let sheet := (sheet.mark ("|" ++ header) true false).breakLine '\n'
  literalBody column true text
    { sheet with spaced := true, indented := true, openEnded := header.endsWith "+" }

/-- Write a text in its form. Lines of it after the first go to the given column. -/
def textScalar (simpleKey : Bool) (column : Nat) (text : List Char) (sheet : Sheet) : Sheet :=
  match styleOf simpleKey text with
  | .plain =>
    let sheet := if sheet.spaced then sheet else sheet.put ' '
    (sheet.putAll text).closed
  | .singleQuoted =>
    ((singleQuotedBody column false text (sheet.mark "'" true false)).mark "'" false false).closed
  | .doubleQuoted =>
    (((sheet.mark "\"" true false).putAll (text.flatMap doubleQuotedChar)).mark "\"" false
      false).closed
  | .literal => literal column text sheet

def word (text : String) (sheet : Sheet) : Sheet :=
  let sheet := if sheet.spaced then sheet else sheet.put ' '
  (sheet.putAll text.toList).closed

/-! ## Writing documents -/

def isSimpleKey (key : String) : Bool :=
  !key.toList.any isBreak && (Utf8.bytes key).length ≤ 128

def numberText : Number → String
  | .integer n => toString n
  | .float x => NumberStyle.yaml.text x

/-- The column two behind a parent's, or the first one outside of all. -/
def deeper (first : Nat) : Option Nat → Nat
  | none => first
  | some column => column + 2

mutual

/-- Write a document inside the collection at column `parent`. `inMapping` tells that it is the value
of an entry. -/
def node (parent : Option Nat) (inMapping : Bool) : Document → Sheet → Sheet
  | .null, sheet => word "null" sheet
  | .bool value, sheet => word (if value then "true" else "false") sheet
  | .number n, sheet => word (numberText n) sheet
  | .text value, sheet => textScalar false (deeper 2 parent) value.toList sheet
  | .list [], sheet => (sheet.mark "[" true false).mark "]" false false
  | .list (item :: rest), sheet =>
    let column := match parent with
      | some column => if inMapping && !sheet.indented then column else column + 2
      | none => 0
    items column (item :: rest) sheet
  | .record [], sheet => (sheet.mark "\x7b" true false).mark "\x7d" false false
  | .record (field :: rest), sheet => fields (deeper 0 parent) (field :: rest) sheet

def items (column : Nat) : List Document → Sheet → Sheet
  | [], sheet => sheet
  | item :: rest, sheet =>
    items column rest (node (some column) false item ((sheet.indent column).mark "-" true true))

/-- Write the entries of a mapping. A key that cannot stand before its colon gets a mark. -/
def fields (column : Nat) : List (String × Document) → Sheet → Sheet
  | [], sheet => sheet
  | (key, value) :: rest, sheet =>
    let sheet := sheet.indent column
    let sheet :=
      if isSimpleKey key then (textScalar true (column + 2) key.toList sheet).mark ":" false false
      else
        ((textScalar false (column + 2) key.toList (sheet.mark "?" true true)).indent column).mark
          ":" true true
    fields column rest (node (some column) true value sheet)

end

def render (document : Document) : String :=
  let sheet := (node none false document {}).indent 0
  let sheet := if sheet.openEnded then (sheet.mark "..." true false).indent 0 else sheet
  String.ofList sheet.text.reverse

end Tabular.Yaml
