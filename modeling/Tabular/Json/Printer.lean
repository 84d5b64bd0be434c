import Tabular.Document
import Tabular.Number.Style
import Tabular.Text.Ascii

/-!
# JSON output

Compact text puts nothing between tokens. Laid-out text puts every item and field on a line of its
own, two columns deeper than its list or record.
-/

set_option autoImplicit false

namespace Tabular.Json

/-- A character inside a quoted text. Quotes, backslashes and control characters are escaped, with
a letter where JSON has one. -/
def escapeChar (c : Char) : List Char :=
  if c == '"' then ['\\', '"']
  else if c == '\\' then ['\\', '\\']
  else if c == '\n' then ['\\', 'n']
  else if c == '\r' then ['\\', 'r']
  else if c == '\t' then ['\\', 't']
  else if c == '\x08' then ['\\', 'b']
  else if c == '\x0C' then ['\\', 'f']
  else if c.toNat < 0x20 then
    ['\\', 'u', '0', '0', Ascii.hexChar (c.toNat / 16), Ascii.hexChar (c.toNat % 16)]
  else [c]

def quoted (text : String) : String :=
  String.ofList ('"' :: text.toList.flatMap escapeChar ++ ['"'])

def numberText : Number → String
  | .integer n => toString n
  | .float x => NumberStyle.interchange.text x

mutual

def compact : Document → String
  | .null => "null"
  | .bool value => if value then "true" else "false"
  | .number n => numberText n
  | .text value => quoted value
  | .list items => "[" ++ ",".intercalate (compactItems items) ++ "]"
  | .record fields => "\x7b" ++ ",".intercalate (compactFields fields) ++ "\x7d"

def compactItems : List Document → List String
  | [] => []
  | item :: rest => compact item :: compactItems rest

def compactFields : List (String × Document) → List String
  | [] => []
  | (key, value) :: rest => (quoted key ++ ":" ++ compact value) :: compactFields rest

end

def newLine (depth : Nat) : String :=
  String.ofList ('\n' :: List.replicate (2 * depth) ' ')

mutual

/-- The laid-out JSON text of a document that stands at the given depth. -/
def pretty (depth : Nat) : Document → String
  | .list [] => "[]"
  | .list (item :: rest) =>
    "[" ++ ",".intercalate (prettyItems (depth + 1) (item :: rest)) ++ newLine depth ++ "]"
  | .record [] => "\x7b\x7d"
  | .record (field :: rest) =>
    "\x7b" ++ ",".intercalate (prettyFields (depth + 1) (field :: rest)) ++ newLine depth ++ "\x7d"
  | scalar => compact scalar

/-- The items of a list, each on a line of its own. -/
def prettyItems (depth : Nat) : List Document → List String
  | [] => []
  | item :: rest => (newLine depth ++ pretty depth item) :: prettyItems depth rest

/-- The fields of a record, each on a line of its own. -/
def prettyFields (depth : Nat) : List (String × Document) → List String
  | [] => []
  | (key, value) :: rest =>
    (newLine depth ++ quoted key ++ ": " ++ pretty depth value) :: prettyFields depth rest

end

end Tabular.Json
