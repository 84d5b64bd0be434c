import Tabular.Query.Field

/-!
# Tables of a query

The fields in table position: right after `FROM` or `JOIN`, or after a comma in a table list. A
table list starts at `FROM` or `JOIN` and ends at a word that can follow it.
-/

set_option autoImplicit false

namespace Tabular.Query

def listStarts : List (List Char) :=
  ["FROM", "JOIN"].map String.toList

def listEnds : List (List Char) :=
  ["WHERE", "GROUP", "HAVING", "WINDOW", "UNION", "ORDER", "LIMIT", "OFFSET", "FETCH", "FOR",
    "LEFT", "RIGHT", "CROSS", "INNER", "FULL", "LATERAL", "(SELECT"].map String.toList

/-- Whether a word starts a table list, in any case of letters. -/
def startsList (word : List Char) : Bool :=
  listStarts.contains (word.map Char.toUpper)

/-- Whether a word ends a table list, in any case of letters. -/
def endsList (word : List Char) : Bool :=
  listEnds.contains (word.map Char.toUpper)

structure Span where
  name : List Char
  start : Nat
deriving DecidableEq, Repr, Inhabited

namespace Span

def stop (span : Span) : Nat :=
  span.start + span.name.length

/-- A text without the parenthesis at its end. -/
def unclosed (text : List Char) : List Char :=
  match text.reverse with
  | ')' :: rest => rest.reverse
  | _ => text

/-- The reference in a field. A closing parenthesis behind it does not belong to it, and the field
may hold none. -/
def of? (field : Field) : Option Span :=
  let name := unclosed field.text
  if name.isEmpty || name == [','] || endsList name then none else some ⟨name, field.start⟩

def byteRange (sql : List Char) (span : Span) : Nat × Nat :=
  let size := fun (text : List Char) => text.foldl (fun size c => size + c.utf8Size) 0
  let before := size (sql.take span.start)
  (before, before + size span.name)

end Span

def inListAfter (inList : Bool) (word : List Char) : Bool :=
  if startsList word then true else if endsList word then false else inList

def precedesTable (word : List Char) : Bool :=
  startsList word || word == [',']

/-- The references among fields, inside a table list or not. -/
def spansFrom (inList : Bool) : List Field → List Span
  | [] => []
  | word :: rest =>
    let inList := inListAfter inList word.text
    let here := if inList && precedesTable word.text then rest.head?.bind Span.of? else none
    here.toList ++ spansFrom inList rest

/-- All table references of a query, in order. -/
def tableSpans (sql : List Char) : List Span :=
  spansFrom false (fieldsAt sql)

/-- The names of the tables of a query, each once, in order of first appearance. -/
def tableRefs (sql : String) : List String :=
  ((tableSpans sql.toList).map fun span => String.ofList span.name).eraseDups

end Tabular.Query
