import Tabular.Json.Printer
import Tabular.Source.Labelled

/-!
# Tables from values in memory

A list of scalars is one column, a list of lists has a column for each position, a list of records
one for each key, and a record is a list of its keys and values. The first item of a list decides.
All rows are available at once.
-/

set_option autoImplicit false

namespace Tabular.InMemory

/-- What kind of value a document is, for messages. -/
def shape : Document → String
  | .null => "null"
  | .bool _ => "bool"
  | .number _ => "number"
  | .text _ => "string"
  | .list _ => "sequence"
  | .record _ => "record"

/-- The cell of a value. Integers that do not fit in sixty-four bits with sign become floating-point
numbers, lists and records JSON text. -/
def cell : Document → Cell
  | .null => .null
  | .bool value => .bool value
  | .number (.integer n) => if Number.isSigned64 n then .int n else .float (Binary64.ofInt n)
  | .number (.float x) => .float x
  | .text value => .text value
  | nested => .text (Json.compact nested)

def isInt : Cell → Bool
  | .int _ => true
  | _ => false

/-- The type of a column: integers if it holds nothing else besides null, and at least one. -/
def columnType (rows : List Row) (position : Nat) : String :=
  let cells := (rows.filterMap (·[position]?)).filter (!·.isNull)
  if !cells.isEmpty && cells.all isInt then "int" else defaultType

def ofRows (names : List String) (rows : List Row) : Source :=
  .table (some ⟨names, (List.range names.length).map (columnType rows)⟩) rows []

/-- The failure for an item that does not have the shape of the first one. -/
def mixed (first : String) (item : Document) : Error :=
  .unsupportedShape (first ++ " mixed with " ++ shape item)

def asList : Document → Result (List Document)
  | .list items => .ok items
  | item => .error (mixed "sequence" item)

def asRecord : Document → Result (List (String × Document))
  | .record fields => .ok fields
  | item => .error (mixed "record" item)

def ofLists (items : List Document) : Result Source := do
  let rows := (← items.mapM asList).map (List.map cell)
  let width := rows.foldl (fun width row => Nat.max width row.length) 0
  .ok (ofRows ((List.range width).map positionalName) (rows.map (Row.fit width)))

def ofRecords (items : List Document) : Result Source := do
  let records ← items.mapM asRecord
  let columns := KeyedColumns.ofRecords (records.map fun fields => fields.map (·.1))
  let row := fun (fields : List (String × Document)) =>
    columns.project (fields.map fun (key, value) => (key, cell value))
  .ok (ofRows columns.names (records.map row))

def source : Document → Result Source
  | .list items =>
    match items with
    | .list _ :: _ => ofLists items
    | .record _ :: _ => ofRecords items
    | _ => .ok (ofRows [positionalName 0] (items.map fun item => [cell item]))
  | .record fields =>
    .ok (ofRows [positionalName 0, positionalName 1]
      (fields.map fun (key, value) => [Cell.text key, cell value]))
  | other => .error (.unsupportedShape (shape other))

end Tabular.InMemory
