import Tabular.Source.Input
import Tabular.Source.Options

/-!
# Labelled fields

One record a line, its fields between tabs, each a label and a value with a colon between them.
Blank lines hold no record. The columns are the labels of the records read ahead; fields with other
labels are dropped.
-/

set_option autoImplicit false

namespace Tabular

/-- The cells of the columns: of each column the last one given for its key, or null. -/
def KeyedColumns.project (columns : KeyedColumns) (pairs : List (String × Cell)) : Row :=
  columns.keys.map fun key =>
    match pairs.reverse.find? (fun pair => pair.1 == key) with
    | some (_, cell) => cell
    | none => .null

/-- The schema of keyed columns, unless there are none. -/
def KeyedColumns.schema? (columns : KeyedColumns) : Option Schema :=
  if columns.names.isEmpty then none else some ⟨columns.names, defaultTypes columns.width⟩

namespace Labelled

abbrev Pair := String × Cell

/-- A line without the carriage returns at its end. -/
def trimReturns (line : List UInt8) : List UInt8 :=
  (line.reverse.dropWhile (· == 0x0D)).reverse

/-- Whether a line holds no record. -/
def isBlank (line : List UInt8) : Bool :=
  line.all Ascii.isBlankByte

/-- Read a field of the line with the given number. The label ends at the first colon. -/
def pair (null : Option String) (number : Nat) (field : List UInt8) : Result Pair :=
  match field.dropWhile (· != 0x3A) with
  | [] => .error (.invalidColumn number (Utf8.stringLossy field))
  | _ :: value =>
    .ok (Utf8.stringLossy (field.takeWhile (· != 0x3A)), (Cell.ofBytes value).nullIf null)

def pairs (null : Option String) (number : Nat) (line : List UInt8) : Result (List Pair) :=
  (line.splitOn 0x09).mapM (pair null number)

/-- The records of a feed of lines, the first of which has the given number. -/
def records (null : Option String) : Nat → Feed (List UInt8) → Feed (List Pair)
  | _, [] => []
  | number, .error failure :: rest => .error failure :: records null (number + 1) rest
  | number, .ok line :: rest =>
    let body := trimReturns line
    if isBlank body then records null (number + 1) rest
    else pairs null number body :: records null (number + 1) rest

def source (options : ReadOptions) (input : Input) : Result Source := do
  let feed ← Feed.discard options.skip (records options.null 1 input.lines)
  let (ahead, feed) ← Feed.take options.ahead feed
  let columns := KeyedColumns.ofRecords (ahead.map fun pairs => pairs.map (·.1))
  .ok (.table columns.schema? (ahead.map columns.project)
    (options.liveRows (Feed.map columns.project feed)))

end Labelled

end Tabular
