import Tabular.Cell
import Tabular.Json.Parser
import Tabular.Json.Printer
import Tabular.Sink.Delimited
import Tabular.Sink.Grid
import Tabular.Text.Blank
import Tabular.Yaml.Printer

/-!
# Writing results

A result is written by announcing its columns and types, giving its rows and finishing it. A sink
turns these calls into text. One sink can write several results, one after the other.
-/

set_option autoImplicit false

namespace Tabular

/-- A cell as a document. Text that holds a JSON list or record is taken for it. -/
def Cell.document (null : Option String) : Cell → Document
  | .null => match null with
    | some word => .text word
    | none => .null
  | .bool value => .bool value
  | .int value => .number (.integer value)
  | .float value => if value.isFinite then .number (.float value) else .null
  | .text value =>
    let start := value.toList.dropWhile Text.isBlank
    if start.head? == some '\x7b' || start.head? == some '[' then
      (Json.parse? value).getD (.text value)
    else .text value
  | other => .text other.toText

def Row.document (null : Option String) (columns : List String) (row : Row) : Document :=
  .record (Document.fieldsOf
    (List.zipWith (fun column cell => (column, cell.document null)) columns row))

def portableType (engineType : String) : String :=
  match Ascii.lower engineType with
  | "smallint" | "integer" | "int" | "int2" | "int4" | "smallserial" | "serial" => "int"
  | "bigint" | "int8" | "bigserial" => "bigint"
  | "float" | "float4" | "float8" | "decimal" | "numeric" | "real" | "double"
  | "double precision" => "numeric"
  | "bool" | "boolean" => "bool"
  | "timestamp" | "timestamptz" | "date" | "time" | "datetime" => "timestamp"
  | _ => "text"

/-- What a sink writes, and what it has to remember for it. -/
inductive SinkForm where
  | delimited (dialect : Delimited.Dialect) (header : Bool)
  | labelled
  | jsonList (rows : List Document)
  | jsonLines
  | yaml (rows : List Document)
  | framed
  | raw (separator : String) (header : Bool)
  | table (style : GridStyle) (grid : Grid)
  | vertical (width count : Nat)
deriving Inhabited

structure Sink where
  form : SinkForm
  null : Option String := none
deriving Inhabited

namespace Sink

def frame (cells : List String) : List Char :=
  '|' :: cells.flatMap (fun cell =>
    ' ' :: cell.toList.flatMap (fun c => if c == '|' then ['|', '|'] else [c]) ++ [' ', '|'])

def stars : String := "***************************"

def rightAligned (width : Nat) (text : String) : String :=
  String.ofList (List.replicate (width - text.length) ' ') ++ text

/-- The lines of a row, each column on a line of its own. -/
def verticalRow (null : Option String) (width number : Nat) (columns : List String) (row : Row) :
    String :=
  let lines := List.zipWith (fun column (cell : Cell) =>
    rightAligned width column ++ ": " ++ cell.toTextOr null ++ "\n") columns row
  stars ++ " " ++ toString number ++ ". row " ++ stars ++ "\n" ++ String.join lines

def labelledRow (null : Option String) (columns : List String) (row : Row) : String :=
  "\t".intercalate (List.zipWith (fun column (cell : Cell) => column ++ ":" ++ cell.toTextOr null)
    columns row) ++ "\n"

/-- Announce the columns of a result. What is written stands in front. -/
def start (sink : Sink) (columns types : List String) : String × Sink :=
  match sink.form with
  | .delimited dialect header =>
    (if header && !columns.isEmpty then
      String.ofList (dialect.record (columns.map String.toList)) else "", sink)
  | .labelled => ("", sink)
  | .jsonList _ => ("", { sink with form := .jsonList [] })
  | .jsonLines => ("", sink)
  | .yaml _ => ("", { sink with form := .yaml [] })
  | .framed =>
    (String.ofList ("; name: ".toList ++ frame columns ++ "\n; type: ".toList ++
      frame (types.map portableType) ++ ['\n']), sink)
  | .raw separator header =>
    (if header then separator.intercalate columns ++ "\n" else "", sink)
  | .table style grid => ("", { sink with form := .table style (grid.announce columns) })
  | .vertical _ _ =>
    ("", { sink with form := .vertical ((columns.map String.length).foldl Nat.max 0) 0 })

def row (sink : Sink) (row : Row) (columns : List String) : String × Sink :=
  let cells := row.map (Cell.toTextOr sink.null)
  match sink.form with
  | .delimited dialect _ => (String.ofList (dialect.record (cells.map String.toList)), sink)
  | .labelled => (labelledRow sink.null columns row, sink)
  | .jsonList rows =>
    ("", { sink with form := .jsonList (rows ++ [row.document sink.null columns]) })
  | .jsonLines => (Json.compact (row.document sink.null columns) ++ "\n", sink)
  | .yaml rows => ("", { sink with form := .yaml (rows ++ [row.document sink.null columns]) })
  | .framed => (String.ofList (frame cells ++ ['\n']), sink)
  | .raw separator _ => (separator.intercalate cells ++ "\n", sink)
  | .table style grid =>
    ("", { sink with form := .table style { grid with rows := grid.rows ++ [cells] } })
  | .vertical width count =>
    (verticalRow sink.null width (count + 1) columns row,
      { sink with form := .vertical width (count + 1) })

def finish (sink : Sink) : String × Sink :=
  match sink.form with
  | .jsonList rows => (Json.pretty 0 (.list rows) ++ "\n", sink)
  | .yaml rows => (Yaml.render (.list rows), sink)
  | .table style grid => (grid.draw style ++ "\n", sink)
  | _ => ("", sink)

/-- The sink that options ask for. A delimiter that is not the literal of one character separates
raw values as it is written. -/
def ofOptions (options : WriteOptions) : Result Sink := do
  let form ← match options.format with
    | .csv => (Delimited.Dialect.ofOptions options).map fun dialect =>
      SinkForm.delimited dialect options.header
    | .ltsv => .ok .labelled
    | .json => .ok (.jsonList [])
    | .jsonl => .ok .jsonLines
    | .yaml => .ok (.yaml [])
    | .tbln => .ok .framed
    | .raw =>
      let separator := match Delimiter.parse options.delimiter with
        | .ok c => String.singleton c
        | .error _ => options.delimiter
      .ok (.raw separator options.header)
    | .table => .ok (.table .full {})
    | .markdown => .ok (.table .markdown {})
    | .vertical => .ok (.vertical 0 0)
  .ok { form := form, null := options.null }

end Sink

end Tabular
