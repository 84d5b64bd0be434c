import Tabular.Run.Gather
import Tabular.Sink.Grid

/-!
# Descriptions of references

What a reference looks like as a table: its columns and their types, the rows read ahead as samples,
and queries to start from. A report may color its headings.
-/

set_option autoImplicit false

namespace Tabular

structure Description where
  table : String
  options : ReadOptions
  names : List String
  types : List String
  samples : List (List String)
deriving Inhabited

namespace Description

def keywords : List String :=
  ["all", "and", "as", "asc", "between", "by", "case", "cast", "check", "column", "create", "cross",
    "current_date", "current_time", "default", "delete", "desc", "distinct", "drop", "else", "end",
    "except", "exists", "false", "fetch", "for", "from", "full", "group", "having", "in", "index",
    "inner", "insert", "intersect", "into", "is", "join", "key", "lateral", "left", "like", "limit",
    "natural", "not", "null", "offset", "on", "or", "order", "outer", "primary", "references",
    "right", "select", "set", "table", "then", "to", "true", "union", "unique", "update", "user",
    "using", "values", "when", "where", "window", "with"]

/-- Whether a name can stand in a query without quotes. -/
def isPlain (name : String) : Bool :=
  !name.isEmpty && name.toList.all (fun c => c.isLower || c.isDigit || c == '_') &&
    !keywords.contains name

def quoteName (dialect : Dialect) (name : String) : String :=
  if isPlain name then name else dialect.quoteIdent name

def read (options : ReadOptions) (reference : String) : Call Surroundings Description := fun around =>
  let (outcome, around) := Reference.resolve reference around
  (do
    match ← outcome with
    | none => .error (.config (reference ++ ": no such file"))
    | some opened =>
      let options := Run.optionsFor options opened
      let source ← Source.read options opened.input
      let schema ← source.schema
      return {
        table := Run.tableName opened
        options := options
        names := schema.names
        types := schema.types
        samples := source.takeAhead.1.map fun row => row.map Cell.toText },
    around)

/-! ## Queries to start from -/

def literalText (text : String) : String :=
  String.ofList (text.toList.flatMap fun c => if c == '\'' then ['\'', '\''] else [c])

/-- Queries of a table with the given columns and a first row: all rows, those like the first row,
groups, and the first rows in order. -/
def queries (table : String) (columns : List String) (first : List String) : List String :=
  let all := ", ".intercalate columns
  let key := columns.headD ""
  let value := literalText (first.headD "")
  ["SELECT " ++ all ++ " FROM " ++ table,
    "SELECT " ++ all ++ " FROM " ++ table ++ " WHERE " ++ key ++ " = '" ++ value ++ "'",
    "SELECT " ++ key ++ ", count(" ++ key ++ ") FROM " ++ table ++ " GROUP BY " ++ key,
    "SELECT " ++ all ++ " FROM " ++ table ++ " ORDER BY " ++ key ++ " LIMIT 10"]

def columns (description : Description) (dialect : Dialect) : List String :=
  description.names.map (quoteName dialect)

/-- The queries to start from. There are none without a sample. -/
def examples (description : Description) (dialect : Dialect) : List String :=
  match description.samples with
  | [] => []
  | first :: _ => queries description.table (description.columns dialect) first

/-! ## Reports -/

inductive Color where
  | red
  | yellow
  | magenta
  | cyan
deriving DecidableEq, Repr, Inhabited

def Color.code : Color → String
  | red => "31"
  | yellow => "33"
  | magenta => "35"
  | cyan => "36"

structure ReportStyle where
  command : String := "flatsql"
  dialect : Dialect := Driver.sqlite.dialect
  detail : Bool := true
  colored : Bool := false
deriving Inhabited

namespace ReportStyle

def paint (style : ReportStyle) (color : Color) (text : String) : String :=
  if style.colored then "\x1b[" ++ color.code ++ "m" ++ text ++ "\x1b[0m" else text

def line (style : ReportStyle) (color : Color) (text : String) : String :=
  style.paint color text ++ "\n"

end ReportStyle

def occurrences (c : Char) (text : String) : Nat :=
  text.toList.count c

/-- What to try when an input of one column begins with the given text. -/
def advice (description : Description) (value : String) : List String :=
  match description.options.format with
  | .csv =>
    if value == "[" || value == "\x7b" then
      ["Is it a JSON file?", "Please try again with --ifmt json."]
    else
      let delimiter :=
        if 1 < occurrences '\t' value then "\\t"
        else if 1 < occurrences ';' value then ";"
        else " "
      ["Is the delimiter different?",
        "Please try again with --id \"" ++ delimiter ++ "\" or other character."] ++
        if 0 < occurrences ':' value then
          ["Is it a LTSV file?", "Please try again with --ifmt ltsv."]
        else []
  | .json | .yaml =>
    let name := description.names.headD ""
    let path := match description.options.path with
      | some path => path ++ "." ++ name
      | none => name
    ["Is it for internal objects?", "Please try again with --ipath \"" ++ path ++ "\"."]
  | _ => []

def hints (description : Description) : List String :=
  match description.names, description.samples with
  | _ :: _ :: _, _ => []
  | _, (value :: _) :: _ => description.advice value
  | _, _ => []

def drawn (header : List String) (rows : List (List String)) : String :=
  Grid.draw .full { header := some header, rows := rows } ++ "\n"

def details (description : Description) (style : ReportStyle) : String :=
  let columns := description.columns style.dialect
  "The table name is " ++ style.paint .yellow description.table ++ ".\n" ++
    "The file type is " ++ style.paint .red description.options.format.name ++ ".\n" ++
    String.join (description.hints.map (style.line .magenta)) ++
    style.line .cyan "\nData types:" ++
    drawn ["column name", "type"] (List.zipWith (fun name type => [name, type]) columns
      description.types) ++
    style.line .cyan "\nData samples:" ++
    drawn columns description.samples ++
    style.line .cyan "\nExamples:"

def report (description : Description) (style : ReportStyle) : String :=
  (if style.detail then description.details style else "") ++
    String.join ((description.examples style.dialect).map fun query =>
      style.command ++ " \"" ++ query ++ "\"\n")

end Description

end Tabular
