import Tabular.Document.Path
import Tabular.Json.Parser
import Tabular.Json.Printer
import Tabular.Source.Labelled
import Tabular.Yaml.Node

/-!
# Rows of documents

A list gives a row for each of its items, any other document a row of its own, and null none. A
record fills the columns of its keys, any other item the column `c1`. Lists and records inside a row
are shown as JSON text.
-/

set_option autoImplicit false

namespace Tabular.Documents

/-- The column of items that are not records. -/
def scalarColumn : String := "c1"

def itemsOf : Document → List Document
  | .list items => items
  | .null => []
  | document => [document]

def items (path : Path) : Feed Document → Feed Document
  | [] => []
  | .error failure :: rest => .error failure :: items path rest
  | .ok document :: rest => (itemsOf (path.apply document)).map .ok ++ items path rest

def cell : Document → Cell
  | .null => .null
  | .text value => .text value
  | document => .text (Json.compact document)

def register (columns : KeyedColumns) : Document → KeyedColumns
  | .record fields => columns.addAll (fields.map (·.1))
  | .null => columns
  | _ => columns.add scalarColumn

/-- The row of an item. An item that is not a record fills the first column when there is none of
its own. -/
def project (null : Option String) (columns : KeyedColumns) : Document → Row
  | .record fields =>
    columns.project (fields.map fun (key, value) => (key, (cell value).nullIf null))
  | item =>
    (List.replicate columns.width Cell.null).set ((columns.position? scalarColumn).getD 0)
      ((cell item).nullIf null)

def sourceOf (options : ReadOptions) (feed : Feed Document) : Result Source := do
  let path := match options.path with
    | some expression => Path.parse expression
    | none => ⟨[]⟩
  let feed ← Feed.discard options.skip (items path feed)
  let (ahead, feed) ← Feed.take options.ahead feed
  let columns := ahead.foldl register KeyedColumns.empty
  let row := project options.null columns
  .ok (.table columns.schema? (ahead.map row) (options.liveRows (Feed.map row feed)))

/-- The documents of a JSON text. Where reading fails no further value begins. -/
def jsonFeed (input : Input) : Feed Document :=
  let bytes := if input.intact then input.bytes else input.bytes ++ [0]
  (Json.parseAll bytes).map fun
    | .ok document => .ok document
    | .error _ => .error .invalidJson

/-- The documents of a YAML text, which is read as a whole. -/
def yamlFeed (input : Input) : Result (Feed Document) :=
  match Utf8.decode? input.bytes with
  | some text =>
    if !input.intact then .error .io
    else
      match Yaml.documentsOfText? text with
      | some documents => .ok (documents.map .ok)
      | none => .error .invalidYaml
  | none => .error .io

end Tabular.Documents
