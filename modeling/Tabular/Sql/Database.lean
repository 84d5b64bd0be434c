import Tabular.Engine
import Tabular.Sql.Parser
import Tabular.Sql.Relation

/-!
# Databases

A database holds tables. A connection works on a copy of them inside of one transaction and has
temporary tables of its own; what it did lasts only from when it is committed. Every statement fails
without a trace when a name in it has no meaning.
-/

set_option autoImplicit false

namespace Tabular.Sql

structure Table where
  name : String
  columns : List (String × Option String)
  rows : Array Tuple := #[]
deriving Repr, Inhabited

namespace Table

def find? (tables : List Table) (name : String) : Option Table :=
  tables.find? fun table => Ascii.sameName table.name name

/-- The tables with one of them in the place of the table that has its name. -/
def replace (tables : List Table) (table : Table) : List Table :=
  tables.map fun other => if Ascii.sameName other.name table.name then table else other

def relation (table : Table) : Relation :=
  { columns := table.columns.map fun (name, type) =>
      { table := some table.name, name := name, type := type, affinity := .ofType type }
    rows := table.rows.toList }

def isKept (name : String) : Bool :=
  "sqlite_".toList.isPrefixOf (Ascii.lower name).toList

def distinct : List (String × Option String) → Bool
  | [] => true
  | (name, _) :: rest => !isTaken (rest.map (·.1)) name && distinct rest

def positions? (table : Table) (names : List String) : Option (List Nat) :=
  names.mapM fun name => table.columns.findIdx? fun column => Ascii.sameName column.1 name

/-- The row that has the given values at positions and is null elsewhere. -/
def tuple (table : Table) (positions : List Nat) (values : List Value) : Tuple :=
  (positions.zip values).foldl (fun row (position, value) =>
    let affinity := Affinity.ofType (table.columns[position]?.bind (·.2))
    row.setIfInBounds position (value.stored affinity)) (Array.replicate table.columns.length .null)

end Table

inductive Content where
  | tables (tables : List Table)
  /-- A file that holds something else, which shows when a table is looked for. -/
  | foreign
deriving Repr, Inhabited

structure Session where
  stored : Content := .tables []
  lasting : Bool := false
  /-- The tables in the course of the transaction; none when there is no database to read. -/
  main : Option (List Table) := some []
  /-- The tables that other connections do not see. -/
  temporary : List Table := []
  changed : Nat := 0
  prepared : Nat := 0
deriving Repr, Inhabited

inductive Schema where
  | main
  | temporary
deriving DecidableEq, Repr, Inhabited

namespace Session

/-- The schemas that a table can be in, the one that is searched first before the other. -/
def schemas (name : TableName) : List Schema :=
  match name.schema with
  | none => [.temporary, .main]
  | some schema =>
    if Ascii.sameName schema "temp" then [.temporary]
    else if Ascii.sameName schema "main" then [.main]
    else []

def tables? (session : Session) : Schema → Option (List Table)
  | .main => session.main
  | .temporary => session.main.map fun _ => session.temporary

def withTables (session : Session) : Schema → List Table → Session
  | .main, tables => { session with main := some tables }
  | .temporary, tables => { session with temporary := tables }

def find? (session : Session) (name : TableName) : Option (Schema × Table) :=
  (schemas name).findSome? fun schema =>
    ((session.tables? schema).bind fun tables => Table.find? tables name.table).map fun table =>
      (schema, table)

def relation? (session : Session) (name : TableName) : Option Relation :=
  (session.find? name).map fun (_, table) => table.relation

/-- The answer of a statement that has no rows. -/
def noRows : Relation := { columns := [], rows := [] }

def create? (session : Session) (temporary : Bool) (name : TableName)
    (columns : List (String × Option String)) : Option Session := do
  let schema ← match temporary, name.schema, schemas name with
    | true, none, _ => some .temporary
    | false, none, _ => some .main
    | false, some _, [schema] => some schema
    | true, some _, [.temporary] => some .temporary
    | _, _, _ => none
  let tables ← session.tables? schema
  if Table.isKept name.table || (Table.find? tables name.table).isSome || !Table.distinct columns ||
      Relation.columnLimit < columns.length then none
  else return session.withTables schema (tables ++ [{ name := name.table, columns := columns }])

def insert? (session : Session) (params : Tuple) (name : TableName) (columns : Option (List String))
    (rows : List (List NamedExpr)) : Option Session := do
  let (schema, table) ← session.find? name
  let tables ← session.tables? schema
  let positions ← match columns with
    | none => some (List.range table.columns.length)
    | some names => table.positions? names
  let tuples ← rows.mapM fun row => do
    let exprs ← row.mapM fun expr => expr.place? (Column.find? [] [])
    if exprs.length != positions.length || exprs.any Expr.isAggregate then none
    else return table.tuple positions (exprs.map (Expr.evalRow params #[]))
  let filled := { table with rows := table.rows ++ tuples.toArray }
  return { session.withTables schema (Table.replace tables filled) with changed := tuples.length }

def delete? (session : Session) (params : Tuple) (name : TableName)
    (condition : Option NamedExpr) : Option Session := do
  let (schema, table) ← session.find? name
  let tables ← session.tables? schema
  let condition ← Relation.condition? (Column.find? table.relation.columns []) condition
  let kept := table.rows.filter fun row => !condition.holds params row
  return { session.withTables schema (Table.replace tables { table with rows := kept }) with
    changed := table.rows.size - kept.size }

def step? (params : Tuple) (session : Session) : Command → Option (Relation × Session)
  | .select query => (query.relation? session.relation? params true).map fun answer => (answer, session)
  | .create temporary name columns =>
    (session.create? temporary name columns).map fun session => (noRows, session)
  | .insert name columns rows =>
    (session.insert? params name columns rows).map fun session => (noRows, session)
  | .delete name condition =>
    (session.delete? params name condition).map fun session => (noRows, session)

/-- Run statements one after the other. The answer is the rows of each and how many rows were changed
in all, up to a statement that fails. -/
def runAll (params : Tuple) (session : Session) : List Command →
    Option (List Relation × Nat) × Session
  | [] => (some ([], 0), session)
  | command :: rest =>
    match session.step? params command with
    | none => (none, session)
    | some (answer, session) =>
      let (outcome, after) := runAll params session rest
      (outcome.map fun (answers, changed) => (answer :: answers, session.changed + changed), after)

/-! ## Calls -/

def execute (params : List Cell) (sql : String) : Call Session Nat := fun session =>
  match Parser.commands? sql with
  | none => (.error .engine, session)
  | some commands =>
    match session.runAll (params.map Value.ofCell).toArray commands with
    | (none, session) => (.error .engine, session)
    | (some (_, changed), session) => (.ok changed, session)

/-- What the statements of a text would answer, each as if it were the first one. -/
def answers? (session : Session) (sql : String) : Option (List Relation) := do
  let commands ← Parser.commands? sql
  commands.mapM fun command => (session.step? #[] command).map (·.1)

/-- The name of the type of a column in answers, from the type it was declared with. Some types have
no name. -/
def typeName? : Option String → Option String
  | none => some "NULL"
  | some type =>
    let word := Ascii.lower type
    if word == "int4" then some "INTEGER"
    else if ["bool", "boolean", "date", "time", "datetime", "timestamp"].contains word then none
    else if Affinity.mentions word ["int"] then some "BIGINT"
    else if Affinity.mentions word ["char", "clob", "text"] then some "TEXT"
    else if Affinity.mentions word ["blob"] then some "BLOB"
    else if Affinity.mentions word ["real", "floa", "doub"] then some "DOUBLE"
    else some "NULL"

def described? (columns : List Column) : Option (List (String × String)) :=
  columns.mapM fun column => (typeName? column.type).map fun type => (column.name, type)

def firstColumns (answers : List Relation) : List Column :=
  ((answers.find? fun answer => !answer.columns.isEmpty).map (·.columns)).getD []

def describe (sql : String) : Call Session (List (String × String)) := fun session =>
  match (session.answers? sql).bind fun answers => described? (firstColumns answers) with
  | none => (.error .engine, session)
  | some columns => (.ok columns, session)

/-- Prepare the statements of a text, which have to be possible now. -/
def prepare (sql : String) : Call Session Statement := fun session =>
  match describe sql session with
  | (.error error, session) => (.error error, session)
  | (.ok _, session) =>
    let id := session.prepared + 1
    (.ok ⟨id, sql⟩, { session with prepared := id })

def query (sql : String) : Call Session ResultSet := fun session =>
  match describe sql session with
  | (.error error, session) => (.error error, session)
  | (.ok columns, session) =>
    match session.runAll #[] ((Parser.commands? sql).getD []) with
    | (none, session) => (.error .engine, session)
    | (some (answers, _), session) =>
      let rows := answers.flatMap fun answer =>
        answer.rows.map fun row => Except.ok (row.toList.map Value.toCell)
      (.ok { columns := columns.map (·.1), types := columns.map (·.2), rows := rows }, session)

/-- Make the changes of the transaction last, where the database does. -/
def commit : Call Session Unit := fun session =>
  match session.main with
  | some tables => (.ok (), if session.lasting then { session with stored := .tables tables } else session)
  | none => (.ok (), session)

def engine (dialect : Dialect) : Engine Session where
  dialect := dialect
  execute := execute []
  prepare := prepare
  run := fun statement params => execute params statement.sql
  close := fun _ session => (.ok (), session)
  copy := fun table _ source session =>
    (.error (.config ("COPY is not available for " ++ table)), source, session)
  describe := describe
  query := query
  commit := commit

end Session

end Tabular.Sql
