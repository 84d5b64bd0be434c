import Tabular.Engine.Load
import Tabular.Files.Reference
import Tabular.Query.Rewriter
import Tabular.Source.Opening

/-!
# Gathering the tables of a query

Every table reference of a query that leads to an input is loaded into a table, and the query is
rewritten to use these tables. A table is named after the file, and after the path if there is one.
-/

set_option autoImplicit false

namespace Tabular.Run

def tableName (opened : Reference.Opened) : String :=
  let file := Reference.unquoted opened.file
  match opened.path with
  | some path => file ++ "::" ++ path
  | none => file

/-- The options to read a reference with: a path of its own comes before the one in the options, and
a format that is not chosen follows from the name of the file. -/
def optionsFor (options : ReadOptions) (opened : Reference.Opened) : ReadOptions :=
  { options with
    path := opened.path <|> options.path
    format := if options.format = .guess then Format.ofFileName (Reference.unquoted opened.file)
      else options.format }

abbrev World (engineState : Type) := Surroundings × engineState

section

variable {engineState : Type} (engine : Engine engineState) (options : ReadOptions)

/-- Load what a reference leads to. The answer is the quoted name of the table; none if the reference
leads to nothing. -/
def gatherOne (reference : String) : Call (World engineState) (Option String) := fun (around, now) =>
  match Reference.resolve reference around with
  | (.error error, around) => (.error error, around, now)
  | (.ok none, around) => (.ok none, around, now)
  | (.ok (some opened), around) =>
    let table := engine.dialect.quoteIdent (tableName opened)
    match Source.read (optionsFor options opened) opened.input with
    | .error error => (.error error, around, now)
    | .ok source =>
      let (outcome, _, now) := Load.source engine table options.temporary source now
      (outcome.map fun _ => some table, around, now)

/-- Load what references lead to, one after the other, and rewrite a query for each. -/
def gatherAll (sql : String) (rewriter : Query.Rewriter) :
    List String → Call (World engineState) String
  | [], world => (.ok sql, world)
  | reference :: rest, world =>
    match gatherOne engine options reference world with
    | (.error error, world) => (.error error, world)
    | (.ok none, world) => gatherAll sql rewriter rest world
    | (.ok (some table), world) =>
      let (sql, rewriter) := rewriter.rewrite sql reference table
      gatherAll sql rewriter rest world

/-- Load the tables of a query. The answer is the query to run in its place. -/
def gather (sql : String) : Call (World engineState) String :=
  gatherAll engine options sql {} (Query.tableRefs sql)

end

/-- A table that does not come from a file. -/
structure Provided where
  name : String
  source : Source
  temporary : Bool := true
deriving Inhabited

/-- Load a provided table, or what is left of it. The query is not changed. -/
def provide {engineState : Type} (engine : Engine engineState) (sql : String) :
    Call (Provided × engineState) String := fun (provided, now) =>
  let (outcome, source, now) := Load.source engine (engine.dialect.quoteIdent provided.name)
    provided.temporary provided.source now
  (outcome.map fun _ => sql, { provided with source := source }, now)

end Tabular.Run
