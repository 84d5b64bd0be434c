import Tabular.Engine

/-!
# Loading tables

A table is made and filled with the rows of a source: the rows read ahead, then those of the feed.
Rows without cells are passed over. An engine that takes copy text gets one stream; for the others
the rows are inserted in batches as large as the number of parameters allows. A statement is
prepared for a batch size and closed when the size changes and at the end, also after a failure.
-/

set_option autoImplicit false

namespace Tabular

structure Target where
  table : String
  names : List String
  types : List String
  temporary : Bool := true
deriving DecidableEq, Repr, Inhabited

namespace Target

def createText (target : Target) (dialect : Dialect) : String :=
  "CREATE " ++ (if target.temporary then "TEMPORARY " else "") ++ "TABLE " ++ target.table ++ " ( " ++
    ", ".intercalate (List.zipWith (fun name type => dialect.quoteIdent name ++ " " ++ type)
      target.names target.types) ++ " )"

def insertText (target : Target) (dialect : Dialect) (rows : Nat) : String :=
  "INSERT INTO " ++ target.table ++ " (" ++ dialect.nameList target.names ++ ") VALUES " ++
    dialect.valuesClause target.names.length rows

/-- Why a table cannot be made, if it cannot. -/
def fault? (target : Target) : Option Error :=
  if target.names.isEmpty then some (.noColumns target.table)
  else if target.names.length = target.types.length then none
  else some (.columnMismatch target.names.length target.types.length)

def capacity (target : Target) (dialect : Dialect) : Nat :=
  Nat.max 1 (dialect.maxParams / target.names.length)

end Target

namespace Load

/-- A statement that is open, and for how many rows it was prepared. -/
structure Prepared where
  statement : Statement
  rows : Nat
deriving DecidableEq, Repr, Inhabited

structure Progress (state : Type) where
  engine : state
  prepared : Option Prepared := none

section Insert

variable {state : Type} (engine : Engine state) (target : Target)

def prepare (rows : Nat) (now : state) : Result Statement × Progress state :=
  match engine.prepare (target.insertText engine.dialect rows) now with
  | (.error error, after) => (.error error, { engine := after })
  | (.ok statement, after) => (.ok statement, { engine := after, prepared := some ⟨statement, rows⟩ })

/-- The statement for a number of rows: the open one if it is for as many, otherwise a new one in its
place. -/
def statementFor (rows : Nat) (progress : Progress state) : Result Statement × Progress state :=
  match progress.prepared with
  | none => prepare engine target rows progress.engine
  | some ⟨statement, prepared⟩ =>
    if prepared = rows then (.ok statement, progress)
    else
      match engine.close statement progress.engine with
      | (.error error, after) => (.error error, { engine := after })
      | (.ok (), after) => prepare engine target rows after

def insertBatch (batch : Array Row) (progress : Progress state) : Result Unit × Progress state :=
  match statementFor engine target batch.size progress with
  | (.error error, progress) => (.error error, progress)
  | (.ok statement, progress) =>
    let (outcome, after) := engine.run statement batch.toList.flatten progress.engine
    (outcome.map fun _ => (), { progress with engine := after })

/-- What became of inserting: how many rows were inserted or why it stopped, and the rows that were
not read. -/
structure Inserted (state : Type) where
  outcome : Result Nat
  unread : Feed Row
  progress : Progress state

/-- Insert the rows of a feed after the rows of an incomplete batch; `total` rows went before. -/
def insertFrom (total : Nat) (batch : Array Row) (progress : Progress state) :
    Feed Row → Inserted state
  | [] =>
    if batch.isEmpty then ⟨.ok total, [], progress⟩
    else
      match insertBatch engine target batch progress with
      | (.error error, progress) => ⟨.error error, [], progress⟩
      | (.ok (), progress) => ⟨.ok (total + batch.size), [], progress⟩
  | .error error :: rest => ⟨.error error, rest, progress⟩
  | .ok [] :: rest => insertFrom total batch progress rest
  | .ok (first :: others) :: rest =>
    let batch := batch.push (Row.fit target.names.length (first :: others))
    if batch.size = target.capacity engine.dialect then
      match insertBatch engine target batch progress with
      | (.error error, progress) => ⟨.error error, rest, progress⟩
      | (.ok (), progress) => insertFrom (total + batch.size) #[] progress rest
    else insertFrom total batch progress rest

variable {engine target} {total : Nat} {batch : Array Row} {progress : Progress state} {cell : Cell}
  {cells : Row} {rest : Feed Row}

theorem insertFrom_whole
    (whole : (batch.push (Row.fit target.names.length (cell :: cells))).size =
      target.capacity engine.dialect) :
    insertFrom engine target total batch progress (.ok (cell :: cells) :: rest) =
      match insertBatch engine target
        (batch.push (Row.fit target.names.length (cell :: cells))) progress with
      | (.error error, progress) => ⟨.error error, rest, progress⟩
      | (.ok (), progress) =>
        insertFrom engine target (total + target.capacity engine.dialect) #[] progress rest := by
  rw [insertFrom, ← whole]
  exact if_pos rfl

/-- A row that does not complete a batch is kept for it. -/
theorem insertFrom_room
    (room : (batch.push (Row.fit target.names.length (cell :: cells))).size ≠
      target.capacity engine.dialect) :
    insertFrom engine target total batch progress (.ok (cell :: cells) :: rest) =
      insertFrom engine target total (batch.push (Row.fit target.names.length (cell :: cells)))
        progress rest := by
  rw [insertFrom]
  exact if_neg room

variable (engine target)

/-- Close the statement that is open. A failure to do so is reported if nothing failed before. -/
def closed (inserted : Inserted state) : Result Nat × Feed Row × state :=
  match inserted.progress.prepared with
  | none => (inserted.outcome, inserted.unread, inserted.progress.engine)
  | some prepared =>
    match engine.close prepared.statement inserted.progress.engine with
    | (.ok (), after) => (inserted.outcome, inserted.unread, after)
    | (.error error, after) =>
      (match inserted.outcome with
        | .ok _ => .error error
        | .error first => .error first,
        inserted.unread, after)

def insert (feed : Feed Row) (now : state) : Result Nat × Feed Row × state :=
  closed engine (insertFrom engine target 0 #[] { engine := now } feed)

def copy (feed : Feed Row) (now : state) : Result Nat × Feed Row × state :=
  let (outcome, source, after) :=
    engine.copy target.table target.names { width := target.names.length, unread := feed } now
  (outcome.map fun _ => source.loaded, source.unread, after)

def fill (feed : Feed Row) (now : state) : Result Nat × Feed Row × state :=
  match engine.dialect.bulk with
  | .copy => copy engine target feed now
  | .insert => insert engine target feed now

def create (now : state) : Result Unit × state :=
  match target.fault? with
  | some fault => (.error fault, now)
  | none =>
    let (outcome, after) := engine.execute (target.createText engine.dialect) now
    (outcome.map fun _ => (), after)

/-- Make a table and fill it with the rows of a source. The answer is the number of rows, and the
source as it was left. -/
def table (source : Source) (now : state) : Result Nat × Source × state :=
  match create engine target now with
  | (.error error, after) => (.error error, source, after)
  | (.ok (), after) =>
    let (ahead, source) := source.takeAhead
    let live := source.live
    let (outcome, unread, after) := fill engine target (ahead.map .ok ++ live) after
    (outcome, source.advance (live.length - unread.length), after)

end Insert

/-- Make a table with the schema of a source, and fill it. -/
def source {state : Type} (engine : Engine state) (table : String) (temporary : Bool)
    (source : Source) (now : state) : Result Nat × Source × state :=
  match source.schema with
  | .error error => (.error error, source, now)
  | .ok schema =>
    Load.table engine
      { table := table, names := schema.names, types := schema.types, temporary := temporary }
      source now

end Load

end Tabular
