import Tabular.Column
import Tabular.Sql.Select

/-!
# Relations

A relation has columns and rows. What a query says about given tables is a relation, or nothing when
a name in it has no meaning. Rows keep their order: those of a join are ordered by the left rows
first, those of groups by the group, and sorting keeps the order of rows that are not told apart.
-/

set_option autoImplicit false

namespace Tabular.Sql

abbrev Tuple := Array Value

structure Column where
  table : Option String := none
  name : String
  type : Option String := none
  affinity : Affinity := .none
deriving DecidableEq, Repr, Inhabited

structure Slot where
  position : Nat
  affinity : Affinity
deriving DecidableEq, Repr, Inhabited

abbrev PlacedExpr := Expr Slot

namespace Expr

variable {ref : Type}

/-- The functions of several rows in an expression, from left to right. None is used inside of
another one. -/
def aggregates : Expr ref → List (Aggregate × Expr ref)
  | countRows | value _ | param _ | column _ => []
  | aggregate function operand => [(function, operand)]
  | negate operand | isNull operand | not operand => operand.aggregates
  | add left right | compare _ left right | and left right | or left right =>
    left.aggregates ++ right.aggregates

def affinity : PlacedExpr → Affinity
  | column slot => slot.affinity
  | _ => .none

/-- Put expressions in the place of names; none when one has no meaning, or when a function of
several rows is used inside of another one. -/
def place? (find : ColumnName → Option PlacedExpr) : NamedExpr → Option PlacedExpr
  | value v => some (value v)
  | param number => some (param number)
  | column name => find name
  | negate operand => return negate (← operand.place? find)
  | add left right => return add (← left.place? find) (← right.place? find)
  | compare comparison left right =>
    return compare comparison (← left.place? find) (← right.place? find)
  | isNull operand => return isNull (← operand.place? find)
  | not operand => return not (← operand.place? find)
  | and left right => return and (← left.place? find) (← right.place? find)
  | or left right => return or (← left.place? find) (← right.place? find)
  | countRows => some countRows
  | aggregate function operand => do
    let operand ← operand.place? find
    if operand.isAggregate then none else some (aggregate function operand)

/-- The value of an expression for a row. `total` gives the values of functions of several rows. -/
def eval (params row : Tuple) (rows : Nat) (total : Aggregate → PlacedExpr → Value) :
    PlacedExpr → Value
  | value v => v
  | param number => params[number]?.getD .null
  | column slot => row[slot.position]?.getD .null
  | negate operand => (operand.eval params row rows total).negate
  | add left right => (left.eval params row rows total).add (right.eval params row rows total)
  | compare comparison left right =>
    let affinity := Value.comparisonAffinity left.affinity right.affinity
    match left.eval params row rows total, right.eval params row rows total with
    | .null, _ | _, .null => .null
    | a, b => .ofTruth (comparison.holds ((a.operand affinity).order (b.operand affinity)))
  | isNull operand => .ofTruth (operand.eval params row rows total == .null)
  | not operand => .ofTruth ((operand.eval params row rows total).truth?.map Bool.not)
  | and left right =>
    match (left.eval params row rows total).truth?, (right.eval params row rows total).truth? with
    | some false, _ | _, some false => .ofTruth (some false)
    | some true, some true => .ofTruth (some true)
    | _, _ => .null
  | or left right =>
    match (left.eval params row rows total).truth?, (right.eval params row rows total).truth? with
    | some true, _ | _, some true => .ofTruth (some true)
    | some false, some false => .ofTruth (some false)
    | _, _ => .null
  | countRows => .int rows
  | aggregate function operand => total function operand

def evalRow (params row : Tuple) (expr : PlacedExpr) : Value :=
  expr.eval params row 0 fun _ _ => .null

def holds (params row : Tuple) (condition : PlacedExpr) : Bool :=
  (condition.evalRow params row).truth? == some true

end Expr

/-! ## Functions of several rows -/

namespace Aggregate

def improves (function : Aggregate) (best value : Value) : Bool :=
  match function, best.order value with
  | .least, .gt | .greatest, .lt => true
  | _, _ => false

def ofValues (function : Aggregate) (values : List Value) : Value :=
  let present := values.filter (· != .null)
  match function, present with
  | .count, present => .int present.length
  | _, [] => .null
  | function, first :: rest =>
    rest.foldl (fun best value => if function.improves best value then value else best) first

/-- The first row with the extreme value; the last row when all values are null. -/
def extremeRow? (function : Aggregate) (value : Tuple → Value) (rows : List Tuple) : Option Tuple :=
  (rows.foldl (fun (best : Option Tuple) row =>
    match best with
    | none => some row
    | some previous =>
      match value previous, value row with
      | .null, _ => some row
      | _, .null => some previous
      | old, new => if function.improves old new then some row else some previous) none)

end Aggregate

/-! ## Names -/

namespace Column

def hasName (name : ColumnName) (column : Column) : Bool :=
  Ascii.sameName column.name name.column &&
    (name.table.isNone || match name.table, column.table with
      | some wanted, some table => Ascii.sameName table wanted
      | _, _ => false)

def slots (columns : List Column) : List (Column × Slot) :=
  columns.zipIdx.map fun (column, position) => (column, ⟨position, column.affinity⟩)

/-- The expression that a name denotes: a column, a result, or the text itself. A name of two columns
has no meaning. -/
def find? (columns : List Column) (results : List (String × PlacedExpr)) (name : ColumnName) :
    Option PlacedExpr :=
  match (slots columns).filter fun (column, _) => column.hasName name with
  | [(_, slot)] => some (.column slot)
  | _ :: _ :: _ => none
  | [] =>
    match results.find? fun (result, _) => name.table.isNone && Ascii.sameName result name.column with
    | some (_, expr) => some expr
    | none => if name.orText then some (.value (.text name.column)) else none

/-- The name of a column of a query that is read like a table, among those before it: with a number
behind a colon when there is such a name. -/
def distinctName (existing : List String) (name : String) : String :=
  if isTaken existing name then
    (((List.range existing.length).map fun n => name ++ ":" ++ toString (n + 1)).find? fun candidate =>
      !isTaken existing candidate).getD name
  else name

def named (table : Option String) (columns : List Column) : List Column :=
  columns.foldl (fun named column =>
    named ++ [{ column with table := table, name := distinctName (named.map (·.name)) column.name }]) []

end Column

/-! ## Results -/

structure Chosen where
  column : Column
  expr : PlacedExpr
  /-- The name that an order can refer to it by. -/
  given : Option String := none
deriving Repr, Inhabited

/-- What an order of appended rows can refer to. -/
structure Heading where
  columns : List Column
  results : List Chosen
deriving Repr, Inhabited

structure Relation where
  columns : List Column
  rows : List Tuple
  headings : List Heading := []
deriving Repr, Inhabited

namespace Item

def results? (columns : List Column) : Item → Option (List Chosen)
  | all table =>
    let chosen := (Column.slots columns).filter fun (column, _) =>
      table.isNone || column.hasName { table := table, column := column.name }
    if chosen.isEmpty then none
    else some (chosen.map fun (column, slot) =>
      { column := { column with table := none }, expr := .column slot, given := some column.name })
  | expr named name text => do
    let placed ← named.place? (Column.find? columns [])
    let column : Column := match placed with
      | .column slot => { columns[slot.position]?.getD default with table := none }
      | _ => { name := text }
    return [{ column := { column with name := name.getD column.name }, expr := placed, given := name }]

end Item

/-- The order of two rows by the values of their keys. -/
def keyOrder : List Bool → List Value → List Value → Ordering
  | descending :: directions, a :: left, b :: right =>
    match a.order b with
    | .eq => keyOrder directions left right
    | order => if descending then order.swap else order
  | _, _, _ => .eq

def sortByKeys {α : Type} (directions : List Bool) (rows : List (List Value × α)) :
    List (List Value × α) :=
  rows.mergeSort fun left right => keyOrder directions left.1 right.1 != .gt

def groupRuns {α : Type} (rows : List (List Value × α)) : List (List α) :=
  (rows.splitBy fun left right => keyOrder (left.1.map fun _ => false) left.1 right.1 == .eq).map
    fun run => run.map (·.2)

namespace Heading

def given (heading : Heading) : List (String × PlacedExpr) :=
  heading.results.filterMap fun result => result.given.map fun name => (name, result.expr)

/-- The expression that a name denotes: a column, or a result where there is no such column. -/
def find? (heading : Heading) (name : ColumnName) : Option PlacedExpr :=
  Column.find? heading.columns heading.given name

/-- The expression of the result with the name that an expression is. -/
def result? (heading : Heading) : NamedExpr → Option PlacedExpr
  | .column { table := none, column := name, orText := _ } =>
    (heading.given.find? fun (result, _) => Ascii.sameName result name).map (·.2)
  | _ => none

/-- An expression that groups are made by: a whole number is the position of a result. -/
def group? (heading : Heading) : NamedExpr → Option PlacedExpr
  | .value (.int n) => if 1 ≤ n then heading.results[n.toNat - 1]?.map (·.expr) else none
  | named => named.place? heading.find?

/-- An expression that rows are sorted by: like that of a group, but the name of a result comes
before that of a column. -/
def key? (heading : Heading) (named : NamedExpr) : Option PlacedExpr :=
  match heading.result? named with
  | some expr => some expr
  | none => heading.group? named

def position? (heading : Heading) (named : NamedExpr) : Option Nat := do
  let expr ← heading.key? named
  heading.results.findIdx? (·.expr == expr)

end Heading

namespace Relation

/-- The row that stands for a group where a column is used without a function. -/
def representative (params : Tuple) (exprs : List PlacedExpr) (rows : List Tuple) : Tuple :=
  let extremes := (exprs.flatMap Expr.aggregates).eraseDups.filter fun (function, _) => function != .count
  (match extremes.getLast? with
    | some (function, operand) => function.extremeRow? (operand.evalRow params) rows
    | none => rows.head?).getD #[]

def evalGroup (params : Tuple) (exprs : List PlacedExpr) (rows : List Tuple) : List Value :=
  let row := representative params exprs rows
  exprs.map fun expr =>
    expr.eval params row rows.length fun function operand =>
      function.ofValues (rows.map fun row => operand.evalRow params row)

/-- A condition without functions of several rows. -/
def condition? (find : ColumnName → Option PlacedExpr) : Option NamedExpr → Option PlacedExpr
  | none => some (.value (.int 1))
  | some named => (named.place? find).filter fun placed => !placed.isAggregate

/-- The most columns that a table or a query can have. -/
def columnLimit : Nat := 2000

/-- The directions in which groups are sorted: those of the order, if it has a key for each of the
expressions that make the groups. Groups that the order does not tell apart keep this order. -/
def groupDirections {α : Type} (groups : List α) (order : List SortKey) : List Bool :=
  if groups.length = order.length then order.map (·.descending) else groups.map fun _ => false

/-- Choose results from the rows that meet a condition, in an order if it matters. -/
def results? (params : Tuple) (origin : Relation) (items : List Item)
    (condition : Option NamedExpr) (groups : List NamedExpr) (order : List SortKey)
    (ordered : Bool) : Option Relation := do
  let results := (← items.mapM (Item.results? origin.columns)).flatten
  let heading : Heading := ⟨origin.columns, results⟩
  let condition ← condition? heading.find? condition
  let groups ← groups.mapM heading.group?
  let keys ← order.mapM fun key => heading.key? key.expr
  let (order, keys) := if ordered then (order, keys) else ([], [])
  let exprs := results.map (·.expr) ++ keys
  let kept := origin.rows.filter fun row => condition.holds params row
  let width := results.length
  let answers : List (List Value) :=
    if !groups.isEmpty then
      let keyed := kept.map fun row => (groups.map fun group => group.evalRow params row, row)
      (groupRuns (sortByKeys (groupDirections groups order) keyed)).map (evalGroup params exprs)
    else if exprs.any Expr.isAggregate then [evalGroup params exprs kept]
    else kept.map fun row => exprs.map fun expr => expr.evalRow params row
  let keyed := answers.map fun values => (values.drop width, (values.take width).toArray)
  let sorted := if order.isEmpty then keyed else sortByKeys (order.map (·.descending)) keyed
  if columnLimit < width || groups.any Expr.isAggregate then none
  else return { columns := results.map (·.column), rows := sorted.map (·.2), headings := [heading] }

/-- All pairs of rows that meet a condition. -/
def join? (params : Tuple) (left right : Relation) (condition : Option NamedExpr) :
    Option Relation := do
  let columns := left.columns ++ right.columns
  let condition ← condition? (Column.find? columns []) condition
  let rows := left.rows.flatMap fun a => right.rows.filterMap fun b =>
    let row := a ++ b
    if condition.holds params row then some row else none
  return { columns := columns, rows := rows }

def append? (left right : Relation) : Option Relation :=
  if left.columns.length = right.columns.length then
    some { left with
      rows := left.rows ++ right.rows
      headings := left.headings ++ right.headings }
  else none

/-- Sort appended rows by some of their columns, if the order matters. A column can be named as in any
of the parts. -/
def sort? (relation : Relation) (order : List SortKey) (ordered : Bool) : Option Relation := do
  let keys ← order.mapM fun key => relation.headings.findSome? (Heading.position? · key.expr)
  let keyed := relation.rows.map fun row => (keys.map fun position => row[position]?.getD .null, row)
  let sorted := if ordered then sortByKeys (order.map (·.descending)) keyed else keyed
  return { relation with rows := sorted.map (·.2) }

end Relation

/-- The relation that a query denotes, given what the names of tables denote. The rows of a query that
is read like a table need no order where they are joined or sorted again. -/
def Select.relation? (tables : TableName → Option Relation) (params : Tuple) (ordered : Bool) :
    Select → Option Relation
  | unit => some { columns := [], rows := [#[]] }
  | table name renamed =>
    (tables name).map fun relation =>
      { relation with
        columns := relation.columns.map fun column =>
          { column with table := some (renamed.getD name.table) } }
  | named query name =>
    (query.relation? tables params ordered).map fun relation =>
      { columns := Column.named name relation.columns, rows := relation.rows }
  | join left right condition => do
    let left ← left.relation? tables params false
    left.join? params (← right.relation? tables params false) condition
  | results origin items condition groups order => do
    let origin ← origin.relation? tables params (order.isEmpty || !ordered)
    origin.results? params items condition groups order ordered
  | append left right => do
    let left ← left.relation? tables params true
    left.append? (← right.relation? tables params true)
  | sort query order => do (← query.relation? tables params true).sort? order ordered
  | limit query count =>
    (query.relation? tables params true).map fun relation =>
      if count < 0 then relation else { relation with rows := relation.rows.take count.toNat }

end Tabular.Sql
