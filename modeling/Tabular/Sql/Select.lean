import Tabular.Sql.Value

/-!
# Statements

What can be asked of a database. A query is made of tables by joining them, choosing results from
their rows, appending, sorting and limiting; every step takes rows and gives rows. Expressions refer
to columns by name until the columns are known, and by position from then on.
-/

set_option autoImplicit false

namespace Tabular.Sql

inductive Comparison where
  | equal
  | unequal
  | less
  | lessOrEqual
  | greater
  | greaterOrEqual
deriving DecidableEq, Repr, Inhabited

/-- What the order of two values says about a comparison. -/
def Comparison.holds : Comparison → Ordering → Bool
  | equal, order => order == .eq
  | unequal, order => order != .eq
  | less, order => order == .lt
  | lessOrEqual, order => order != .gt
  | greater, order => order == .gt
  | greaterOrEqual, order => order != .lt

inductive Aggregate where
  /-- How many values are not null. -/
  | count
  | least
  | greatest
deriving DecidableEq, Repr, Inhabited

inductive Expr (ref : Type) where
  | value (value : Value)
  | param (number : Nat)
  | column (name : ref)
  | negate (operand : Expr ref)
  | add (left right : Expr ref)
  | compare (comparison : Comparison) (left right : Expr ref)
  | isNull (operand : Expr ref)
  | not (operand : Expr ref)
  | and (left right : Expr ref)
  | or (left right : Expr ref)
  | countRows
  | aggregate (function : Aggregate) (operand : Expr ref)
deriving DecidableEq, Repr, Inhabited

def Expr.isAggregate {ref : Type} : Expr ref → Bool
  | countRows | aggregate _ _ => true
  | value _ | param _ | column _ => false
  | negate operand | isNull operand | not operand => operand.isAggregate
  | add left right | compare _ left right | and left right | or left right =>
    left.isAggregate || right.isAggregate

structure ColumnName where
  table : Option String
  column : String
  /-- Whether the name is a text when there is no such column. -/
  orText : Bool := false
deriving DecidableEq, Repr, Inhabited

structure TableName where
  schema : Option String
  table : String
deriving DecidableEq, Repr, Inhabited

abbrev NamedExpr := Expr ColumnName

inductive Item where
  /-- All columns, or those of one table. -/
  | all (table : Option String)
  /-- An expression, the name it is given, and its text. -/
  | expr (expr : NamedExpr) (name : Option String) (text : String)
deriving DecidableEq, Repr, Inhabited

def Item.isAggregate : Item → Bool
  | .all _ => false
  | .expr result _ _ => result.isAggregate

structure SortKey where
  expr : NamedExpr
  descending : Bool
deriving DecidableEq, Repr, Inhabited

inductive Select where
  /-- One row without columns. -/
  | unit
  | table (name : TableName) (renamed : Option String)
  | named (query : Select) (name : Option String)
  /-- All pairs of rows that meet a condition. -/
  | join (left right : Select) (condition : Option NamedExpr)
  /-- Results chosen from the rows that meet a condition, for each row, or for each group of rows. -/
  | results (origin : Select) (items : List Item) (condition : Option NamedExpr)
    (groups : List NamedExpr) (order : List SortKey)
  | append (left right : Select)
  | sort (query : Select) (order : List SortKey)
  /-- At most so many rows; all of them if the number is negative. -/
  | limit (query : Select) (count : Int)
deriving Repr, Inhabited

/-- Results chosen from rows, in an order. Where the rows are the first ones of a query that has no
order of its own, and each gives one result, the order says which ones are the first. -/
def Select.inOrder (origin : Select) (items : List Item) (condition : Option NamedExpr)
    (groups : List NamedExpr) (order : List SortKey) : Select :=
  match origin, condition, groups with
  | named (limit (results inner innerItems innerCondition [] []) count) name, none, [] =>
    if order.isEmpty || (items ++ innerItems).any Item.isAggregate then
      results origin items none [] order
    else
      let all := named (results inner innerItems innerCondition [] []) name
      limit (results all items none [] order) count
  | _, _, _ => results origin items condition groups order

inductive Command where
  | select (query : Select)
  | create (temporary : Bool) (name : TableName) (columns : List (String × Option String))
  /-- Add rows that have values for some columns, or for all of them in order. -/
  | insert (name : TableName) (columns : Option (List String)) (rows : List (List NamedExpr))
  | delete (name : TableName) (condition : Option NamedExpr)
deriving Repr, Inhabited

end Tabular.Sql
