import Tabular.Cell
import Tabular.Column
import Tabular.Error

/-!
# Sources of rows

A source has a schema, rows that were read ahead to find it, and a feed of the rows that follow.
The rows read ahead are handed out once; the feed is read row by row. Both can be asked for in any
order. A source may number its rows in an additional first column: the numbers count the rows in
the order in which they are handed out.
-/

set_option autoImplicit false

namespace Tabular

structure Schema where
  names : List String
  types : List String
deriving DecidableEq, Repr, Inhabited

/-- What reading piece by piece gives, in order. A failure takes the place of a piece. -/
abbrev Feed (α : Type) := List (Result α)

namespace Feed

/-- Discard up to `count` pieces. A failure among them is reported. -/
def discard {α : Type} : Nat → Feed α → Result (Feed α)
  | 0, feed => .ok feed
  | _ + 1, [] => .ok []
  | count + 1, piece :: rest => do
    let _ ← piece
    discard count rest

/-- The next `count` pieces, or all if there are fewer, and the feed after them. A failure among
them is reported. -/
def take {α : Type} : Nat → Feed α → Result (List α × Feed α)
  | 0, feed => .ok ([], feed)
  | _ + 1, [] => .ok ([], [])
  | count + 1, piece :: rest => do
    let first ← piece
    let (others, rest) ← take count rest
    .ok (first :: others, rest)

/-- Apply a function to every piece. -/
def map {α β : Type} (f : α → β) (feed : Feed α) : Feed β :=
  List.map (Except.map f) feed

end Feed

inductive Source where
  /-- A table with its rows. There is no schema when no row was seen. -/
  | table (schema : Option Schema) (ahead : List Row) (live : Feed Row)
  /-- A table whose rows are numbered, of which `given` have been handed out. -/
  | numbered (inner : Source) (given : Nat)
deriving Inhabited

namespace Source

/-- The name of the number column, where no other column has it. -/
def numberColumn : String := "num"

def numberType : String := "int"

def numberedSchema (schema : Schema) : Schema :=
  { names := uniqueName numberColumn schema.names :: schema.names
    types := numberType :: schema.types }

/-- The schema, unless no row was seen. -/
def schema? : Source → Option Schema
  | table schema _ _ => schema
  | numbered inner _ => inner.schema?.map numberedSchema

/-- The schema; its absence is a failure. -/
def schema (source : Source) : Result Schema :=
  match source.schema? with
  | some schema => .ok schema
  | none => .error .noRows

def names (source : Source) : Result (List String) :=
  source.schema.map Schema.names

def types (source : Source) : Result (List String) :=
  source.schema.map Schema.types

def numberRow (number : Nat) (row : Row) : Row :=
  .int number :: row

/-- Rows numbered from `given + 1` on. -/
def numberRows (given : Nat) (rows : List Row) : List Row :=
  rows.mapIdx fun i row => numberRow (given + i + 1) row

def takeAhead : Source → List Row × Source
  | table schema ahead live => (ahead, table schema [] live)
  | numbered inner given =>
    let (rows, inner) := inner.takeAhead
    (numberRows given rows, numbered inner (given + rows.length))

/-- The next row of the feed; nothing at its end. -/
def next : Source → Result (Option Row) × Source
  | table schema ahead [] => (.ok none, table schema ahead [])
  | table schema ahead (piece :: live) => (piece.map some, table schema ahead live)
  | numbered inner given =>
    match inner.next with
    | (.ok (some row), inner) => (.ok (some (numberRow (given + 1) row)), numbered inner (given + 1))
    | (outcome, inner) => (outcome, numbered inner given)

/-- Rows of a feed numbered from `given + 1` on. -/
def numberFeed (given : Nat) : Feed Row → Feed Row
  | [] => []
  | .error error :: rest => .error error :: numberFeed given rest
  | .ok row :: rest => .ok (numberRow (given + 1) row) :: numberFeed (given + 1) rest

def live : Source → Feed Row
  | table _ _ live => live
  | numbered inner given => numberFeed given inner.live

def advance : Nat → Source → Source
  | 0, source => source
  | count + 1, source => advance count source.next.2

def remaining : Source → Nat
  | table _ _ live => live.length
  | numbered inner _ => inner.remaining

theorem remaining_next (source : Source) : source.next.2.remaining = source.remaining - 1 := by
  induction source with
  | table schema ahead live => cases live <;> simp [next, remaining]
  | numbered inner given ih =>
    rw [next]
    split <;> simp_all [remaining]

end Source

end Tabular
