import Tabular.Text.Ascii

/-!
# Column names

The backing engines ignore ASCII case in column names, so the names of one table are kept distinct
under that comparison. Keyed columns remember the key of the input that each column stands for.
-/

set_option autoImplicit false

namespace Tabular

/-- The type of every column of a format without types of its own. -/
def defaultType : String := "text"

/-- The default type for each of `count` columns. -/
def defaultTypes (count : Nat) : List String :=
  List.replicate count defaultType

/-- The name of the column at a position counted from zero, when the input names none. -/
def positionalName (position : Nat) : String :=
  "c" ++ toString (position + 1)

def isTaken (existing : List String) (name : String) : Bool :=
  (existing.map Ascii.lower).contains (Ascii.lower name)

theorem isTaken_iff {existing : List String} {name : String} :
    isTaken existing name = true ↔ ∃ other ∈ existing, Ascii.lower other = Ascii.lower name := by
  simp [isTaken]

/-- `base` when it is free, otherwise `base` with the least number behind it that makes it free. One
of the first `existing.length + 1` numbers does. -/
def uniqueName (base : String) (existing : List String) : String :=
  let taken := existing.map Ascii.lower
  let isFree := fun name => !taken.contains (Ascii.lower name)
  if isFree base then base
  else
    (((List.range (existing.length + 1)).map fun n => base ++ toString n).find? isFree).getD base

/-- The given name, or the positional name of the column when it is empty. -/
def nameOrPositional (position : Nat) (name : String) : String :=
  if name.isEmpty then positionalName position else name

/-- Names for a list of header cells: blank cells are named by position and repeated names are made
unique, from left to right after the names in `named`. -/
def headerNames (named cells : List String) : List String :=
  cells.foldl
    (fun named cell => named ++ [uniqueName (nameOrPositional named.length cell) named]) named

/-- Add positional names until there are `width` columns. -/
def growNames (names : List String) (width : Nat) : List String :=
  headerNames names (List.replicate (width - names.length) "")

structure KeyedColumns where
  /-- Keys in order of first appearance. -/
  keys : List String
  names : List String
deriving DecidableEq, Repr, Inhabited

namespace KeyedColumns

def empty : KeyedColumns := ⟨[], []⟩

def position? (columns : KeyedColumns) (key : String) : Option Nat :=
  columns.keys.idxOf? key

/-- The columns with one for the given key. A key that is new gets a name no other column has. -/
def add (columns : KeyedColumns) (key : String) : KeyedColumns :=
  match columns.position? key with
  | some _ => columns
  | none =>
    { keys := columns.keys ++ [key]
      names := columns.names ++ [uniqueName key columns.names] }

def addAll (columns : KeyedColumns) (keys : List String) : KeyedColumns :=
  keys.foldl add columns

/-- The columns for the keys of several records, in order of first appearance. -/
def ofRecords (records : List (List String)) : KeyedColumns :=
  records.foldl addAll empty

def width (columns : KeyedColumns) : Nat :=
  columns.names.length

end KeyedColumns

end Tabular
