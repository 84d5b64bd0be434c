import Tabular.Text.Width

/-!
# Drawn tables

Cells in columns that are as wide as their widest line, with a blank on both sides. A cell takes as
many lines as its text has.
-/

set_option autoImplicit false

namespace Tabular

structure Rule where
  left : Char
  line : Char
  crossing : Char
  right : Char
deriving DecidableEq, Repr, Inhabited

structure GridStyle where
  top : Option Rule
  header : Rule
  between : Option Rule
  bottom : Option Rule
deriving DecidableEq, Repr, Inhabited

namespace GridStyle

/-- All lines, in ASCII. -/
def full : GridStyle :=
  { top := some ⟨'+', '-', '+', '+'⟩
    header := ⟨'+', '=', '=', '+'⟩
    between := some ⟨'|', '-', '+', '|'⟩
    bottom := some ⟨'+', '-', '+', '+'⟩ }

/-- Only a line below the header. -/
def markdown : GridStyle :=
  { top := none
    header := ⟨'|', '-', '|', '|'⟩
    between := none
    bottom := none }

end GridStyle

structure Grid where
  header : Option (List String) := none
  rows : List (List String) := []
  /-- The number of columns that there were under the headers before. -/
  kept : Nat := 0
deriving DecidableEq, Repr, Inhabited

namespace Grid

def lines (cell : String) : List (List Char) :=
  cell.toList.splitOn '\n'

/-- All rows, the header first. -/
def allRows (grid : Grid) : List (List String) :=
  grid.header.toList ++ grid.rows

def columnCount (grid : Grid) : Nat :=
  (grid.allRows.map List.length).foldl Nat.max grid.kept

/-- Replace the header. No column gets lost, and the rows stay. -/
def announce (grid : Grid) (columns : List String) : Grid :=
  { grid with header := some columns, kept := grid.columnCount }

/-- The width of a cell: that of its widest line. -/
def cellWidth (cell : String) : Nat :=
  ((lines cell).map Text.displayWidth).foldl Nat.max 0

/-- The widths of the columns. A column is at least one wide. -/
def widths (grid : Grid) : List Nat :=
  (List.range grid.columnCount).map fun i =>
    (grid.allRows.map fun row => cellWidth (row.getD i "")).foldl Nat.max 1

/-- A line of a cell between its blanks, filled up to the width of the column. -/
def padded (width : Nat) (line : List Char) : List Char :=
  ' ' :: line ++ List.replicate (width - Text.displayWidth line) ' ' ++ [' ']

def rule (rule : Rule) (widths : List Nat) : List Char :=
  rule.left ::
    [rule.crossing].intercalate (widths.map fun width => List.replicate (width + 2) rule.line) ++
    [rule.right]

def rowLines (widths : List Nat) (row : List String) : List (List Char) :=
  let cells := (List.range widths.length).map fun i => lines (row.getD i "")
  let height := (cells.map List.length).foldl Nat.max 0
  (List.range height).map fun n =>
    '|' :: ['|'].intercalate
      (List.zipWith (fun width cell => padded width (cell.getD n [])) widths cells) ++ ['|']

def bodyLines (between : List (List Char)) (widths : List Nat) : List (List String) → List (List Char)
  | [] => []
  | [row] => rowLines widths row
  | row :: rest => rowLines widths row ++ between ++ bodyLines between widths rest

/-- The drawn table, without a line end behind its last line. -/
def draw (style : GridStyle) (grid : Grid) : String :=
  let widths := grid.widths
  let across := fun (line : Option Rule) => (line.map fun line => rule line widths).toList
  let header := match grid.header with
    | some header => rowLines widths header ++ [rule style.header widths]
    | none => []
  String.ofList (['\n'].intercalate
    (across style.top ++ header ++ bodyLines (across style.between) widths grid.rows ++
      across style.bottom))

end Grid

end Tabular
