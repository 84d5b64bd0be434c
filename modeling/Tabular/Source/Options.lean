import Tabular.Delimiter
import Tabular.Format

/-!
# Reading options
-/

set_option autoImplicit false

namespace Tabular

structure ReadOptions where
  format : Format := .guess
  delimiter : String := ","
  header : Bool := false
  skip : Nat := 0
  ahead : Nat := 1
  path : Option String := none
  null : Option String := none
  rowNumber : Bool := false
  /-- Whether to read no more than the rows read ahead. -/
  onlyAhead : Bool := false
  temporary : Bool := true
deriving DecidableEq, Repr, Inhabited

namespace ReadOptions

/-- Read only the given number of rows. -/
def limited (count : Nat) (options : ReadOptions) : ReadOptions :=
  { options with onlyAhead := true, ahead := count }

/-- The rows that follow those read ahead, if they are wanted. -/
def liveRows {α : Type} (options : ReadOptions) (rows : List α) : List α :=
  if options.onlyAhead then [] else rows

end ReadOptions

end Tabular
