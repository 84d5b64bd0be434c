import Tabular.Source
import Tabular.Text.Lines

/-!
# Input bytes

What can be read of an input, and whether its end was reached.
-/

set_option autoImplicit false

namespace Tabular

structure Input where
  /-- The bytes up to the end, or up to the place where reading fails. -/
  bytes : List UInt8
  intact : Bool := true
deriving DecidableEq, Repr, Inhabited

namespace Input

/-- The lines of an input. Where reading fails the failure takes the place of the line it
interrupts. -/
def lines (input : Input) : Feed (List UInt8) :=
  let all := Line.split input.bytes
  if input.intact then all.map fun line => .ok line.body
  else (all.filter Line.ended).map (fun line => .ok line.body) ++ [.error .io]

/-- The feed of what is found in the bytes, and the failure if their end is not reached. -/
def feed {α : Type} (input : Input) (found : List α) (failure : Error) : Feed α :=
  found.map .ok ++ if input.intact then [] else [.error failure]

end Input

end Tabular
