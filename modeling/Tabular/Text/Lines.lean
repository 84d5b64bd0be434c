/-!
# Lines of bytes

A byte string cut at its line feeds. Every line knows whether a line feed ended it, so the lines
determine the bytes.
-/

set_option autoImplicit false

namespace Tabular

/-- A line without its line feed. Only the last line of a text can lack one. -/
structure Line where
  body : List UInt8
  ended : Bool
deriving DecidableEq, Repr

namespace Line

/-- The lines of a byte string. A text that ends with a line feed has no empty last line. -/
def split (input : List UInt8) : List Line :=
  match input with
  | [] => []
  | b :: rest =>
    match _tail : (b :: rest).dropWhile (· != 0x0A) with
    | [] => [⟨b :: rest, false⟩]
    | _ :: after => ⟨(b :: rest).takeWhile (· != 0x0A), true⟩ :: split after
termination_by input.length
decreasing_by
  have shorter := (List.dropWhile_sublist (l := b :: rest) (fun b => b != 0x0A)).length_le
  rw [_tail] at shorter
  exact shorter

theorem split_nil : split [] = [] := by
  rw [split]

end Line

end Tabular
