import Tabular.Number.Binary64

/-!
# Documents

The values that JSON and YAML texts denote: scalars, lists and records. A record keeps its fields in
order, and writing a field again changes its value but not its place.
-/

set_option autoImplicit false

namespace Tabular

/-- A number of a document. Whole numbers written without fraction or exponent are exact. -/
inductive Number where
  | integer (value : Int)
  | float (value : Binary64)
deriving DecidableEq, Repr, Inhabited

/-- A document, or a part of one. -/
inductive Document where
  | null
  | bool (value : Bool)
  | number (value : Number)
  | text (value : String)
  | list (items : List Document)
  | record (fields : List (String × Document))
deriving Repr, Inhabited

namespace Number

def isSigned64 (n : Int) : Bool :=
  -(Nat.pow 2 63 : Nat) ≤ n && n < (Nat.pow 2 63 : Nat)

/-- Whether an integer fits in sixty-four bits without sign. -/
def isUnsigned64 (n : Int) : Bool :=
  0 ≤ n && n < (Nat.pow 2 64 : Nat)

end Number

namespace Document

def field? (fields : List (String × Document)) (key : String) : Option Document :=
  (fields.find? (fun entry => entry.1 == key)).map (·.2)

/-- Write a field: in its place when the record has it, at the end otherwise. -/
def setField (fields : List (String × Document)) (key : String) (value : Document) :
    List (String × Document) :=
  if fields.any (fun entry => entry.1 == key) then
    fields.map fun entry => if entry.1 == key then (key, value) else entry
  else fields ++ [(key, value)]

/-- The fields that writing the given entries one after the other leaves. -/
def fieldsOf (entries : List (String × Document)) : List (String × Document) :=
  entries.foldl (fun fields entry => setField fields entry.1 entry.2) []

end Document

end Tabular
