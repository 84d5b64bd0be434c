import Tabular.Document
import Tabular.Text.Blank

/-!
# Paths into documents

A path is a list of segments. A segment selects a field of a record by its key or an item of a list
by its position; a segment that is no position, applied to a list, applies to each of its items.
What does not resolve selects null.
-/

set_option autoImplicit false

namespace Tabular

structure Path where
  segments : List String
deriving DecidableEq, Repr, Inhabited

namespace Path

def isQuote (c : Char) : Bool :=
  c == '"' || c == '\'' || c == '\x60'

/-- Read a dotted path. Brackets around a position are a second spelling of its dot, and blank
characters and quotes around the whole are dropped. -/
def parse (expression : String) : Path :=
  let bare := Text.trimBy isQuote (Text.trim expression.toList)
  let dotted := (bare.map fun c => if c == '[' then '.' else c).filter (· != ']')
  ⟨((Text.splitAt '.' dotted).filter (!·.isEmpty)).map String.ofList⟩

/-- Whether the path selects the whole document. -/
def isIdentity (path : Path) : Bool :=
  path.segments.isEmpty

/-- The position a segment denotes: decimal digits, after a plus sign or not, below `2 ^ 64`. -/
def position? (segment : String) : Option Nat :=
  let digits := match segment.toList with
    | '+' :: rest => rest
    | whole => whole
  if digits.isEmpty || !digits.all Char.isDigit then none
  else
    let n := digits.foldl (fun n c => n * 10 + (c.toNat - '0'.toNat)) 0
    if n < Nat.pow 2 64 then some n else none

mutual

def select (segments : List String) (document : Document) : Document :=
  match segments with
  | [] => document
  | head :: rest =>
    match document with
    | .record fields => selectField head rest fields
    | .list items =>
      match position? head with
      | some n => selectItem n rest items
      | none => .list (selectEach (head :: rest) items)
    | _ => .null
termination_by sizeOf document

def selectField (key : String) (rest : List String) (fields : List (String × Document)) :
    Document :=
  match fields with
  | [] => .null
  | (name, value) :: others =>
    if name == key then select rest value else selectField key rest others
termination_by sizeOf fields

def selectItem (n : Nat) (rest : List String) (items : List Document) : Document :=
  match items, n with
  | [], _ => .null
  | item :: _, 0 => select rest item
  | _ :: others, n + 1 => selectItem n rest others
termination_by sizeOf items

/-- Select the same segments in every item. -/
def selectEach (segments : List String) (items : List Document) : List Document :=
  match items with
  | [] => []
  | item :: others => select segments item :: selectEach segments others
termination_by sizeOf items

end

def apply (path : Path) (document : Document) : Document :=
  select path.segments document

end Path

end Tabular
