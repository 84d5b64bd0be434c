import Tabular.Document
import Tabular.Number.Literal

/-!
# Plain scalars

What a scalar without quotes stands for: null, a truth value, a number, or its own text.
-/

set_option autoImplicit false

namespace Tabular.Yaml

inductive Scalar where
  | null
  | bool (value : Bool)
  | number (value : Number)
  | text (value : List Char)
deriving DecidableEq, Repr, Inhabited

namespace Scalar

def isNull (text : List Char) : Bool :=
  text == "null".toList || text == "Null".toList || text == "NULL".toList || text == ['~']

def bool? (text : List Char) : Option Bool :=
  if text == "true".toList || text == "True".toList || text == "TRUE".toList then some true
  else if text == "false".toList || text == "False".toList || text == "FALSE".toList then some false
  else none

/-- Whether a text is a run of at least two digits that starts with zero, after a sign or not. Such
a text is no number. -/
def isPadded (text : List Char) : Bool :=
  match (DecimalLiteral.splitSign text).2 with
  | '0' :: c :: rest => (c :: rest).all Char.isDigit
  | _ => false

def ofRadix? (text : List Char) : Option Nat :=
  match text with
  | '0' :: 'x' :: digits => natOfDigits? 16 digits
  | '0' :: 'o' :: digits => natOfDigits? 8 digits
  | '0' :: 'b' :: digits => natOfDigits? 2 digits
  | _ => none

/-- The magnitude of a whole number after its sign, given the whole text and what follows the
sign. -/
def magnitude? (text unsigned : List Char) : Option Nat :=
  match ofRadix? unsigned with
  | some n => some n
  | none =>
    if isPadded text || !unsigned.all Char.isDigit then none else natOfDigits? 10 unsigned

/-- The whole number a text denotes. -/
def int? (text : List Char) : Option Int :=
  match text with
  | '-' :: unsigned => (magnitude? text unsigned).map fun n => -(n : Int)
  | '+' :: unsigned => (magnitude? text unsigned).map fun n => (n : Int)
  | unsigned => (magnitude? text unsigned).map fun n => (n : Int)

/-- The floating-point number a text denotes: a decimal literal in range, or a word for one of the
values that are not finite. -/
def float? (text : List Char) : Option Binary64 :=
  let unsigned := match text with
    | '+' :: rest => rest
    | rest => rest
  if text.take 2 == ['+', '+'] || text.take 2 == ['+', '-'] then none
  else if [".inf", ".Inf", ".INF"].any (·.toList == unsigned) then some (.infinity false)
  else if ["-.inf", "-.Inf", "-.INF"].any (·.toList == text) then some (.infinity true)
  else if [".nan", ".NaN", ".NAN"].any (·.toList == text) then some .nan
  else
    match DecimalLiteral.parse? unsigned with
    | some literal =>
      let x := literal.toBinary64
      if x.isFinite then some x else none
    | none => none

/-- Whether a whole number has a representation: with or without sign, in sixty-four bits. -/
def isRepresentable (n : Int) : Bool :=
  -(Nat.pow 2 63 : Nat) ≤ n && n < (Nat.pow 2 64 : Nat)

/-- Whether a whole number is read as such: in 128 bits with sign, or without if it is positive. -/
def isWhole (n : Int) : Bool :=
  -(Nat.pow 2 127 : Nat) ≤ n && n < (Nat.pow 2 128 : Nat)

/-- The value of a plain scalar. Nothing for a whole number without a representation. -/
def ofPlain? (text : List Char) : Option Scalar :=
  if text.isEmpty || isNull text then some .null
  else
    match bool? text, (int? text).filter isWhole with
    | some value, _ => some (.bool value)
    | none, some n => if isRepresentable n then some (.number (.integer n)) else none
    | none, none =>
      match (if isPadded text then none else float? text) with
      | some x => some (.number (.float x))
      | none => some (.text text)

/-- The value of a scalar with one of the tags of the core schema: its text must be of that kind.
Any other tag makes the scalar a text. -/
def ofTagged? (tag text : List Char) : Option Scalar :=
  let core := fun kind => tag == "tag:yaml.org,2002:".toList ++ kind
  if core "bool".toList then (bool? text).map .bool
  else if core "int".toList then
    match (int? text).filter isWhole with
    | some n => if isRepresentable n then some (.number (.integer n)) else none
    | none => none
  else if core "float".toList then (float? text).map fun x => .number (.float x)
  else if core "null".toList then if isNull text then some .null else none
  else some (.text text)

end Scalar

end Tabular.Yaml
