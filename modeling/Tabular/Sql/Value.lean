import Tabular.Cell
import Tabular.Number.Shortest
import Tabular.Text.Blank

/-!
# Values of a database

A database stores values of five classes. A column has an affinity, a class that its values are
turned into when this loses nothing, and comparisons follow the affinities of the columns in them.
Values of all classes are ordered: null, numbers, texts, bytes.
-/

set_option autoImplicit false

namespace Tabular.Sql

inductive Value where
  | null
  | int (value : Int)
  | real (value : Binary64)
  | text (value : String)
  | blob (value : List UInt8)
deriving DecidableEq, Repr, Inhabited

inductive Affinity where
  /-- An expression that is not a column has no preference. -/
  | none
  | blob
  | text
  | numeric
  | integer
  | real
deriving DecidableEq, Repr, Inhabited

namespace Affinity

def hasPart (part text : List Char) : Bool :=
  match text with
  | [] => part.isEmpty
  | c :: rest => part.isPrefixOf (c :: rest) || hasPart part rest

def mentions (type : String) (words : List String) : Bool :=
  let type := (Ascii.lower type).toList
  words.any fun word => hasPart word.toList type

def ofType : Option String → Affinity
  | .none => blob
  | some type =>
    if mentions type ["int"] then integer
    else if mentions type ["char", "clob", "text"] then text
    else if mentions type ["blob"] then blob
    else if mentions type ["real", "floa", "doub"] then real
    else numeric

def isNumeric : Affinity → Bool
  | numeric | integer | real => true
  | _ => false

end Affinity

/-! ## Numbers in texts -/

def isNumberBlank (c : Char) : Bool :=
  c == ' ' || ('\t' ≤ c && c ≤ '\r')

def isWord (n : Int) : Bool :=
  -(Nat.pow 2 63 : Nat) ≤ n && n < (Nat.pow 2 63 : Nat)

def digitsValue (run : List Char) : Nat :=
  run.foldl (fun total d => total * 10 + (d.toNat - '0'.toNat)) 0

/-- An exponent at the head of a text, and what follows it. -/
def exponentHead? (text : List Char) : Option (Int × List Char) :=
  match text with
  | 'e' :: rest | 'E' :: rest =>
    let (down, unsigned) := match rest with
      | '-' :: rest => (true, rest)
      | '+' :: rest => (false, rest)
      | rest => (false, rest)
    let (run, rest) := unsigned.span Char.isDigit
    if run.isEmpty then none
    else
      let size : Int := digitsValue run
      some (if down then -size else size, rest)
  | _ => none

/-- The longest number at the head of a text after blanks, and what follows it. A number with a point
or an exponent is not an integer. -/
def numberHead? (text : List Char) : Option (Value × List Char) :=
  let start := text.dropWhile isNumberBlank
  let (negative, unsigned) := match start with
    | '-' :: rest => (true, rest)
    | '+' :: rest => (false, rest)
    | rest => (false, rest)
  let (whole, afterWhole) := unsigned.span Char.isDigit
  let (fraction, afterFraction) := match afterWhole with
    | '.' :: rest => rest.span Char.isDigit
    | rest => ([], rest)
  let pointed := afterWhole.head? == some '.'
  if whole.isEmpty && fraction.isEmpty then none
  else
    let digits := digitsValue (whole ++ fraction)
    let power : Int := -(fraction.length : Int)
    match exponentHead? afterFraction with
    | some (exponent, rest) => some (.real (Binary64.ofDecimal negative digits (power + exponent)), rest)
    | none =>
      let n : Int := if negative then -(digits : Int) else digits
      if pointed then some (.real (Binary64.ofDecimal negative digits power), afterFraction)
      else if isWord n then some (.int n, afterFraction)
      else some (.real (Binary64.ofInt n), afterFraction)

/-- The number that a text as a whole denotes. -/
def number? (text : List Char) : Option Value :=
  match numberHead? text with
  | some (value, rest) => if rest.all isNumberBlank then some value else none
  | none => none

/-! ## Texts of numbers -/

/-- Fifteen significant digits of a positive quotient, and the power of ten of the first one. -/
def fifteenDigits (numerator denominator : Nat) : Nat × Int :=
  let guess : Int := ((Nat.log2 numerator : Int) - Nat.log2 denominator) * 30103 / 100000
  let point := Shortest.pointPosition numerator denominator 8 guess
  let (a, b) := Shortest.powerOfTen (15 - point)
  let digits := (2 * numerator * a + denominator * b) / (2 * denominator * b)
  if digits = Nat.pow 10 15 then (Nat.pow 10 14, point) else (digits, point - 1)

/-- Digits with a point after the first `whole` of them. There is at least one digit on both
sides. -/
def withPoint (digits : List Char) (whole : Nat) : List Char :=
  let padded := digits ++ List.replicate (whole + 1 - digits.length) '0'
  padded.take whole ++ '.' :: padded.drop whole

/-- The text of a number that is not an integer: fifteen digits without zeros at the end. -/
def realText (x : Binary64) : String :=
  if x.isNaN then ""
  else
    let sign := if x.negative && !x.isZero then "-" else ""
    if !x.isFinite then sign ++ "Inf"
    else if x.isZero then "0.0"
    else
      let (numerator, denominator) := x.magnitude
      let (all, power) := fifteenDigits numerator denominator
      let digits := ((toString all).toList.reverse.dropWhile (· == '0')).reverse
      let body :=
        if power < -4 || 14 < power then
          let size := toString power.natAbs
          withPoint digits 1 ++ ['e', if power < 0 then '-' else '+'] ++
            (if size.length < 2 then '0' :: size.toList else size.toList)
        else if power < 0 then '0' :: '.' :: List.replicate (-power - 1).toNat '0' ++ digits
        else withPoint digits (power.toNat + 1)
      sign ++ String.ofList body

/-- The integer that a number equals, when it is well inside of the range of integers. -/
def exactInt? (x : Binary64) : Option Int :=
  x.toInt?.filter fun n => -(Nat.pow 2 63 : Nat) < n && n < (Nat.pow 2 63 : Nat) - 1

namespace Value

/-! ## Storing -/

def stored (affinity : Affinity) : Value → Value
  | text s =>
    if affinity.isNumeric then
      match number? s.toList with
      | some (real x) =>
        match affinity, exactInt? x with
        | .real, _ => real x
        | _, some n => int n
        | _, none => real x
      | some (int n) => if affinity = .real then real (Binary64.ofInt n) else int n
      | _ => text s
    else text s
  | int n =>
    match affinity with
    | .text => text (toString n)
    | .real => real (Binary64.ofInt n)
    | _ => int n
  | real x =>
    match affinity with
    | .text => text (realText x)
    | .numeric | .integer =>
      match exactInt? x with
      | some n => int n
      | none => real x
    | .real => real (if x.isZero then Binary64.zero false else x)
    | _ => real x
  | value => value

/-- The value of a cell that is bound to a parameter. Bytes that are UTF-8 are a text, and what is
not a number is null. -/
def ofCell : Cell → Value
  | .null => null
  | .bool b => int (if b then 1 else 0)
  | .int n => int n
  | .float x => if x.isNaN then null else real x
  | .text s => text s
  | .bytes b =>
    match Utf8.string? b with
    | some s => text s
    | none => blob b
  | .timestamp t => text t.text

/-- The lowest thirty-two bits of an integer, with sign. -/
def lowWord (n : Int) : Int :=
  Int.bmod n (Nat.pow 2 32)

/-- The cell in which a value arrives. Of an integer only thirty-two bits do. -/
def toCell : Value → Cell
  | null => .null
  | int n => .int (lowWord n)
  | real x => .float x
  | text s => .text s
  | blob b => .bytes b

/-! ## Comparing -/

/-- The place of the class of a value in the order of classes. -/
def rank : Value → Nat
  | null => 0
  | int _ | real _ => 1
  | text _ => 2
  | blob _ => 3

def compareInt (n : Int) (x : Binary64) : Ordering :=
  if !x.isFinite then (if x.negative then .gt else .lt)
  else
    let (numerator, denominator) := x.toQuotient
    compare (n * denominator) numerator

/-- Compare two numbers that are not integers. -/
def compareReal (x y : Binary64) : Ordering :=
  if !x.isFinite && !y.isFinite then compare y.negative x.negative
  else if !x.isFinite then (if x.negative then .lt else .gt)
  else if !y.isFinite then (if y.negative then .gt else .lt)
  else
    let (a, b) := x.toQuotient
    let (c, d) := y.toQuotient
    compare (a * d) (c * b)

/-- The order of values. Texts are ordered by their characters and bytes one by one. -/
def order : Value → Value → Ordering
  | int m, int n => compare m n
  | int n, real x => compareInt n x
  | real x, int n => (compareInt n x).swap
  | real x, real y => compareReal x y
  | text s, text t => compareOfLessAndEq s t
  | blob a, blob b => compareOfLessAndEq a b
  | left, right => compare left.rank right.rank

def comparisonAffinity (left right : Affinity) : Affinity :=
  if left = .none then right
  else if right = .none then left
  else if left.isNumeric || right.isNumeric then .numeric
  else .blob

def operand (affinity : Affinity) (value : Value) : Value :=
  match affinity, value with
  | .text, value => value.stored .text
  | .none, value | .blob, value => value
  | _, text s => (number? s.toList).getD (text s)
  | _, value => value

/-! ## Computing -/

def toNumber : Value → Value
  | text s => ((numberHead? s.toList).map (·.1)).getD (int 0)
  | blob b => ((numberHead? (Utf8.decodeLossy b)).map (·.1)).getD (int 0)
  | value => value

/-- A number as one that is not an integer. -/
def toReal : Value → Binary64
  | int n => Binary64.ofInt n
  | real x => x
  | _ => Binary64.zero false

/-- The sum of two numbers; none when it is not defined. -/
def addReal (x y : Binary64) : Option Binary64 :=
  if x.isFinite && y.isFinite then
    let (a, b) := x.toQuotient
    let (c, d) := y.toQuotient
    let sum := a * d + c * b
    some (Binary64.ofQuotient (sum < 0 || (sum == 0 && x.negative && y.negative)) sum.natAbs (b * d))
  else if x.isFinite then some y
  else if y.isFinite || x.negative == y.negative then some x
  else none

def add (left right : Value) : Value :=
  match left.toNumber, right.toNumber with
  | null, _ | _, null => null
  | int m, int n => if isWord (m + n) then int (m + n) else real (Binary64.ofInt (m + n))
  | m, n => ((addReal m.toReal n.toReal).map real).getD null

def negate (value : Value) : Value :=
  match value.toNumber with
  | int n => if isWord (-n) then int (-n) else real (Binary64.ofInt (-n))
  | real x => real (x.withSign !x.negative)
  | other => other

/-- What a value says as a condition; nothing if it is null. -/
def truth? (value : Value) : Option Bool :=
  match value.toNumber with
  | int n => some (n != 0)
  | real x => some !x.isZero
  | _ => none

def ofTruth : Option Bool → Value
  | some true => int 1
  | some false => int 0
  | none => null

end Value

end Tabular.Sql
