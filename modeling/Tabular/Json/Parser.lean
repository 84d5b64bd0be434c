import Tabular.Document
import Tabular.Text.Ascii
import Tabular.Text.Utf8

/-!
# JSON input

A value is read from the head of a byte string and leaves the bytes after it, so a text can hold
one value or a sequence of them. Of a repeated field the last value is kept, at the place of the
first. Numbers with a fraction, an exponent or too many digits are the product or
quotient of two binary64 numbers, the significant digits that fit in sixty-four bits and a power of
ten, so they can differ from the written number in the last place.
-/

set_option autoImplicit false

namespace Tabular.Json

inductive Cause where
  | eofInList
  | eofInObject
  | eofInString
  | eofInValue
  | expectedColon
  | expectedListEnd
  | expectedObjectEnd
  | expectedIdent
  | expectedValue
  | invalidEscape
  | invalidNumber
  | numberOutOfRange
  | invalidUnicode
  | controlCharacter
  | keyNotString
  | loneSurrogate
  | trailingComma
  | trailingCharacters
  | unexpectedEndOfHexEscape
  | tooDeep
  /-- The value is JSON but not the value that is wanted. -/
  | unsuitable (reason : String)
deriving DecidableEq, Repr, Inhabited

structure Fault where
  cause : Cause
  remaining : Nat
deriving DecidableEq, Repr, Inhabited

def Cause.text : Cause → String
  | eofInList => "EOF while parsing a list"
  | eofInObject => "EOF while parsing an object"
  | eofInString => "EOF while parsing a string"
  | eofInValue => "EOF while parsing a value"
  | expectedColon => "expected `:`"
  | expectedListEnd => "expected `,` or `]`"
  | expectedObjectEnd => "expected `,` or `\x7d`"
  | expectedIdent => "expected ident"
  | expectedValue => "expected value"
  | invalidEscape => "invalid escape"
  | invalidNumber => "invalid number"
  | numberOutOfRange => "number out of range"
  | invalidUnicode => "invalid unicode code point"
  | controlCharacter => "control character (\\u0000-\\u001F) found while parsing a string"
  | keyNotString => "key must be a string"
  | loneSurrogate => "lone leading surrogate in hex escape"
  | trailingComma => "trailing comma"
  | trailingCharacters => "trailing characters"
  | unexpectedEndOfHexEscape => "unexpected end of hex escape"
  | tooDeep => "recursion limit exceeded"
  | unsuitable reason => reason

/-- Describe a fault in the given text by its line and its column in bytes, both from one. -/
def Fault.text (fault : Fault) (input : List UInt8) : String :=
  let before := input.take (input.length - fault.remaining)
  let line := before.count 0x0A + 1
  let column := (before.reverse.takeWhile (· != 0x0A)).length
  fault.cause.text ++ " at line " ++ toString line ++ " column " ++ toString column

/-- A value read from the head of an input, and the bytes after it. -/
abbrev Parsed (α : Type) := α × List UInt8

def failAt {α : Type} (cause : Cause) (rest : List UInt8) : Except Fault α :=
  .error ⟨cause, rest.length⟩

def failAtNext {α : Type} (cause : Cause) (rest : List UInt8) : Except Fault α :=
  .error ⟨cause, rest.length - 1⟩

def isBlank (b : UInt8) : Bool :=
  b == 0x20 || b == 0x0A || b == 0x09 || b == 0x0D

def skipBlank (input : List UInt8) : List UInt8 :=
  input.dropWhile isBlank

def isDigit (b : UInt8) : Bool :=
  0x30 ≤ b && b ≤ 0x39

def digitValue (b : UInt8) : Nat :=
  b.toNat - 0x30

def digits (input : List UInt8) : List UInt8 × List UInt8 :=
  input.span isDigit

/-- Digits added to a significand while it fits in sixty-four bits: the significand, and how many
digits did not fit. -/
def significand : List UInt8 → Nat → Nat × Nat
  | [], n => (n, 0)
  | d :: rest, n =>
    let grown := n * 10 + digitValue d
    if grown < Nat.pow 2 64 then significand rest grown else (n, rest.length + 1)

/-- A significand times a power of ten, by at most one rounded multiplication or by rounded
divisions. Nothing when the result is out of range. -/
def scale? : Nat → Binary64 → Int → Option Binary64
  | 0, x, _ => some x
  | fuel + 1, x, power =>
    if power.natAbs ≤ 308 then
      let factor := Binary64.ofNat (Nat.pow 10 power.natAbs)
      if 0 ≤ power then
        let product := x.mul factor
        if product.isFinite then some product else none
      else some (x.div factor)
    else if x.isZero then some x
    else if 0 ≤ power then none
    else scale? fuel (x.div (Binary64.ofNat (Nat.pow 10 308))) (power + 308)

def scaled (negative : Bool) (n : Nat) (power : Int) (rest : List UInt8) : Except Fault (Parsed Document) :=
  match scale? 8 (Binary64.ofNat n) power with
  | some x => .ok (.number (.float (x.withSign negative)), rest)
  | none => failAt .numberOutOfRange rest

/-- The number after `e` or `E`: an exponent added to the power of ten so far. -/
def exponentPart (negative : Bool) (n : Nat) (power : Int) (input : List UInt8) : Except Fault (Parsed Document) :=
  let (down, afterSign) := match input with
    | 0x2B :: rest => (false, rest)
    | 0x2D :: rest => (true, rest)
    | rest => (false, rest)
  match afterSign with
  | [] => failAt .eofInValue []
  | first :: afterFirst =>
    if !isDigit first then failAt .invalidNumber afterFirst
    else
      let (run, rest) := digits afterSign
      let size := run.foldl (fun total d => total * 10 + digitValue d) 0
      if size < Nat.pow 2 31 then scaled negative n (if down then power - size else power + size) rest
      else if n != 0 && !down then failAt .numberOutOfRange rest
      else .ok (.number (.float (Binary64.zero negative)), rest)

/-- The digits after a decimal point, and an exponent. -/
def fractionPart (negative : Bool) (n : Nat) (power : Int) (input : List UInt8) : Except Fault (Parsed Document) :=
  let (run, rest) := digits input
  let (grown, dropped) := significand run n
  let lowered := power - (run.length - dropped : Nat)
  if run.isEmpty then
    match rest with
    | [] => failAt .eofInValue []
    | _ => failAtNext .invalidNumber rest
  else
    match rest with
    | 0x65 :: tail | 0x45 :: tail => exponentPart negative grown lowered tail
    | _ => scaled negative grown lowered rest

/-- A number without its sign. -/
def unsignedNumber (negative : Bool) (input : List UInt8) : Except Fault (Parsed Document) :=
  let (run, rest) := digits input
  match run with
  | [] =>
    match rest with
    | [] => failAt .eofInValue []
    | _ :: tail => failAt .invalidNumber tail
  | first :: others =>
    if first == 0x30 && !others.isEmpty then failAtNext .invalidNumber (others ++ rest)
    else
      let (n, dropped) := significand run 0
      match rest with
      | 0x2E :: tail => fractionPart negative n dropped tail
      | 0x65 :: tail | 0x45 :: tail => exponentPart negative n dropped tail
      | _ =>
        if dropped != 0 then scaled negative n dropped rest
        else if !negative then .ok (.number (.integer n), rest)
        else if n == 0 || Nat.pow 2 63 < n then
          .ok (.number (.float ((Binary64.ofNat n).withSign true)), rest)
        else .ok (.number (.integer (-(n : Int))), rest)

def hexEscape (input : List UInt8) : Except Fault (Parsed Nat) :=
  match input with
  | a :: b :: c :: d :: rest =>
    match Ascii.hexNumber? ([a, b, c, d].map fun x => Char.ofNat x.toNat) with
    | some n => .ok (n, rest)
    | none => failAt .invalidEscape rest
  | _ => failAt .eofInString []

/-- A character after a backslash and `u`. A character beyond the first plane takes two escapes. -/
def unicodeEscape (input : List UInt8) : Except Fault (Parsed Char) := do
  let (high, rest) ← hexEscape input
  if 0xDC00 ≤ high && high ≤ 0xDFFF then failAt .loneSurrogate rest
  else if 0xD800 ≤ high && high ≤ 0xDBFF then
    match rest with
    | 0x5C :: 0x75 :: more =>
      let (low, rest) ← hexEscape more
      if 0xDC00 ≤ low && low ≤ 0xDFFF then
        .ok (Char.ofNat (0x10000 + (high - 0xD800) * 0x400 + (low - 0xDC00)), rest)
      else failAt .loneSurrogate rest
    | _ => failAt .unexpectedEndOfHexEscape rest
  else .ok (Char.ofNat high, rest)

def escapeLetter? (b : UInt8) : Option Char :=
  match b with
  | 0x22 => some '"'
  | 0x5C => some '\\'
  | 0x2F => some '/'
  | 0x62 => some '\x08'
  | 0x66 => some '\x0C'
  | 0x6E => some '\n'
  | 0x72 => some '\r'
  | 0x74 => some '\t'
  | _ => none

/-- The bytes of a quoted text after its opening quote, in reverse after `read`. -/
def stringBytes : Nat → List UInt8 → List UInt8 → Except Fault (Parsed (List UInt8))
  | 0, _, input => failAt .eofInString input
  | fuel + 1, read, input =>
    match input with
    | [] => failAt .eofInString []
    | 0x22 :: rest => .ok (read.reverse, rest)
    | 0x5C :: rest =>
      match rest with
      | [] => failAt .eofInString []
      | 0x75 :: more => do
        let (c, rest) ← unicodeEscape more
        stringBytes fuel ((Utf8.encodeChar c).reverse ++ read) rest
      | letter :: more =>
        match escapeLetter? letter with
        | some c => stringBytes fuel ((Utf8.encodeChar c).reverse ++ read) more
        | none => failAt .invalidEscape more
    | b :: rest =>
      if b < 0x20 then failAt .controlCharacter rest else stringBytes fuel (b :: read) rest

/-- A quoted text after its opening quote. The fuel exceeds the number of bytes. -/
def stringBody (fuel : Nat) (input : List UInt8) : Except Fault (Parsed String) := do
  let (bytes, rest) ← stringBytes fuel [] input
  match Utf8.string? bytes with
  | some text => .ok (text, rest)
  | none => failAt .invalidUnicode rest

def word (letters : List UInt8) (value : Document) (input : List UInt8) : Except Fault (Parsed Document) :=
  match letters, input with
  | [], rest => .ok (value, rest)
  | _ :: _, [] => failAt .eofInValue []
  | letter :: letters, b :: rest =>
    if b == letter then word letters value rest else failAt .expectedIdent rest

def depthLimit : Nat := 128

mutual

/-- A value at the head of the input, which holds no list or record deeper than `depth - 1`. The fuel
exceeds twice the number of bytes. -/
def value : Nat → Nat → List UInt8 → Except Fault (Parsed Document)
  | 0, _, input => failAt .tooDeep input
  | fuel + 1, depth, input =>
    match skipBlank input with
    | [] => failAt .eofInValue []
    | 0x6E :: rest => word [0x75, 0x6C, 0x6C] .null rest
    | 0x74 :: rest => word [0x72, 0x75, 0x65] (.bool true) rest
    | 0x66 :: rest => word [0x61, 0x6C, 0x73, 0x65] (.bool false) rest
    | 0x22 :: rest => do
      let (text, rest) ← stringBody fuel rest
      .ok (.text text, rest)
    | 0x2D :: rest => unsignedNumber true rest
    | 0x5B :: rest =>
      if depth ≤ 1 then failAt .tooDeep rest
      else do
        let (found, rest) ← items fuel (depth - 1) true [] rest
        .ok (.list found, rest)
    | 0x7B :: rest =>
      if depth ≤ 1 then failAt .tooDeep rest
      else do
        let (found, rest) ← members fuel (depth - 1) true [] rest
        .ok (.record (Document.fieldsOf found), rest)
    | b :: rest =>
      if isDigit b then unsignedNumber false (b :: rest) else failAt .expectedValue rest

/-- The items of a list up to its closing bracket, in reverse after `read`. -/
def items : Nat → Nat → Bool → List Document → List UInt8 → Except Fault (Parsed (List Document))
  | 0, _, _, _, input => failAt .tooDeep input
  | fuel + 1, depth, first, read, input =>
    match skipBlank input with
    | [] => failAt .eofInList []
    | 0x5D :: rest => .ok (read.reverse, rest)
    | b :: rest =>
      if !first && b != 0x2C then failAt .expectedListEnd rest
      else
        match skipBlank (if first then b :: rest else rest) with
        | [] => failAt .eofInValue []
        | 0x5D :: rest => failAt .trailingComma rest
        | start => do
          let (item, rest) ← value fuel depth start
          items fuel depth false (item :: read) rest

/-- The fields of a record up to its closing brace, in reverse after `read`. -/
def members : Nat → Nat → Bool → List (String × Document) → List UInt8 →
    Except Fault (Parsed (List (String × Document)))
  | 0, _, _, _, input => failAt .tooDeep input
  | fuel + 1, depth, first, read, input =>
    match skipBlank input with
    | [] => failAt .eofInObject []
    | 0x7D :: rest => .ok (read.reverse, rest)
    | b :: rest =>
      if !first && b != 0x2C then failAt .expectedObjectEnd rest
      else
        match skipBlank (if first then b :: rest else rest) with
        | [] => failAt .eofInValue []
        | 0x22 :: start => do
          let (key, rest) ← stringBody fuel start
          match skipBlank rest with
          | [] => failAt .eofInObject []
          | 0x3A :: start => do
            let (found, rest) ← value fuel depth start
            members fuel depth false ((key, found) :: read) rest
          | _ :: rest => failAt .expectedColon rest
        | 0x7D :: rest => failAt .trailingComma rest
        | _ :: rest => failAt .keyNotString rest

end

def fuelFor (input : List UInt8) : Nat :=
  2 * input.length + 4

def atEnd {α : Type} : Parsed α → Except Fault α
  | (found, rest) =>
    match skipBlank rest with
    | [] => .ok found
    | _ :: rest => failAt .trailingCharacters rest

def parse (input : List UInt8) : Except Fault Document := do
  atEnd (← value (fuelFor input) depthLimit input)

/-- The document of a string, or nothing when it is not JSON. -/
def parse? (text : String) : Option Document :=
  (parse (Utf8.bytes text)).toOption

/-- Whether a byte can directly follow a number or a word in a sequence of values. -/
def endsScalar (b : UInt8) : Bool :=
  isBlank b || b == 0x22 || b == 0x5B || b == 0x5D || b == 0x7B || b == 0x7D || b == 0x2C ||
    b == 0x3A

def opensDelimited (b : UInt8) : Bool :=
  b == 0x5B || b == 0x22 || b == 0x7B

/-- The outcomes of reading one value after the other. A scalar that runs into a following character
is lost but reading goes on behind it; a value that is not JSON ends the sequence. -/
def sequence : Nat → List UInt8 → List (Except Fault Document)
  | 0, _ => []
  | fuel + 1, input =>
    match skipBlank input with
    | [] => []
    | b :: start =>
      match value fuel depthLimit (b :: start) with
      | .error fault => [.error fault]
      | .ok (found, rest) =>
        match rest with
        | [] => [.ok found]
        | c :: _ =>
          if opensDelimited b || endsScalar c then .ok found :: sequence fuel rest
          else .error ⟨.trailingCharacters, rest.length - 1⟩ :: sequence fuel rest

/-- The outcomes of reading all values of a text. -/
def parseAll (input : List UInt8) : List (Except Fault Document) :=
  sequence (fuelFor input) input

end Tabular.Json
