import Tabular.Json.Parser
import Tabular.Json.Printer

/-!
# Typed JSON input

A reader takes a value of one type from the head of a text. A value of another type is a fault, at
the end of a scalar and at the start of a list or record. A reader looks no further than its value,
so of several faults the first one in the text is reported.
-/

set_option autoImplicit false

namespace Tabular.Json

abbrev Reader (α : Type) := List UInt8 → Except Fault (Parsed α)

def messageChar (c : Char) : List Char :=
  if c == '"' || c == '\\' then ['\\', c]
  else if c == '\n' then ['\\', 'n']
  else if c == '\r' then ['\\', 'r']
  else if c == '\t' then ['\\', 't']
  else if c == '\x00' then ['\\', '0']
  else if c.toNat < 0x20 || c.toNat == 0x7F then
    ['\\', 'u', '{'] ++ Nat.toDigits 16 c.toNat ++ ['}']
  else [c]

/-- What a scalar is, in a message. -/
def kindText : Document → String
  | .null => "null"
  | .bool value => "boolean `" ++ (if value then "true" else "false") ++ "`"
  | .number (.integer n) => "integer `" ++ toString n ++ "`"
  | .number (.float x) => "floating point `" ++ NumberStyle.interchange.text x ++ "`"
  | .text value => "string \"" ++ String.ofList (value.toList.flatMap messageChar) ++ "\""
  | .list _ => "sequence"
  | .record _ => "map"

def Cause.mismatch (found : Document) (wanted : String) : Cause :=
  .unsuitable ("invalid type: " ++ kindText found ++ ", expected " ++ wanted)

namespace Reader

/-- Fail at a value that is not a wanted one. -/
def mismatch {α : Type} (wanted : String) : Reader α
  | [] => failAt .eofInValue []
  | 0x5B :: rest => failAt (.mismatch (.list []) wanted) (0x5B :: rest)
  | 0x7B :: rest => failAt (.mismatch (.record []) wanted) (0x7B :: rest)
  | input => do
    let (found, rest) ← value 1 1 input
    failAt (.mismatch found wanted) rest

/-- Fail with a reason that is found out inside a list or record, behind its closing bracket if that
comes next. -/
def refuse {α : Type} (reason : String) (closing : UInt8) : Reader α := fun input =>
  match skipBlank input with
  | [] => failAt (.unsuitable reason) []
  | b :: rest => failAt (.unsuitable reason) (if b == closing then rest else b :: rest)

def text : Reader String := fun input =>
  match skipBlank input with
  | 0x22 :: rest => stringBody (rest.length + 1) rest
  | rest => mismatch "a string" rest

/-- Nothing for a null, or a value. -/
def nullable {α : Type} (reader : Reader α) : Reader (Option α) := fun input =>
  match skipBlank input with
  | 0x6E :: rest => do
    let (_, rest) ← word [0x75, 0x6C, 0x6C] .null rest
    .ok (none, rest)
  | rest => do
    let (found, rest) ← reader rest
    .ok (some found, rest)

/-! ## Lists and records -/

/-- The next item of a list, or nothing before its closing bracket. -/
def item {α : Type} (first : Bool) (reader : Reader α) : Reader (Option α) := fun input =>
  match skipBlank input with
  | [] => failAt .eofInList []
  | 0x5D :: rest => .ok (none, 0x5D :: rest)
  | b :: rest =>
    if !first && b != 0x2C then failAt .expectedListEnd rest
    else
      match skipBlank (if first then b :: rest else rest) with
      | [] => failAt .eofInValue []
      | 0x5D :: rest => failAt .trailingComma rest
      | start => do
        let (found, rest) ← reader start
        .ok (some found, rest)

/-- The closing bracket of a list that has all its items. -/
def listEnd {α : Type} (found : α) : Reader α := fun input =>
  match skipBlank input with
  | [] => failAt .eofInList []
  | 0x5D :: rest => .ok (found, rest)
  | 0x2C :: rest =>
    match skipBlank rest with
    | 0x5D :: rest => failAt .trailingComma rest
    | rest => failAtNext .trailingCharacters rest
  | _ :: rest => failAt .trailingCharacters rest

/-- The members of a record up to and with its closing brace, each added to what is known so far. A
member is read as its name says; a name that must not come now has a reason instead. -/
def members {α : Type} (member : α → String → Except String (Reader α)) : Nat → Bool → α → Reader α
  | 0, _, _, input => failAt .eofInObject input
  | fuel + 1, first, known, input =>
    match skipBlank input with
    | [] => failAt .eofInObject []
    | 0x7D :: rest => .ok (known, rest)
    | b :: rest =>
      if !first && b != 0x2C then failAt .expectedObjectEnd rest
      else
        match skipBlank (if first then b :: rest else rest) with
        | [] => failAt .eofInValue []
        | 0x22 :: start => do
          let (name, rest) ← stringBody (start.length + 1) start
          match member known name with
          | .error reason => refuse reason 0x7D rest
          | .ok reader =>
            match skipBlank rest with
            | [] => failAt .eofInObject []
            | 0x3A :: start => do
              let (known, rest) ← reader start
              members member fuel false known rest
            | _ :: rest => failAt .expectedColon rest
        | 0x7D :: rest => failAt .trailingComma rest
        | _ :: rest => failAt .keyNotString rest

def membersOf {α : Type} (start : α) (member : α → String → Except String (Reader α)) : Reader α :=
  fun input => members member (input.length + 1) true start input

/-! ## Values that are not wanted -/

inductive Bracket where
  | list
  | record
deriving DecidableEq, Repr, Inhabited

def Bracket.closing : Bracket → UInt8
  | list => 0x5D
  | record => 0x7D

def Bracket.eof : Bracket → Cause
  | list => .eofInList
  | record => .eofInObject

def Bracket.expected : Bracket → Cause
  | list => .expectedListEnd
  | record => .expectedObjectEnd

/-- A quoted text to its closing quote. Half of a pair of escapes may stand alone in it. -/
def skipText : Nat → List UInt8 → Except Fault (List UInt8)
  | 0, input => failAt .eofInString input
  | fuel + 1, input =>
    match input with
    | [] => failAt .eofInString []
    | 0x22 :: rest => .ok rest
    | 0x5C :: [] => failAt .eofInString []
    | 0x5C :: 0x75 :: rest => do
      let (_, rest) ← hexEscape rest
      skipText fuel rest
    | 0x5C :: letter :: rest =>
      if (escapeLetter? letter).isSome then skipText fuel rest else failAt .invalidEscape rest
    | b :: rest => if b < 0x20 then failAt .controlCharacter (b :: rest) else skipText fuel rest

def skipExponent (input : List UInt8) : Except Fault (List UInt8) :=
  match input with
  | 0x65 :: rest | 0x45 :: rest =>
    let unsigned := match rest with
      | 0x2B :: rest | 0x2D :: rest => rest
      | rest => rest
    match digits unsigned with
    | ([], rest) => failAt .invalidNumber (rest.drop 1)
    | (_, rest) => .ok rest
  | rest => .ok rest

/-- A number without its sign that can have any size. -/
def skipNumber (input : List UInt8) : Except Fault (List UInt8) :=
  match digits input with
  | ([], rest) => failAt .invalidNumber (rest.drop 1)
  | (first :: others, rest) =>
    if first == 0x30 && !others.isEmpty then failAtNext .invalidNumber (others ++ rest)
    else
      match rest with
      | 0x2E :: rest =>
        match digits rest with
        | ([], rest) => failAtNext .invalidNumber rest
        | (_, rest) => skipExponent rest
      | rest => skipExponent rest

def skipName (input : List UInt8) : Except Fault (List UInt8) := do
  match skipBlank input with
  | [] => failAt .eofInObject []
  | 0x22 :: rest =>
    match skipBlank (← skipText (rest.length + 1) rest) with
    | [] => failAt .eofInObject []
    | 0x3A :: rest => .ok rest
    | _ :: rest => failAt .expectedColon rest
  | _ :: rest => failAt .keyNotString rest

inductive SkipPoint where
  | value
  /-- The innermost bracket has just been opened. -/
  | opened
  | ended

/-- Skip to the end of a value that is inside of the given brackets, the innermost one first. Values
nest to any depth. -/
def skip : Nat → SkipPoint → List Bracket → List UInt8 → Except Fault (List UInt8)
  | 0, _, _, input => failAt .eofInValue input
  | fuel + 1, .value, around, input => do
    match skipBlank input with
    | [] => failAt .eofInValue []
    | 0x5B :: rest => skip fuel .opened (.list :: around) rest
    | 0x7B :: rest => skip fuel .opened (.record :: around) rest
    | 0x22 :: rest => skip fuel .ended around (← skipText (rest.length + 1) rest)
    | 0x2D :: rest => skip fuel .ended around (← skipNumber rest)
    | b :: rest =>
      if isDigit b then skip fuel .ended around (← skipNumber (b :: rest))
      else do
        let (_, rest) ← Json.value 1 1 (b :: rest)
        skip fuel .ended around rest
  | _ + 1, .opened, [], input => .ok input
  | fuel + 1, .opened, bracket :: around, input => do
    match skipBlank input with
    | [] => failAt bracket.eof []
    | b :: rest =>
      if b == bracket.closing then skip fuel .ended around rest
      else if bracket = .record then skip fuel .value (bracket :: around) (← skipName (b :: rest))
      else skip fuel .value (bracket :: around) (b :: rest)
  | _ + 1, .ended, [], input => .ok input
  | fuel + 1, .ended, bracket :: around, input => do
    match skipBlank input with
    | [] => failAt bracket.eof []
    | b :: rest =>
      if b == bracket.closing then skip fuel .ended around rest
      else if b != 0x2C then failAt bracket.expected rest
      else if bracket = .record then skip fuel .value (bracket :: around) (← skipName rest)
      else skip fuel .value (bracket :: around) rest

def ignored : Reader Unit := fun input => do
  .ok ((), ← skip (2 * input.length + 2) .value [] input)

end Reader

end Tabular.Json
