import Tabular.Error
import Tabular.Text.Ascii

/-!
# Delimiter literals

A delimiter is written as one character, or as a backslash escape of one: a letter for a control
character, a quote or the backslash itself, `\x` with two hexadecimal digits, `\u` with four, or
`\u` with one to six between braces. The empty literal is the comma.

A literal is read from its front. Of several ways to go on the first that succeeds is taken, and the
literal has to be read to its end.
-/

set_option autoImplicit false

namespace Tabular.Delimiter

/-- What is read at the front of a text, and the text behind it. -/
abbrev Reading (α : Type) := List Char → Option (α × List Char)

namespace Reading

variable {α β : Type}

def character (expected : Char) : Reading Char
  | c :: rest => if c == expected then some (c, rest) else none
  | [] => none

def otherThan (refused : Char) : Reading Char
  | c :: rest => if c == refused then none else some (c, rest)
  | [] => none

/-- As many hexadecimal digits as there are, up to `most`; it fails if there are fewer than
`least`. -/
def hexDigits (least most : Nat) : Reading (List Char) := fun text =>
  let digits := (text.take most).takeWhile fun c => (Ascii.hexDigit? c).isSome
  if digits.length < least then none else some (digits, text.drop digits.length)

/-- A reading of what follows a mark. -/
def behind (mark : Char) (reading : Reading α) : Reading α := fun text => do
  let (_, rest) ← character mark text
  reading rest

def endedBy (mark : Char) (reading : Reading α) : Reading α := fun text => do
  let (found, rest) ← reading text
  let (_, rest) ← character mark rest
  some (found, rest)

def filterMap (f : α → Option β) (reading : Reading α) : Reading β := fun text => do
  let (found, rest) ← reading text
  let value ← f found
  some (value, rest)

/-- The first of the readings that succeeds. -/
def firstOf (readings : List (Reading α)) : Reading α := fun text =>
  readings.findSome? fun reading => reading text

/-- What is read of a whole text. -/
def whole (reading : Reading α) (text : List Char) : Option α :=
  match reading text with
  | some (found, []) => some found
  | _ => none

end Reading

open Reading

/-- The character with the given hexadecimal code, if there is one. -/
def ofHex? (digits : List Char) : Option Char := do
  let code ← Ascii.hexNumber? digits
  if code.isValidChar then some (Char.ofNat code) else none

def letterEscape (letter meant : Char) : Reading Char :=
  (character letter).filterMap fun _ => some meant

def byteEscape : Reading Char :=
  (behind 'x' (hexDigits 2 2)).filterMap ofHex?

def bracedDigits : Reading (List Char) :=
  behind '\x7b' (endedBy '\x7d' (hexDigits 1 6))

def codeEscape : Reading Char :=
  (behind 'u' (firstOf [bracedDigits, hexDigits 4 4])).filterMap ofHex?

/-- What may stand behind a backslash. -/
def escapes : List (Reading Char) :=
  [letterEscape 't' '\t', letterEscape 'n' '\n', letterEscape 'r' '\r', letterEscape '0' '\x00',
    letterEscape '\\' '\\', letterEscape '\'' '\'', letterEscape '"' '"', byteEscape, codeEscape]

def escape : Reading Char :=
  behind '\\' (firstOf escapes)

/-- One character, written as it is or escaped. -/
def single : Reading Char :=
  firstOf [escape, otherThan '\\']

def parse (literal : String) : Result Char :=
  if literal.isEmpty then .ok ','
  else
    match single.whole literal.toList with
    | some c => .ok c
    | none => .error (.invalidDelimiter literal "must be a single character")

end Tabular.Delimiter
