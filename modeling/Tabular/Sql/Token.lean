import Tabular.Sql.Value

/-!
# Tokens of statements

A statement is a sequence of words, quoted names, literals, parameters and symbols. Every token is
kept with the text that begins with it, so the text of a part of a statement can be told.
-/

set_option autoImplicit false

namespace Tabular.Sql

inductive Token where
  | word (text : String)
  | name (text : String)
  /-- What stands between double quotes is a name, or a text where there is no such name. -/
  | either (text : String)
  | literal (value : Value)
  /-- A parameter. Parameters are numbered from zero as they come. -/
  | param (number : Nat)
  | symbol (text : String)
deriving DecidableEq, Repr, Inhabited

structure Lexeme where
  token : Token
  start : List Char
deriving Repr, Inhabited

namespace Token

def isBlank (c : Char) : Bool :=
  c == ' ' || c == '\t' || c == '\n' || c == '\x0C' || c == '\r'

def startsWord (c : Char) : Bool :=
  c.isAlpha || c == '_' || 0x80 ≤ c.toNat

def continuesWord (c : Char) : Bool :=
  startsWord c || c.isDigit || c == '$'

/-- What stands before a closing quote after what has been read, which is in reverse, and what follows
the quote. A quote inside is written twice. -/
def quotedFrom? (quote : Char) : List Char → List Char → Option (List Char × List Char)
  | _, [] => none
  | read, [c] => if c == quote then some (read.reverse, []) else none
  | read, c :: d :: rest =>
    if c != quote then quotedFrom? quote (c :: read) (d :: rest)
    else if d == quote then quotedFrom? quote (quote :: read) rest
    else some (read.reverse, d :: rest)

/-- What stands before a closing quote, and what follows it. -/
def quoted? (quote : Char) (text : List Char) : Option (List Char × List Char) :=
  quotedFrom? quote [] text

/-- The bytes of pairs of hexadecimal digits. -/
def hexBytes? : List Char → Option (List UInt8)
  | [] => some []
  | a :: b :: rest => do
    let high ← Ascii.hexDigit? a
    let low ← Ascii.hexDigit? b
    return UInt8.ofNat (high * 16 + low) :: (← hexBytes? rest)
  | [_] => none

/-- What follows a comment between a slash with a star and a star with a slash. -/
def afterComment : List Char → List Char
  | [] => []
  | '*' :: '/' :: rest => rest
  | _ :: rest => afterComment rest

/-- A literal number at the head of a text. No word may touch its end. -/
def number? (text : List Char) : Option (Token × List Char) :=
  match numberHead? text with
  | some (value, rest) =>
    if rest.head?.any continuesWord then none else some (literal value, rest)
  | none => none

def pairs : List (Char × Char) :=
  [('=', '='), ('<', '>'), ('!', '='), ('<', '='), ('>', '=')]

def singles : List Char :=
  ['(', ')', ',', '.', ';', '*', '+', '-', '=', '<', '>']

def symbol? : List Char → Option (Token × List Char)
  | [] => none
  | [c] => if singles.contains c then some (symbol (String.singleton c), []) else none
  | c :: d :: rest =>
    if pairs.contains (c, d) then some (symbol (String.ofList [c, d]), rest)
    else if singles.contains c then some (symbol (String.singleton c), d :: rest)
    else none

/-- The token at the head of a text that does not begin with a blank or a comment. -/
def head? (text : List Char) : Option (Token × List Char) :=
  match text with
  | [] => none
  | c :: rest =>
    if c == '\'' then
      (quoted? '\'' rest).map fun (inner, after) => (literal (.text (String.ofList inner)), after)
    else if c == '"' then
      (quoted? '"' rest).map fun (inner, after) => (either (String.ofList inner), after)
    else if c == '\x60' then
      (quoted? '\x60' rest).map fun (inner, after) => (name (String.ofList inner), after)
    else if c == '[' then
      let (inner, after) := rest.span (· != ']')
      if after.isEmpty then none else some (name (String.ofList inner), after.drop 1)
    else if c == '?' then
      if rest.head?.any Char.isDigit then none else some (param 0, rest)
    else if (c == 'x' || c == 'X') && rest.head? == some '\'' then do
      let (inner, after) ← quoted? '\'' (rest.drop 1)
      return (literal (.blob (← hexBytes? inner)), after)
    else if startsWord c then
      let (run, after) := (c :: rest).span continuesWord
      some (word (String.ofList run), after)
    else if c.isDigit || (c == '.' && rest.head?.any Char.isDigit) then number? (c :: rest)
    else symbol? (c :: rest)

/-- The tokens of a text after those that have been read, which are in reverse. Each takes at least one
character, so their number is bounded by `fuel`. -/
def scan? : Nat → List Lexeme → List Char → Option (List Lexeme)
  | 0, _, _ => none
  | fuel + 1, read, text =>
    match text with
    | [] => some read.reverse
    | '-' :: '-' :: rest => scan? fuel read (rest.dropWhile (· != '\n'))
    | '/' :: '*' :: rest => scan? fuel read (afterComment rest)
    | c :: rest =>
      if isBlank c then scan? fuel read rest
      else
        match head? (c :: rest) with
        | none => none
        | some (token, after) => scan? fuel (⟨token, c :: rest⟩ :: read) after

/-- Number the parameters among tokens; `count` parameters go before, and the tokens before are in
reverse. -/
def numbered (count : Nat) (before : List Lexeme) : List Lexeme → List Lexeme
  | [] => before.reverse
  | lexeme :: rest =>
    match lexeme.token with
    | param _ => numbered (count + 1) ({ lexeme with token := param count } :: before) rest
    | _ => numbered count (lexeme :: before) rest

/-- The tokens of a text; none when something in it is not a token. -/
def all? (text : String) : Option (List Lexeme) :=
  (scan? (text.length + 1) [] text.toList).map (numbered 0 [])

end Token

end Tabular.Sql
