import Tabular.Text.Ascii
import Tabular.Yaml.Folding

/-!
# Quoted and plain scalars

Between single quotes a quote is written twice. Between double quotes a backslash starts an escape
or joins two lines. A plain scalar ends before a colon or a comment that stands apart.
-/

set_option autoImplicit false

namespace Tabular.Yaml

def escapeLetter? : Char → Option Char
  | '0' => some '\x00'
  | 'a' => some '\x07'
  | 'b' => some '\x08'
  | 't' => some '\t'
  | '\t' => some '\t'
  | 'n' => some '\n'
  | 'v' => some '\x0B'
  | 'f' => some '\x0C'
  | 'r' => some '\r'
  | 'e' => some '\x1B'
  | ' ' => some ' '
  | '"' => some '"'
  | '/' => some '/'
  | '\\' => some '\\'
  | 'N' => some '\x85'
  | '_' => some '\xA0'
  | 'L' => some '\u2028'
  | 'P' => some '\u2029'
  | _ => none

def escapeDigits : Char → Nat
  | 'x' => 2
  | 'u' => 4
  | 'U' => 8
  | _ => 0

/-- The character of an escape, given what follows the backslash, and the length of the escape
without the backslash. -/
def escape? : List Char → Option (Char × Nat)
  | [] => none
  | letter :: rest =>
    match escapeDigits letter with
    | 0 => (escapeLetter? letter).map fun c => (c, 1)
    | count => do
      let digits := rest.take count
      if digits.length < count then none
      else
        let code ← Ascii.hexNumber? digits
        if code.isValidChar then some (Char.ofNat code, count + 1) else none

inductive Pause where
  /-- At a blank, a line break or the closing quote. -/
  | gap
  | joined
deriving DecidableEq, Repr

/-- Read the characters of a quoted scalar up to a blank, a line break or the closing quote. The text
is in reverse. -/
def quotedWord? (quote : Char) : Nat → List Char → Cursor → Option (List Char × Pause × Cursor)
  | 0, _, _ => none
  | fuel + 1, text, cursor =>
    match cursor.rest with
    | [] => some (text, .gap, cursor)
    | c :: following =>
      if isSpaceOrTab c || isBreak c then some (text, .gap, cursor)
      else if quote == '\'' && c == quote && following.head? == some quote then
        quotedWord? quote fuel (quote :: text) (cursor.skip 2)
      else if c == quote then some (text, .gap, cursor)
      else if quote == '"' && c == '\\' then
        let escaped := cursor.skip 1
        if escaped.endsAt isBreak 0 && !escaped.rest.isEmpty then
          some (text, .joined, escaped.lineBreak.2)
        else
          match escape? following with
          | none => none
          | some (c, count) => quotedWord? quote fuel (c :: text) (escaped.skip count)
      else quotedWord? quote fuel (c :: text) (cursor.skip 1)

/-- Read a quoted scalar behind its opening quote. No document may start or end inside. -/
def quoted? (quote : Char) : Nat → List Char → Cursor → Option (List Char × Cursor)
  | 0, _, _ => none
  | fuel + 1, text, cursor =>
    if cursor.atMarker || cursor.rest.isEmpty then none
    else do
      let (text, pause, cursor) ← quotedWord? quote cursor.fuel text cursor
      if cursor.sees quote then some (text.reverse, cursor.skip 1)
      else
        let (gap, cursor) ← Gap.read? 0 cursor.fuel { broken := pause == .joined } cursor
        quoted? quote fuel (gap.text.reverse ++ text) cursor

def isFlowMark (c : Char) : Bool :=
  c == ',' || c == '[' || c == ']' || c == '\x7b' || c == '\x7d'

/-- Read the characters of a plain scalar up to a blank or to a mark that ends it, onto the text in
reverse. Inside a flow collection a colon right before one of its marks is refused. -/
def plainWord? (flow : Bool) : Nat → List Char → Cursor → Option (List Char × Cursor)
  | 0, _, _ => none
  | fuel + 1, text, cursor =>
    match cursor.rest with
    | [] => some (text, cursor)
    | c :: following =>
      if isSpaceOrTab c || isBreak c then some (text, cursor)
      else if flow && c == ':' && following.head?.any (fun d => isFlowMark d || d == '?') then none
      else if c == ':' && cursor.isBlankAt 1 then some (text, cursor)
      else if flow && isFlowMark c then some (text, cursor)
      else plainWord? flow fuel (c :: text) (cursor.skip 1)

/-- A plain scalar, and whether line breaks follow it. -/
structure Plain where
  text : List Char
  broken : Bool
  cursor : Cursor

/-- Read a plain scalar. Its lines stand at column `indent` or behind, unless it is in a flow
collection. `text` is what was read, in reverse, and `gap` what was read behind it. -/
def plain? (flow : Bool) (indent : Int) : Nat → List Char → Gap → Cursor → Option Plain
  | 0, _, _, _ => none
  | fuel + 1, text, gap, cursor =>
    if cursor.atMarker || cursor.sees '#' then some ⟨text.reverse, gap.broken, cursor⟩
    else do
      let (word, next) ← plainWord? flow cursor.fuel [] cursor
      if word.isEmpty then some ⟨text.reverse, gap.broken, cursor⟩
      else
        let text := word ++ gap.text.reverse ++ text
        if next.rest.isEmpty || !next.isBlankAt 0 then some ⟨text.reverse, false, next⟩
        else
          let (gap, next) ← Gap.read? indent next.fuel {} next
          if !flow && (next.column : Int) < indent then some ⟨text.reverse, gap.broken, next⟩
          else plain? flow indent fuel text gap next

end Tabular.Yaml
