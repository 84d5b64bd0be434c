/-!
# Cursors in YAML text

The characters that are left of a text and where the next one stands. Layout depends on columns, and
a key has to stay on its line, so a cursor counts lines and columns.
-/

set_option autoImplicit false

namespace Tabular.Yaml

def isPrintable (c : Char) : Bool :=
  let n := c.toNat
  n == 0x09 || n == 0x0A || n == 0x0D || (0x20 ≤ n && n ≤ 0x7E) || n == 0x85 ||
    (0xA0 ≤ n && n ≤ 0xFFFD) || 0x10000 ≤ n

def isBreak (c : Char) : Bool :=
  c == '\n' || c == '\r' || c == '\x85' || c == '\u2028' || c == '\u2029'

def isSpaceOrTab (c : Char) : Bool :=
  c == ' ' || c == '\t'

/-- Whether a character can occur in the name of an anchor, a handle or a directive. -/
def isWordChar (c : Char) : Bool :=
  c.isAlphanum || c == '_' || c == '-'

structure Cursor where
  size : Nat := 0
  rest : List Char
  index : Nat := 0
  line : Nat := 0
  column : Nat := 0
deriving Repr, Inhabited

namespace Cursor

def head? (cursor : Cursor) : Option Char :=
  cursor.rest.head?

def sees (cursor : Cursor) (c : Char) : Bool :=
  cursor.rest.head? == some c

/-- Whether the character after `count` others satisfies a test or is the end of the text. -/
def endsAt (test : Char → Bool) (count : Nat) (cursor : Cursor) : Bool :=
  match cursor.rest.drop count with
  | [] => true
  | c :: _ => test c

/-- Whether a space, a tab, a line break or the end follows after `count` characters. -/
def isBlankAt (count : Nat) (cursor : Cursor) : Bool :=
  cursor.endsAt (fun c => isSpaceOrTab c || isBreak c) count

def isLineEnd (cursor : Cursor) : Bool :=
  cursor.endsAt isBreak 0

/-- The place `count` characters later on the same line. -/
def skip (count : Nat) (cursor : Cursor) : Cursor :=
  { cursor with
    rest := cursor.rest.drop count
    index := cursor.index + count
    column := cursor.column + count }

/-- The characters up to the first that fails a test, and the place after them. -/
def span (test : Char → Bool) (cursor : Cursor) : List Char × Cursor :=
  let (taken, rest) := cursor.rest.span test
  (taken, { cursor with
    rest := rest
    index := cursor.index + taken.length
    column := cursor.column + taken.length })

def skipWhile (test : Char → Bool) (cursor : Cursor) : Cursor :=
  (cursor.span test).2

/-- The line break that comes next, as it counts in a scalar, and the start of the next line. All
but the separators of lines and paragraphs count as line feeds. -/
def lineBreak (cursor : Cursor) : List Char × Cursor :=
  let after := fun (count : Nat) (rest : List Char) =>
    { cursor with
      rest := rest
      index := cursor.index + count
      line := cursor.line + 1
      column := 0 }
  match cursor.rest with
  | '\r' :: '\n' :: rest => (['\n'], after 2 rest)
  | c :: rest =>
    if c == '\u2028' || c == '\u2029' then ([c], after 1 rest)
    else if isBreak c then (['\n'], after 1 rest)
    else ([], cursor)
  | [] => ([], cursor)

/-- The place after a comment, if one starts here. -/
def skipComment (cursor : Cursor) : Cursor :=
  if cursor.sees '#' then cursor.skipWhile (!isBreak ·) else cursor

/-- The start of the next line, where only blanks and a comment are left on this one. -/
def finishLine? (cursor : Cursor) : Option Cursor :=
  let cursor := (cursor.skipWhile isSpaceOrTab).skipComment
  if cursor.isLineEnd then some cursor.lineBreak.2 else none

/-- Whether a line starts here with three times the given character and nothing joined to it. -/
def seesMarker (c : Char) (cursor : Cursor) : Bool :=
  cursor.column == 0 && cursor.rest.take 3 == [c, c, c] && cursor.isBlankAt 3

def atMarker (cursor : Cursor) : Bool :=
  cursor.seesMarker '-' || cursor.seesMarker '.'

def fuel (cursor : Cursor) : Nat :=
  cursor.size + 1

end Cursor

end Tabular.Yaml
