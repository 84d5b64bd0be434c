import Tabular.Yaml.Cursor

/-!
# Block scalars

A block scalar takes whole lines. Its header tells whether line breaks are kept or folded, what
becomes of those at its end, and at which column its lines start.
-/

set_option autoImplicit false

namespace Tabular.Yaml

inductive Chomping where
  | strip
  | clip
  | keep
deriving DecidableEq, Repr

structure BlockHeader where
  chomping : Chomping := .clip
  /-- Columns behind the surrounding indentation, if given. -/
  increment : Option Nat := none
deriving Repr

namespace BlockHeader

def chompingOf? : Char → Option Chomping
  | '+' => some .keep
  | '-' => some .strip
  | _ => none

def incrementOf? (c : Char) : Option Nat :=
  if c.isDigit then some (c.toNat - '0'.toNat) else none

/-- Read a header: the two parts stand in any order and the increment is not zero. -/
def read? (cursor : Cursor) : Option (BlockHeader × Cursor) :=
  let first := cursor.head?
  let second := (cursor.skip 1).head?
  let read : BlockHeader × Cursor :=
    match first >>= chompingOf?, first >>= incrementOf? with
    | some chomping, _ =>
      match second >>= incrementOf? with
      | some n => (⟨chomping, some n⟩, cursor.skip 2)
      | none => (⟨chomping, none⟩, cursor.skip 1)
    | none, some n =>
      match second >>= chompingOf? with
      | some chomping => (⟨chomping, some n⟩, cursor.skip 2)
      | none => (⟨.clip, some n⟩, cursor.skip 1)
    | none, none => ({}, cursor)
  if read.1.increment == some 0 then none else some read

end BlockHeader

/-- Read line breaks and the indentation before the next line with text, as long as no tab stands in
the indentation. Given the column of the text, or zero if it is to be found, and the greatest column
seen so far; the breaks are in reverse. -/
def blockBreaks? (indent : Nat) :
    Nat → Nat → List Char → Cursor → Option (Nat × List Char × Cursor)
  | 0, _, _, _ => none
  | fuel + 1, greatest, breaks, cursor =>
    let room := if indent = 0 then cursor.rest.length else indent - cursor.column
    let spaces := ((cursor.rest.take room).takeWhile (· == ' ')).length
    let cursor := cursor.skip spaces
    let greatest := Nat.max greatest cursor.column
    if (indent = 0 || cursor.column < indent) && cursor.sees '\t' then none
    else if cursor.rest.isEmpty || !cursor.isLineEnd then some (greatest, breaks, cursor)
    else
      let (mark, next) := cursor.lineBreak
      blockBreaks? indent fuel greatest (mark ++ breaks) next

structure BlockText where
  /-- The text, in reverse. -/
  text : List Char := []
  lastBreak : List Char := []
  /-- The line breaks behind that one, in reverse. -/
  moreBreaks : List Char := []
  /-- Whether the last line starts with a blank; such lines are not folded. -/
  indented : Bool := false

namespace BlockText

/-- The text, in reverse, with what the line breaks behind it stand for when another line follows. -/
def joined (block : BlockText) (literal indented : Bool) : List Char :=
  let folds := !literal && block.lastBreak == ['\n'] && !block.indented && !indented
  let before :=
    if folds then if block.moreBreaks.isEmpty then ' ' :: block.text else block.text
    else block.lastBreak.reverse ++ block.text
  block.moreBreaks ++ before

def read? (literal : Bool) (indent : Nat) :
    Nat → BlockText → Cursor → Option (BlockText × Cursor)
  | 0, _, _ => none
  | fuel + 1, block, cursor =>
    if cursor.column != indent || cursor.rest.isEmpty then some (block, cursor)
    else do
      let indented := cursor.head?.any isSpaceOrTab
      let (line, lineEnd) := cursor.span (!isBreak ·)
      let (mark, next) := lineEnd.lineBreak
      let (_, breaks, next) ← blockBreaks? indent next.fuel 0 [] next
      read? literal indent fuel
        { text := line.reverse ++ block.joined literal indented
          lastBreak := mark
          moreBreaks := breaks
          indented := indented } next

/-- The whole text, after the breaks at its end are dealt with. -/
def finish (block : BlockText) : Chomping → List Char
  | .strip => block.text.reverse
  | .clip => block.text.reverse ++ block.lastBreak
  | .keep => block.text.reverse ++ block.lastBreak ++ block.moreBreaks.reverse

end BlockText

/-- Read a block scalar behind its mark, inside a collection at column `parent`. -/
def block? (literal : Bool) (parent : Int) (cursor : Cursor) : Option (List Char × Cursor) := do
  let (header, cursor) ← BlockHeader.read? cursor
  let cursor ← cursor.finishLine?
  let given := match header.increment with
    | some n => (if 0 ≤ parent then parent.toNat else 0) + n
    | none => 0
  let (greatest, breaks, cursor) ← blockBreaks? given cursor.fuel 0 [] cursor
  let indent :=
    if given = 0 then Nat.max greatest (Nat.max (parent + 1).toNat 1) else given
  let (block, cursor) ←
    BlockText.read? literal indent cursor.fuel { moreBreaks := breaks } cursor
  some (block.finish header.chomping, cursor)

end Tabular.Yaml
