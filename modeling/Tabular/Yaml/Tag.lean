import Tabular.Text.Ascii
import Tabular.Text.Utf8
import Tabular.Yaml.Cursor
import Tabular.Yaml.Token

/-!
# Tags, anchors and directives
-/

set_option autoImplicit false

namespace Tabular.Yaml

/-- The characters of a tag. Flow marks are allowed only in a tag that is written out in full and in
a directive. -/
def isTagChar (full : Bool) (c : Char) : Bool :=
  isWordChar c || (";/?:@&=+$.!~*'()%".toList.contains c) || (full && (",[]".toList.contains c))

/-- The number of bytes in the UTF-8 form that starts with the given byte. -/
def sequenceLength? (lead : UInt8) : Option Nat :=
  if lead < 0x80 then some 1
  else if lead < 0xC0 then none
  else if lead < 0xE0 then some 2
  else if lead < 0xF0 then some 3
  else if lead < 0xF8 then some 4
  else none

/-- The bytes of `count` escapes, each a percent sign and two hexadecimal digits. -/
def tagEscapes? : Nat → List Char → Option (List UInt8 × List Char)
  | 0, rest => some ([], rest)
  | count + 1, '%' :: a :: b :: rest => do
    let code ← Ascii.hexNumber? [a, b]
    let (others, rest) ← tagEscapes? count rest
    some (UInt8.ofNat code :: others, rest)
  | _ + 1, _ => none

/-- The characters of an escape sequence, the text after it, and its length. -/
def tagEscape? (text : List Char) : Option (List Char × Nat) := do
  let (lead, _) ← tagEscapes? 1 text
  let count ← lead.head? >>= sequenceLength?
  let (bytes, _) ← tagEscapes? count text
  if bytes.tail.all (fun b => 0x80 ≤ b && b < 0xC0) then some (Utf8.decodeLossy bytes, 3 * count)
  else none

/-- Read the characters of a tag onto `text`, which is in reverse. -/
def tagText? (full : Bool) : Nat → List Char → Cursor → Option (List Char × Cursor)
  | 0, _, _ => none
  | fuel + 1, text, cursor =>
    match cursor.head? with
    | none => some (text.reverse, cursor)
    | some c =>
      if !isTagChar full c then some (text.reverse, cursor)
      else if c == '%' then
        match tagEscape? cursor.rest with
        | none => none
        | some (decoded, count) =>
          tagText? full fuel (decoded.reverse ++ text) (cursor.skip count)
      else tagText? full fuel (c :: text) (cursor.skip 1)

/-- Read a handle: an exclamation mark, a word, and perhaps a second exclamation mark. -/
def handle? (cursor : Cursor) : Option (List Char × Cursor) :=
  if !cursor.sees '!' then none
  else
    let (word, cursor) := (cursor.skip 1).span isWordChar
    if cursor.sees '!' then some ('!' :: word ++ ['!'], cursor.skip 1)
    else some ('!' :: word, cursor)

/-- The tag after a handle that is not closed: the handle is the start of its text. -/
def primaryTag (text : List Char) : Token :=
  if text.isEmpty then .tag [] ['!'] else .tag ['!'] text

def tagBody? (cursor : Cursor) : Option (Token × Cursor) :=
  if (cursor.skip 1).sees '<' then do
    let start := cursor.skip 2
    let (text, cursor) ← tagText? true start.fuel [] start
    if text.isEmpty || !cursor.sees '>' then none else some (.tag [] text, cursor.skip 1)
  else do
    let (handle, cursor) ← handle? cursor
    if 1 < handle.length && handle.getLast? == some '!' then
      let (text, cursor) ← tagText? false cursor.fuel [] cursor
      if text.isEmpty then none else some (.tag handle text, cursor)
    else
      let (text, cursor) ← tagText? false cursor.fuel handle.tail.reverse cursor
      some (primaryTag text, cursor)

/-- Read a tag, which stands apart from what follows it. -/
def tag? (flow : Bool) (cursor : Cursor) : Option (Token × Cursor) := do
  let (token, cursor) ← tagBody? cursor
  if (flow && cursor.sees ',') || cursor.isBlankAt 0 then some (token, cursor) else none

def anchorName? (cursor : Cursor) : Option (List Char × Cursor) :=
  let (name, cursor) := cursor.span isWordChar
  if name.isEmpty then none
  else if cursor.isBlankAt 0 || cursor.head?.any ("?:,]\x7d%@`".toList.contains ·) then
    some (name, cursor)
  else none

/-- Read a number of at most nine digits. -/
def versionNumber? (cursor : Cursor) : Option (Nat × Cursor) :=
  let (digits, cursor) := cursor.span Char.isDigit
  if digits.isEmpty || 9 < digits.length then none
  else some (digits.foldl (fun n c => n * 10 + (c.toNat - '0'.toNat)) 0, cursor)

def version? (cursor : Cursor) : Option (Token × Cursor) := do
  let (major, cursor) ← versionNumber? (cursor.skipWhile isSpaceOrTab)
  if !cursor.sees '.' then none
  else
    let (minor, cursor) ← versionNumber? (cursor.skip 1)
    some (.versionDirective major minor, cursor)

/-- Read the handle and the start of tags behind the name of their directive. -/
def tagDefinition? (cursor : Cursor) : Option (Token × Cursor) := do
  let (handle, cursor) ← handle? (cursor.skipWhile isSpaceOrTab)
  if 1 < handle.length && handle.getLast? != some '!' then none
  else if cursor.rest.isEmpty || !cursor.head?.any isSpaceOrTab then none
  else
    let cursor := cursor.skipWhile isSpaceOrTab
    let (text, cursor) ← tagText? true cursor.fuel [] cursor
    if text.isEmpty || !cursor.isBlankAt 0 then none
    else some (.tagDirective handle text, cursor)

def directive? (cursor : Cursor) : Option (Token × Cursor) := do
  let (name, cursor) := (cursor.skip 1).span isWordChar
  if name.isEmpty || !cursor.isBlankAt 0 then none
  else
    let (token, cursor) ←
      if name == "YAML".toList then version? cursor
      else if name == "TAG".toList then tagDefinition? cursor
      else none
    some (token, ← cursor.finishLine?)

end Tabular.Yaml
