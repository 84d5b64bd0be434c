import Tabular.Yaml.Cursor

/-!
# Folding

Between two words of a scalar, blanks on one line stand for themselves. A single line break stands
for a space, and of several the first is dropped.
-/

set_option autoImplicit false

namespace Tabular.Yaml

structure Gap where
  /-- The blanks before the first line break, in reverse. -/
  blanks : List Char := []
  broken : Bool := false
  firstBreak : List Char := []
  /-- The line breaks after the first, in reverse. -/
  moreBreaks : List Char := []
deriving Repr, Inhabited

namespace Gap

def text (gap : Gap) : List Char :=
  if !gap.broken then gap.blanks.reverse
  else if gap.firstBreak == ['\n'] then
    if gap.moreBreaks.isEmpty then [' '] else gap.moreBreaks.reverse
  else gap.firstBreak ++ gap.moreBreaks.reverse

/-- Read a gap. After a line break no tab may stand before column `indent`. -/
def read? (indent : Int) : Nat → Gap → Cursor → Option (Gap × Cursor)
  | 0, gap, cursor => some (gap, cursor)
  | fuel + 1, gap, cursor =>
    match cursor.head? with
    | none => some (gap, cursor)
    | some c =>
      if isSpaceOrTab c then
        if gap.broken then
          if c == '\t' && (cursor.column : Int) < indent then none
          else read? indent fuel gap (cursor.skip 1)
        else read? indent fuel { gap with blanks := c :: gap.blanks } (cursor.skip 1)
      else if isBreak c then
        let (mark, next) := cursor.lineBreak
        if gap.broken then read? indent fuel { gap with moreBreaks := mark ++ gap.moreBreaks } next
        else read? indent fuel { gap with broken := true, blanks := [], firstBreak := mark } next
      else some (gap, cursor)

end Gap

end Tabular.Yaml
