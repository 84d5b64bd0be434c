/-!
# Blank characters

The Unicode property White_Space and the operations that strip blank characters from the ends of a
text.
-/

set_option autoImplicit false

namespace Tabular.Text

def isBlank (c : Char) : Bool :=
  let n := c.toNat
  (0x09 ≤ n && n ≤ 0x0D) || n == 0x20 || n == 0x85 || n == 0xA0 || n == 0x1680 ||
    (0x2000 ≤ n && n ≤ 0x200A) || n == 0x2028 || n == 0x2029 || n == 0x202F || n == 0x205F ||
    n == 0x3000

/-- A text without its leading characters that satisfy `drop`. -/
def trimStartBy (drop : Char → Bool) (text : List Char) : List Char :=
  text.dropWhile drop

/-- A text without its trailing characters that satisfy `drop`. -/
def trimEndBy (drop : Char → Bool) (text : List Char) : List Char :=
  (text.reverse.dropWhile drop).reverse

/-- A text without its leading and trailing characters that satisfy `drop`. -/
def trimBy (drop : Char → Bool) (text : List Char) : List Char :=
  trimEndBy drop (trimStartBy drop text)

/-- A text without its leading and trailing blank characters. -/
def trim (text : List Char) : List Char :=
  trimBy isBlank text

/-- A text without its trailing line feeds and carriage returns. -/
def trimLineEnd (text : List Char) : List Char :=
  trimEndBy (fun c => c == '\n' || c == '\r') text

/-- Split a text at every occurrence of a character; `n` occurrences give `n + 1` parts. -/
def splitAt (separator : Char) (text : List Char) : List (List Char) :=
  text.splitOn separator

def splitOnce? (separator : Char) (text : List Char) : Option (List Char × List Char) :=
  match text.dropWhile (· != separator) with
  | [] => none
  | _ :: rest => some (text.takeWhile (· != separator), rest)

end Tabular.Text
