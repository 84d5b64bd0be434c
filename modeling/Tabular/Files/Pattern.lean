import Tabular.Error
import Tabular.Files

/-!
# File name patterns

In a pattern a star stands for any characters, a question mark for one, and a list in brackets for one
of the characters listed, or for one that is not listed if it begins with an exclamation mark. The
parts of a pattern between slashes are matched with the names on the way to a file; a part of two
stars stands for any number of folders.
-/

set_option autoImplicit false

namespace Tabular.Pattern

inductive Listed where
  | one (c : Char)
  | range (low high : Char)
deriving DecidableEq, Repr, Inhabited

inductive Token where
  | literal (c : Char)
  | anyOne
  | anyMany
  | anyFolders
  | listed (items : List Listed)
  | unlisted (items : List Listed)
deriving DecidableEq, Repr, Inhabited

/-- Why a text is not a pattern, and the position up to which it was read. -/
structure Fault where
  position : Nat
  reason : String
deriving DecidableEq, Repr, Inhabited

def Fault.message (fault : Fault) : String :=
  "Pattern syntax error near position " ++ toString fault.position ++ ": " ++ fault.reason

def manyStars : String := "wildcards are either regular \x60*\x60 or recursive \x60**\x60"
def partialStars : String := "recursive wildcards must form a single path component"
def badList : String := "invalid range pattern"

/-- Read a list of characters. A minus sign between two characters makes a range of them. -/
def listItems : List Char → List Listed
  | low :: '-' :: high :: rest => .range low high :: listItems rest
  | c :: rest => .one c :: listItems rest
  | [] => []

/-- Read what follows an opening bracket. The first character of a list may be a closing bracket. -/
def bracketed? (rest : List Char) : Option (Token × List Char) :=
  match rest with
  | '!' :: first :: more =>
    match Text.splitOnce? ']' more with
    | some (others, after) => some (.unlisted (listItems (first :: others)), after)
    | none => none
  | '!' :: _ => none
  | first :: more =>
    match Text.splitOnce? ']' more with
    | some (others, after) => some (.listed (listItems (first :: others)), after)
    | none => none
  | [] => none

theorem length_splitOnce_lt {c : Char} {text before after : List Char}
    (found : Text.splitOnce? c text = some (before, after)) : after.length < text.length := by
  unfold Text.splitOnce? at found
  split at found
  · simp at found
  · rename_i rest same
    have size := congrArg List.length (List.takeWhile_append_dropWhile (p := (· != c)) (l := text))
    obtain ⟨_, rfl⟩ := Prod.mk.inj (Option.some.inj found)
    simp_all
    omega

theorem bracketed_length_lt {rest after : List Char} {token : Token}
    (found : bracketed? rest = some (token, after)) : after.length < rest.length := by
  unfold bracketed? at found
  split at found
  · split at found
    · rename_i split
      have shorter := length_splitOnce_lt split
      obtain ⟨_, rfl⟩ := Prod.mk.inj (Option.some.inj found)
      simp
      omega
    · simp at found
  · simp at found
  · split at found
    · rename_i split
      have shorter := length_splitOnce_lt split
      obtain ⟨_, rfl⟩ := Prod.mk.inj (Option.some.inj found)
      simp
      omega
    · simp at found
  · simp at found

/-- Read the rest of a pattern that starts at a position, behind the given character. -/
def tokensFrom (position : Nat) (before : Option Char) (rest : List Char) :
    Except Fault (List Token) := do
  match rest with
  | [] => .ok []
  | '?' :: rest => do
    let more ← tokensFrom (position + 1) (some '?') rest
    .ok (.anyOne :: more)
  | '*' :: '*' :: '*' :: _ => .error ⟨position + 2, manyStars⟩
  | '*' :: '*' :: rest =>
    if before.all (· == '/') then
      match rest with
      | [] => .ok [.anyFolders]
      | '/' :: rest => do
        let more ← tokensFrom (position + 3) (some '/') rest
        .ok (.anyFolders :: more)
      | _ => .error ⟨position + 2, partialStars⟩
    else .error ⟨position - 1, partialStars⟩
  | '*' :: rest => do
    let more ← tokensFrom (position + 1) (some '*') rest
    .ok (.anyMany :: more)
  | '[' :: rest =>
    match _list : bracketed? rest with
    | none => .error ⟨position, badList⟩
    | some (token, after) => do
      let more ← tokensFrom (position + 1 + rest.length - after.length) (some ']') after
      .ok (token :: more)
  | c :: rest => do
    let more ← tokensFrom (position + 1) (some c) rest
    .ok (.literal c :: more)
termination_by rest.length
decreasing_by
  · simp
  · simp; omega
  · simp
  · have := bracketed_length_lt _list
    simp
    omega
  · simp

def tokens (text : List Char) : Except Fault (List Token) :=
  tokensFrom 0 none text

def holds (items : List Listed) (c : Char) : Bool :=
  items.any fun
    | .one other => c == other
    | .range low high => low ≤ c && c ≤ high

/-- Whether a token that stands for one character stands for this one. -/
def Token.matchesOne (token : Token) (c : Char) : Bool :=
  match token with
  | .literal other => c == other
  | .anyOne => true
  | .listed items => holds items c
  | .unlisted items => !holds items c
  | .anyMany | .anyFolders => false

/-- Whether tokens match a whole name. -/
def matchesName : List Token → List Char → Bool
  | [], name => name.isEmpty
  | .anyMany :: tokens, [] => matchesName tokens []
  | .anyMany :: tokens, c :: name =>
    matchesName tokens (c :: name) || matchesName (.anyMany :: tokens) name
  | _ :: _, [] => false
  | token :: tokens, c :: name => token.matchesOne c && matchesName tokens name

/-- The name that tokens stand for if they stand for no other. -/
def literalName? : List Token → Option (List Char)
  | [] => some []
  | .literal c :: rest => (literalName? rest).map (c :: ·)
  | _ => none

abbrev Part := List Token

def isFolders (part : Part) : Bool := part == [.anyFolders]

/-- The parts with only the first of several parts in a row that stand for any number of folders. -/
def joined : List Part → List Part
  | [] => []
  | part :: rest =>
    if isFolders part && rest.head?.any isFolders then joined rest else part :: joined rest

def partTexts (text : List Char) : List (List Char) :=
  let texts := Text.splitAt '/' text
  if texts.getLast? == some [] then texts.dropLast else texts

/-- The parts of a pattern, which has to be well formed as a whole and in each part. -/
def parts (text : List Char) : Except Fault (List Part) := do
  let _ ← tokens text
  .ok (joined (← (partTexts text).mapM tokens))

def contentOf : Node → List (List UInt8)
  | .file content => [content]
  | .folder _ => []

mutual

/-- The files below a node that parts of a pattern match. -/
def below (parts : List Part) (above : List Node) (node : Node) : List (List UInt8) :=
  match parts with
  | [] => []
  | part :: rest =>
    match literalName? part with
    | some name => through rest above node (String.ofList name)
    | none =>
      match node with
      | .file _ => []
      | .folder entries =>
        -- Names for the folder itself and the one above are matched only behind a dot.
        let special := if part.head? == some (.literal '.') then
            ["..", "."].filter fun name => matchesName part name.toList
          else []
        special.flatMap (through rest above (.folder entries)) ++
          among (part :: rest) (.folder entries :: above) entries
termination_by (parts.length, sizeOf node + 1, 1)

def through (rest : List Part) (above : List Node) (node : Node) (step : String) :
    List (List UInt8) :=
  match node.walkOne? above step with
  | none => []
  | some (above, found) => if rest.isEmpty then contentOf found else below rest above found
termination_by (rest.length + 1, 0, 0)

/-- The files among entries of a folder, or below them, that parts of a pattern match. -/
def among (parts : List Part) (above : List Node) (entries : List (String × Node)) :
    List (List UInt8) :=
  match entries with
  | [] => []
  | (name, node) :: others => named parts above name node ++ among parts above others
termination_by (parts.length, sizeOf entries + 1, 0)

/-- The files at an entry of a folder, or below it, that parts of a pattern match. -/
def named (parts : List Part) (above : List Node) (name : String) (node : Node) :
    List (List UInt8) :=
  match parts with
  | [] => []
  | part :: rest =>
    if isFolders part then
      -- The entry itself is matched with what follows, and then what is below it.
      match rest with
      | [] => below [part] above node
      | next :: others =>
        (if matchesName next name.toList then
          if others.isEmpty then contentOf node else below others above node
        else []) ++ below (part :: next :: others) above node
    else if matchesName part name.toList then
      if rest.isEmpty then contentOf node else below rest above node
    else []
termination_by (parts.length, sizeOf node + 1, 2)

end

/-- The contents of the files that a pattern matches, in the order of their paths. A pattern that
ends with a slash matches no file. -/
def files (text : List Char) (tree : Node) : Except Fault (List (List UInt8)) := do
  let parts ← parts text
  match tree.start? (String.ofList text) with
  | some start => .ok (if text.getLast? == some '/' then [] else below parts [] start)
  | none => .ok []

end Tabular.Pattern
