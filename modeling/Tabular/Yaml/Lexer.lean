import Tabular.Yaml.Block
import Tabular.Yaml.Quoted
import Tabular.Yaml.Tag

/-!
# Tokens of a YAML text

Outside flow collections the layout opens and closes collections: a collection lasts until a line
starts at a column before its own. A mapping without a mark for its keys shows only at the colon
behind a key, so every place where such a key could start is remembered until its line ends, and the
tokens that announce the key are put in before it when the colon is found.
-/

set_option autoImplicit false

namespace Tabular.Yaml

/-- A place where a key without a mark may have started. -/
structure Candidate where
  /-- Whether what starts there can only be a key. -/
  required : Bool
  position : Nat
  index : Nat
  line : Nat
  column : Nat
deriving Repr, Inhabited

structure Lexer where
  cursor : Cursor
  /-- The tokens, in reverse, and their number. -/
  tokens : List Token := []
  count : Nat := 0
  /-- The column of the innermost block collection, or -1 outside of all, and those around it. -/
  indent : Int := -1
  outer : List Int := []
  /-- Whether a key without a mark can start here. -/
  allowed : Bool := true
  /-- The candidate of the innermost collection, and those of the flow collections around it. -/
  candidate : Option Candidate := none
  enclosing : List (Option Candidate) := []
deriving Inhabited

namespace Lexer

def inFlow (lexer : Lexer) : Bool :=
  !lexer.enclosing.isEmpty

def emit (token : Token) (lexer : Lexer) : Lexer :=
  { lexer with tokens := token :: lexer.tokens, count := lexer.count + 1 }

/-- Put a token in after the first `position` tokens. -/
def emitAt (position : Nat) (token : Token) (lexer : Lexer) : Lexer :=
  let after := lexer.count - position
  { lexer with
    tokens := lexer.tokens.take after ++ token :: lexer.tokens.drop after
    count := lexer.count + 1 }

def moveTo (cursor : Cursor) (lexer : Lexer) : Lexer :=
  { lexer with cursor := cursor }

/-- Say whether a key without a mark can start now. -/
def allow (allowed : Bool) (lexer : Lexer) : Lexer :=
  { lexer with allowed := allowed }

/-- Give up a candidate. One that can only be a key must not be given up. -/
def give? : Option Candidate → Option (Option Candidate)
  | some candidate => if candidate.required then none else some none
  | none => some none

/-- Give up the candidate of the innermost collection. -/
def dropCandidate? (lexer : Lexer) : Option Lexer := do
  some { lexer with candidate := ← give? lexer.candidate }

/-- Whether a key from a candidate could no longer end here: it stays on one line and is not long. -/
def isStale (cursor : Cursor) (candidate : Candidate) : Bool :=
  candidate.line < cursor.line || candidate.index + 1024 < cursor.index

def refresh? (cursor : Cursor) : Option Candidate → Option (Option Candidate)
  | some candidate =>
    if isStale cursor candidate then give? (some candidate) else some (some candidate)
  | none => some none

/-- Give up all stale candidates. -/
def dropStale? (lexer : Lexer) : Option Lexer := do
  some { lexer with
    candidate := ← refresh? lexer.cursor lexer.candidate
    enclosing := ← lexer.enclosing.mapM (refresh? lexer.cursor) }

/-- Remember this place as a candidate, if a key can start here. -/
def saveCandidate? (lexer : Lexer) : Option Lexer :=
  if !lexer.allowed then some lexer
  else do
    let lexer ← lexer.dropCandidate?
    some { lexer with
      candidate := some
        { required := !lexer.inFlow && lexer.indent == lexer.cursor.column
          position := lexer.count
          index := lexer.cursor.index
          line := lexer.cursor.line
          column := lexer.cursor.column } }

/-- Open a block collection at a column behind the current one, with its token after the first
`position` tokens. -/
def openBlock (column position : Nat) (token : Token) (lexer : Lexer) : Lexer :=
  if !lexer.inFlow && lexer.indent < column then
    { lexer with indent := column, outer := lexer.indent :: lexer.outer }.emitAt position token
  else lexer

/-- Close the given block collections as long as they stand behind a column. -/
def closeOnto (column : Int) : List Int → Lexer → Lexer
  | [], lexer => lexer
  | around :: outer, lexer =>
    if column < lexer.indent then
      closeOnto column outer ({ lexer with indent := around, outer := outer }.emit .blockEnd)
    else lexer

def closeBlocks (column : Int) (lexer : Lexer) : Lexer :=
  if lexer.inFlow then lexer else closeOnto column lexer.outer lexer

/-- Skip blanks, comments and line breaks. Tabs are skipped only where no key can start. -/
def skipBlanks : Nat → Lexer → Lexer
  | 0, lexer => lexer
  | fuel + 1, lexer =>
    let tabs := lexer.inFlow || !lexer.allowed
    let cursor := (lexer.cursor.skipWhile fun c => c == ' ' || (tabs && c == '\t')).skipComment
    if cursor.rest.isEmpty || !cursor.isLineEnd then lexer.moveTo cursor
    else
      skipBlanks fuel ((lexer.moveTo cursor.lineBreak.2).allow (lexer.allowed || !lexer.inFlow))

/-- Leave all block collections and give up the candidate, before a directive or a marker. -/
def leaveBlocks? (lexer : Lexer) : Option Lexer := do
  some ((← (lexer.closeBlocks (-1)).dropCandidate?).allow false)

/-- Read a token of `width` characters that marks the start or end of a document. -/
def marker? (token : Token) (lexer : Lexer) : Option Lexer := do
  let lexer ← lexer.leaveBlocks?
  some ((lexer.emit token).moveTo (lexer.cursor.skip 3))

def directiveToken? (lexer : Lexer) : Option Lexer := do
  let lexer ← lexer.leaveBlocks?
  let (token, cursor) ← directive? lexer.cursor
  some ((lexer.emit token).moveTo cursor)

/-- Read the opening mark of a flow collection, which may be a key. -/
def openFlow? (token : Token) (lexer : Lexer) : Option Lexer := do
  let lexer ← lexer.saveCandidate?
  let lexer := { lexer with candidate := none, enclosing := lexer.candidate :: lexer.enclosing }
  some (((lexer.allow true).emit token).moveTo (lexer.cursor.skip 1))

def closeFlow? (token : Token) (lexer : Lexer) : Option Lexer := do
  let lexer ← lexer.dropCandidate?
  let lexer := match lexer.enclosing with
    | [] => lexer
    | candidate :: enclosing => { lexer with candidate := candidate, enclosing := enclosing }
  some (((lexer.allow false).emit token).moveTo (lexer.cursor.skip 1))

def flowEntry? (lexer : Lexer) : Option Lexer := do
  let lexer ← lexer.dropCandidate?
  some (((lexer.allow true).emit .flowEntry).moveTo (lexer.cursor.skip 1))

/-- Open a block collection where one of its marks stands; a key must be able to start there. -/
def openAtMark? (token : Token) (lexer : Lexer) : Option Lexer :=
  if lexer.inFlow then some lexer
  else if lexer.allowed then some (lexer.openBlock lexer.cursor.column lexer.count token)
  else none

def blockEntry? (lexer : Lexer) : Option Lexer := do
  let lexer ← lexer.openAtMark? .blockSequenceStart
  let lexer ← lexer.dropCandidate?
  some (((lexer.allow true).emit .blockEntry).moveTo (lexer.cursor.skip 1))

def key? (lexer : Lexer) : Option Lexer := do
  let lexer ← lexer.openAtMark? .blockMappingStart
  let lexer ← lexer.dropCandidate?
  some (((lexer.allow !lexer.inFlow).emit .key).moveTo (lexer.cursor.skip 1))

/-- Read the colon before a value. What started at the candidate was the key. -/
def value? (lexer : Lexer) : Option Lexer := do
  let lexer ← match lexer.candidate with
    | some candidate =>
      let announced := lexer.emitAt candidate.position .key
      let opened := announced.openBlock candidate.column candidate.position .blockMappingStart
      some ({ opened with candidate := none }.allow false)
    | none => do
      let lexer ← lexer.openAtMark? .blockMappingStart
      some (lexer.allow !lexer.inFlow)
  some ((lexer.emit .value).moveTo (lexer.cursor.skip 1))

def anchorToken? (token : List Char → Token) (lexer : Lexer) : Option Lexer := do
  let lexer ← lexer.saveCandidate?
  let (name, cursor) ← anchorName? (lexer.cursor.skip 1)
  some (((lexer.allow false).emit (token name)).moveTo cursor)

def tagToken? (lexer : Lexer) : Option Lexer := do
  let lexer ← lexer.saveCandidate?
  let (token, cursor) ← tag? lexer.inFlow lexer.cursor
  some (((lexer.allow false).emit token).moveTo cursor)

def blockScalar? (literal : Bool) (lexer : Lexer) : Option Lexer := do
  let lexer ← lexer.dropCandidate?
  let (text, cursor) ← block? literal lexer.indent (lexer.cursor.skip 1)
  some (((lexer.allow true).emit (.scalar text false)).moveTo cursor)

def quotedScalar? (quote : Char) (lexer : Lexer) : Option Lexer := do
  let lexer ← lexer.saveCandidate?
  let (text, cursor) ← quoted? quote lexer.cursor.fuel [] (lexer.cursor.skip 1)
  some (((lexer.allow false).emit (.scalar text false)).moveTo cursor)

/-- Read a plain scalar. A key can start behind the line breaks that follow it. -/
def plainScalar? (lexer : Lexer) : Option Lexer := do
  let lexer ← lexer.saveCandidate?
  let plain ← plain? lexer.inFlow (lexer.indent + 1) lexer.cursor.fuel [] {} lexer.cursor
  some (((lexer.allow plain.broken).emit (.scalar plain.text true)).moveTo plain.cursor)

def isIndicator (c : Char) : Bool :=
  "-?:,[]\x7b\x7d#&*!|>'\"%@`".toList.contains c

def startsPlain (lexer : Lexer) (c : Char) : Bool :=
  let cursor := lexer.cursor
  (!cursor.isBlankAt 0 && !isIndicator c) ||
    (c == '-' && !((cursor.skip 1).head?.any isSpaceOrTab)) ||
    (!lexer.inFlow && (c == '?' || c == ':') && !cursor.isBlankAt 1)

def token? (c : Char) (lexer : Lexer) : Option Lexer :=
  let cursor := lexer.cursor
  let apart := lexer.inFlow || cursor.isBlankAt 1
  if cursor.column == 0 && c == '%' then lexer.directiveToken?
  else if cursor.seesMarker '-' then lexer.marker? .documentStart
  else if cursor.seesMarker '.' then lexer.marker? .documentEnd
  else if c == '[' then lexer.openFlow? .flowSequenceStart
  else if c == '\x7b' then lexer.openFlow? .flowMappingStart
  else if c == ']' then lexer.closeFlow? .flowSequenceEnd
  else if c == '\x7d' then lexer.closeFlow? .flowMappingEnd
  else if c == ',' then lexer.flowEntry?
  else if c == '-' && cursor.isBlankAt 1 then lexer.blockEntry?
  else if c == '?' && apart then lexer.key?
  else if c == ':' && apart then lexer.value?
  else if c == '*' then lexer.anchorToken? .alias
  else if c == '&' then lexer.anchorToken? .anchor
  else if c == '!' then lexer.tagToken?
  else if c == '|' && !lexer.inFlow then lexer.blockScalar? true
  else if c == '>' && !lexer.inFlow then lexer.blockScalar? false
  else if c == '\'' || c == '"' then lexer.quotedScalar? c
  else if lexer.startsPlain c then lexer.plainScalar?
  else none

/-- End the text: all block collections end, and no key is left without its colon. -/
def finish? (lexer : Lexer) : Option (List Token) := do
  let lexer ← (lexer.closeBlocks (-1)).dropCandidate?
  some (lexer.emit .streamEnd).tokens.reverse

/-- Read all tokens. -/
def run? : Nat → Lexer → Option (List Token)
  | 0, _ => none
  | fuel + 1, lexer => do
    let lexer ← (lexer.skipBlanks lexer.cursor.fuel).dropStale?
    let lexer := lexer.closeBlocks lexer.cursor.column
    match lexer.cursor.head? with
    | none => lexer.finish?
    | some c => run? fuel (← lexer.token? c)

end Lexer

/-- The start of a text behind the byte order marks in front of it. -/
def withoutMarks (text : List Char) : Cursor :=
  match text with
  | '\uFEFF' :: '\uFEFF' :: rest => { size := rest.length, rest := rest, index := 1, column := 1 }
  | '\uFEFF' :: rest => { size := rest.length, rest := rest }
  | rest => { size := rest.length, rest := rest }

/-- The tokens of a text, or nothing when it is not YAML. -/
def tokens? (text : List Char) : Option (List Token) :=
  let cursor := withoutMarks text
  if cursor.rest.all isPrintable then Lexer.run? (2 * cursor.fuel) { cursor := cursor } else none

end Tabular.Yaml
