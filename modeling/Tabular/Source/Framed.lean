import Tabular.Source.Input
import Tabular.Source.Options
import Tabular.Text.Blank

/-!
# Framed rows

Rows of cells framed by bars, with comments and extras between them. The extras `name` and `type`
before the first row define the columns. A bar inside a cell is written twice.
-/

set_option autoImplicit false

namespace Tabular.Framed

inductive Entry where
  | row (cells : List String)
  | extra (key : String) (values : List String)
deriving DecidableEq, Repr

/-- Cut the inside of a frame into cells, with `cell` the current one in reverse. -/
def cellsOnto : List Char → List Char → List (List Char)
  | cell, [] => [cell.reverse]
  | cell, '|' :: '|' :: rest => cellsOnto ('|' :: cell) rest
  | cell, c :: rest =>
    if c == '|' then cell.reverse :: cellsOnto [] rest else cellsOnto (c :: cell) rest

def unframe? : List Char → Option (List Char)
  | '|' :: rest =>
    match rest.reverse with
    | '|' :: inside => some inside.reverse
    | _ => none
  | _ => none

/-- The cells of a frame, without the blanks around them. -/
def cells? (text : List Char) : Option (List String) :=
  (unframe? text).map fun inside => (cellsOnto [] inside).map fun c => String.ofList (Text.trim c)

/-- Read an extra, given what follows the semicolon. -/
def extra (text : List Char) : Except String Entry :=
  match Text.splitOnce? ':' text with
  | none => .error "extra line without ':'"
  | some (key, rest) =>
    let key := String.ofList (Text.trim key)
    let rest := Text.trim rest
    if rest.head? == some '|' then
      match cells? rest with
      | some values => .ok (.extra key values)
      | none => .error "unterminated definition"
    else .ok (.extra key [String.ofList rest])

def entry (text : List Char) : Except String Entry :=
  match text with
  | ';' :: rest => extra rest
  | '|' :: _ =>
    match cells? (Text.trimEndBy Text.isBlank text) with
    | some cells => .ok (.row cells)
    | none => .error "unterminated row"
  | _ => .error "expected a row, an extra or a comment"

/-- Whether a line holds nothing: it is blank or a comment. -/
def isIdle (text : List Char) : Bool :=
  (Text.trim text).isEmpty || text.head? == some '#'

/-- The entries of a feed of lines, the first of which has the given number. -/
def entries : Nat → Feed (List UInt8) → Feed Entry
  | _, [] => []
  | number, .error failure :: rest => .error failure :: entries (number + 1) rest
  | number, .ok line :: rest =>
    let text := Text.trimLineEnd (Utf8.decodeLossy line)
    if isIdle text then entries (number + 1) rest
    else
      let found := match entry text with
        | .ok found => .ok found
        | .error reason => .error (.invalidTbln number reason)
      found :: entries (number + 1) rest

structure Definition where
  names : List String := []
  types : List String := []
deriving DecidableEq, Repr, Inhabited

def Definition.extend (definition : Definition) (key : String) (values : List String) :
    Definition :=
  if key == "name" then { definition with names := values }
  else if key == "type" then { definition with types := values }
  else definition

/-- The definition before the first row, that row if there is one, and what follows it. -/
def opening (definition : Definition) :
    Feed Entry → Result (Definition × Option (List String) × Feed Entry)
  | [] => .ok (definition, none, [])
  | .error failure :: _ => .error failure
  | .ok (.row cells) :: rest => .ok (definition, some cells, rest)
  | .ok (.extra key values) :: rest => opening (definition.extend key values) rest

def rows : Feed Entry → Feed (List String)
  | [] => []
  | .error failure :: rest => .error failure :: rows rest
  | .ok (.row cells) :: rest => .ok cells :: rows rest
  | .ok (.extra _ _) :: rest => rows rest

def Definition.schema (definition : Definition) (first : List String) : Result Schema :=
  let names :=
    if definition.names.isEmpty then (List.range first.length).map positionalName
    else definition.names
  let types := if definition.types.isEmpty then defaultTypes names.length else definition.types
  if names.length != types.length then .error (.columnMismatch names.length types.length)
  else .ok ⟨headerNames [] names, types⟩

def cell (null : Option String) (text : String) : Cell :=
  if text.isEmpty then .null else (Cell.text text).nullIf null

/-- A source of framed rows. The first row ends the definition; when no row is to be read ahead it
is passed over. -/
def source (options : ReadOptions) (input : Input) : Result Source := do
  let (definition, first, feed) ← opening {} (entries 1 input.lines)
  match first with
  | none => .ok (.table none [] [])
  | some first =>
    let schema ← definition.schema first
    let (others, feed) ← Feed.take (options.ahead - 1) (rows feed)
    let row := fun cells => Row.fit schema.names.length (cells.map (cell options.null))
    let ahead := if options.ahead = 0 then [] else first :: others
    .ok (.table (some schema) (ahead.map row) (options.liveRows (Feed.map row feed)))

end Tabular.Framed
