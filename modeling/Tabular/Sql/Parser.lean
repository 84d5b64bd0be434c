import Tabular.Sql.Select
import Tabular.Sql.Token

/-!
# Reading statements

A reader takes a part of a statement from the head of a list of tokens and leaves the tokens after
it. Operators bind from the weakest to the strongest: or, and, not, equality and tests for null,
order, sums, signs.
-/

set_option autoImplicit false

namespace Tabular.Sql.Parser

/-- A part of a statement and the tokens after it; none when the tokens do not begin with one. -/
abbrev Reading (α : Type) := List Lexeme → Option (α × List Lexeme)

/-! ## Words and names -/

def reserved : List String :=
  ["add", "all", "alter", "and", "as", "between", "case", "check", "collate", "commit", "constraint",
    "create", "default", "deferrable", "delete", "distinct", "drop", "else", "escape", "except",
    "exists", "foreign", "from", "group", "having", "in", "index", "insert", "intersect", "into", "is",
    "isnull", "join", "limit", "not", "nothing", "notnull", "null", "on", "or", "order", "primary",
    "references", "returning", "select", "set", "table", "then", "to", "transaction", "union",
    "unique", "update", "using", "values", "when", "where"]

/-- The words of joins, which need a word before them to be names. -/
def joinWords : List String :=
  ["cross", "full", "inner", "left", "natural", "outer", "right"]

def keyword? (word : String) : List Lexeme → Option (List Lexeme)
  | ⟨.word text, _⟩ :: rest => if Ascii.sameName text word then some rest else none
  | _ => none

def keywords? (words : List String) (input : List Lexeme) : Option (List Lexeme) :=
  words.foldlM (fun input word => keyword? word input) input

def symbol? (symbol : String) : List Lexeme → Option (List Lexeme)
  | ⟨.symbol text, _⟩ :: rest => if text == symbol then some rest else none
  | _ => none

/-- A name in a place where only a name can be. -/
def name? : Reading String
  | ⟨.word text, _⟩ :: rest => if reserved.contains (Ascii.lower text) then none else some (text, rest)
  | ⟨.name text, _⟩ :: rest => some (text, rest)
  | ⟨.either text, _⟩ :: rest => some (text, rest)
  | ⟨.literal (.text text), _⟩ :: rest => some (text, rest)
  | _ => none

/-- A new name for a result or a table, if there is one. -/
def renamed? (input : List Lexeme) : Option (Option String × List Lexeme) :=
  match keyword? "as" input with
  | some rest => (name? rest).map fun (name, rest) => (some name, rest)
  | none =>
    match input with
    | ⟨.word text, _⟩ :: _ =>
      if joinWords.contains (Ascii.lower text) then some (none, input)
      else
        match name? input with
        | some (name, rest) => some (some name, rest)
        | none => some (none, input)
    | _ =>
      match name? input with
      | some (name, rest) => some (some name, rest)
      | none => some (none, input)

/-- Parts with commas between them, after those that have been read, which are in reverse. -/
def listFrom {α : Type} (part : Reading α) : Nat → List α → Reading (List α)
  | 0, _, _ => none
  | fuel + 1, read, input =>
    match part input with
    | none => none
    | some (found, rest) =>
      match symbol? "," rest with
      | some rest => listFrom part fuel (found :: read) rest
      | none => some ((found :: read).reverse, rest)

/-- One part or more with commas between them, at most `fuel` parts. -/
def list {α : Type} (fuel : Nat) (part : Reading α) : Reading (List α) :=
  listFrom part fuel []

def enclosed {α : Type} (part : Reading α) (input : List Lexeme) : Option (α × List Lexeme) := do
  let (found, rest) ← part (← symbol? "(" input)
  return (found, ← symbol? ")" rest)

/-! ## Expressions -/

def equality? (symbol : String) : Option Comparison :=
  if symbol == "=" || symbol == "==" then some .equal
  else if symbol == "<>" || symbol == "!=" then some .unequal
  else none

def inequality? (symbol : String) : Option Comparison :=
  if symbol == "<" then some .less
  else if symbol == "<=" then some .lessOrEqual
  else if symbol == ">" then some .greater
  else if symbol == ">=" then some .greaterOrEqual
  else none

def aggregate? (name : String) : Option Aggregate :=
  if Ascii.sameName name "count" then some .count
  else if Ascii.sameName name "min" then some .least
  else if Ascii.sameName name "max" then some .greatest
  else none

/-- A name in an expression, with that of its table before it. -/
def column? (input : List Lexeme) : Option (NamedExpr × List Lexeme) := do
  let orText := match input with
    | ⟨.either _, _⟩ :: _ => true
    | _ => false
  let (first, rest) ← name? input
  match symbol? "." rest with
  | none => return (.column { table := none, column := first, orText := orText }, rest)
  | some rest =>
    let (second, rest) ← name? rest
    if (symbol? "." rest).isSome then none
    else return (.column { table := some first, column := second }, rest)

def constant? (word : String) : Option Value :=
  if Ascii.sameName word "null" then some .null
  else if Ascii.sameName word "true" then some (.int 1)
  else if Ascii.sameName word "false" then some (.int 0)
  else none

mutual

def expr : Nat → Reading NamedExpr
  | 0, _ => none
  | fuel + 1, input => do
    let (left, rest) ← conjunction fuel input
    disjunctionFrom fuel left rest

def disjunctionFrom : Nat → NamedExpr → Reading NamedExpr
  | 0, _, _ => none
  | fuel + 1, left, input =>
    match keyword? "or" input with
    | none => some (left, input)
    | some rest => do
      let (right, rest) ← conjunction fuel rest
      disjunctionFrom fuel (.or left right) rest

def conjunction : Nat → Reading NamedExpr
  | 0, _ => none
  | fuel + 1, input => do
    let (left, rest) ← negation fuel input
    conjunctionFrom fuel left rest

def conjunctionFrom : Nat → NamedExpr → Reading NamedExpr
  | 0, _, _ => none
  | fuel + 1, left, input =>
    match keyword? "and" input with
    | none => some (left, input)
    | some rest => do
      let (right, rest) ← negation fuel rest
      conjunctionFrom fuel (.and left right) rest

def negation : Nat → Reading NamedExpr
  | 0, _ => none
  | fuel + 1, input =>
    match keyword? "not" input with
    | some rest => do
      let (operand, rest) ← negation fuel rest
      return (.not operand, rest)
    | none => do
      let (left, rest) ← ordered fuel input
      equalFrom fuel left rest

def equalFrom : Nat → NamedExpr → Reading NamedExpr
  | 0, _, _ => none
  | fuel + 1, left, input =>
    match keywords? ["is", "not", "null"] input, keywords? ["is", "null"] input, input with
    | some rest, _, _ => equalFrom fuel (.not (.isNull left)) rest
    | _, some rest, _ => equalFrom fuel (.isNull left) rest
    | _, _, ⟨.symbol symbol, _⟩ :: rest =>
      match equality? symbol with
      | none => some (left, input)
      | some comparison => do
        let (right, rest) ← ordered fuel rest
        equalFrom fuel (.compare comparison left right) rest
    | _, _, _ => some (left, input)

def ordered : Nat → Reading NamedExpr
  | 0, _ => none
  | fuel + 1, input => do
    let (left, rest) ← sum fuel input
    orderedFrom fuel left rest

/-- An expression and the comparisons of order after it. -/
def orderedFrom : Nat → NamedExpr → Reading NamedExpr
  | 0, _, _ => none
  | fuel + 1, left, input =>
    match input with
    | ⟨.symbol symbol, _⟩ :: rest =>
      match inequality? symbol with
      | none => some (left, input)
      | some comparison => do
        let (right, rest) ← sum fuel rest
        orderedFrom fuel (.compare comparison left right) rest
    | _ => some (left, input)

def sum : Nat → Reading NamedExpr
  | 0, _ => none
  | fuel + 1, input => do
    let (left, rest) ← signed fuel input
    sumFrom fuel left rest

def sumFrom : Nat → NamedExpr → Reading NamedExpr
  | 0, _, _ => none
  | fuel + 1, left, input =>
    match symbol? "+" input, symbol? "-" input with
    | some rest, _ => do
      let (right, rest) ← signed fuel rest
      sumFrom fuel (.add left right) rest
    | _, some rest => do
      let (right, rest) ← signed fuel rest
      sumFrom fuel (.add left (.negate right)) rest
    | none, none => some (left, input)

def signed : Nat → Reading NamedExpr
  | 0, _ => none
  | fuel + 1, input =>
    match symbol? "-" input, symbol? "+" input with
    | some rest, _ => do
      let (operand, rest) ← signed fuel rest
      return (.negate operand, rest)
    | _, some rest => signed fuel rest
    | none, none => operand fuel input

/-- A literal, a parameter, a column, a function of rows or an expression in parentheses. -/
def operand : Nat → Reading NamedExpr
  | 0, _ => none
  | fuel + 1, input =>
    match input with
    | ⟨.literal value, _⟩ :: rest =>
      match symbol? "." rest with
      | some _ => column? input
      | none => some (.value value, rest)
    | ⟨.param number, _⟩ :: rest => some (.param number, rest)
    | ⟨.symbol _, _⟩ :: _ => enclosed (expr fuel) input
    | ⟨.word word, _⟩ :: ⟨.symbol "(", _⟩ :: rest => do
      let function ← aggregate? word
      match symbol? "*" rest with
      | some rest =>
        let rest ← symbol? ")" rest
        if function = .count then return (.countRows, rest) else none
      | none =>
        let (argument, rest) ← expr fuel rest
        return (.aggregate function argument, ← symbol? ")" rest)
    | ⟨.word word, _⟩ :: rest =>
      match constant? word with
      | some value => some (.value value, rest)
      | none => column? input
    | _ => column? input

end

def depthLimit : Nat := 1000

/-- An expression at the head of the tokens. A level of depth takes at most ten steps. -/
def whole : Reading NamedExpr :=
  expr (10 * depthLimit)

/-! ## Queries -/

/-- The text of what stands between two places, without blanks at its end. -/
def textBetween (start rest : List Lexeme) : String :=
  let text := (start.head?.map Lexeme.start).getD []
  let after := (rest.head?.map Lexeme.start).getD []
  String.ofList (Text.trimEndBy Token.isBlank (text.take (text.length - after.length)))

def item (input : List Lexeme) : Option (Item × List Lexeme) :=
  match symbol? "*" input with
  | some rest => some (.all none, rest)
  | none =>
    match input with
    | table :: ⟨.symbol ".", _⟩ :: ⟨.symbol "*", _⟩ :: rest =>
      (name? [table]).map fun (name, _) => (.all (some name), rest)
    | _ => do
      let (expr, rest) ← whole input
      let (name, after) ← renamed? rest
      return (.expr expr name (textBetween input rest), after)

def sortKey (input : List Lexeme) : Option (SortKey × List Lexeme) := do
  let (expr, rest) ← whole input
  match keyword? "desc" rest with
  | some rest => return (⟨expr, true⟩, rest)
  | none => return (⟨expr, false⟩, (keyword? "asc" rest).getD rest)

def optional {α : Type} (words : List String) (missing : α) (part : Reading α)
    (input : List Lexeme) : Option (α × List Lexeme) :=
  match keywords? words input with
  | some rest => part rest
  | none => some (missing, input)

def condition (word : String) : List Lexeme → Option (Option NamedExpr × List Lexeme) :=
  optional [word] none fun rest => (whole rest).map fun (expr, rest) => (some expr, rest)

def tableName (input : List Lexeme) : Option (TableName × List Lexeme) := do
  let (first, rest) ← name? input
  match symbol? "." rest with
  | none => return (⟨none, first⟩, rest)
  | some rest =>
    let (second, rest) ← name? rest
    return (⟨some first, second⟩, rest)

def joinMark? (input : List Lexeme) : Option (List Lexeme) :=
  symbol? "," input <|> keyword? "join" input <|> keywords? ["inner", "join"] input <|>
    keywords? ["cross", "join"] input

/-- An order and a number of rows, if there are any. -/
def ending (fuel : Nat) (input : List Lexeme) :
    Option ((List SortKey × Option Int) × List Lexeme) := do
  let (order, rest) ← optional ["order", "by"] [] (list fuel sortKey) input
  match keyword? "limit" rest with
  | none => return ((order, none), rest)
  | some rest =>
    match rest with
    | ⟨.literal (.int n), _⟩ :: rest => return ((order, some n), rest)
    | ⟨.symbol "-", _⟩ :: ⟨.literal (.int n), _⟩ :: rest => return ((order, some (-n)), rest)
    | _ => none

mutual

/-- A query with its order. -/
def select : Nat → Reading Select
  | 0, _ => none
  | fuel + 1, input => do
    let ((origin, items, condition, groups), rest) ← core fuel input
    let plain := Select.results origin items condition groups
    match keywords? ["union", "all"] rest with
    | none =>
      let ((order, count), rest) ← ending fuel rest
      match count with
      | none => return (Select.inOrder origin items condition groups order, rest)
      | some count => return (.limit (plain order) count, rest)
    | some rest =>
      let (appended, rest) ← appendedFrom fuel (plain []) rest
      let ((order, count), rest) ← ending fuel rest
      let sorted := if order.isEmpty then appended else .sort appended order
      return ((count.map (.limit sorted)).getD sorted, rest)

def appendedFrom : Nat → Select → Reading Select
  | 0, _, _ => none
  | fuel + 1, left, input => do
    let ((origin, items, condition, groups), rest) ← core fuel input
    let appended := Select.append left (.results origin items condition groups [])
    match keywords? ["union", "all"] rest with
    | none => return (appended, rest)
    | some rest => appendedFrom fuel appended rest

/-- A query without its order. -/
def core : Nat → Reading (Select × List Item × Option NamedExpr × List NamedExpr)
  | 0, _ => none
  | fuel + 1, input => do
    let (items, rest) ← list fuel item (← keyword? "select" input)
    let (origin, rest) ← match keyword? "from" rest with
      | none => some (Select.unit, rest)
      | some rest => do
        let (first, rest) ← origin fuel rest
        joinedFrom fuel first rest
    let (condition, rest) ← condition "where" rest
    let (groups, rest) ← optional ["group", "by"] [] (list fuel whole) rest
    return ((origin, items, condition, groups), rest)

def origin : Nat → Reading Select
  | 0, _ => none
  | fuel + 1, input =>
    match symbol? "(" input with
    | some rest => do
      let (query, rest) ← select fuel rest
      let (name, rest) ← renamed? (← symbol? ")" rest)
      return (.named query name, rest)
    | none => do
      let (table, rest) ← tableName input
      let (name, rest) ← renamed? rest
      return (.table table name, rest)

def joinedFrom : Nat → Select → Reading Select
  | 0, _, _ => none
  | fuel + 1, left, input =>
    match joinMark? input with
    | none => some (left, input)
    | some rest => do
      let (right, rest) ← origin fuel rest
      let (condition, rest) ← condition "on" rest
      joinedFrom fuel (.join left right condition) rest

end

/-! ## Statements -/

def signedNumber (input : List Lexeme) : Option (List Lexeme) :=
  match (symbol? "-" input <|> symbol? "+" input).getD input with
  | ⟨.literal (.int _), _⟩ :: rest | ⟨.literal (.real _), _⟩ :: rest => some rest
  | _ => none

def typeSize (input : List Lexeme) : Option (List Lexeme) :=
  match symbol? "(" input with
  | none => some input
  | some rest => do
    let rest ← signedNumber rest
    match symbol? "," rest with
    | none => symbol? ")" rest
    | some rest => symbol? ")" (← signedNumber rest)

def dropWords : List Lexeme → List Lexeme
  | lexeme :: rest => if (name? [lexeme]).isSome then dropWords rest else lexeme :: rest
  | [] => []

/-- A column to be made: a name and a type, if there is one. -/
def columnDefinition (input : List Lexeme) : Option ((String × Option String) × List Lexeme) := do
  let (name, start) ← name? input
  if (name? start).isNone then return ((name, none), start)
  else
    let rest ← typeSize (dropWords start)
    return ((name, some (textBetween start rest)), rest)

def create (fuel : Nat) (temporary : Bool) (input : List Lexeme) :
    Option (Command × List Lexeme) := do
  let (name, rest) ← tableName input
  let (columns, rest) ← enclosed (list fuel columnDefinition) rest
  return (.create temporary name columns, rest)

/-- The names of the columns that are given values, if they are named. -/
def columnList (fuel : Nat) (input : List Lexeme) : Option (Option (List String) × List Lexeme) :=
  match symbol? "(" input with
  | none => some (none, input)
  | some _ => (enclosed (list fuel name?) input).map fun (names, rest) => (some names, rest)

/-- A statement. No list in it has more than `fuel` parts. -/
def command (fuel : Nat) (input : List Lexeme) : Option (Command × List Lexeme) :=
  match keywords? ["create", "table"] input, keywords? ["create", "temporary", "table"] input,
      keywords? ["create", "temp", "table"] input, keywords? ["insert", "into"] input,
      keywords? ["delete", "from"] input with
  | some rest, _, _, _, _ => create fuel false rest
  | _, some rest, _, _, _ | _, _, some rest, _, _ => create fuel true rest
  | _, _, _, some rest, _ => do
    let (name, rest) ← tableName rest
    let (columns, rest) ← columnList fuel rest
    let (rows, rest) ← list fuel (enclosed (list fuel whole)) (← keyword? "values" rest)
    return (.insert name columns rows, rest)
  | _, _, _, _, some rest => do
    let (name, rest) ← tableName rest
    let (condition, rest) ← condition "where" rest
    return (.delete name condition, rest)
  | _, _, _, _, _ => (select (3 * fuel + 3) input).map fun (query, rest) => (.select query, rest)

/-- Statements with semicolons between them, after those that have been read, which are in
reverse. -/
def commandsFrom : Nat → List Command → List Lexeme → Option (List Command)
  | 0, _, _ => none
  | fuel + 1, read, input =>
    match input, symbol? ";" input with
    | [], _ => some read.reverse
    | _, some rest => commandsFrom fuel read rest
    | _, none =>
      match command input.length input with
      | none => none
      | some (found, rest) =>
        if rest.isEmpty || (symbol? ";" rest).isSome then commandsFrom fuel (found :: read) rest
        else none

/-- The statements of a text; none when it is not made of statements. -/
def commands? (text : String) : Option (List Command) := do
  let lexemes ← Token.all? text
  commandsFrom (lexemes.length + 1) [] lexemes

end Tabular.Sql.Parser
