import Tabular.Error
import Tabular.Text.Ascii

/-!
# Engines and their dialects

The database engines that queries run on, and what differs between them: how names are quoted, how
parameters are written and how many a statement can have, and how many rows are loaded at once.
-/

set_option autoImplicit false

namespace Tabular

inductive Placeholder where
  | question
  /-- A dollar sign and the number of the parameter, from one. -/
  | dollar
deriving DecidableEq, Repr, Inhabited

inductive BulkLoad where
  | copy
  | insert
deriving DecidableEq, Repr, Inhabited

structure Dialect where
  quote : Char
  placeholder : Placeholder
  maxParams : Nat
  bulk : BulkLoad
deriving DecidableEq, Repr, Inhabited

def Placeholder.text (placeholder : Placeholder) (number : Int32) : String :=
  match placeholder with
  | question => "?"
  | dollar => "$" ++ toString number

/-- A clause of values as far as it is written, and the number of the last parameter in it. The
parameters are counted in thirty-two bits: behind the largest number comes the least. -/
structure Values where
  text : String := ""
  last : Int32 := 0
deriving DecidableEq, Repr, Inhabited

namespace Values

/-- What goes before the part of a list at a position. -/
def separator (position : Nat) : String :=
  if 0 < position then "," else ""

/-- Write the parameter of a column. Its number follows that of the parameter before, be it in the
same row or in the one before. -/
def addParam (placeholder : Placeholder) (column : Nat) (values : Values) : Values :=
  { text := values.text ++ separator column ++ placeholder.text (values.last + 1)
    last := values.last + 1 }

/-- Write the parameters of the row at a position, between parentheses. -/
def addRow (placeholder : Placeholder) (columns position : Nat) (values : Values) : Values :=
  let start := { values with text := values.text ++ separator position ++ "(" }
  let row := columns.fold (fun column _ => addParam placeholder column) start
  { row with text := row.text ++ ")" }

end Values

namespace Dialect

/-- A name between quotes. A quote inside is written twice. -/
def quoteIdent (dialect : Dialect) (name : String) : String :=
  String.ofList (dialect.quote ::
    name.toList.flatMap (fun c => if c == dialect.quote then [c, c] else [c]) ++ [dialect.quote])

/-- Write the rows of a clause of values one after the other. -/
def valuesClause (dialect : Dialect) (columns rows : Nat) : String :=
  (rows.fold (fun position _ => Values.addRow dialect.placeholder columns position) {}).text

def nameList (dialect : Dialect) (names : List String) : String :=
  ", ".intercalate (names.map dialect.quoteIdent)

end Dialect

inductive Driver where
  | sqlite
  | mysql
  | postgres
deriving DecidableEq, Repr, Inhabited

namespace Driver

def name : Driver → String
  | sqlite => "sqlite"
  | mysql => "mysql"
  | postgres => "postgres"

/-- The driver with a name in lower-case letters. -/
def named? : String → Option Driver
  | "" | "sqlite" | "sqlite3" => some sqlite
  | "mysql" => some mysql
  | "postgres" | "postgresql" | "pg" => some postgres
  | _ => none

/-- The driver with a name, in any case of letters. The error shows the name in lower case. -/
def parse (name : String) : Result Driver :=
  match named? (Ascii.lower name) with
  | some driver => .ok driver
  | none => .error (.config ("unknown driver '" ++ Ascii.lower name ++ "'"))

def dialect : Driver → Dialect
  | sqlite => { quote := '\x60', placeholder := .question, maxParams := 32766, bulk := .insert }
  | mysql => { quote := '\x60', placeholder := .question, maxParams := 65535, bulk := .insert }
  | postgres => { quote := '"', placeholder := .dollar, maxParams := 65535, bulk := .copy }

/-- Where an engine is reached. Without a source name the engine keeps its data in memory, and a
plain file name is that of a database that is made when it is missing. -/
def url (driver : Driver) (source : String) : String :=
  match driver with
  | sqlite =>
    if source.isEmpty then "sqlite::memory:"
    else if "sqlite:".isPrefixOf source then source
    else "sqlite://" ++ source ++ "?mode=rwc"
  | mysql => if "mysql://".isPrefixOf source then source else "mysql://" ++ source
  | postgres => source

end Driver

end Tabular
