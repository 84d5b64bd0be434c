/-!
# Errors

Everything that can go wrong between a table reference and a written result, by cause. The wording
of a cause is in one place, `Error.message`.
-/

set_option autoImplicit false

namespace Tabular

inductive Error where
  /-- A configuration file, driver name or option value is not acceptable. -/
  | config (reason : String)
  /-- A delimiter literal does not denote one usable character. -/
  | invalidDelimiter (literal reason : String)
  /-- A file pattern matches no file. -/
  | noMatchFound (pattern : String)
  /-- A labelled field without a colon, on the given line. -/
  | invalidColumn (line : Nat) (column : String)
  /-- The text is not JSON. -/
  | invalidJson
  /-- The text is not YAML. -/
  | invalidYaml
  /-- A line is not TBLN. -/
  | invalidTbln (line : Nat) (reason : String)
  | invalidCsv
  /-- No row was seen, so there is no schema. -/
  | noRows
  /-- A table needs at least one column. -/
  | noColumns (table : String)
  /-- There are not as many column types as column names. -/
  | columnMismatch (names types : Nat)
  /-- In-memory data is not shaped like a table. -/
  | unsupportedShape (shape : String)
  | unknownFormat (name : String)
  /-- There is no statement to run. -/
  | noStatement
  | connection
  | engine
  | io
deriving DecidableEq, Repr, Inhabited

namespace Error

def message : Error → String
  | config reason => "Configuration error: " ++ reason
  | invalidDelimiter literal reason =>
    "Invalid delimiter: \"" ++ literal ++ "\" (" ++ reason ++ ")"
  | noMatchFound pattern => "No match found: " ++ pattern
  | invalidColumn line column => "Invalid column at line " ++ toString line ++ ": '" ++ column ++ "'"
  | invalidJson => "Invalid JSON"
  | invalidYaml => "Invalid YAML"
  | invalidTbln line reason => "Invalid TBLN at line " ++ toString line ++ ": " ++ reason
  | invalidCsv => "CSV error"
  | noRows => "No rows"
  | noColumns table => "No columns for table " ++ table
  | columnMismatch names types =>
    "Column mismatch: " ++ toString names ++ " names, " ++ toString types ++ " types"
  | unsupportedShape shape => "Unsupported input shape: " ++ shape
  | unknownFormat name => "Unknown format: '" ++ name ++ "'"
  | noStatement => "No SQL statement"
  | connection => "Connection error"
  | engine => "Engine error"
  | io => "IO error"

end Error

abbrev Result (α : Type) := Except Error α

/-- An operation that can fail and that changes a state in either case. -/
abbrev Call (state α : Type) := state → Result α × state

end Tabular
