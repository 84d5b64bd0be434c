import Tabular.CommandLine.Help
import Tabular.Configuration
import Tabular.Description
import Tabular.Run.Transaction
import Tabular.Sql.Location

/-!
# Runs of the program

What the program does when it is called with arguments: it lists databases, describes a file or
answers a query. The outcome is what it prints, how it ends and which files there are.
-/

set_option autoImplicit false

namespace Tabular.CommandLine

inductive Failure where
  | step (reason : Error)
  | query (path : String) (fault : Node.Fault)
  | output (path : String) (fault : Node.Fault)
  | noQuery
deriving DecidableEq, Repr, Inhabited

def Failure.message : Failure → String
  | step reason => reason.message
  | query path fault => "reading query from " ++ path ++ ": " ++ fault.message
  | output path fault => "creating " ++ path ++ ": " ++ fault.message
  | noQuery => "no query given; try 'flatsql --help'"

structure Outcome where
  code : Nat
  printed : List UInt8 := []
  failure : Option Failure := none
  tree : Node
deriving Inhabited

namespace Arguments

def readOptions (arguments : Arguments) : ReadOptions :=
  let count := fun switch => ((arguments.value? switch).bind count?).getD 0
  let ahead := count .inputAhead
  let options : ReadOptions :=
    { format := ((arguments.value? .inputFormat).bind fun name => (Format.parse name).toOption).getD .guess
      delimiter := (arguments.value? .inputDelimiter).getD ","
      header := arguments.has .inputHeader
      skip := count .inputSkip
      ahead := ahead
      path := arguments.value? .inputPath
      null := arguments.value? .inputNull
      rowNumber := arguments.has .inputNumber }
  if arguments.has .inputLimit then options.limited ahead else options

def writeOptions (arguments : Arguments) : WriteOptions :=
  { format :=
      ((arguments.value? .outputFormat).bind fun name => (OutputFormat.parse name).toOption).getD .csv
    delimiter := (arguments.value? .outputDelimiter).getD ","
    header := arguments.has .outputHeader
    null := arguments.value? .outputNull
    quote := (arguments.value? .outputQuote).getD "\""
    allQuotes := arguments.has .outputAllQuotes
    crlf := arguments.has .outputCrlf }

/-- How the result is compressed: as it is said, or as the name of the file says. -/
def compression (arguments : Arguments) : Option Compression :=
  match arguments.value? .outputCompression with
  | some name => (Compression.parse name).toOption
  | none => (arguments.value? .output).bind Compression.ofPath?

/-- The driver and the connection string: those that are given, or those of a profile. -/
def database (arguments : Arguments) (configuration : Configuration) : Result (Driver × String) := do
  if arguments.has .driver || arguments.has .dsn then
    let driver ← Driver.parse ((arguments.given? .driver).getD "")
    return (driver, (arguments.given? .dsn).getD "")
  else
    match ← configuration.profile (arguments.given? .profile) with
    | some profile => return (← Driver.parse profile.driver, profile.dsn)
    | none => return (.sqlite, "")

def query (arguments : Arguments) (tree : Node) : Except Failure String := do
  let sql ← match arguments.given? .queryFile with
    | none => .ok (" ".intercalate arguments.words)
    | some path => (tree.read path).mapError (.query path)
  if (Text.trim sql.toList).isEmpty then .error .noQuery else .ok sql

def references (arguments : Arguments) (tree : Node) : List String :=
  match arguments.given? .describe <|> arguments.given? .examples with
  | some reference => [reference]
  | none =>
    match arguments.query tree with
    | .ok sql => Query.tableRefs sql
    | .error _ => []

end Arguments

def profileLines (style : Description.ReportStyle) (configuration : Configuration) : String :=
  String.join (configuration.profiles.map fun (name, profile) =>
    style.paint .cyan name ++ ":" ++ profile.driver ++ ":" ++ profile.dsn ++ "\n")

def failed (tree : Node) (failure : Failure) : Outcome :=
  { code := 1, failure := some failure, tree := tree }

/-- A run that prints a text and does nothing else. -/
def prints (tree : Node) (text : String) : Outcome :=
  { code := 0, printed := Utf8.bytes text, tree := tree }

def describe (style : Description.ReportStyle) (arguments : Arguments) (driver : Driver)
    (reference : String) (around : Surroundings) : Outcome :=
  let style := { style with dialect := driver.dialect, detail := arguments.has .describe }
  match (Description.read arguments.readOptions reference around).1 with
  | .error error => failed around.tree (.step error)
  | .ok description => prints around.tree (description.report style)

/-- The result of a run: its bytes go to a file or are printed. -/
def delivered (file : Option String) (tree : Node) (bytes : List UInt8) (failure : Option Failure) :
    Outcome :=
  let code := if failure.isSome then 1 else 0
  match file with
  | none => { code := code, printed := bytes, failure := failure, tree := tree }
  | some path =>
    { code := code, failure := failure, tree := (tree.write path bytes).toOption.getD tree }

/-- Answer a query. The file for the result is made before anything else. -/
def answer (arguments : Arguments) (driver : Driver) (dsn sql : String) (around : Surroundings) :
    Outcome :=
  let file := arguments.given? .output
  let made : Except Failure Node := match file with
    | none => .ok around.tree
    | some path => (around.tree.write path []).mapError (Failure.output path)
  match made with
  | .error failure => failed around.tree failure
  | .ok tree =>
    let compression := arguments.compression
    match Sink.ofOptions arguments.writeOptions with
    | .error error => delivered file tree (Compression.write compression []) (some (.step error))
    | .ok sink =>
      let reached := Sql.reach driver dsn tree
      let storage := reached.storage driver.dialect
      let start : TextOutput := { sink := sink }
      let ended := Run.transaction storage (Run.gather storage.engine arguments.readOptions)
        TextOutput.writer sql reached.content { around with tree := reached.tree } start
      let bytes := Compression.write compression (Utf8.bytes ended.output.text)
      delivered file reached.tree bytes (match ended.outcome with
        | .ok () => none
        | .error error => some (.step error))

def carryOut (style : Description.ReportStyle) (arguments : Arguments) (around : Surroundings) :
    Outcome :=
  match Configuration.load around.tree around.home (arguments.given? .configuration) with
  | .error error => failed around.tree (.step error)
  | .ok configuration =>
    if arguments.has .listProfiles then prints around.tree (profileLines style configuration)
    else
      match arguments.database configuration with
      | .error error => failed around.tree (.step error)
      | .ok (driver, dsn) =>
        match arguments.given? .describe <|> arguments.given? .examples with
        | some reference => describe style arguments driver reference around
        | none =>
          match arguments.query around.tree with
          | .error failure => failed around.tree failure
          | .ok sql => answer arguments driver dsn sql around

def run (style : Description.ReportStyle) (environment : List (String × String))
    (arguments : List String) (around : Surroundings) : Outcome :=
  match Arguments.read environment arguments with
  | .error .help => prints around.tree (helpText environment)
  | .error .version => prints around.tree versionText
  | .error .wrong => { code := 2, tree := around.tree }
  | .ok arguments => carryOut style arguments around

end Tabular.CommandLine
