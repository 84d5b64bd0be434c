import Tabular.Compression
import Tabular.Engine.Dialect
import Tabular.Format
import Tabular.Sink.Options

/-!
# Arguments of the command line

Words of a query and switches, some of which take a value. A long switch has its value behind an
equals sign or in the next argument, a short one also directly behind its letter. No switch is given
twice. Every argument after two minus signs is a word of the query.
-/

set_option autoImplicit false

namespace Tabular.CommandLine

inductive Switch where
  | queryFile
  | inputFormat
  | inputDelimiter
  | inputHeader
  | inputSkip
  | inputAhead
  | inputLimit
  | inputNull
  | inputNumber
  | inputPath
  | outputFormat
  | outputDelimiter
  | outputHeader
  | outputNull
  | outputQuote
  | outputAllQuotes
  | outputCrlf
  | outputCompression
  | output
  | driver
  | dsn
  | profile
  | configuration
  | listProfiles
  | debug
  | describe
  | examples
  | help
  | version
deriving DecidableEq, Repr, Inhabited

structure Spelling where
  short : Option Char := none
  long : Option String := none
  /-- The name of the value in the help, if the switch takes one. -/
  value : Option String := none
  /-- The value when the switch is not given. -/
  usual : Option String := none
  /-- The environment variable that gives the value when the switch is not given. -/
  environment : Option String := none
  purpose : String

namespace Switch

/-- All switches in the order of the help. -/
def all : List Switch :=
  [queryFile, inputFormat, inputDelimiter, inputHeader, inputSkip, inputAhead, inputLimit, inputNull,
    inputNumber, inputPath, outputFormat, outputDelimiter, outputHeader, outputNull, outputQuote,
    outputAllQuotes, outputCrlf, outputCompression, output, driver, dsn, profile, configuration,
    listProfiles, debug, describe, examples, help, version]

/-- The spelling of a switch without a value. -/
def flag (long purpose : String) : Spelling :=
  { long := some long, purpose := purpose }

def valued (long value purpose : String) (usual : Option String := none)
    (environment : Option String := none) : Spelling :=
  { long := some long, value := some value, usual := usual, environment := environment, purpose := purpose }

def spelling : Switch → Spelling
  | queryFile => { short := some 'q', value := some "FILE", purpose := "Read the query from a file" }
  | inputFormat =>
    valued "ifmt" "IFMT" "Input format: guess, csv, ltsv, json, yaml, tbln, width, text, tsv, psv"
      (some "guess")
  | inputDelimiter => valued "id" "ID" "Input field delimiter" (some ",")
  | inputHeader => flag "ih" "The first input row is a header"
  | inputSkip => valued "is" "IS" "Input rows to skip" (some "0")
  | inputAhead => valued "ir" "IR" "Input rows read ahead to infer the schema" (some "1")
  | inputLimit => flag "ilr" "Load only the read-ahead rows"
  | inputNull => valued "inull" "INULL" "Input value loaded as NULL"
  | inputNumber => flag "inum" "Add a row number column"
  | inputPath => valued "ipath" "IPATH" "Path to the table inside JSON/YAML documents"
  | outputFormat =>
    valued "ofmt" "OFMT" "Output format: csv, ltsv, json, jsonl, yaml, tbln, raw, at, md, vf"
      (some "csv")
  | outputDelimiter => valued "od" "OD" "Output field delimiter" (some ",")
  | outputHeader => flag "oh" "Write a header row"
  | outputNull => valued "onull" "ONULL" "Output text for NULL"
  | outputQuote =>
    valued "oq" "OQ" "CSV output quote character; empty disables quoting" (some "\"")
  | outputAllQuotes => flag "oaq" "Quote every CSV output field"
  | outputCrlf => flag "ocrlf" "End CSV output lines with CRLF"
  | outputCompression =>
    valued "oz" "OZ" "Output compression: gz, bz2, zstd, lz4, xz. Guessed from --out otherwise"
  | output => valued "out" "FILE" "Write the result to a file"
  | driver =>
    valued "driver" "DRIVER" "Database driver: sqlite, mysql, postgres" none (some "FLATSQL_DRIVER")
  | dsn => valued "dsn" "DSN" "Database connection string" none (some "FLATSQL_DSN")
  | profile => valued "db" "DB" "Database profile from the config file"
  | configuration => valued "config" "FILE" "Config file path"
  | listProfiles => flag "dblist" "List configured databases"
  | debug => flag "debug" "Debug logging"
  | describe =>
    { short := some 'a', value := some "FILE", purpose := "Describe a file and print example queries" }
  | examples =>
    { short := some 'A', value := some "FILE", purpose := "Print only the example queries for a file" }
  | help => { short := some 'h', long := some "help", purpose := "Print help" }
  | version => { short := some 'V', long := some "version", purpose := "Print version" }

def ofLong? (name : String) : Option Switch :=
  all.find? fun switch => switch.spelling.long == some name

def ofShort? (letter : Char) : Option Switch :=
  all.find? fun switch => switch.spelling.short == some letter

end Switch

/-- The number that digits denote, when it fits in sixty-four bits. A plus sign may stand before
them. -/
def count? (text : String) : Option Nat :=
  let digits := match text.toList with
    | '+' :: rest => rest
    | rest => rest
  if digits.isEmpty || !digits.all Char.isDigit then none
  else
    let value := digits.foldl (fun total d => total * 10 + (d.toNat - '0'.toNat)) 0
    if value < Nat.pow 2 64 then some value else none

def Switch.accepts (switch : Switch) (value : String) : Bool :=
  match switch with
  | .inputFormat => (Format.parse value).isOk
  | .outputFormat => (OutputFormat.parse value).isOk
  | .outputCompression => (Compression.parse value).isOk
  | .driver => (Driver.parse value).isOk
  | .inputSkip | .inputAhead => (count? value).isSome
  | .queryFile | .output | .configuration => !value.isEmpty
  | _ => true

/-- Why arguments are not carried out. -/
inductive Stop where
  | help
  | version
  | wrong
deriving DecidableEq, Repr, Inhabited

structure Arguments where
  words : List String := []
  /-- The switches that were given, with their values. -/
  given : List (Switch × String) := []
deriving DecidableEq, Repr, Inhabited

namespace Arguments

def given? (arguments : Arguments) (switch : Switch) : Option String :=
  (arguments.given.find? fun entry => entry.1 = switch).map (·.2)

def has (arguments : Arguments) (switch : Switch) : Bool :=
  (arguments.given? switch).isSome

/-- The value of a switch, which is the usual one if it was not given. -/
def value? (arguments : Arguments) (switch : Switch) : Option String :=
  arguments.given? switch <|> switch.spelling.usual

def give (arguments : Arguments) (switch : Switch) (value : String) : Except Stop Arguments :=
  match switch with
  | .help => .error .help
  | .version => .error .version
  | switch =>
    if arguments.has switch || !switch.accepts value then .error .wrong
    else .ok { arguments with given := arguments.given ++ [(switch, value)] }

/-- Whether an argument is a switch and not a value. -/
def isSwitch (argument : String) : Bool :=
  argument.startsWith "-" && argument != "-"

/-- The switch that an argument spells, and the value that is attached to it. -/
def spelled? (argument : String) : Option (Switch × Option String) :=
  match argument.toList with
  | '-' :: '-' :: name =>
    let attached := match name.dropWhile (· != '=') with
      | _ :: value => some (String.ofList value)
      | [] => none
    (Switch.ofLong? (String.ofList (name.takeWhile (· != '=')))).map fun switch => (switch, attached)
  | '-' :: letter :: rest =>
    let attached := match rest with
      | [] => none
      | '=' :: value => some (String.ofList value)
      | value => some (String.ofList value)
    (Switch.ofShort? letter).map fun switch => (switch, attached)
  | _ => none

def readFrom (arguments : Arguments) : List String → Except Stop Arguments
  | [] => .ok arguments
  | argument :: rest =>
    if argument == "--" then .ok { arguments with words := arguments.words ++ rest }
    else if !isSwitch argument then
      readFrom { arguments with words := arguments.words ++ [argument] } rest
    else
      match spelled? argument with
      | none => .error .wrong
      | some (switch, attached) =>
        if switch.spelling.value.isNone then
          -- Only what is said at once can be followed by other letters.
          if attached.isSome && argument.startsWith "--" then .error .wrong
          else
            match arguments.give switch "" with
            | .error stop => .error stop
            | .ok arguments => readFrom arguments rest
        else
          match attached, rest with
          | some value, rest =>
            match arguments.give switch value with
            | .error stop => .error stop
            | .ok arguments => readFrom arguments rest
          | none, [] => .error .wrong
          | none, value :: rest =>
            if isSwitch value then .error .wrong
            else
              match arguments.give switch value with
              | .error stop => .error stop
              | .ok arguments => readFrom arguments rest

/-- Give a switch the value of its environment variable, if it was not given. -/
def withVariable (environment : List (String × String)) (arguments : Arguments) (switch : Switch) :
    Except Stop Arguments :=
  match switch.spelling.environment.bind fun name => (environment.find? (·.1 == name)).map (·.2) with
  | some value => if arguments.has switch then .ok arguments else arguments.give switch value
  | none => .ok arguments

def read (environment : List (String × String)) (arguments : List String) : Except Stop Arguments := do
  let arguments ← readFrom {} arguments
  let arguments ← Switch.all.foldlM (withVariable environment) arguments
  if arguments.has .describe && arguments.has .examples then .error .wrong else .ok arguments

end Arguments

end Tabular.CommandLine
