import Tabular.CommandLine.Switches

/-!
# Help of the command line

The texts that tell how the program is used. The purposes of the switches stand below each other, and
one that does not fit in its line goes on in the next one.
-/

set_option autoImplicit false

namespace Tabular.CommandLine

def versionText : String := "flatsql 0.3.0\n"

namespace Spelling

/-- A switch with its value; of two spellings the long one. -/
def text (spelling : Spelling) : String :=
  let name := match spelling.long, spelling.short with
    | some long, _ => "--" ++ long
    | none, some short => String.ofList ['-', short]
    | none, none => ""
  match spelling.value with
  | some value => name ++ " <" ++ value ++ ">"
  | none => name

def both (spelling : Spelling) : String :=
  match spelling.short, spelling.long with
  | some short, some _ => String.ofList ['-', short] ++ ", " ++ spelling.text
  | none, some _ => "    " ++ spelling.text
  | _, none => spelling.text

/-- What a switch is for, and where its value comes from when it is not given. -/
def purposeText (spelling : Spelling) (environment : List (String × String)) : String :=
  let environment := match spelling.environment with
    | some name =>
      " [env: " ++ name ++ "=" ++ ((environment.find? (·.1 == name)).map (·.2)).getD "" ++ "]"
    | none => ""
  let usual := match spelling.usual with
    | some value => " [default: " ++ value ++ "]"
    | none => ""
  spelling.purpose ++ environment ++ usual

end Spelling

def filled (width : Nat) (text : String) : String :=
  text ++ String.ofList (List.replicate (width - text.length) ' ')

def lineWidth : Nat := 100

/-- A line that is continued by words, in lines of at most the given width where the words allow it. -/
def wrapOnto (width : Nat) (line : String) : List String → List String
  | [] => [line]
  | word :: rest =>
    if width < line.length + 1 + word.length then line :: wrapOnto width word rest
    else wrapOnto width (line ++ " " ++ word) rest

/-- A text in lines of at most the given width. -/
def wrap (width : Nat) (text : String) : List String :=
  match text.splitOn " " with
  | [] => []
  | word :: rest => wrapOnto width word rest

def switchLines (environment : List (String × String)) : List String :=
  let spellings := Switch.all.map Switch.spelling
  let column := (spellings.map fun spelling => spelling.text.length).foldl Nat.max 0 + 8
  spellings.flatMap fun spelling =>
    (wrap (lineWidth - column) (spelling.purposeText environment)).mapIdx fun i line =>
      filled column (if i = 0 then "  " ++ spelling.both else "") ++ line

def exampleLines : List String :=
  ["EXAMPLES:",
    "    flatsql --ih 'SELECT * FROM users.csv WHERE age > 30'",
    "    flatsql --ofmt json 'SELECT host, count(*) FROM access.ltsv GROUP BY host'",
    "    cat data.csv | flatsql 'SELECT c1 FROM -'",
    "    flatsql 'SELECT name FROM doc.json::items'",
    "    flatsql --out result.csv.gz 'SELECT * FROM big.csv.zst'"]

def helpText (environment : List (String × String)) : String :=
  "\n".intercalate (
    ["Run SQL queries on CSV, LTSV, JSON, YAML and TBLN files", "",
      "Usage: flatsql [OPTIONS] [QUERY]...", "", "Arguments:", "  [QUERY]...  SQL query", "",
      "Options:"] ++ switchLines environment ++ [""] ++ exampleLines) ++ "\n"

end Tabular.CommandLine
