import Tabular.Compression
import Tabular.Files.Pattern
import Tabular.Files.Pipe

/-!
# Table references

A reference in a query is the standard input, a file name pattern or the name of a file, in quotes or
not, and may end with two colons and the path of a part of each document. A reference that is none of
these is left to the engine.
-/

set_option autoImplicit false

namespace Tabular

structure Surroundings where
  tree : Node := .empty
  home : Option String := none
  /-- What has not been read of the standard input. -/
  standardInput : List UInt8 := []
deriving Inhabited

namespace Reference

def isStandardInput (name : String) : Bool :=
  name.isEmpty || name == "-" || Ascii.sameName name "stdin"

def isPattern (name : String) : Bool :=
  name.toList.any fun c => c == '*' || c == '?' || c == '['

/-- A text without a pair of quotes around it. -/
def unquotedBy (quote : Char) (text : List Char) : List Char :=
  match text with
  | first :: rest =>
    if first == quote && rest.getLast? == some quote then rest.dropLast else text
  | [] => []

/-- A name without a pair of back quotes around it, and a pair of double quotes inside of these. -/
def unquoted (name : String) : String :=
  String.ofList (unquotedBy '"' (unquotedBy '\x60' name.toList))

/-- A path with the home folder in the place of a tilde at its start. -/
def expandHome (home : Option String) (path : String) : String :=
  match path.toList, home with
  | '~' :: rest, some home =>
    home ++ "/" ++ String.ofList (rest.dropWhile fun c => c == '/' || c == '\\')
  | _, _ => path

/-- The files that a pattern matches as one input: the content of each, and a line end. What cannot
be read of a file is missing. -/
def readPattern (pattern : String) (tree : Node) : Result Input :=
  match Pattern.files pattern.toList tree with
  | .error fault => .error (.config (pattern ++ ": " ++ fault.message))
  | .ok [] => .error (.noMatchFound pattern)
  | .ok files =>
    let copies := files.map fun content => Pipe.chunks (Compression.read content).bytes
    .ok { bytes := (Pipe.ofCopies copies).readAll fun _ => Pipe.bufferSize }

/-- The input with a name; none if there is no such file. The standard input can be read once. -/
def open? (name : String) : Call Surroundings (Option Input) := fun around =>
  if isStandardInput name then
    (.ok (some (Compression.read around.standardInput)), { around with standardInput := [] })
  else
    let bare := unquoted name
    let path := expandHome around.home bare
    if isPattern bare then ((readPattern path around.tree).map some, around)
    else (.ok ((around.tree.content? path).map Compression.read), around)

structure Opened where
  input : Input
  file : String
  path : Option String := none
deriving DecidableEq, Repr, Inhabited

def splitPath? : List Char → Option (List Char × List Char)
  | ':' :: ':' :: rest => some ([], rest)
  | c :: rest => (splitPath? rest).map fun (file, path) => (c :: file, path)
  | [] => none

def lookups (home : Option String) (reference : String) : List String :=
  let path := fun name => expandHome home (unquoted name)
  match splitPath? reference.toList with
  | some (file, _) => [path reference, path (String.ofList file)]
  | none => [path reference]

/-- Look up a reference, first as a whole and then without the path at its end. -/
def resolve (reference : String) : Call Surroundings (Option Opened) := fun around =>
  match open? reference around with
  | (.error error, around) => (.error error, around)
  | (.ok (some input), around) => (.ok (some { input := input, file := reference }), around)
  | (.ok none, around) =>
    match splitPath? reference.toList with
    | none => (.ok none, around)
    | some (file, path) =>
      let (outcome, around) := open? (String.ofList file) around
      (outcome.map fun input => input.map fun input =>
        { input := input, file := String.ofList file, path := some (String.ofList path) }, around)

end Reference

end Tabular
