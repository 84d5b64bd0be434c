import Tabular.CommandLine.Session

/-!
# The program

Reads the files that the arguments lead to, runs, and writes what the run prints and makes.
-/

set_option autoImplicit false

namespace Tabular.CommandLine

/-- The content of a file, if it can be read. -/
def fileContent? (path : String) : IO (Option (List UInt8)) := do
  try
    return some (← IO.FS.readBinFile path).toList
  catch _ => return none

/-- The names in a folder, if it is one. -/
def folderNames? (path : String) : IO (Option (List String)) := do
  try
    let found ← ({ root := path, fileName := "" } : IO.FS.DirEntry).path.readDir
    return some (found.toList.map (·.fileName))
  catch _ => return none

/-- A file, or a folder with what is in it down to a depth. -/
def nodeAt? : Nat → String → IO (Option Node)
  | depth, path => do
    match ← folderNames? path with
    | some names =>
      match depth with
      | 0 => return some Node.empty
      | depth + 1 =>
        let entries ← names.filterMapM fun name => do
          return (← nodeAt? depth (path ++ "/" ++ name)).map fun node => (name, node)
        return some (entries.foldl (fun folder (name, node) => Node.put node [name] folder) Node.empty)
    | none => return (← fileContent? path).map Node.file

/-- The folders on the way to a path, the outer ones first. -/
def foldersOf (path : String) : List String :=
  let steps := Node.stepsOf path
  (List.range (steps.length - 1)).map fun n => "/".intercalate (steps.take (n + 1))

def withPath (depth : Nat) (tree : Node) (path : String) : IO Node := do
  let tree ← (foldersOf path).foldlM (fun tree folder => do
    if folder.isEmpty || (tree.at? folder).isSome || (← folderNames? folder).isNone then return tree
    else return Node.put .empty (Node.placeOf folder) tree) tree
  if path.isEmpty || (tree.at? path matches some (.file _)) then return tree
  else
    match ← nodeAt? depth path with
    | some node => return Node.put node (Node.placeOf path) tree
    | none => return tree

/-- How deep the folders below a pattern are searched. -/
def searchDepth : Nat := 16

def withLookup (tree : Node) (name : String) : IO Node := do
  if Reference.isPattern name then
    let fixed := (Node.stepsOf name).takeWhile fun step => !Reference.isPattern step
    let folder := "/".intercalate fixed
    if folder.isEmpty && !Node.isAbsolute name then
      match ← nodeAt? searchDepth "." with
      | some (.folder entries) =>
        return entries.foldl (fun tree (name, node) => Node.put node [name] tree) tree
      | _ => return tree
    else withPath searchDepth tree folder
  else withPath 0 tree name

partial def readAll (stream : IO.FS.Stream) (read : ByteArray) : IO ByteArray := do
  let chunk ← stream.read 65536
  if chunk.isEmpty then return read else readAll stream (read ++ chunk)

def surroundingsFor (environment : List (String × String)) (home : Option String)
    (arguments : List String) : IO Surroundings := do
  match Arguments.read environment arguments with
  | .error _ => return { home := home }
  | .ok arguments =>
    let configuration := arguments.given? .configuration <|> Configuration.usualPath home
    let paths := [configuration, arguments.given? .queryFile, arguments.given? .output].filterMap id
    let tree ← paths.foldlM (withPath 0) Node.empty
    let dsn? : Option String :=
      match Configuration.load tree home (arguments.given? .configuration) with
      | .ok configuration => (arguments.database configuration).toOption.map fun (driver, dsn) => driver.url dsn
      | .error _ => none
    let tree ← match dsn?.bind Sql.Location.ofUrl? with
      | some (.file path _) => withPath 0 tree path
      | _ => pure tree
    let references := arguments.references tree
    let tree ← (references.flatMap (Reference.lookups home)).foldlM withLookup tree
    let names := references ++ references.flatMap (Reference.lookups home)
    let input ← if names.any Reference.isStandardInput then readAll (← IO.getStdin) ByteArray.empty
      else pure ByteArray.empty
    return { tree := tree, home := home, standardInput := input.toList }

def writeChanges (before after : Node) : IO Unit := do
  let known := before.files ""
  for (path, content) in after.files "" do
    unless known.contains (path, content) do
      IO.FS.writeBinFile path (ByteArray.mk content.toArray)

def switchVariables : IO (List (String × String)) :=
  (Switch.all.filterMap fun switch => switch.spelling.environment).filterMapM fun name => do
    return (← IO.getEnv name).map fun value => (name, value)

end Tabular.CommandLine

open Tabular CommandLine in
def main (arguments : List String) : IO UInt32 := do
  let environment ← switchVariables
  let around ← surroundingsFor environment (← IO.getEnv "HOME") arguments
  let colored := (← (← IO.getStdout).isTty) && (← IO.getEnv "NO_COLOR").isNone
  let style : Description.ReportStyle := { colored := colored }
  let outcome := CommandLine.run style environment arguments around
  writeChanges around.tree outcome.tree
  (← IO.getStdout).write (ByteArray.mk outcome.printed.toArray)
  if let some failure := outcome.failure then
    IO.eprintln ("Error: " ++ failure.message)
  if outcome.code = 2 then
    IO.eprintln "error: the arguments are not understood; try 'flatsql --help'"
  return UInt32.ofNat outcome.code
