import Tabular.Text.Ascii
import Tabular.Text.Blank
import Tabular.Text.Utf8

/-!
# Files

A tree of folders and files. The entries of a folder are kept in the order of their names. A tree
can hold what is outside of its folder: the root of all files as an entry that is named by a slash,
and the folder above as an entry that is named by two dots.
-/

set_option autoImplicit false

namespace Tabular

inductive Node where
  | file (content : List UInt8)
  | folder (entries : List (String × Node))
deriving Inhabited

namespace Node

def empty : Node := folder []

def child? (name : String) : List (String × Node) → Option Node
  | [] => none
  | (other, node) :: rest => if other == name then some node else child? name rest

/-- The entries with one of them in the place of another one with its name, or added in order. -/
def setEntry (name : String) (node : Node) : List (String × Node) → List (String × Node)
  | [] => [(name, node)]
  | (other, old) :: rest =>
    if other == name then (name, node) :: rest
    else if name < other then (name, node) :: (other, old) :: rest
    else (other, old) :: setEntry name node rest

/-- The entries of a folder; a file has none. -/
def entries : Node → List (String × Node)
  | file _ => []
  | folder entries => entries

def put (node : Node) : List String → Node → Node
  | [], _ => node
  | part :: rest, tree =>
    let inner := (child? part tree.entries).getD empty
    folder (setEntry part (put node rest inner) tree.entries)

/-- The node that a step leads to from a node with the given folders above it, and the folders above
that node. An empty step and a dot stay where they are, and two dots lead upwards, at the top of the
tree to the entry of this name. All steps have to be taken in a folder. -/
def walkOne? (node : Node) (above : List Node) (step : String) : Option (List Node × Node) :=
  match node with
  | file _ => none
  | folder entries =>
    if step == "" || step == "." then some (above, node)
    else if step == ".." then
      match above with
      | [] => (child? ".." entries).map fun parent => ([], parent)
      | parent :: above => some (above, parent)
    else (child? step entries).map fun child => (node :: above, child)

def walk? (node : Node) (above : List Node) : List String → Option (List Node × Node)
  | [] => some (above, node)
  | step :: rest =>
    match node.walkOne? above step with
    | none => none
    | some (above, node) => walk? node above rest

def stepsOf (path : String) : List String :=
  (Text.splitAt '/' path.toList).map String.ofList

/-- Whether a path starts at the root of all files. -/
def isAbsolute (path : String) : Bool :=
  path.toList.head? == some '/'

def start? (tree : Node) (path : String) : Option Node :=
  if path.isEmpty then none
  else if isAbsolute path then child? "/" tree.entries
  else some tree

def at? (tree : Node) (path : String) : Option Node := do
  let start ← tree.start? path
  let (_, node) ← start.walk? [] (stepsOf path)
  return node

/-- The entries on the way to a path, without steps that stay or lead back. -/
def placeOf (path : String) : List String :=
  (if isAbsolute path then ["/"] else []) ++ (stepsOf path).foldl (fun taken step =>
    if step == "" || step == "." then taken
    else if step == ".." && taken.getLast?.any (· != "..") then taken.dropLast
    else taken ++ [step]) []

/-- The content of the file at a path, if there is a file. -/
def content? (tree : Node) (path : String) : Option (List UInt8) :=
  match tree.at? path with
  | some (file content) => some content
  | _ => none

/-- Why there is no file at the end of a path. -/
inductive Fault where
  | missing
  | notFolder
  | isFolder
  | notText
deriving DecidableEq, Repr, Inhabited

def Fault.message : Fault → String
  | missing => "No such file or directory (os error 2)"
  | notFolder => "Not a directory (os error 20)"
  | isFolder => "Is a directory (os error 21)"
  | notText => "stream did not contain valid UTF-8"

/-- Where steps that cannot all be taken end. -/
def walkFault (node : Node) (above : List Node) : List String → Fault
  | [] => .missing
  | step :: rest =>
    match node, node.walkOne? above step with
    | file _, _ => .notFolder
    | folder _, none => .missing
    | folder _, some (above, node) => walkFault node above rest

/-- Why there is nothing at a path. -/
def absence (tree : Node) (path : String) : Fault :=
  match tree.start? path with
  | some start => start.walkFault [] (stepsOf path)
  | none => .missing

def read (tree : Node) (path : String) : Except Fault String :=
  match tree.at? path with
  | some (file content) =>
    match Utf8.string? content with
    | some text => .ok text
    | none => .error .notText
  | some (folder _) => .error .isFolder
  | none => .error (tree.absence path)

/-- The tree with a file at a path that has the given content. The folder of the file has to be
there. -/
def write (tree : Node) (path : String) (content : List UInt8) : Except Fault Node :=
  match tree.at? path with
  | some (file _) => .ok (put (file content) (placeOf path) tree)
  | some (folder _) => .error .isFolder
  | none =>
    let steps := stepsOf path
    match (tree.start? path).bind fun start => start.walk? [] steps.dropLast with
    | some (_, folder _) =>
      if ["", ".", ".."].contains (steps.getLastD "") then .error .isFolder
      else .ok (put (file content) (placeOf path) tree)
    | some (_, file _) => .error .notFolder
    | none => .error (tree.absence path)

mutual

/-- The files below a node with their paths, which continue the given one. -/
def files (path : String) : Node → List (String × List UInt8)
  | file content => [(path, content)]
  | folder entries => filesAmong (if path.isEmpty then "" else path ++ "/") entries

/-- The files among entries of a folder and below them. -/
def filesAmong (path : String) : List (String × Node) → List (String × List UInt8)
  | [] => []
  | (name, node) :: rest => files (path ++ name) node ++ filesAmong path rest

end

end Node

end Tabular
