import Tabular.Json.Printer
import Tabular.Yaml.Event
import Tabular.Yaml.Lexer
import Tabular.Yaml.Scalar

/-!
# YAML documents

The value of a document. Keys of mappings can be any values and are distinct; an alias repeats the
node that its anchor marks. The number of an anchor is how many names were in use before it, and an
alias stands for the last node whose anchor got the number of its name.
-/

set_option autoImplicit false

namespace Tabular.Yaml

inductive Node where
  | scalar (value : Scalar)
  | sequence (items : List Node)
  | mapping (entries : List (Node × Node))
  | tagged (tag : List Char) (node : Node)
deriving Repr, Inhabited

def Scalar.same : Scalar → Scalar → Bool
  | .number (.float x), .number (.float y) =>
    x == y || (x.isNaN && y.isNaN) || (x.isZero && y.isZero)
  | left, right => left == right

mutual

/-- Whether two nodes are the same key. The order of the entries of mappings does not matter. -/
def Node.same : Node → Node → Bool
  | .scalar left, .scalar right => left.same right
  | .sequence left, .sequence right => sameItems left right
  | .mapping left, .mapping right => left.length == right.length && sameEntries left right
  | .tagged tag left, .tagged other right => tag == other && left.same right
  | _, _ => false

/-- Whether two lists of nodes are the same, item by item. -/
def sameItems : List Node → List Node → Bool
  | [], [] => true
  | left :: lefts, right :: rights => left.same right && sameItems lefts rights
  | _, _ => false

/-- Whether every entry has the same entry among others. -/
def sameEntries : List (Node × Node) → List (Node × Node) → Bool
  | [], _ => true
  | (key, node) :: rest, others =>
    others.any (fun other => key.same other.1 && node.same other.2) && sameEntries rest others

end

mutual

/-- The document that a node stands for. Tags are dropped and keys become texts. -/
def Node.document : Node → Document
  | .scalar .null => .null
  | .scalar (.bool value) => .bool value
  | .scalar (.number (.integer n)) => .number (.integer n)
  | .scalar (.number (.float x)) =>
    if x.isFinite then .number (.float x) else .text (NumberStyle.yaml.text x)
  | .scalar (.text value) => .text (String.ofList value)
  | .sequence items => .list (itemDocuments items)
  | .mapping entries => .record (Document.fieldsOf (entryDocuments entries))
  | .tagged _ node => node.document

def itemDocuments : List Node → List Document
  | [] => []
  | item :: rest => item.document :: itemDocuments rest

def entryDocuments : List (Node × Node) → List (String × Document)
  | [] => []
  | (key, node) :: rest =>
    (match key.document with
      | .text value => value
      | other => Json.compact other, node.document) :: entryDocuments rest

end

structure Anchors where
  numbers : List (List Char × Nat) := []
  positions : List (Nat × Nat) := []

namespace Anchors

/-- The anchors with that of the node at a position, if it has one. -/
def add (anchors : Anchors) (properties : Properties) (position : Nat) : Anchors :=
  match properties.anchor with
  | none => anchors
  | some name =>
    let number := anchors.numbers.length
    { numbers := (name, number) :: anchors.numbers.filter (fun entry => entry.1 != name)
      positions := (number, position) :: anchors.positions }

def number? (anchors : Anchors) (name : List Char) : Option Nat :=
  (anchors.numbers.find? (fun entry => entry.1 == name)).map (·.2)

def position? (anchors : Anchors) (number : Nat) : Option Nat :=
  (anchors.positions.find? (fun entry => entry.1 == number)).map (·.2)

end Anchors

/-- Number the aliases of the events from a position on, after the events in `done`, which are in
reverse. Nothing when a name is not known where it is used. -/
def number? (anchors : Anchors) (position : Nat) (done : List (Event Nat)) :
    List NamedEvent → Option (Anchors × List (Event Nat))
  | [] => some (anchors, done.reverse)
  | .alias name :: rest => do
    number? anchors (position + 1) (.alias (← anchors.number? name) :: done) rest
  | .scalar properties text plain :: rest =>
    number? (anchors.add properties position) (position + 1)
      (.scalar properties text plain :: done) rest
  | .sequenceStart properties :: rest =>
    number? (anchors.add properties position) (position + 1) (.sequenceStart properties :: done) rest
  | .mappingStart properties :: rest =>
    number? (anchors.add properties position) (position + 1) (.mappingStart properties :: done) rest
  | .sequenceEnd :: rest => number? anchors (position + 1) (.sequenceEnd :: done) rest
  | .mappingEnd :: rest => number? anchors (position + 1) (.mappingEnd :: done) rest

structure Numbered where
  anchors : Anchors
  events : List (Event Nat)

namespace Numbered

def jumpLimit (document : Numbered) : Nat :=
  100 * document.events.length

def target? (document : Numbered) (number : Nat) : Option (List (Event Nat)) :=
  (document.anchors.position? number).map document.events.drop

end Numbered

def depthLimit : Nat := 128

def isLocal (tag : List Char) : Bool :=
  tag.head? == some '!'

/-- A node inside its tag, if that is the document's own. -/
def Node.within (tag : Option (List Char)) (node : Node) : Node :=
  match tag with
  | some tag => if isLocal tag then .tagged tag node else node
  | none => node

def scalarNode? (tag : Option (List Char)) (text : List Char) (plain : Bool) : Option Node :=
  let own := if plain then Scalar.ofPlain? text else some (.text text)
  match tag with
  | none => own.map .scalar
  | some tag =>
    if isLocal tag then own.map fun value => .tagged tag (.scalar value)
    else (Scalar.ofTagged? tag text).map .scalar

/-- What is left to read: the events, and how many aliases have been followed. -/
structure Walk where
  events : List (Event Nat)
  jumps : Nat

mutual

/-- Read a node that holds collections of at most the given depth. -/
def Numbered.node? (document : Numbered) : Nat → Nat → Walk → Option (Node × Walk)
  | 0, _, _ => none
  | fuel + 1, depth, walk =>
    match walk.events with
    | .alias number :: rest =>
      if document.jumpLimit ≤ walk.jumps then none
      else do
        let target ← document.target? number
        let (node, after) ← document.node? fuel depth ⟨target, walk.jumps + 1⟩
        some (node, ⟨rest, after.jumps⟩)
    | .scalar properties text plain :: rest => do
      some (← scalarNode? properties.tag text plain, ⟨rest, walk.jumps⟩)
    | .sequenceStart properties :: rest =>
      if depth = 0 then none
      else do
        let (items, walk) ← document.items? fuel (depth - 1) [] ⟨rest, walk.jumps⟩
        some (.within properties.tag (.sequence items), walk)
    | .mappingStart properties :: rest =>
      if depth = 0 then none
      else do
        let (entries, walk) ← document.entries? fuel (depth - 1) [] ⟨rest, walk.jumps⟩
        some (.within properties.tag (.mapping entries), walk)
    | _ => none

/-- Read the items of a sequence up to its end, after those in `read`, which are in reverse. -/
def Numbered.items? (document : Numbered) : Nat → Nat → List Node → Walk → Option (List Node × Walk)
  | 0, _, _, _ => none
  | fuel + 1, depth, read, walk =>
    match walk.events with
    | .sequenceEnd :: rest => some (read.reverse, ⟨rest, walk.jumps⟩)
    | _ => do
      let (item, walk) ← document.node? fuel depth walk
      document.items? fuel depth (item :: read) walk

/-- Read the entries of a mapping up to its end, after those in `read`, which are in reverse. No key
occurs twice. -/
def Numbered.entries? (document : Numbered) :
    Nat → Nat → List (Node × Node) → Walk → Option (List (Node × Node) × Walk)
  | 0, _, _, _ => none
  | fuel + 1, depth, read, walk =>
    match walk.events with
    | .mappingEnd :: rest => some (read.reverse, ⟨rest, walk.jumps⟩)
    | _ => do
      let (key, walk) ← document.node? fuel depth walk
      if read.any (fun entry => entry.1.same key) then none
      else
        let (node, walk) ← document.node? fuel depth walk
        document.entries? fuel depth ((key, node) :: read) walk

end

def nodeOf? (events : List NamedEvent) : Option Node := do
  let (anchors, events) ← number? {} 0 [] events
  let (node, _) ←
    Numbered.node? ⟨anchors, events⟩ ((2 * events.length + 4) * (depthLimit + 2)) depthLimit
      ⟨events, 0⟩
  some node

/-- The documents of a text, or nothing when it is not YAML. A text without any is one null. -/
def documentsOfText? (text : List Char) : Option (List Document) := do
  let tokens ← tokens? text
  match ← documentsOf? tokens with
  | [] => some [.null]
  | documents => documents.mapM fun events => (nodeOf? events).map Node.document

end Tabular.Yaml
