import Tabular.Yaml.Token

/-!
# Nodes of a YAML text, one after the other

The grammar of YAML over its tokens. A document becomes a list of events: scalars, aliases, and the
starts and ends of collections. A node that is left out becomes an empty plain scalar.
-/

set_option autoImplicit false

namespace Tabular.Yaml

structure Properties where
  anchor : Option (List Char) := none
  tag : Option (List Char) := none
deriving DecidableEq, Repr, Inhabited

/-- A part of a document. Aliases refer to the nodes they repeat by a value of the given type. -/
inductive Event (Reference : Type) where
  | alias (reference : Reference)
  /-- A scalar, and whether it is written without quotes or block header. -/
  | scalar (properties : Properties) (text : List Char) (plain : Bool)
  | sequenceStart (properties : Properties)
  | sequenceEnd
  | mappingStart (properties : Properties)
  | mappingEnd
deriving DecidableEq, Repr, Inhabited

abbrev TagTable := List (List Char × List Char)

namespace TagTable

/-- The handles every document has. -/
def standard : TagTable :=
  [(['!'], ['!']), (['!', '!'], "tag:yaml.org,2002:".toList)]

def resolve? (table : TagTable) (handle ending : List Char) : Option (List Char) :=
  if handle.isEmpty then some ending
  else (table.find? (fun entry => entry.1 == handle)).map fun entry => entry.2 ++ ending

end TagTable

abbrev NamedEvent := Event (List Char)

/-- Events read so far, in reverse, and the tokens after them. -/
abbrev Reading := List NamedEvent × List Token

def absent (properties : Properties) : NamedEvent :=
  .scalar properties [] true

/-- Read an anchor and a tag, in any order. -/
def properties? (table : TagTable) : List Token → Option (Properties × List Token)
  | .anchor name :: .tag handle ending :: rest => do
    some (⟨some name, some (← table.resolve? handle ending)⟩, rest)
  | .tag handle ending :: .anchor name :: rest => do
    some (⟨some name, some (← table.resolve? handle ending)⟩, rest)
  | .anchor name :: rest => some (⟨some name, none⟩, rest)
  | .tag handle ending :: rest => do
    some (⟨none, some (← table.resolve? handle ending)⟩, rest)
  | rest => some ({}, rest)

/-- The event of a scalar. The tag that is only an exclamation mark says nothing. -/
def scalarEvent (properties : Properties) (text : List Char) (plain : Bool) : NamedEvent :=
  if properties.tag == some ['!'] then .scalar { properties with tag := none } text plain
  else .scalar properties text plain

/-- Whether the next token is one of those given or the tokens are at their end. -/
def stopsAt (marks : List Token) : List Token → Bool
  | [] => true
  | token :: _ => marks.contains token

mutual

/-- Read a node. Block collections are allowed only outside flow collections, and a sequence can
stand without indentation only inside a block mapping. -/
def node? (table : TagTable) (block unindented : Bool) : Nat → Reading → Option Reading
  | 0, _ => none
  | _ + 1, (events, .alias name :: rest) => some (.alias name :: events, rest)
  | fuel + 1, (events, tokens) => do
    let (properties, tokens) ← properties? table tokens
    match tokens with
    | .blockEntry :: _ =>
      if unindented then unindented? table fuel (.sequenceStart properties :: events, tokens)
      else omitted? properties (events, tokens)
    | .scalar text plain :: rest => some (scalarEvent properties text plain :: events, rest)
    | .flowSequenceStart :: rest =>
      flowSequence? table true fuel (.sequenceStart properties :: events, rest)
    | .flowMappingStart :: rest =>
      flowMapping? table true fuel (.mappingStart properties :: events, rest)
    | .blockSequenceStart :: rest =>
      if block then blockSequence? table fuel (.sequenceStart properties :: events, rest)
      else omitted? properties (events, tokens)
    | .blockMappingStart :: rest =>
      if block then blockMapping? table fuel (.mappingStart properties :: events, rest)
      else omitted? properties (events, tokens)
    | _ => omitted? properties (events, tokens)

/-- A node of which only the properties are written. -/
def omitted? (properties : Properties) (reading : Reading) : Option Reading :=
  if properties == {} then none else some (absent properties :: reading.1, reading.2)

/-- Read a node, or nothing where one of the given tokens comes next. -/
def nodeUnless? (table : TagTable) (marks : List Token) (block unindented : Bool) :
    Nat → Reading → Option Reading
  | 0, _ => none
  | fuel + 1, (events, tokens) =>
    if stopsAt marks tokens then some (absent {} :: events, tokens)
    else node? table block unindented fuel (events, tokens)

def blockSequence? (table : TagTable) : Nat → Reading → Option Reading
  | 0, _ => none
  | fuel + 1, (events, .blockEntry :: rest) => do
    blockSequence? table fuel
      (← nodeUnless? table [.blockEntry, .blockEnd] true false fuel (events, rest))
  | _ + 1, (events, .blockEnd :: rest) => some (.sequenceEnd :: events, rest)
  | _ + 1, _ => none

/-- Read the items of a block sequence that stands at the column of its key. -/
def unindented? (table : TagTable) : Nat → Reading → Option Reading
  | 0, _ => none
  | fuel + 1, (events, .blockEntry :: rest) => do
    unindented? table fuel
      (← nodeUnless? table [.blockEntry, .key, .value, .blockEnd] true false fuel (events, rest))
  | _ + 1, (events, tokens) => some (.sequenceEnd :: events, tokens)

def blockMapping? (table : TagTable) : Nat → Reading → Option Reading
  | 0, _ => none
  | fuel + 1, (events, .key :: rest) => do
    let reading ← nodeUnless? table [.key, .value, .blockEnd] true true fuel (events, rest)
    blockValue? table fuel reading
  | _ + 1, (events, .blockEnd :: rest) => some (.mappingEnd :: events, rest)
  | _ + 1, _ => none

/-- Read the value of an entry of a block mapping and the entries after it. -/
def blockValue? (table : TagTable) : Nat → Reading → Option Reading
  | 0, _ => none
  | fuel + 1, (events, .value :: rest) => do
    blockMapping? table fuel
      (← nodeUnless? table [.key, .value, .blockEnd] true true fuel (events, rest))
  | fuel + 1, (events, tokens) => blockMapping? table fuel (absent {} :: events, tokens)

/-- Read the items of a flow sequence up to its end. An entry of a mapping can stand for the mapping
that holds it alone. -/
def flowSequence? (table : TagTable) (first : Bool) : Nat → Reading → Option Reading
  | 0, _ => none
  | _ + 1, (events, .flowSequenceEnd :: rest) => some (.sequenceEnd :: events, rest)
  | fuel + 1, (events, tokens) => do
    let tokens ← match first, tokens with
      | true, tokens => some tokens
      | false, .flowEntry :: rest => some rest
      | false, _ => none
    match tokens with
    | .flowSequenceEnd :: rest => some (.sequenceEnd :: events, rest)
    | .key :: rest =>
      flowSequence? table false fuel
        (← soleEntry? table fuel (.mappingStart {} :: events, rest))
    | tokens => flowSequence? table false fuel (← node? table false false fuel (events, tokens))

/-- Read the only entry of a mapping inside a flow sequence. A token in place of the key is
skipped. -/
def soleEntry? (table : TagTable) : Nat → Reading → Option Reading
  | 0, _ => none
  | fuel + 1, (events, tokens) => do
    let (events, tokens) ←
      if stopsAt [.value, .flowEntry, .flowSequenceEnd] tokens then
        some (absent {} :: events, tokens.tail)
      else node? table false false fuel (events, tokens)
    let (events, tokens) ← flowValue? table .flowSequenceEnd fuel (events, tokens)
    some (.mappingEnd :: events, tokens)

/-- Read the value of an entry inside a flow collection, if it has one. -/
def flowValue? (table : TagTable) (closing : Token) : Nat → Reading → Option Reading
  | 0, _ => none
  | fuel + 1, (events, .value :: rest) =>
    nodeUnless? table [.flowEntry, closing] false false fuel (events, rest)
  | _ + 1, (events, tokens) => some (absent {} :: events, tokens)

def flowMapping? (table : TagTable) (first : Bool) : Nat → Reading → Option Reading
  | 0, _ => none
  | _ + 1, (events, .flowMappingEnd :: rest) => some (.mappingEnd :: events, rest)
  | fuel + 1, (events, tokens) => do
    let tokens ← match first, tokens with
      | true, tokens => some tokens
      | false, .flowEntry :: rest => some rest
      | false, _ => none
    match tokens with
    | .flowMappingEnd :: rest => some (.mappingEnd :: events, rest)
    | .key :: rest =>
      let reading ←
        nodeUnless? table [.value, .flowEntry, .flowMappingEnd] false false fuel (events, rest)
      flowMapping? table false fuel (← flowValue? table .flowMappingEnd fuel reading)
    | tokens =>
      let (events, tokens) ← node? table false false fuel (events, tokens)
      flowMapping? table false fuel (absent {} :: events, tokens)

end

structure Directives where
  versioned : Bool := false
  tags : TagTable := []

/-- Read directives. A version is given at most once and a handle defined at most once. -/
def directives? : Directives → List Token → Option (Directives × List Token)
  | directives, .versionDirective major minor :: rest =>
    if directives.versioned || major != 1 || (minor != 1 && minor != 2) then none
    else directives? { directives with versioned := true } rest
  | directives, .tagDirective handle tagStart :: rest =>
    if directives.tags.any (fun entry => entry.1 == handle) then none
    else directives? { directives with tags := directives.tags ++ [(handle, tagStart)] } rest
  | directives, rest => some (directives, rest)

def startsExplicitly : List Token → Bool
  | .versionDirective _ _ :: _ => true
  | .tagDirective _ _ :: _ => true
  | .documentStart :: _ => true
  | _ => false

def lacksContent : List Token → Bool
  | .documentEnd :: _ => true
  | .streamEnd :: _ => true
  | [] => true
  | tokens => startsExplicitly tokens

/-- Read the documents of a text. Only the first one can lack the mark of its start. -/
def documents? (fuel : Nat) (bare : Bool) : Nat → List Token → Option (List (List NamedEvent))
  | 0, _ => none
  | steps + 1, tokens => do
    let tokens := if bare then tokens else tokens.dropWhile (· == .documentEnd)
    match tokens with
    | [] => some []
    | .streamEnd :: _ => some []
    | _ =>
      let (events, tokens) ←
        if bare && !startsExplicitly tokens then
          node? TagTable.standard true false fuel ([], tokens)
        else
          let (directives, tokens) ← directives? {} tokens
          let table := directives.tags ++ TagTable.standard
          match tokens with
          | .documentStart :: rest =>
            if lacksContent rest then some ([absent {}], rest)
            else node? table true false fuel ([], rest)
          | _ => none
      let tokens := match tokens with
        | .documentEnd :: rest => rest
        | tokens => tokens
      let others ← documents? fuel false steps tokens
      some (events.reverse :: others)

def documentsOf? (tokens : List Token) : Option (List (List NamedEvent)) :=
  documents? (4 * tokens.length + 4) true (tokens.length + 1) tokens

end Tabular.Yaml
