import Tabular.Engine.Dialect
import Tabular.Files
import Tabular.Json.Reader

/-!
# Configuration

A configuration names databases and may name the one to use when none is asked for. It is written as
a JSON record, or as the list of the values of that record. Members that mean nothing are ignored.
-/

set_option autoImplicit false

namespace Tabular

structure Profile where
  driver : String
  dsn : String
deriving DecidableEq, Repr, Inhabited

structure Configuration where
  /-- The name of the database to use when none is asked for. -/
  usual : Option String := none
  /-- The profiles in the order of their names, which differ. -/
  profiles : List (String × Profile) := []
deriving DecidableEq, Repr, Inhabited

namespace Profile

structure Members where
  driver : Option String := none
  dsn : Option String := none
deriving Inhabited

open Json (Reader)

def missing (name : String) : String := "missing field `" ++ name ++ "`"

def repeated (name : String) : String := "duplicate field `" ++ name ++ "`"

def member (known : Members) (name : String) : Except String (Reader Members) :=
  if name == "driver" || name == "dbdriver" then
    if known.driver.isSome then .error (repeated "driver")
    else .ok fun input => do
      let (driver, rest) ← Reader.text input
      .ok ({ known with driver := some driver }, rest)
  else if name == "dsn" then
    if known.dsn.isSome then .error (repeated "dsn")
    else .ok fun input => do
      let (dsn, rest) ← Reader.text input
      .ok ({ known with dsn := some dsn }, rest)
  else .ok fun input => do
    let (_, rest) ← Reader.ignored input
    .ok (known, rest)

def reader : Reader Profile := fun input => do
  match Json.skipBlank input with
  | 0x7B :: start =>
    let (known, rest) ← Reader.membersOf {} member start
    match known.driver with
    | none => Json.failAt (.unsuitable (missing "driver")) rest
    | some driver => .ok (⟨driver, known.dsn.getD ""⟩, rest)
  | 0x5B :: start =>
    match ← Reader.item true Reader.text start with
    | (none, rest) =>
      Reader.refuse "invalid length 0, expected struct Database with 2 elements" 0x5D rest
    | (some driver, rest) =>
      let (dsn, rest) ← Reader.item false Reader.text rest
      Reader.listEnd ⟨driver, dsn.getD ""⟩ rest
  | rest => Reader.mismatch "struct Database" rest

end Profile

namespace Configuration

open Json (Reader)

/-- The profiles with one added in the order of names. A profile with the same name gives way. -/
def insert (name : String) (profile : Profile) :
    List (String × Profile) → List (String × Profile)
  | [] => [(name, profile)]
  | (other, old) :: rest =>
    if other == name then (name, profile) :: rest
    else if name < other then (name, profile) :: (other, old) :: rest
    else (other, old) :: insert name profile rest

def profilesReader : Reader (List (String × Profile)) := fun input =>
  match Json.skipBlank input with
  | 0x7B :: start =>
    Reader.membersOf [] (fun known name => .ok fun input => do
      let (profile, rest) ← Profile.reader input
      .ok (insert name profile known, rest)) start
  | rest => Reader.mismatch "a map" rest

structure Members where
  usual : Option (Option String) := none
  profiles : Option (List (String × Profile)) := none
deriving Inhabited

def member (known : Members) (name : String) : Except String (Reader Members) :=
  if name == "db" then
    if known.usual.isSome then .error (Profile.repeated "db")
    else .ok fun input => do
      let (usual, rest) ← Reader.nullable Reader.text input
      .ok ({ known with usual := some usual }, rest)
  else if name == "database" then
    if known.profiles.isSome then .error (Profile.repeated "database")
    else .ok fun input => do
      let (profiles, rest) ← profilesReader input
      .ok ({ known with profiles := some profiles }, rest)
  else .ok fun input => do
    let (_, rest) ← Reader.ignored input
    .ok (known, rest)

def reader : Reader Configuration := fun input => do
  match Json.skipBlank input with
  | 0x7B :: start =>
    let (known, rest) ← Reader.membersOf {} member start
    .ok ({ usual := known.usual.getD none, profiles := known.profiles.getD [] }, rest)
  | 0x5B :: start =>
    let (usual, rest) ← Reader.item true (Reader.nullable Reader.text) start
    let (profiles, rest) ← Reader.item usual.isNone profilesReader rest
    Reader.listEnd { usual := usual.getD none, profiles := profiles.getD [] } rest
  | rest => Reader.mismatch "struct Config" rest

def parse (content : String) : Result Configuration :=
  let input := Utf8.bytes content
  match reader input >>= Json.atEnd with
  | .ok configuration => .ok configuration
  | .error fault => .error (.config (fault.text input))

def find? (configuration : Configuration) (name : String) : Option Profile :=
  (configuration.profiles.find? fun entry => entry.1 == name).map (·.2)

/-- The profile that is asked for, or the usual one if none is. A name that is asked for has to be
configured; a usual one need not be. -/
def profile (configuration : Configuration) : Option String → Result (Option Profile)
  | some name =>
    match configuration.find? name with
    | some profile => .ok (some profile)
    | none => .error (.config ("database '" ++ name ++ "' is not configured"))
  | none => .ok (configuration.usual.bind configuration.find?)

def document (configuration : Configuration) : Document :=
  .record [
    ("db", (configuration.usual.map Document.text).getD .null),
    ("database", .record (configuration.profiles.map fun (name, profile) =>
      (name, .record [("driver", .text profile.driver), ("dsn", .text profile.dsn)])))]

/-- Where a configuration is looked for when no file is named. -/
def usualPath (home : Option String) : Option String :=
  home.map fun home => home ++ "/.config/flatsql/config.json"

/-- The configuration in a file that is named or in the usual one. Only a named file has to exist. -/
def load (tree : Node) (home : Option String) (named : Option String) : Result Configuration :=
  let path? := match named with
    | some path => some path
    | none => (usualPath home).filter fun path => (tree.content? path).isSome
  match path? with
  | none => .ok {}
  | some path =>
    match tree.read path with
    | .error fault => .error (.config (path ++ ": " ++ fault.message))
    | .ok content => parse content

end Configuration

end Tabular
