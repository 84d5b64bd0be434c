import Tabular.Engine.Dialect
import Tabular.Engine.Storage
import Tabular.Files
import Tabular.Sql.Database

/-!
# Locations of databases

A URL tells where a database is: in memory, or in a file, which is made if the URL says so. A
database in memory is a new one for every connection.
-/

set_option autoImplicit false

namespace Tabular.Sql

inductive Location where
  | memory
  /-- In a file, which may be made if there is none. -/
  | file (path : String) (create : Bool)
deriving DecidableEq, Repr, Inhabited

namespace Location

/-- A text without another one at its start. -/
def without (start text : List Char) : List Char :=
  if start.isPrefixOf text then text.drop start.length else text

/-- The bytes of a text in which a percent sign and two hexadecimal digits stand for a byte. -/
def percentBytes : List Char → List UInt8
  | '%' :: a :: b :: rest =>
    match Ascii.hexDigit? a, Ascii.hexDigit? b with
    | some high, some low => UInt8.ofNat (high * 16 + low) :: percentBytes rest
    | _, _ => 0x25 :: percentBytes (a :: b :: rest)
  | c :: rest => Utf8.encodeChar c ++ percentBytes rest
  | [] => []

/-- Whether the part of a URL between two slashes and the path can name a host, and maybe a port. -/
def isHost (host : List Char) : Bool :=
  let name := host.takeWhile (· != ':')
  let port := (host.dropWhile (· != ':')).drop 1
  let forbidden := " #<>@[\\]^|\t\n\r\x00".toList
  !name.any forbidden.contains && port.all Char.isDigit && !(name.isEmpty && host.head? == some ':')

def withParams? (location : Location) : List (List Char) → Option Location
  | [] => some location
  | param :: rest =>
    let key := String.ofList (param.takeWhile (· != '='))
    let value := String.ofList ((param.dropWhile (· != '=')).drop 1)
    match location, key with
    | _, "" => withParams? location rest
    | .file path _, "mode" =>
      if value == "ro" || value == "rw" then withParams? (.file path false) rest
      else if value == "rwc" then withParams? (.file path true) rest
      else if value == "memory" then withParams? .memory rest
      else none
    | .memory, "mode" =>
      if ["ro", "rw", "rwc", "memory"].contains value then withParams? .memory rest else none
    | _, "cache" =>
      if ["private", "shared"].contains value then withParams? location rest else none
    | _, "immutable" =>
      if ["true", "1", "false", "0"].contains value then withParams? location rest else none
    | _, _ => none

def ofUrl? (url : String) : Option Location := do
  let text := without "sqlite:".toList url.toList
  let authority := without ['/', '/'] text
  if authority != text && !isHost (authority.takeWhile fun c => c != '/' && c != '?') then none
  else
    let path := authority.takeWhile (· != '?')
    let params := (authority.dropWhile (· != '?')).drop 1
    let plain : Location ←
      if path == ":memory:".toList then some .memory
      else do
        let path ← Utf8.string? (percentBytes path)
        some (if path.isEmpty then .memory else .file path false)
    withParams? plain (Text.splitAt '&' params)

/-- The tree of files with the file of a database in it; none when there cannot be one. -/
def reach? (location : Location) (tree : Node) : Option Node :=
  match location with
  | .memory => some tree
  | .file path create =>
    match tree.at? path with
    | some (.file _) => some tree
    | some (.folder _) => none
    | none => if create then (tree.write path []).toOption else none

def content (location : Location) (tree : Node) : Content :=
  match location with
  | .memory => .tables []
  | .file path _ =>
    match tree.content? path with
    | some (_ :: _) => .foreign
    | _ => .tables []

end Location

def Session.connect (location : Location) (content : Content) : Session :=
  match location, content with
  | .memory, content => { stored := content }
  | .file _ _, .tables tables => { stored := .tables tables, lasting := true, main := some tables }
  | .file _ _, .foreign => { stored := .foreign, lasting := true, main := none }

structure Reached where
  /-- Where the database is; none if it cannot be reached. -/
  location : Option Location
  tree : Node
  content : Content := .tables []
deriving Inhabited

/-- Look for the database of a driver. Only one driver has databases that can be reached. -/
def reach (driver : Driver) (dsn : String) (tree : Node) : Reached :=
  match if driver = Driver.sqlite then Location.ofUrl? (driver.url dsn) else none with
  | none => { location := none, tree := tree }
  | some location =>
    match location.reach? tree with
    | none => { location := none, tree := tree }
    | some tree => { location := some location, tree := tree, content := location.content tree }

def Reached.storage (reached : Reached) (dialect : Dialect) : Storage Content Session where
  engine := Session.engine dialect
  connect := fun content =>
    match reached.location with
    | some location => .ok (Session.connect location content)
    | none => .error .connection
  left := Session.stored

end Tabular.Sql
