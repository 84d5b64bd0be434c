import Tabular.Source.Input
import Tabular.Source.Options

/-!
# Delimited records

Records of fields with a delimiter between fields and a line end after a record. A field that starts
with a double quote runs to the next double quote that is not doubled; what follows that quote is
taken as it stands. Line ends before a record are skipped, so there are no empty records.
-/

set_option autoImplicit false

namespace Tabular.Delimited

abbrev Fields := List (List UInt8)

inductive Place where
  | recordStart
  | fieldStart
  | plain
  | quoted
  /-- After a quote inside a quoted field, which may be its end or the first of a pair. -/
  | afterQuote
deriving DecidableEq, Repr, Inhabited

/-- The records read so far. Everything is kept in reverse. -/
structure Scan where
  place : Place := .recordStart
  field : List UInt8 := []
  fields : Fields := []
  records : List Fields := []
deriving DecidableEq, Repr, Inhabited

def quote : UInt8 := 0x22

def isLineEnd (b : UInt8) : Bool :=
  b == 0x0D || b == 0x0A

namespace Scan

def keep (scan : Scan) (place : Place) (b : UInt8) : Scan :=
  { scan with place := place, field := b :: scan.field }

def goto (scan : Scan) (place : Place) : Scan :=
  { scan with place := place }

def endField (scan : Scan) : Scan :=
  { scan with place := .fieldStart, field := [], fields := scan.field.reverse :: scan.fields }

def endRecord (scan : Scan) : Scan :=
  { place := .recordStart
    field := []
    fields := []
    records := (scan.field.reverse :: scan.fields).reverse :: scan.records }

def stepPlain (delimiter : UInt8) (scan : Scan) (b : UInt8) : Scan :=
  if b == delimiter then scan.endField
  else if isLineEnd b then scan.endRecord
  else scan.keep .plain b

def stepFieldStart (delimiter : UInt8) (scan : Scan) (b : UInt8) : Scan :=
  if b == quote then scan.goto .quoted else stepPlain delimiter scan b

def step (delimiter : UInt8) (scan : Scan) (b : UInt8) : Scan :=
  match scan.place with
  | .recordStart => if isLineEnd b then scan else stepFieldStart delimiter scan b
  | .fieldStart => stepFieldStart delimiter scan b
  | .plain => stepPlain delimiter scan b
  | .quoted => if b == quote then scan.goto .afterQuote else scan.keep .quoted b
  | .afterQuote => if b == quote then scan.keep .quoted b else stepPlain delimiter scan b

def finish (scan : Scan) : Scan :=
  if scan.place == .recordStart then scan else scan.endRecord

end Scan

/-- The bytes after a byte order mark. -/
def withoutMark : List UInt8 → List UInt8
  | 0xEF :: 0xBB :: 0xBF :: rest => rest
  | input => input

/-- Read all bytes. -/
def scan (delimiter : UInt8) (input : List UInt8) : Scan :=
  (withoutMark input).foldl (Scan.step delimiter) {}

/-- The records of an input. A record that is interrupted where reading fails is lost. -/
def recordFeed (delimiter : UInt8) (input : Input) : Feed Fields :=
  let found := scan delimiter input.bytes
  input.feed (if input.intact then found.finish else found).records.reverse .invalidCsv

/-- A field without the blanks around it. -/
def trimField (field : List UInt8) : List UInt8 :=
  ((field.dropWhile Ascii.isBlankByte).reverse.dropWhile Ascii.isBlankByte).reverse

def cells (null : Option String) (fields : Fields) : Row :=
  fields.map fun field => (Cell.ofBytes field).nullIf null

def headerOf (fields : Fields) : List String :=
  headerNames [] (fields.map Utf8.stringLossy)

/-- The header, if there is one, and the records after it. -/
def takeHeader (header : Bool) (feed : Feed Fields) : Result (List String × Feed Fields) := do
  let (first, feed) ← Feed.take (if header then 1 else 0) feed
  .ok ((first.map headerOf).flatten, feed)

/-- A source of the given records. The columns are those of the header and of the longest record
read ahead; the header counts as read ahead. -/
def sourceOf (options : ReadOptions) (feed : Feed Fields) : Result Source := do
  let feed ← Feed.discard options.skip feed
  let (header, feed) ← takeHeader options.header feed
  let (ahead, feed) ← Feed.take (options.ahead - if options.header then 1 else 0) feed
  let names := ahead.foldl (fun names fields => growNames names fields.length) header
  let row := fun fields => Row.fit names.length (cells options.null fields)
  let schema := if names.isEmpty then none else some ⟨names, defaultTypes names.length⟩
  .ok (.table schema (ahead.map row) (options.liveRows (Feed.map row feed)))

/-- A source of the records of an input, with the given delimiter. Where a space delimits, fields are
trimmed. -/
def source (options : ReadOptions) (delimiter : Char) (input : Input) : Result Source :=
  if 0x80 ≤ delimiter.toNat then
    .error (.invalidDelimiter options.delimiter "must be a single-byte character")
  else
    let feed := recordFeed (UInt8.ofNat delimiter.toNat) input
    sourceOf options (if delimiter == ' ' then Feed.map (List.map trimField) feed else feed)

end Tabular.Delimited
