import Tabular.Delimiter
import Tabular.Sink.Options

/-!
# Writing delimited records

A field is quoted if it would be read differently otherwise, if all fields are to be, or never. A
quote inside quotes is written twice. A record that would be an empty line is written as two quotes.
-/

set_option autoImplicit false

namespace Tabular.Delimited

inductive Quoting where
  | necessary
  | always
  | never
deriving DecidableEq, Repr, Inhabited

structure Dialect where
  delimiter : Char
  quote : Char := '"'
  quoting : Quoting := .necessary
  lineEnd : List Char := ['\n']
deriving DecidableEq, Repr, Inhabited

namespace Dialect

/-- Whether a character cannot stand in a field without quotes. -/
def isSpecial (dialect : Dialect) (c : Char) : Bool :=
  c == dialect.delimiter || c == dialect.quote || c == '\n' || c == '\r'

def quotes (dialect : Dialect) (field : List Char) : Bool :=
  match dialect.quoting with
  | .always => true
  | .never => false
  | .necessary => field.any dialect.isSpecial

def quoted (dialect : Dialect) (field : List Char) : List Char :=
  dialect.quote ::
    field.flatMap (fun c => if c == dialect.quote then [c, c] else [c]) ++ [dialect.quote]

def field (dialect : Dialect) (field : List Char) : List Char :=
  if dialect.quotes field then dialect.quoted field else field

def fields (dialect : Dialect) (record : List (List Char)) : List Char :=
  [dialect.delimiter].intercalate (record.map dialect.field)

def record (dialect : Dialect) (record : List (List Char)) : List Char :=
  let text := dialect.fields record
  (if text.isEmpty then [dialect.quote, dialect.quote] else text) ++ dialect.lineEnd

/-- The dialect that options ask for. Delimiter and quote have to be ASCII characters. -/
def ofOptions (options : WriteOptions) : Result Dialect := do
  let delimiter ← Delimiter.parse options.delimiter
  if 0x80 ≤ delimiter.toNat then
    .error (.invalidDelimiter options.delimiter "must be a single-byte character")
  else
    let lineEnd := if options.crlf then ['\r', '\n'] else ['\n']
    match options.quote.toList with
    | [] => .ok { delimiter := delimiter, quoting := .never, lineEnd := lineEnd }
    | quote :: _ =>
      if 0x80 ≤ quote.toNat then
        .error (.config ("quote \"" ++ options.quote ++ "\" must be a single-byte character"))
      else
        .ok
          { delimiter := delimiter
            quote := quote
            quoting := if options.allQuotes then .always else .necessary
            lineEnd := lineEnd }

end Dialect

end Tabular.Delimited
