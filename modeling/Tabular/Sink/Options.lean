import Tabular.Error
import Tabular.Text.Ascii

/-!
# Output formats and options
-/

set_option autoImplicit false

namespace Tabular

inductive OutputFormat where
  | csv
  | ltsv
  | json
  | jsonl
  | yaml
  | tbln
  | raw
  | table
  | markdown
  | vertical
deriving DecidableEq, Repr, Inhabited

namespace OutputFormat

def name : OutputFormat → String
  | csv => "CSV"
  | ltsv => "LTSV"
  | json => "JSON"
  | jsonl => "JSONL"
  | yaml => "YAML"
  | tbln => "TBLN"
  | raw => "RAW"
  | table => "AT"
  | markdown => "MD"
  | vertical => "VF"

/-- The format with a name in lower-case letters. -/
def named? : String → Option OutputFormat
  | "csv" => some csv
  | "ltsv" => some ltsv
  | "json" => some json
  | "jsonl" => some jsonl
  | "yaml" | "yml" => some yaml
  | "tbln" => some tbln
  | "raw" => some raw
  | "at" => some table
  | "md" => some markdown
  | "vf" => some vertical
  | _ => none

/-- The format with a name, in any case of letters. -/
def parse (name : String) : Result OutputFormat :=
  match named? (Ascii.lower name) with
  | some format => .ok format
  | none => .error (.unknownFormat name)

end OutputFormat

/-- How a result is to be written. Compression is the business of where it goes. -/
structure WriteOptions where
  format : OutputFormat := .csv
  delimiter : String := ","
  header : Bool := false
  null : Option String := none
  /-- The character around quoted fields; empty for none. -/
  quote : String := "\""
  /-- Whether to quote all fields. -/
  allQuotes : Bool := false
  crlf : Bool := false
deriving DecidableEq, Repr, Inhabited

end Tabular
