import Tabular.Error
import Tabular.Text.Ascii
import Tabular.Text.Blank

/-!
# Input formats

The names of the formats and how a file name tells its format.
-/

set_option autoImplicit false

namespace Tabular

inductive Format where
  /-- Not chosen: the extension of the file decides. -/
  | guess
  | csv
  | ltsv
  | json
  | yaml
  /-- Rows framed by bars, with their own definition. -/
  | tbln
  | width
  /-- One column, one row for each line. -/
  | text
  | tsv
  | psv
deriving DecidableEq, Repr, Inhabited

namespace Format

def name : Format → String
  | guess => "GUESS"
  | csv => "CSV"
  | ltsv => "LTSV"
  | json => "JSON"
  | yaml => "YAML"
  | tbln => "TBLN"
  | width => "WIDTH"
  | text => "TEXT"
  | tsv => "TSV"
  | psv => "PSV"

/-- The format with a name in lower-case letters. -/
def named? : String → Option Format
  | "guess" => some guess
  | "csv" => some csv
  | "ltsv" => some ltsv
  | "json" | "jsonl" => some json
  | "yaml" | "yml" => some yaml
  | "tbln" => some tbln
  | "width" => some width
  | "text" => some text
  | "tsv" => some tsv
  | "psv" => some psv
  | _ => none

/-- The format with a name, in any case of letters. The error shows the name in lower case. -/
def parse (name : String) : Result Format :=
  match named? (Ascii.lower name) with
  | some format => .ok format
  | none => .error (.unknownFormat (Ascii.lower name))

/-- The format that an extension in lower-case letters stands for; it is CSV unless it is known. -/
def ofExtension : String → Format
  | "ltsv" => ltsv
  | "json" | "jsonl" => json
  | "tbln" => tbln
  | "yaml" | "yml" => yaml
  | _ => csv

def isQuote (c : Char) : Bool :=
  c == '"' || c == '\'' || c == '\x60'

/-- A name without the given ending, which is in lower case, in whatever case the name has it. -/
def withoutEnding (ending name : List Char) : List Char :=
  let stem := name.take (name.length - ending.length)
  if (name.drop (name.length - ending.length)).map Char.toLower == ending then stem else name

def splitLast? (separator : Char) (text : List Char) : Option (List Char × List Char) :=
  (Text.splitOnce? separator text.reverse).map fun (after, before) =>
    (before.reverse, after.reverse)

/-- The format of a file by its name. Quotes around the name and the ending of a compressed file
are ignored, and a name that only starts with a dot has no extension. -/
def ofFileName (name : String) : Format :=
  let bare := withoutEnding ['.', 'g', 'z'] (Text.trimBy isQuote name.toList)
  match splitLast? '.' bare with
  | some (_ :: _, extension) => ofExtension (Ascii.lower (String.ofList extension))
  | _ => csv

end Format

end Tabular
