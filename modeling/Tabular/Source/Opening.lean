import Tabular.Source.Aligned
import Tabular.Source.Delimited
import Tabular.Source.Documents
import Tabular.Source.Framed
import Tabular.Source.InMemory
import Tabular.Source.PlainText

/-!
# Opening a source

The source of an input in the format the options name.
-/

set_option autoImplicit false

namespace Tabular.Source

/-- A source with numbered rows, if wanted. -/
def numberedIf (wanted : Bool) (source : Source) : Source :=
  if wanted then .numbered source 0 else source

/-- The rows of an input, without numbers. -/
def readPlain (options : ReadOptions) (input : Input) : Result Source :=
  match options.format with
  | .guess | .csv => do Delimited.source options (← Delimiter.parse options.delimiter) input
  | .tsv => Delimited.source options '\t' input
  | .psv => Delimited.source options '|' input
  | .ltsv => Labelled.source options input
  | .json => Documents.sourceOf options (Documents.jsonFeed input)
  | .yaml => do Documents.sourceOf options (← Documents.yamlFeed input)
  | .tbln => Framed.source options input
  | .width => Aligned.source options input
  | .text => PlainText.source options input

def read (options : ReadOptions) (input : Input) : Result Source :=
  (readPlain options input).map (numberedIf options.rowNumber)

end Tabular.Source
