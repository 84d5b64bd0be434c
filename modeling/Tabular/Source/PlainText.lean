import Tabular.Source.Input
import Tabular.Source.Options

/-!
# Plain text

Every line is a row with one column. The schema is fixed, so no row is read ahead.
-/

set_option autoImplicit false

namespace Tabular.PlainText

def column : String := "text"

/-- A line whose line feed is gone, without the carriage return before it. -/
def withoutReturn (line : List UInt8) : List UInt8 :=
  match line.reverse with
  | 0x0D :: rest => rest.reverse
  | _ => line

/-- The row in a line. A carriage return is part of the line end only before a line feed. -/
def row (line : Line) : Row :=
  [Cell.ofBytes (if line.ended then withoutReturn line.body else line.body)]

def rows (input : Input) : Feed Row :=
  let all := Line.split input.bytes
  input.feed ((if input.intact then all else all.filter Line.ended).map row) .io

def source (options : ReadOptions) (input : Input) : Result Source := do
  let feed ← Feed.discard options.skip (rows input)
  let live := if options.onlyAhead then List.take options.ahead feed else feed
  .ok (.table (some ⟨[column], [defaultType]⟩) [] live)

end Tabular.PlainText
