import Tabular.Sink.Writer
import Tabular.Text.Blank

/-!
# Answering a statement

A statement is run and its result handed to a writer row by row. A statement without result columns
is run and the writer not used.
-/

set_option autoImplicit false

namespace Tabular.Run

section

variable {engineState writerState : Type}
  (engine : Engine engineState) (writer : Writer writerState)

/-- Give rows to a writer up to the end of the result or the first failure. -/
def writeRows (columns : List String) : Feed Row → Call writerState Unit
  | [], output => (.ok (), output)
  | .error error :: _, output => (.error error, output)
  | .ok row :: rest, output =>
    match writer.row row columns output with
    | (.error error, output) => (.error error, output)
    | (.ok (), output) => writeRows columns rest output

/-- Give a whole result to a writer. -/
def writeResult (result : ResultSet) : Call writerState Unit := fun output =>
  match writer.start result.columns result.types output with
  | (.error error, output) => (.error error, output)
  | (.ok (), output) =>
    match writeRows writer result.columns result.rows output with
    | (.error error, output) => (.error error, output)
    | (.ok (), output) => writer.finish output

def answer (sql : String) (now : engineState) (output : writerState) :
    Result Unit × engineState × writerState :=
  let sql := String.ofList (Text.trim sql.toList)
  if sql.isEmpty then (.error .noStatement, now, output)
  else
    match engine.describe sql now with
    | (.error error, now) => (.error error, now, output)
    | (.ok [], now) =>
      let (outcome, now) := engine.execute sql now
      (outcome.map fun _ => (), now, output)
    | (.ok (_ :: _), now) =>
      match engine.query sql now with
      | (.error error, now) => (.error error, now, output)
      | (.ok result, now) =>
        let (outcome, output) := writeResult writer result output
        (outcome, now, output)

end

end Tabular.Run
