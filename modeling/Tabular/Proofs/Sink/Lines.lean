import Tabular.Proofs.Sink.Results
import Tabular.Proofs.Text.Lines

/-!
# Results written line by line

A sink that remembers nothing writes the lines of the header and then a line for every row. What it
writes is read as these lines.
-/

set_option autoImplicit false

namespace Tabular

open TextOutput

/-- A sink that writes the given lines for a header, and one line for every row of the table. -/
structure Sink.Linewise (sink : Sink) (columns types : List String) (header : List (List Char))
    (line : Row → List Char) : Prop where
  start : sink.start columns types = (String.ofList (terminated header), sink)
  row : ∀ row, sink.row row columns = (String.ofList (line row ++ ['\n']), sink)
  finish : sink.finish = ("", sink)

variable {sink : Sink} {columns types : List String} {header : List (List Char)}
  {line : Row → List Char}

private theorem Sink.Linewise.writeRows (linewise : sink.Linewise columns types header line)
    (rows : List Row) {output : TextOutput} (same : output.sink = sink) :
    ∃ later, Run.writeRows writer columns (Feed.ofList rows) output = (.ok (), later) ∧
      later.sink = sink ∧ later.text.toList = output.text.toList ++ terminated (rows.map line) := by
  induction rows generalizing output with
  | nil => exact ⟨output, rfl, same, (List.append_nil _).symm⟩
  | cons row rows ih =>
      have step : (writer.row row columns output).2.sink = sink := by
        simp only [writer, add, same, linewise.row]
      have text : (writer.row row columns output).2.text.toList =
          output.text.toList ++ (line row ++ ['\n']) := by
        simp only [writer, text_add, same, linewise.row, String.toList_append, String.toList_ofList]
      obtain ⟨later, written, kept, whole⟩ := ih step
      refine ⟨later, written, kept, ?_⟩
      rw [whole, text, List.append_assoc]
      rfl

theorem Sink.Linewise.writeResult (linewise : sink.Linewise columns types header line) (rows : List Row) :
    ∃ output, Run.writeResult writer ⟨columns, types, Feed.ofList rows⟩ { sink } =
        (.ok (), output) ∧
      output.text.toList = terminated (header ++ rows.map line) := by
  have announced : (writer.start columns types { sink }).2.sink = sink := by
    simp only [writer, add, linewise.start]
  have first : (writer.start columns types { sink }).2.text.toList = terminated header := by
    simp only [writer, text_add, linewise.start, String.toList_append, String.toList_ofList]
    rfl
  obtain ⟨later, written, kept, text⟩ := linewise.writeRows rows announced
  obtain ⟨last, done, -, whole⟩ := Run.writeResult_of_written written
  refine ⟨last, done, ?_⟩
  rw [whole, kept, linewise.finish, String.append_empty, text, first, terminated_append]

/-- The text of a result is read as the lines that were written. -/
theorem Sink.Linewise.lines (linewise : sink.Linewise columns types header line) (rows : List Row)
    (whole : ∀ body ∈ header ++ rows.map line, '\n' ∉ body) :
    ∃ output, Run.writeResult writer ⟨columns, types, Feed.ofList rows⟩ { sink } =
        (.ok (), output) ∧
      Input.lines ⟨Utf8.bytes output.text, true⟩ =
        Feed.ofList ((header ++ rows.map line).map Utf8.encode) := by
  obtain ⟨output, written, text⟩ := linewise.writeResult rows
  refine ⟨output, written, ?_⟩
  rw [Utf8.bytes, text]
  exact Input.lines_terminated whole

end Tabular
