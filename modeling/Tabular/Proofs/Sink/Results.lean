import Tabular.Proofs.Source.Feed
import Tabular.Run.Answer

/-!
# Results one after the other

What a receiver makes of a result does not depend on the results before it: a sink starts anew with
each of them, and a result is kept in the place of the one before. Only a drawn table goes on with
the rows and the columns that it has.
-/

set_option autoImplicit false

namespace Tabular

/-! ## Calls one after the other -/

/-- The second call, unless the first one fails. -/
def Call.andThen {state : Type} (first next : Call state Unit) : Call state Unit := fun now =>
  match first now with
  | (.error error, now) => (.error error, now)
  | (.ok (), now) => next now

private theorem Call.andThen_of_ok {state : Type} {first : Call state Unit} {now later : state}
    (done : first now = (.ok (), later)) (next : Call state Unit) :
    first.andThen next now = next later := by
  rw [andThen, done]

namespace Run

variable {state : Type} (writer : Writer state)

theorem writeRows_cons (columns : List String) (row : Row) (rows : Feed Row) :
    writeRows writer columns (.ok row :: rows) =
      (writer.row row columns).andThen (writeRows writer columns rows) :=
  rfl

private theorem writeResult_eq (result : ResultSet) :
    writeResult writer result =
      (writer.start result.columns result.types).andThen
        ((writeRows writer result.columns result.rows).andThen writer.finish) := by
  funext now
  rw [writeResult, Call.andThen]
  rcases writer.start result.columns result.types now with ⟨_ | _, later⟩
  · rfl
  · rfl

private theorem writeResult_of_ok {columns types : List String} {rows : Feed Row}
    {now announced given : state} (start : writer.start columns types now = (.ok (), announced))
    (written : writeRows writer columns rows announced = (.ok (), given)) :
    writeResult writer ⟨columns, types, rows⟩ now = writer.finish given := by
  rw [writeResult_eq, Call.andThen_of_ok start, Call.andThen_of_ok written]

end Run

/-! ## Tables without the columns of others -/

private theorem Grid.draw_of_kept_le {columns : List String} {kept : Nat}
    (fewer : kept ≤ columns.length) (style : GridStyle) (rows : List (List String)) :
    draw style ⟨some columns, rows, kept⟩ = draw style ⟨some columns, rows, 0⟩ := by
  have same : columnCount ⟨some columns, rows, kept⟩ = columnCount ⟨some columns, rows, 0⟩ := by
    simp only [columnCount, allRows, Option.toList_some, List.cons_append, List.map_cons,
      List.foldl_cons, Nat.max_eq_right fewer, Nat.max_eq_right (Nat.zero_le _)]
  simp only [draw, widths, same]
  rfl

/-- A table without rows whose header is replaced by one that is as long. -/
theorem Grid.draw_announce {columns names : List String} (fewer : columns.length ≤ names.length)
    (style : GridStyle) (rows : List (List String)) :
    draw style { announce { header := some columns } names with rows := rows } =
      draw style { header := some names, rows := rows } := by
  have kept : columnCount { header := some columns } = columns.length := Nat.zero_max _
  rw [← kept] at fewer
  exact draw_of_kept_le fewer style rows

/-! ## Sinks without what they remember -/

/-- How a result is drawn, if it is. -/
def OutputFormat.grid? : OutputFormat → Option GridStyle
  | .table => some .full
  | .markdown => some .markdown
  | _ => none

namespace Sink

variable {options : WriteOptions} {sink : Sink}

def blankForm : SinkForm → SinkForm
  | .jsonList _ => .jsonList []
  | .yaml _ => .yaml []
  | .table style _ => .table style {}
  | .vertical _ _ => .vertical 0 0
  | form => form

/-- The sink without what it remembers of a result. -/
def blank (sink : Sink) : Sink :=
  { sink with form := blankForm sink.form }

def grid? (sink : Sink) : Option GridStyle :=
  match sink.form with
  | .table style _ => some style
  | _ => none

private theorem blank_start (sink : Sink) (columns types : List String) :
    (sink.start columns types).2.blank = sink.blank := by
  obtain ⟨form, null⟩ := sink
  cases form <;> rfl

private theorem blank_row (sink : Sink) (row : Row) (columns : List String) :
    (sink.row row columns).2.blank = sink.blank := by
  obtain ⟨form, null⟩ := sink
  cases form <;> rfl

private theorem blank_finish (sink : Sink) : sink.finish.2.blank = sink.blank := by
  obtain ⟨form, null⟩ := sink
  cases form <;> rfl

private theorem grid?_blank (sink : Sink) : sink.blank.grid? = sink.grid? := by
  obtain ⟨form, null⟩ := sink
  cases form <;> rfl

/-- A sink that does not draw forgets all it remembers when a result is announced. -/
theorem start_blank (plain : sink.grid? = none) (columns types : List String) :
    sink.blank.start columns types = sink.start columns types := by
  obtain ⟨form, null⟩ := sink
  cases form with
  | table style grid => cases plain
  | delimited | labelled | jsonList | jsonLines | yaml | framed | raw | vertical => rfl

private theorem blank_of_ofOptions (made : ofOptions options = .ok sink) :
    sink.blank = sink ∧ sink.grid? = options.format.grid? := by
  unfold ofOptions at made
  cases format : options.format with
  | csv =>
      rw [format] at made
      cases read : Delimited.Dialect.ofOptions options with
      | error failure =>
          rw [read] at made
          cases made
      | ok dialect =>
          rw [read] at made
          cases made
          exact ⟨rfl, rfl⟩
  | ltsv | json | jsonl | yaml | tbln | raw | table | markdown | vertical =>
      rw [format] at made
      cases made
      exact ⟨rfl, rfl⟩

private theorem eq_of_blank {style : GridStyle} (fresh : sink.blank = sink)
    (drawn : sink.grid? = some style) : sink = ⟨.table style {}, sink.null⟩ := by
  obtain ⟨form, null⟩ := sink
  cases form with
  | table found grid =>
      cases drawn
      exact fresh.symm
  | delimited | labelled | jsonList | jsonLines | yaml | framed | raw | vertical => cases drawn

end Sink

/-! ## Text behind other text -/

namespace TextOutput

/-- The output with pieces of text in front of it. -/
def behind (pieces : List String) (output : TextOutput) : TextOutput :=
  { output with pieces := output.pieces ++ pieces }

private theorem text_behind (pieces : List String) (output : TextOutput) :
    (output.behind pieces).text = String.join pieces.reverse ++ output.text := by
  rw [text, text, behind, List.reverse_append, String.join_append]

theorem text_add (given : Sink → String × Sink) (output : TextOutput) :
    (add given output).2.text = output.text ++ (given output.sink).1 := by
  simp only [text, add, List.reverse_cons, String.join_append]
  simp

/-- A call that neither sees nor changes the text before it, and for which the sink remains one of
the same options. -/
structure Orderly (call : Call TextOutput Unit) : Prop where
  behind : ∀ pieces output,
    call (output.behind pieces) = ((call output).1, (call output).2.behind pieces)
  blank : ∀ output, (call output).2.sink.blank = output.sink.blank

private theorem orderly_add {given : Sink → String × Sink}
    (same : ∀ sink, (given sink).2.blank = sink.blank) : Orderly (add given) where
  behind := fun _ _ => rfl
  blank := fun output => same output.sink

private theorem Orderly.andThen {first next : Call TextOutput Unit} (before : Orderly first)
    (after : Orderly next) : Orderly (first.andThen next) := by
  constructor
  · intro pieces output
    simp only [Call.andThen, before.behind]
    rcases first output with ⟨failure | ⟨⟩, later⟩
    · rfl
    · exact after.behind pieces later
  · intro output
    have kept := before.blank output
    revert kept
    rw [Call.andThen]
    rcases first output with ⟨failure | ⟨⟩, later⟩
    · exact id
    · exact (after.blank later).trans

private theorem orderly_start (columns types : List String) :
    Orderly (writer.start columns types) :=
  orderly_add fun sink => sink.blank_start columns types

private theorem orderly_row (row : Row) (columns : List String) :
    Orderly (writer.row row columns) :=
  orderly_add fun sink => sink.blank_row row columns

private theorem orderly_finish : Orderly writer.finish :=
  orderly_add Sink.blank_finish

end TextOutput

namespace Run

open TextOutput

private theorem orderly_writeRows (columns : List String) (rows : Feed Row) :
    Orderly (writeRows writer columns rows) := by
  induction rows with
  | nil => exact ⟨fun _ _ => rfl, fun _ => rfl⟩
  | cons piece rows ih =>
      cases piece with
      | error failure => exact ⟨fun _ _ => rfl, fun _ => rfl⟩
      | ok row =>
          rw [writeRows_cons]
          exact (orderly_row row columns).andThen ih

private theorem orderly_writeResult (result : ResultSet) : Orderly (writeResult writer result) := by
  rw [writeResult_eq]
  exact (orderly_start result.columns result.types).andThen
    ((orderly_writeRows result.columns result.rows).andThen orderly_finish)

/-- A result on a sink that was used before, if it does not draw. -/
theorem writeResult_used {sink : Sink} {output : TextOutput} (used : output.sink.blank = sink.blank)
    (plain : sink.grid? = none) (result : ResultSet) :
    writeResult writer result output =
      ((writeResult writer result { sink }).1,
        (writeResult writer result { sink }).2.behind output.pieces) := by
  have never : output.sink.grid? = none := by
    rw [← Sink.grid?_blank, used, Sink.grid?_blank, plain]
  have announced : output.sink.start result.columns result.types =
      sink.start result.columns result.types := by
    rw [← Sink.start_blank never, used, Sink.start_blank plain]
  have same : writeResult writer result output =
      writeResult writer result { sink, pieces := output.pieces } := by
    simp only [writeResult, writer, add, announced]
  rw [same]
  exact (orderly_writeResult result).behind output.pieces { sink }

section

variable {engineState writerState : Type} (engine : Engine engineState)

/-- The states after statements were answered one after the other, with or without success. -/
def after (writer : Writer writerState) : List String → engineState → writerState →
    engineState × writerState
  | [], now, output => (now, output)
  | sql :: statements, now, output =>
    let (_, now, output) := answer engine writer sql now output
    after writer statements now output

/-- An answer leaves the writer alone, or gives it one result. The engine decides about it. -/
theorem answer_cases (writer : Writer writerState) (sql : String) (now : engineState) :
    (∃ outcome later, ∀ output, answer engine writer sql now output = (outcome, later, output)) ∨
    ∃ result later, ∀ output, answer engine writer sql now output =
      ((writeResult writer result output).1, later, (writeResult writer result output).2) := by
  by_cases empty : (String.ofList (Text.trim sql.toList)).isEmpty
  · left
    exact ⟨_, _, fun output => by rw [answer, if_pos empty]⟩
  rcases described : engine.describe (String.ofList (Text.trim sql.toList)) now with
    ⟨failure | (_ | ⟨column, columns⟩), later⟩
  · left
    refine ⟨.error failure, later, fun output => ?_⟩
    simp only [answer, if_neg empty, described]
  · left
    refine ⟨(engine.execute (String.ofList (Text.trim sql.toList)) later).1.map fun _ => (),
      (engine.execute (String.ofList (Text.trim sql.toList)) later).2, fun output => ?_⟩
    simp only [answer, if_neg empty, described]
  · rcases asked : engine.query (String.ofList (Text.trim sql.toList)) later with
      ⟨failure | result, last⟩
    · left
      refine ⟨.error failure, last, fun output => ?_⟩
      simp only [answer, if_neg empty, described, asked]
    · right
      refine ⟨result, last, fun output => ?_⟩
      simp only [answer, if_neg empty, described, asked]

private theorem blank_answer (sql : String) (now : engineState) (output : TextOutput) :
    (answer engine writer sql now output).2.2.sink.blank = output.sink.blank := by
  obtain ⟨outcome, later, same⟩ | ⟨result, later, same⟩ := answer_cases engine writer sql now
  · rw [same]
  · rw [same]
    exact (orderly_writeResult result).blank output

private theorem blank_after (statements : List String) (now : engineState) (output : TextOutput) :
    (after engine writer statements now output).2.sink.blank = output.sink.blank := by
  induction statements generalizing now output with
  | nil => rfl
  | cons sql statements ih =>
      have step := blank_answer engine sql now output
      revert step
      rw [after]
      rcases answer engine writer sql now output with ⟨outcome, later, written⟩
      exact (ih later written).trans

private theorem answer_used {sink : Sink} {output : TextOutput}
    (used : output.sink.blank = sink.blank) (plain : sink.grid? = none) (sql : String)
    (now : engineState) :
    let again := answer engine writer sql now output
    let alone := answer engine writer sql now { sink }
    again.1 = alone.1 ∧ again.2.1 = alone.2.1 ∧ again.2.2.text = output.text ++ alone.2.2.text := by
  intro again alone
  obtain ⟨outcome, later, same⟩ | ⟨result, later, same⟩ := answer_cases engine writer sql now
  · simp only [again, alone, same, true_and]
    exact String.append_empty.symm
  · simp only [again, alone, same, writeResult_used used plain, true_and]
    exact text_behind _ _

end

/-! ## Results that are drawn -/

private theorem writeRows_succeeds (columns : List String) (rows : List Row) (output : TextOutput) :
    ∃ later, writeRows writer columns (Feed.ofList rows) output = (.ok (), later) := by
  induction rows generalizing output with
  | nil => exact ⟨output, rfl⟩
  | cons row rows ih => exact ih (writer.row row columns output).2

private theorem writeResult_succeeds (columns types : List String) (rows : List Row)
    (output : TextOutput) :
    (writeResult writer ⟨columns, types, Feed.ofList rows⟩ output).1 = .ok () := by
  obtain ⟨later, written⟩ :=
    writeRows_succeeds columns rows (writer.start columns types output).2
  rw [writeResult_of_ok writer rfl written]
  rfl

/-- The cells of rows as they are drawn. -/
def drawnRows (null : Option String) (rows : List Row) : List (List String) :=
  rows.map (List.map (Cell.toTextOr null))

variable {style : GridStyle} {grid : Grid} {null : Option String}

theorem writeResult_of_written {columns types : List String} {rows : Feed Row}
    {output later : TextOutput}
    (written : writeRows writer columns rows (writer.start columns types output).2 =
      (.ok (), later)) :
    ∃ last, writeResult writer ⟨columns, types, rows⟩ output = (.ok (), last) ∧
      last.sink = later.sink.finish.2 ∧ last.text = later.text ++ later.sink.finish.1 :=
  ⟨(writer.finish later).2, writeResult_of_ok writer rfl written, rfl, text_add _ _⟩

/-- A sink that keeps an item of every row, and writes nothing for it. -/
theorem writeRows_keeping {α : Type} (form : List α → SinkForm) {item : Row → α}
    {columns : List String} (keeps : ∀ kept row, Sink.row ⟨form kept, null⟩ row columns =
      ("", ⟨form (kept ++ [item row]), null⟩))
    (rows : List Row) {kept : List α} {output : TextOutput} (same : output.sink = ⟨form kept, null⟩) :
    ∃ later, writeRows writer columns (Feed.ofList rows) output = (.ok (), later) ∧
      later.sink = ⟨form (kept ++ rows.map item), null⟩ ∧ later.text = output.text := by
  induction rows generalizing kept output with
  | nil => exact ⟨output, rfl, by rw [List.map_nil, List.append_nil, same], rfl⟩
  | cons row rows ih =>
      have step : (writer.row row columns output).2.sink = ⟨form (kept ++ [item row]), null⟩ := by
        simp only [writer, add, same, keeps]
      have silent : (writer.row row columns output).2.text = output.text := by
        simp only [writer, text_add, same, keeps, String.append_empty]
      obtain ⟨later, written, sink, text⟩ := ih step
      refine ⟨later, written, ?_, text.trans silent⟩
      rw [sink, List.append_assoc]
      rfl

private theorem writeRows_drawn (columns : List String) (rows : List Row) {output : TextOutput}
    (drawn : output.sink = ⟨.table style grid, null⟩) :
    ∃ later, writeRows writer columns (Feed.ofList rows) output = (.ok (), later) ∧
      later.sink = ⟨.table style { grid with rows := grid.rows ++ drawnRows null rows }, null⟩ ∧
      later.text = output.text :=
  writeRows_keeping (fun kept => .table style { grid with rows := kept }) (fun _ _ => rfl) rows
    drawn

/-- A result on a drawn table is drawn below the rows that the table has. -/
theorem writeResult_drawn (columns types : List String) (rows : List Row) {output : TextOutput}
    (drawn : output.sink = ⟨.table style grid, null⟩) :
    let later := (writeResult writer ⟨columns, types, Feed.ofList rows⟩ output).2
    let grown := { grid.announce columns with rows := grid.rows ++ drawnRows null rows }
    later.sink = ⟨.table style grown, null⟩ ∧
      later.text = output.text ++ (grown.draw style ++ "\n") := by
  have announced : (writer.start columns types output).2.sink =
      ⟨.table style (grid.announce columns), null⟩ := by
    simp only [writer, add, Sink.start, drawn]
  have silent : (writer.start columns types output).2.text = output.text := by
    simp only [writer, text_add, Sink.start, drawn, String.append_empty]
  obtain ⟨later, written, sink, text⟩ := writeRows_drawn columns rows announced
  obtain ⟨last, done, kept, whole⟩ := writeResult_of_written written
  rw [done]
  constructor
  · change last.sink = _
    rw [kept, sink]
    rfl
  · change last.text = _
    rw [whole, text, silent, sink]
    rfl

/-- Two results on a drawn table, and the second one alone. -/
theorem writeResult_drawn_twice (columns types names kinds : List String) (rows more : List Row)
    {sink : Sink} (fresh : sink.blank = sink) (drawn : sink.grid? = some style) :
    let one := writeResult writer ⟨columns, types, Feed.ofList rows⟩ { sink }
    let two := writeResult writer ⟨names, kinds, Feed.ofList more⟩ one.2
    let alone := writeResult writer ⟨names, kinds, Feed.ofList more⟩ { sink }
    let grid : Grid := { header := some columns, rows := drawnRows sink.null rows }
    let grown := { grid.announce names with rows := drawnRows sink.null (rows ++ more) }
    let single : Grid := { header := some names, rows := drawnRows sink.null more }
    one.2.text = grid.draw style ++ "\n" ∧
    two.2.text = one.2.text ++ (grown.draw style ++ "\n") ∧
    alone.2.text = single.draw style ++ "\n" := by
  intro one two alone grid grown single
  have blank : TextOutput.sink { sink } = ⟨.table style {}, sink.null⟩ :=
    Sink.eq_of_blank fresh drawn
  have first := writeResult_drawn columns types rows blank
  have second := writeResult_drawn names kinds more first.1
  have lone := writeResult_drawn names kinds more blank
  have joined : drawnRows sink.null (rows ++ more) =
      drawnRows sink.null rows ++ drawnRows sink.null more := List.map_append
  refine ⟨first.2.trans String.empty_append, second.2.trans ?_, lone.2.trans String.empty_append⟩
  simp only [grown, joined]
  rfl

/-! ## Results that are kept -/

private theorem writeRows_collected (columns : List String) (rows : List Row) (kept : Collected) :
    writeRows Collected.writer columns (Feed.ofList rows) kept =
      (.ok (), { kept with rows := kept.rows ++ rows.toArray }) := by
  induction rows generalizing kept with
  | nil => simp [writeRows, Feed.ofList]
  | cons row rows ih =>
      have joined : kept.rows ++ (row :: rows).toArray = kept.rows.push row ++ rows.toArray := by
        simp
      rw [joined]
      exact ih { kept with rows := kept.rows.push row }

private theorem writeResult_collected (columns types : List String) (rows : List Row)
    (kept : Collected) :
    writeResult Collected.writer ⟨columns, types, Feed.ofList rows⟩ kept =
      (.ok (), ⟨columns, types, rows.toArray⟩) := by
  rw [writeResult_of_ok Collected.writer rfl (writeRows_collected columns rows _)]
  simp [Collected.writer]

/-! ## Several results -/

/-- The second of two results is written as on a fresh sink, behind the text of the first one, and a
receiver that keeps results has only the second one. If results are drawn, this needs a first one
without rows and with no more columns: otherwise the rows of both are drawn, in the columns of both.
If they are not drawn, an answer is as on a fresh sink, whatever statements were answered before. -/
theorem results_apart {options : WriteOptions} {sink : Sink}
    (made : Sink.ofOptions options = .ok sink) (columns types names kinds : List String) (rows more : List Row) :
    let first : ResultSet := ⟨columns, types, Feed.ofList rows⟩
    let second : ResultSet := ⟨names, kinds, Feed.ofList more⟩
    let one := writeResult writer first { sink }
    let two := writeResult writer second one.2
    let alone := writeResult writer second { sink }
    one.1 = .ok () ∧ two.1 = .ok () ∧ alone.1 = .ok () ∧
    (options.format.grid? = none ∨ rows = [] ∧ columns.length ≤ names.length →
      two.2.text = one.2.text ++ alone.2.text) ∧
    (∀ style, options.format.grid? = some style →
      let grid : Grid := { header := some columns, rows := drawnRows sink.null rows }
      let grown := { grid.announce names with rows := drawnRows sink.null (rows ++ more) }
      one.2.text = grid.draw style ++ "\n" ∧
      two.2.text = one.2.text ++ (grown.draw style ++ "\n")) ∧
    (∀ kept, writeResult Collected.writer second (writeResult Collected.writer first kept).2 =
      (.ok (), ⟨names, kinds, more.toArray⟩)) ∧
    (options.format.grid? = none → ∀ {engineState : Type} (engine : Engine engineState)
      (statements : List String) (sql : String) (now : engineState),
      let before := after engine writer statements now { sink }
      let again := answer engine writer sql before.1 before.2
      let alone := answer engine writer sql before.1 { sink }
      again.1 = alone.1 ∧ again.2.1 = alone.2.1 ∧
        again.2.2.text = before.2.text ++ alone.2.2.text) := by
  intro first second one two alone
  obtain ⟨fresh, format⟩ := Sink.blank_of_ofOptions made
  have kept : one.2.sink.blank = sink.blank := (orderly_writeResult first).blank { sink }
  refine ⟨writeResult_succeeds _ _ _ _, writeResult_succeeds _ _ _ _, writeResult_succeeds _ _ _ _,
    ?apart, ?drawn, ?collected, ?answers⟩
  case apart =>
    intro independent
    cases style : options.format.grid? with
    | none =>
        have again := writeResult_used kept (format.trans style) second
        rw [show two = _ from again]
        exact text_behind _ _
    | some drawn =>
        rw [style] at independent
        obtain ⟨empty, fewer⟩ := independent.resolve_left (Option.some_ne_none drawn)
        obtain ⟨-, again, lone⟩ :=
          writeResult_drawn_twice columns types names kinds rows more fresh (format.trans style)
        subst empty
        rw [again, lone]
        exact congrArg (fun text => one.2.text ++ (text ++ "\n"))
          (Grid.draw_announce fewer drawn (drawnRows sink.null more))
  case drawn =>
    intro style drawn
    obtain ⟨text, again, -⟩ :=
      writeResult_drawn_twice columns types names kinds rows more fresh (format.trans drawn)
    exact ⟨text, again⟩
  case collected =>
    intro kept
    exact writeResult_collected names kinds more _
  case answers =>
    intro plain engineState engine statements sql now
    exact answer_used engine (blank_after engine statements now { sink }) (format.trans plain) sql _

/-- Rows that are numbered from the first one again, with shorter names; and a drawn table below one
without rows and with fewer columns. -/
theorem results_apart_vertical_markdown :
    (let sink : Sink := { form := .vertical 0 0, null := some "-" }
    let one := writeResult writer ⟨["first"], ["text"], Feed.ofList [[.null], [.text "x"]]⟩ { sink }
    let two := writeResult writer ⟨["b"], ["int"], Feed.ofList [[.int 2]]⟩ one.2
    let alone := writeResult writer ⟨["b"], ["int"], Feed.ofList [[.int 2]]⟩ { sink }
    Sink.ofOptions { format := .vertical, null := some "-" } = .ok sink ∧
      alone.2.text = Sink.stars ++ " 1. row " ++ Sink.stars ++ "\nb: 2\n" ∧
      two.2.text = one.2.text ++ alone.2.text) ∧
    (let sink : Sink := { form := .table .markdown {} }
    let one := writeResult writer ⟨["a"], ["text"], Feed.ofList []⟩ { sink }
    let second : ResultSet := ⟨["b", "c"], ["text", "int"], Feed.ofList [[.text "x", .int 2]]⟩
    let two := writeResult writer second one.2
    let alone := writeResult writer second { sink }
    Sink.ofOptions { format := .markdown } = .ok sink ∧ ["a"].length ≤ ["b", "c"].length ∧
      one.2.text = "| a |\n|---|\n" ∧ alone.2.text = "| b | c |\n|---|---|\n| x | 2 |\n" ∧
      two.2.text = one.2.text ++ alone.2.text) := by
  refine ⟨?vertical, ?markdown⟩
  case vertical =>
    intro sink one two alone
    have made : Sink.ofOptions { format := .vertical, null := some "-" } = .ok sink := rfl
    obtain ⟨-, -, -, apart, -⟩ := results_apart made ["first"] ["text"] ["b"] ["int"]
      [[.null], [.text "x"]] [[.int 2]]
    exact ⟨made, by decide +kernel, apart (.inl rfl)⟩
  case markdown =>
    intro sink one second two alone
    have made : Sink.ofOptions { format := .markdown } = .ok sink := rfl
    have fewer : ["a"].length ≤ ["b", "c"].length := by decide
    obtain ⟨-, -, -, apart, -⟩ := results_apart made ["a"] ["text"] ["b", "c"] ["text", "int"]
      [] [[.text "x", .int 2]]
    exact ⟨made, fewer, by decide +kernel, by decide +kernel, apart (.inr ⟨rfl, fewer⟩)⟩

/-- The second of two drawn results has the row of the first one above its own. -/
theorem results_not_apart :
    let sink : Sink := { form := .table .full {} }
    let one := writeResult writer ⟨["a"], ["text"], Feed.ofList [[.text "1"]]⟩ { sink }
    let two := writeResult writer ⟨["b"], ["text"], Feed.ofList [[.text "2"]]⟩ one.2
    let alone := writeResult writer ⟨["b"], ["text"], Feed.ofList [[.text "2"]]⟩ { sink }
    Sink.ofOptions { format := .table } = .ok sink ∧
      one.2.text = "+---+\n| a |\n+===+\n| 1 |\n+---+\n" ∧
      alone.2.text = "+---+\n| b |\n+===+\n| 2 |\n+---+\n" ∧
      two.2.text = one.2.text ++ "+---+\n| b |\n+===+\n| 1 |\n|---|\n| 2 |\n+---+\n" ∧
      two.2.text ≠ one.2.text ++ alone.2.text := by
  intro sink one two alone
  refine ⟨rfl, ?_, ?_, ?_, ?_⟩ <;> decide +kernel

end Run

end Tabular
