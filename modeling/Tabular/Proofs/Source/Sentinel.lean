import Tabular.Proofs.Source.Window

/-!
# Reading with a sentinel

A sentinel stands for null in the cells of an input. It is looked for after the rows are made, so
reading with a sentinel is reading without one and then replacing it: the columns, the failures and
the number of rows are the same, and every cell is replaced where it stands, in the rows read ahead
and in those of the feed.
-/

set_option autoImplicit false

namespace Tabular

def Row.nullIf (sentinel : String) (row : Row) : Row :=
  row.map (Cell.nullIf (some sentinel))

namespace Source

def nullIf (sentinel : String) : Source → Source
  | table schema ahead live =>
    table schema (ahead.map (Row.nullIf sentinel)) (Feed.map (Row.nullIf sentinel) live)
  | numbered inner given => numbered (inner.nullIf sentinel) given

def Answer.nullIf (sentinel : String) : Answer → Answer
  | .ahead rows => .ahead (rows.map (Row.nullIf sentinel))
  | .next outcome => .next (outcome.map (Option.map (Row.nullIf sentinel)))

end Source

/-! ## Cells -/

section Cells

variable (sentinel : String)

theorem Cell.nullIf_none (cell : Cell) : cell.nullIf none = cell :=
  rfl

private theorem Cell.isExactly_nullIf (cell : Cell) :
    (cell.nullIf (some sentinel)).isExactly sentinel = false := by
  rw [Cell.nullIf]
  split
  · rfl
  · rename_i other
    exact eq_false_of_ne_true other

theorem Row.nullIf_numberRow (number : Nat) (row : Row) :
    Row.nullIf sentinel (Source.numberRow number row) =
      Source.numberRow number (Row.nullIf sentinel row) :=
  rfl

private theorem Row.nullIf_fit (width : Nat) (row : Row) :
    Row.nullIf sentinel (Row.fit width row) = Row.fit width (Row.nullIf sentinel row) := by
  simp only [Row.nullIf, Row.fit, List.map_append, List.map_take, List.map_replicate,
    List.length_map]
  rfl

private theorem KeyedColumns.cellOf_map (key : String) (record : Record) :
    cellOf key (record.map fun (key, cell) => (key, cell.nullIf (some sentinel))) =
      (cellOf key record).nullIf (some sentinel) := by
  unfold cellOf
  rw [← List.map_reverse, List.find?_map]
  simp only [Function.comp_def]
  cases record.reverse.find? fun pair => pair.1 == key with
  | none => rfl
  | some pair => rfl

private theorem KeyedColumns.project_map (columns : KeyedColumns) (record : Record) :
    columns.project (record.map fun (key, cell) => (key, cell.nullIf (some sentinel))) =
      Row.nullIf sentinel (columns.project record) := by
  simp only [project_eq_map, Row.nullIf, List.map_map, Function.comp_def, cellOf_map]

end Cells

/-! ## Calls -/

namespace Source

variable (sentinel : String)

private theorem schema?_nullIf (source : Source) :
    (source.nullIf sentinel).schema? = source.schema? := by
  induction source with
  | table => rfl
  | numbered inner given ih => simp only [nullIf, schema?, ih]

private theorem names_nullIf (source : Source) : (source.nullIf sentinel).names = source.names := by
  unfold names schema
  rw [schema?_nullIf]

private theorem types_nullIf (source : Source) : (source.nullIf sentinel).types = source.types := by
  unfold types schema
  rw [schema?_nullIf]

private theorem numberRows_nullIf (given : Nat) (rows : List Row) :
    numberRows given (rows.map (Row.nullIf sentinel)) =
      (numberRows given rows).map (Row.nullIf sentinel) := by
  refine List.ext_getElem (by simp [numberRows]) fun position _ _ => ?_
  simp only [numberRows, List.getElem_mapIdx, List.getElem_map, Row.nullIf_numberRow]

private theorem numberFeed_nullIf (given : Nat) (feed : Feed Row) :
    numberFeed given (Feed.map (Row.nullIf sentinel) feed) =
      Feed.map (Row.nullIf sentinel) (numberFeed given feed) := by
  induction feed generalizing given with
  | nil => rfl
  | cons piece feed ih =>
      cases piece with
      | error failure => exact congrArg (.error failure :: ·) (ih given)
      | ok row =>
          exact congrArg (.ok (numberRow (given + 1) (Row.nullIf sentinel row)) :: ·)
            (ih (given + 1))

private theorem takeAhead_nullIf (source : Source) :
    (source.nullIf sentinel).takeAhead =
      (source.takeAhead.1.map (Row.nullIf sentinel), source.takeAhead.2.nullIf sentinel) := by
  induction source with
  | table => rfl
  | numbered inner given ih =>
      simp only [nullIf, takeAhead, ih, List.length_map, numberRows_nullIf]

private theorem live_nullIf (source : Source) :
    (source.nullIf sentinel).live = Feed.map (Row.nullIf sentinel) source.live := by
  induction source with
  | table => rfl
  | numbered inner given ih => simp only [nullIf, live, ih, numberFeed_nullIf]

private theorem next_nullIf (source : Source) :
    (source.nullIf sentinel).next =
      (source.next.1.map (Option.map (Row.nullIf sentinel)), source.next.2.nullIf sentinel) := by
  induction source with
  | table schema ahead live =>
      cases live with
      | nil => rfl
      | cons piece live => cases piece <;> rfl
  | numbered inner given ih =>
      simp only [nullIf, next, ih]
      rcases inner.next with ⟨failure | none | row, later⟩ <;> rfl

private theorem answer_nullIf (source : Source) (ask : Ask) :
    (source.nullIf sentinel).answer ask =
      ((source.answer ask).1.nullIf sentinel, (source.answer ask).2.nullIf sentinel) := by
  cases ask with
  | ahead => simp only [answer, takeAhead_nullIf, Answer.nullIf]
  | next => simp only [answer, next_nullIf, Answer.nullIf]

private theorem answers_nullIf (source : Source) (asks : List Ask) :
    (source.nullIf sentinel).answers asks =
      ((source.answers asks).1.map (Answer.nullIf sentinel),
        (source.answers asks).2.nullIf sentinel) := by
  induction asks generalizing source with
  | nil => rfl
  | cons ask asks ih => simp only [answers, answer_nullIf, ih, List.map_cons]

private theorem rows_nullIf (source : Source) :
    (source.nullIf sentinel).rows = Feed.map (Row.nullIf sentinel) source.rows := by
  simp only [rows, takeAhead_nullIf, live_nullIf, Feed.map, List.map_append, ← Feed.map_ofList]

theorem Answer.exists_of_mem_rows {answer : Answer} {row : Row}
    (member : row ∈ (answer.nullIf sentinel).rows) :
    ∃ plain ∈ answer.rows, row = Row.nullIf sentinel plain := by
  rcases answer with rows | failure | none | given
  · obtain ⟨plain, inside, rfl⟩ := List.mem_map.mp member
    exact ⟨plain, inside, rfl⟩
  · cases member
  · cases member
  · refine ⟨given, List.mem_singleton_self given, ?_⟩
    exact List.mem_singleton.mp member

end Source

/-! ## Formats -/

namespace Feed

variable {α β : Type}

private theorem discard_map (f : α → β) (count : Nat) (feed : Feed α) :
    discard count (map f feed) = (discard count feed).map (map f) := by
  induction count generalizing feed with
  | zero => rfl
  | succ count ih =>
      rcases feed with _ | ⟨failure | piece, feed⟩
      · rfl
      · rfl
      · exact ih feed

private theorem take_map (f : α → β) (count : Nat) (feed : Feed α) :
    take count (map f feed) =
      (take count feed).map fun (pieces, rest) => (pieces.map f, map f rest) := by
  induction count generalizing feed with
  | zero => rfl
  | succ count ih =>
      rcases feed with _ | ⟨failure | piece, feed⟩
      · rfl
      · rfl
      · have later := ih feed
        simp only [map] at later
        simp only [map, List.map_cons, Except.map, take, bind, Except.bind, later]
        rcases take count feed with failure | ⟨pieces, rest⟩ <;> rfl

private theorem map_map {γ : Type} (f : α → β) (g : β → γ) (feed : Feed α) :
    map g (map f feed) = map (g ∘ f) feed := by
  rw [map, map, map, List.map_map]
  refine List.map_congr_left fun piece _ => ?_
  cases piece <;> rfl

end Feed

/-- Two computations with the same steps, the last of which differ by a function. -/
theorem bind_eq_map {α β γ : Type} {outcome : Result α} {next : α → Result β}
    {changed : α → Result γ} {f : β → γ} (later : ∀ value, changed value = (next value).map f) :
    outcome >>= changed = (outcome >>= next).map f := by
  cases outcome with
  | error failure => rfl
  | ok value => exact later value

private theorem bind_map_eq_map {α β γ δ : Type} {outcome : Result α} {g : α → β}
    {next : α → Result γ} {changed : β → Result δ} {f : γ → δ}
    (later : ∀ value, changed (g value) = (next value).map f) :
    outcome.map g >>= changed = (outcome >>= next).map f := by
  cases outcome with
  | error failure => rfl
  | ok value => exact later value

private theorem Source.nullIf_table {α : Type} {sentinel : String} {filtered plain : α → Row}
    (same : ∀ piece, filtered piece = Row.nullIf sentinel (plain piece)) (options : ReadOptions)
    (schema : Option Schema) (ahead : List α) (feed : Feed α) :
    Source.table schema (ahead.map filtered) (options.liveRows (Feed.map filtered feed)) =
      (Source.table schema (ahead.map plain) (options.liveRows (Feed.map plain feed))).nullIf
        sentinel := by
  obtain rfl : filtered = Row.nullIf sentinel ∘ plain := funext same
  rw [nullIf, List.map_map, ← Feed.map_map, ReadOptions.liveRows, ReadOptions.liveRows]
  split <;> rfl

section Formats

variable (options : ReadOptions) (sentinel : String)

namespace Delimited

private theorem cells_nullIf (fields : Fields) :
    cells (some sentinel) fields = Row.nullIf sentinel (cells none fields) := by
  simp only [cells, Row.nullIf, List.map_map, Function.comp_def, Cell.nullIf_none]

theorem sourceOf_nullIf (feed : Feed Fields) :
    sourceOf { options with null := some sentinel } feed =
      (sourceOf { options with null := none } feed).map (Source.nullIf sentinel) := by
  refine bind_eq_map fun body => ?_
  refine bind_eq_map fun ⟨header, body⟩ => ?_
  refine bind_eq_map fun ⟨ahead, rest⟩ => ?_
  refine congrArg Except.ok (Source.nullIf_table (fun fields => ?_) options _ ahead rest)
  rw [cells_nullIf, Row.nullIf_fit]

theorem source_nullIf (delimiter : Char) (input : Input) :
    source { options with null := some sentinel } delimiter input =
      (source { options with null := none } delimiter input).map (Source.nullIf sentinel) := by
  unfold source
  split
  · rfl
  · exact sourceOf_nullIf options sentinel _

end Delimited

namespace Labelled

def pairNullIf (pair : Pair) : Pair :=
  (pair.1, pair.2.nullIf (some sentinel))

private theorem pair_nullIf (number : Nat) (field : List UInt8) :
    pair (some sentinel) number field = (pair none number field).map (pairNullIf sentinel) := by
  unfold pair
  cases field.dropWhile (· != 0x3A) <;> rfl

private theorem pairs_nullIf (number : Nat) (line : List UInt8) :
    pairs (some sentinel) number line =
      (pairs none number line).map (List.map (pairNullIf sentinel)) := by
  unfold pairs
  induction line.splitOn 0x09 with
  | nil => rfl
  | cons field fields ih =>
      rw [List.mapM_cons, List.mapM_cons, pair_nullIf, ih]
      refine bind_map_eq_map fun first => ?_
      exact bind_map_eq_map fun others => rfl

private theorem records_nullIf (number : Nat) (lines : Feed (List UInt8)) :
    records (some sentinel) number lines =
      Feed.map (List.map (pairNullIf sentinel)) (records none number lines) := by
  induction lines generalizing number with
  | nil => rfl
  | cons piece lines ih =>
      cases piece with
      | error failure => exact congrArg (.error failure :: ·) (ih (number + 1))
      | ok line =>
          simp only [records]
          split
          · exact ih (number + 1)
          · rw [ih, pairs_nullIf]
            rfl

private theorem keys_pairNullIf (record : List Pair) :
    (record.map (pairNullIf sentinel)).map (·.1) = record.map (·.1) := by
  rw [List.map_map]
  rfl

theorem source_nullIf (input : Input) :
    source { options with null := some sentinel } input =
      (source { options with null := none } input).map (Source.nullIf sentinel) := by
  unfold source
  simp only [records_nullIf, Feed.discard_map]
  refine bind_map_eq_map fun feed => ?_
  simp only [Feed.take_map]
  refine bind_map_eq_map fun ⟨ahead, rest⟩ => ?_
  have columns : KeyedColumns.ofRecords
      ((ahead.map (List.map (pairNullIf sentinel))).map fun pairs => pairs.map (·.1)) =
      .ofRecords (ahead.map fun pairs => pairs.map (·.1)) := by
    rw [List.map_map]
    exact congrArg _ (List.map_congr_left fun record _ => keys_pairNullIf sentinel record)
  simp only [columns]
  simp only [List.map_map, Feed.map_map]
  refine congrArg Except.ok (Source.nullIf_table (fun record => ?_) options _ ahead rest)
  exact KeyedColumns.project_map sentinel _ record

end Labelled

namespace Documents

private theorem project_nullIf (columns : KeyedColumns) (item : Document) :
    project (some sentinel) columns item =
      Row.nullIf sentinel (project none columns item) := by
  have others (item : Document) :
      ((List.replicate columns.width Cell.null).set ((columns.position? scalarColumn).getD 0)
        ((cell item).nullIf (some sentinel))) =
      Row.nullIf sentinel ((List.replicate columns.width Cell.null).set
        ((columns.position? scalarColumn).getD 0) (cell item)) := by
    rw [Row.nullIf, List.map_set, List.map_replicate]
    rfl
  cases item with
  | record fields =>
      rw [project, project, ← KeyedColumns.project_map, List.map_map]
      rfl
  | null | bool | number | text | list => exact others _

theorem sourceOf_nullIf (feed : Feed Document) :
    sourceOf { options with null := some sentinel } feed =
      (sourceOf { options with null := none } feed).map (Source.nullIf sentinel) := by
  refine bind_eq_map fun feed => ?_
  refine bind_eq_map fun ⟨ahead, rest⟩ => ?_
  exact congrArg Except.ok
    (Source.nullIf_table (project_nullIf sentinel _) options _ ahead rest)

end Documents

namespace Framed

private theorem cell_nullIf (text : String) :
    cell (some sentinel) text = (cell none text).nullIf (some sentinel) := by
  unfold cell
  split <;> rfl

theorem source_nullIf (input : Input) :
    source { options with null := some sentinel } input =
      (source { options with null := none } input).map (Source.nullIf sentinel) := by
  refine bind_eq_map fun ⟨definition, first, feed⟩ => ?_
  cases first with
  | none => rfl
  | some first =>
      refine bind_eq_map fun schema => ?_
      refine bind_eq_map fun ⟨others, feed⟩ => ?_
      refine congrArg Except.ok (Source.nullIf_table (fun cells => ?_) options _ _ feed)
      rw [Row.nullIf_fit, Row.nullIf, List.map_map]
      exact congrArg _ (List.map_congr_left fun text _ => cell_nullIf sentinel text)

end Framed

namespace Aligned

private theorem row_nullIf (boundaries : List Nat) (line : List Char) :
    row (some sentinel) boundaries line = Row.nullIf sentinel (row none boundaries line) := by
  simp only [row, Row.nullIf, List.map_map, Function.comp_def, Cell.nullIf_none]

theorem source_nullIf (input : Input) :
    source { options with null := some sentinel } input =
      (source { options with null := none } input).map (Source.nullIf sentinel) := by
  refine bind_eq_map fun feed => ?_
  refine bind_eq_map fun ⟨sample, feed⟩ => ?_
  cases sample with
  | nil => rfl
  | cons first others =>
      simp only [Feed.map_ofList_append]
      cases options.header with
      | false =>
          exact congrArg Except.ok
            (Source.nullIf_table (row_nullIf sentinel _) options _ _ (_ ++ feed))
      | true =>
          exact congrArg Except.ok
            (Source.nullIf_table (row_nullIf sentinel _) options _ _ (_ ++ feed))

end Aligned

end Formats

namespace Source

private theorem readPlain_nullIf {options : ReadOptions} (tabular : options.format ≠ .text)
    (sentinel : String) (input : Input) :
    readPlain { options with null := some sentinel } input =
      (readPlain { options with null := none } input).map (Source.nullIf sentinel) := by
  unfold readPlain
  cases chosen : options.format with
  | guess | csv =>
      refine bind_eq_map fun delimiter => ?_
      exact Delimited.source_nullIf { options with format := _ } sentinel delimiter input
  | tsv | psv => exact Delimited.source_nullIf options sentinel _ input
  | ltsv => exact Labelled.source_nullIf options sentinel input
  | json => exact Documents.sourceOf_nullIf options sentinel _
  | yaml =>
      refine bind_eq_map fun feed => ?_
      exact Documents.sourceOf_nullIf options sentinel feed
  | tbln => exact Framed.source_nullIf options sentinel input
  | width => exact Aligned.source_nullIf options sentinel input
  | text => exact absurd chosen tabular

private theorem read_nullIf {options : ReadOptions} (tabular : options.format ≠ .text)
    (sentinel : String) (input : Input) :
    read { options with null := some sentinel } input =
      (read { options with null := none } input).map (Source.nullIf sentinel) := by
  unfold read
  rw [readPlain_nullIf tabular]
  cases readPlain { options with null := none } input with
  | error failure => rfl
  | ok source =>
      refine congrArg Except.ok ?_
      unfold numberedIf
      split <;> rfl

theorem ne_sentinel_of_mem {sentinel : String} {row : Row} {cell : Cell}
    (member : cell ∈ Row.nullIf sentinel row) :
    cell ≠ .text sentinel ∧ cell ≠ .bytes (Utf8.bytes sentinel) := by
  obtain ⟨plain, -, same⟩ := List.mem_map.mp member
  have other := Cell.isExactly_nullIf sentinel plain
  rw [same] at other
  constructor
  · rintro rfl
    simp [Cell.isExactly] at other
  · rintro rfl
    simp [Cell.isExactly] at other

/-- Reading with a sentinel gives the columns, the failures and the rows of reading without one, and
null in the place of each cell that is the sentinel, whenever the rows are asked for. -/
theorem read_with_sentinel {options : ReadOptions} (tabular : options.format ≠ .text)
    (sentinel : String) (input : Input) :
    let plain := read { options with null := none } input
    let filtered := read { options with null := some sentinel } input
    (∀ failure, filtered = .error failure ↔ plain = .error failure) ∧
    ∀ source, plain = .ok source → ∃ other, filtered = .ok other ∧
      other.names = source.names ∧ other.types = source.types ∧
      other.rows = Feed.map (Row.nullIf sentinel) source.rows ∧
      ∀ asks, (other.answers asks).1 = (source.answers asks).1.map (Answer.nullIf sentinel) ∧
        ∀ answer ∈ (other.answers asks).1, ∀ row ∈ answer.rows, ∀ cell ∈ row,
          cell ≠ .text sentinel ∧ cell ≠ .bytes (Utf8.bytes sentinel) := by
  intro plain filtered
  have same : filtered = plain.map (Source.nullIf sentinel) := read_nullIf tabular sentinel input
  constructor
  · intro failure
    rw [same]
    cases plain with
    | error other => simp [Except.map]
    | ok source => simp [Except.map]
  · intro source made
    rw [made] at same
    refine ⟨source.nullIf sentinel, same, source.names_nullIf sentinel,
      source.types_nullIf sentinel, source.rows_nullIf sentinel, fun asks => ?_⟩
    have mapped := source.answers_nullIf sentinel asks
    constructor
    · rw [mapped]
    · intro answer given row inside cell here
      rw [mapped] at given
      obtain ⟨first, -, rfl⟩ := List.mem_map.mp given
      obtain ⟨unfiltered, -, rfl⟩ := first.exists_of_mem_rows sentinel inside
      exact ne_sentinel_of_mem here

/-- The key `a` is written twice, the second time with the sentinel; a number column is in front,
and `c` has no column. -/
theorem read_with_sentinel_repeated :
    let options : ReadOptions := { format := .ltsv, rowNumber := true }
    let input : Input := ⟨Utf8.bytes "a:x\tb:-\ta:-\nb:y\tc:-\nb:-\n", true⟩
    options.format ≠ .text ∧
    ∃ source other, read { options with null := none } input = .ok source ∧
      read { options with null := some "-" } input = .ok other ∧
      source.names = .ok ["num", "a", "b"] ∧ other.names = .ok ["num", "a", "b"] ∧
      source.rows = Feed.ofList [[.int 1, .text "-", .text "-"], [.int 2, .null, .text "y"],
        [.int 3, .null, .text "-"]] ∧
      other.rows = Feed.ofList [[.int 1, .null, .null], [.int 2, .null, .text "y"],
        [.int 3, .null, .null]] ∧
      ∀ answer ∈ (other.answers [.next, .ahead, .next, .next]).1, ∀ row ∈ answer.rows,
        ∀ cell ∈ row, cell ≠ .text "-" ∧ cell ≠ .bytes (Utf8.bytes "-") := by
  intro options input
  have tabular : options.format ≠ .text := by decide
  obtain ⟨source, made, named⟩ := bind_ok (show
    (read { options with null := none } input >>= names) = .ok ["num", "a", "b"] by
      decide +kernel)
  have rows : (read { options with null := none } input).map rows =
      .ok (Feed.ofList [[.int 1, .text "-", .text "-"], [.int 2, .null, .text "y"],
        [.int 3, .null, .text "-"]]) := by decide +kernel
  rw [made] at rows
  have shown := Except.ok.inj rows
  obtain ⟨-, found⟩ := read_with_sentinel tabular "-" input
  obtain ⟨other, filtered, sameNames, -, mapped, answers⟩ := found source made
  refine ⟨tabular, source, other, made, filtered, named, sameNames.trans named, shown, ?_,
    (answers _).2⟩
  rw [mapped, shown]
  rfl

end Source

end Tabular
