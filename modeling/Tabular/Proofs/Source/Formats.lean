import Tabular.Proofs.Source.Calls
import Tabular.Proofs.Source.Feed
import Tabular.Source.Opening

/-!
# Sources of all formats

Every format makes its source in one of a few ways: the columns are named after header cells, after
the keys of records, or have fixed names, and the rows are cut, padded or laid out to their number.
So each source that has a schema fits it.
-/

set_option autoImplicit false

namespace Tabular

namespace Source

/-- A source that fits its schema, if it has one. -/
def Sound (source : Source) : Prop :=
  ∀ schema, source.schema? = some schema → source.Fits schema

private theorem Sound.numbered {inner : Source} (sound : inner.Sound) (given : Nat) :
    (Source.numbered inner given).Sound := by
  intro schema found
  obtain ⟨plain, inside, rfl⟩ := Option.map_eq_some_iff.mp found
  exact .numbered (sound plain inside)

/-- A table of pieces that are all shown by rows of the width of the schema. -/
theorem sound_table {α : Type} {options : ReadOptions} {found : Option Schema} {row : α → Row}
    (fitting : ∀ schema, found = some schema →
      schema.WellFormed ∧ ∀ piece, (row piece).length = schema.names.length)
    (ahead : List α) (feed : Feed α) :
    (Source.table found (ahead.map row) (options.liveRows (Feed.map row feed))).Sound := by
  rintro schema rfl
  obtain ⟨wellFormed, width⟩ := fitting schema rfl
  refine .table wellFormed (fun shown member => ?_) (fun shown member => ?_)
  · obtain ⟨piece, -, rfl⟩ := List.mem_map.mp member
    exact width piece
  · obtain ⟨piece, rfl⟩ := Feed.exists_of_mem_map (ReadOptions.mem_of_mem_liveRows member)
    exact width piece

end Source

private theorem Distinct.wellFormed {names : List String} (distinct : Distinct names) :
    Schema.WellFormed ⟨names, defaultTypes names.length⟩ :=
  ⟨List.length_replicate, distinct⟩

/-! ## Header cells -/

private theorem distinct_header (cells : List String) : Distinct (headerNames [] cells) :=
  distinct_nil.headerNames cells

theorem headerNames_append (named cells more : List String) :
    headerNames named (cells ++ more) = headerNames (headerNames named cells) more :=
  List.foldl_append

/-- Columns that are added for longer rows are named like columns with blank header cells. -/
theorem exists_grown {α : Type} (rows : List (List α)) (names : List String) :
    ∃ grown, rows.foldl (fun names fields => growNames names fields.length) names =
      headerNames names (List.replicate grown "") := by
  induction rows generalizing names with
  | nil => exact ⟨0, rfl⟩
  | cons fields rows ih =>
      obtain ⟨grown, later⟩ := ih (growNames names fields.length)
      refine ⟨fields.length - names.length + grown, ?_⟩
      rw [List.foldl_cons, later, List.replicate_add, headerNames_append, growNames]

namespace Delimited

variable {options : ReadOptions} {source : Source}

/-- The cells of the header, none if there is no header. -/
def headerCells (options : ReadOptions) (feed : Feed Fields) : List String :=
  match options.header, Feed.discard options.skip feed with
  | true, .ok (.ok fields :: _) => fields.map Utf8.stringLossy
  | _, _ => []

private theorem headerNames_headerCells {feed rest after : Feed Fields} {header : List String}
    (skipped : Feed.discard options.skip feed = .ok rest)
    (taken : takeHeader options.header rest = .ok (header, after)) :
    header = headerNames [] (headerCells options feed) := by
  rw [headerCells, skipped]
  cases wanted : options.header with
  | false =>
      rw [wanted] at taken
      cases taken
      rfl
  | true =>
      rw [wanted] at taken
      rcases rest with _ | ⟨failure | fields, rest⟩
      · cases taken
        rfl
      · cases taken
      · cases taken
        exact List.append_nil _

def shown (options : ReadOptions) (names : List String) (fields : Fields) : Row :=
  Row.fit names.length (cells options.null fields)

/-- The columns are those of the header, and as many blank ones as longer records need. -/
theorem exists_of_sourceOf {feed : Feed Fields} (made : sourceOf options feed = .ok source) :
    ∃ (names : List String) (grown : Nat) (ahead : List Fields) (rest : Feed Fields),
      names = headerNames [] (headerCells options feed ++ List.replicate grown "") ∧
      source = .table (if names.isEmpty then none else some ⟨names, defaultTypes names.length⟩)
        (ahead.map (shown options names))
        (options.liveRows (Feed.map (shown options names) rest)) := by
  obtain ⟨body, skipped, made⟩ := bind_ok made
  obtain ⟨⟨header, body⟩, headed, made⟩ := bind_ok made
  obtain ⟨⟨ahead, rest⟩, -, made⟩ := bind_ok made
  obtain ⟨grown, names⟩ := exists_grown ahead header
  refine ⟨_, grown, ahead, rest, ?_, (Except.ok.inj made).symm⟩
  rw [names, headerNames_append, headerNames_headerCells skipped headed]

theorem sound_sourceOf {feed : Feed Fields} (made : sourceOf options feed = .ok source) :
    source.Sound := by
  obtain ⟨names, grown, ahead, rest, named, rfl⟩ := exists_of_sourceOf made
  refine Source.sound_table (fun schema found => ?_) ahead rest
  obtain ⟨-, found⟩ := Option.ite_none_left_eq_some.mp found
  obtain rfl := Option.some.inj found
  exact ⟨Distinct.wellFormed (named ▸ distinct_header _), fun fields => Row.length_fit _ _⟩

/-- The records of an input, their fields trimmed where a space delimits. -/
def fieldFeed (delimiter : Char) (input : Input) : Feed Fields :=
  let feed := recordFeed (UInt8.ofNat delimiter.toNat) input
  if delimiter == ' ' then Feed.map (List.map trimField) feed else feed

theorem sourceOf_of_source {delimiter : Char} {input : Input}
    (made : Delimited.source options delimiter input = .ok source) :
    sourceOf options (fieldFeed delimiter input) = .ok source := by
  rw [Delimited.source] at made
  split at made
  · cases made
  · exact made

end Delimited

namespace Framed

variable {options : ReadOptions} {source : Source}

/-- The cells that the columns are named after. -/
def Definition.cells (definition : Definition) (first : List String) : List String :=
  if definition.names.isEmpty then (List.range first.length).map positionalName
  else definition.names

theorem exists_of_schema {definition : Definition} {first : List String} {schema : Schema}
    (made : definition.schema first = .ok schema) :
    ∃ types : List String, types.length = (definition.cells first).length ∧
      schema = ⟨headerNames [] (definition.cells first), types⟩ := by
  rw [Definition.schema, ← Definition.cells] at made
  generalize definition.cells first = names at made ⊢
  generalize (if definition.types.isEmpty then defaultTypes names.length else definition.types) =
    types at made
  split at made
  · cases made
  · rename_i matching
    have same : names.length = types.length := by simpa using matching
    exact ⟨types, same.symm, (Except.ok.inj made).symm⟩

private theorem wellFormed_schema {definition : Definition} {first : List String} {schema : Schema}
    (made : definition.schema first = .ok schema) : schema.WellFormed := by
  obtain ⟨types, matching, rfl⟩ := exists_of_schema made
  exact ⟨by simpa [length_headerNames] using matching, distinct_header _⟩

theorem sound_source {input : Input} (made : Framed.source options input = .ok source) :
    source.Sound := by
  obtain ⟨⟨definition, first, feed⟩, -, made⟩ := bind_ok made
  cases first with
  | none =>
      cases made
      intro schema found
      cases found
  | some first =>
      obtain ⟨schema, found, made⟩ := bind_ok made
      obtain ⟨⟨others, rest⟩, -, made⟩ := bind_ok made
      obtain rfl := Except.ok.inj made
      refine Source.sound_table (fun other same => ?_) _ rest
      obtain rfl := Option.some.inj same
      exact ⟨wellFormed_schema found, fun cells => Row.length_fit _ _⟩

end Framed

namespace Aligned

variable {options : ReadOptions} {source : Source}

theorem length_cutFrom (line : List Char) (start : Nat) (boundaries : List Nat) :
    (cutFrom line start boundaries).length = boundaries.length + 1 := by
  induction boundaries generalizing start with
  | nil => rfl
  | cons stop rest ih => exact congrArg (· + 1) (ih _)

theorem length_cells (boundaries : List Nat) (line : List Char) :
    (cells boundaries line).length = boundaries.length + 1 :=
  length_cutFrom line 0 boundaries

/-- The names of the columns of a sample that starts with the given line. -/
def columnNames (header : Bool) (boundaries : List Nat) (first : List Char) : List String :=
  if header then headerNames [] (cells boundaries first)
  else (List.range (boundaries.length + 1)).map positionalName

private theorem distinct_columnNames (header : Bool) (boundaries : List Nat) (first : List Char) :
    Distinct (columnNames header boundaries first) := by
  cases header with
  | false => exact distinct_positional _
  | true => exact distinct_header _

theorem length_columnNames (header : Bool) (boundaries : List Nat) (first : List Char) :
    (columnNames header boundaries first).length = boundaries.length + 1 := by
  cases header with
  | false => simp [columnNames]
  | true => simp [columnNames, length_headerNames, length_cells]

/-- The lines that the boundaries are found in, and those after them. -/
def sample (options : ReadOptions) (input : Input) :
    Result (List (List Char) × Feed (List Char)) := do
  let feed ← Feed.discard options.skip (lines input.lines)
  Feed.take (Nat.max sampleSize options.ahead) feed

theorem exists_of_source {input : Input} (made : Aligned.source options input = .ok source) :
    source = .table none [] [] ∨
      ∃ first others rest, sample options input = .ok (first :: others, rest) ∧
        ∃ (ahead : List (List Char)) (live : Feed (List Char)),
          let boundaries := boundaries first (first :: others)
          let names := columnNames options.header boundaries first
          let row := row options.null boundaries
          source = .table (some ⟨names, defaultTypes names.length⟩) (ahead.map row)
            (options.liveRows (Feed.map row live)) := by
  obtain ⟨feed, skipped, made⟩ := bind_ok made
  obtain ⟨⟨lines, rest⟩, taken, made⟩ := bind_ok made
  cases lines with
  | nil => exact .inl (Except.ok.inj made).symm
  | cons first others =>
      have found : sample options input = .ok (first :: others, rest) := by
        rw [sample, skipped]
        exact taken
      refine .inr ⟨first, others, rest, found, ?_⟩
      cases wanted : options.header with
      | false =>
          rw [wanted] at made
          refine ⟨(first :: others).take options.ahead,
            Feed.ofList ((first :: others).drop options.ahead) ++ rest, ?_⟩
          simp only [← Feed.map_ofList_append]
          exact (Except.ok.inj made).symm
      | true =>
          rw [wanted] at made
          refine ⟨others.take options.ahead, Feed.ofList (others.drop options.ahead) ++ rest, ?_⟩
          simp only [← Feed.map_ofList_append]
          exact (Except.ok.inj made).symm

theorem sound_source {input : Input} (made : Aligned.source options input = .ok source) :
    source.Sound := by
  rcases exists_of_source made with rfl | ⟨first, others, rest, -, ahead, live, rfl⟩
  · intro schema found
    cases found
  · refine Source.sound_table (fun schema found => ?_) ahead live
    obtain rfl := Option.some.inj found
    refine ⟨Distinct.wellFormed (distinct_columnNames _ _ _), fun line => ?_⟩
    rw [length_columnNames, row, List.length_map, length_cells]

end Aligned

/-! ## Fixed names -/

namespace PlainText

variable {options : ReadOptions} {source : Source}

theorem length_of_mem_rows {input : Input} {row : Row} (member : .ok row ∈ rows input) :
    row.length = 1 := by
  rw [rows, Input.feed, List.mem_append] at member
  rcases member with found | failed
  · obtain ⟨shown, inside, same⟩ := List.mem_map.mp found
    obtain ⟨line, -, rfl⟩ := List.mem_map.mp inside
    exact Except.ok.inj same ▸ rfl
  · split at failed
    · cases failed
    · simp at failed

theorem sound_source {input : Input} (made : PlainText.source options input = .ok source) :
    source.Sound := by
  obtain ⟨feed, skipped, made⟩ := bind_ok made
  obtain rfl := Except.ok.inj made
  intro schema found
  obtain rfl := Option.some.inj found
  have distinct : Distinct [column] := List.nodup_singleton _
  refine .table distinct.wellFormed (by simp) fun row member => ?_
  refine length_of_mem_rows ((Feed.suffix_of_discard skipped).subset ?_)
  split at member
  · exact List.mem_of_mem_take member
  · exact member

end PlainText

/-! ## Keys of records -/

namespace KeyedColumns

variable {columns : KeyedColumns}

theorem length_project (wellFormed : columns.WellFormed) (pairs : List (String × Cell)) :
    (columns.project pairs).length = columns.names.length := by
  rw [project, List.length_map, wellFormed.length]

theorem fitting_schema (wellFormed : columns.WellFormed) {schema : Schema}
    (found : columns.schema? = some schema) :
    schema.WellFormed ∧ schema.names = columns.names := by
  obtain ⟨-, found⟩ := Option.ite_none_left_eq_some.mp found
  obtain rfl := Option.some.inj found
  exact ⟨wellFormed.names.wellFormed, rfl⟩

end KeyedColumns

namespace Labelled

variable {options : ReadOptions} {source : Source}

/-- The records that are read ahead, and those that follow them. -/
def window (options : ReadOptions) (input : Input) :
    Result (List (List Pair) × Feed (List Pair)) := do
  let feed ← Feed.discard options.skip (records options.null 1 input.lines)
  Feed.take options.ahead feed

theorem exists_of_source {input : Input} (made : Labelled.source options input = .ok source) :
    ∃ ahead rest, window options input = .ok (ahead, rest) ∧
      let columns := KeyedColumns.ofRecords (ahead.map fun pairs => pairs.map (·.1))
      source = .table columns.schema? (ahead.map columns.project)
        (options.liveRows (Feed.map columns.project rest)) := by
  obtain ⟨feed, skipped, made⟩ := bind_ok made
  obtain ⟨⟨ahead, rest⟩, taken, made⟩ := bind_ok made
  refine ⟨ahead, rest, ?_, (Except.ok.inj made).symm⟩
  rw [window, skipped]
  exact taken

theorem sound_source {input : Input} (made : Labelled.source options input = .ok source) :
    source.Sound := by
  obtain ⟨ahead, rest, -, rfl⟩ := exists_of_source made
  have wellFormed := KeyedColumns.wellFormed_ofRecords (ahead.map fun pairs => pairs.map (·.1))
  refine Source.sound_table (fun schema found => ?_) ahead rest
  obtain ⟨fine, same⟩ := KeyedColumns.fitting_schema wellFormed found
  exact ⟨fine, fun pairs => same ▸ KeyedColumns.length_project wellFormed pairs⟩

end Labelled

namespace Documents

variable {options : ReadOptions} {source : Source}

/-- The keys of an item. -/
def keysOf : Document → List String
  | .record fields => fields.map (·.1)
  | .null => []
  | _ => [scalarColumn]

private theorem register_eq_addAll (columns : KeyedColumns) (item : Document) :
    register columns item = columns.addAll (keysOf item) := by
  cases item <;> rfl

theorem foldl_register (items : List Document) :
    items.foldl register KeyedColumns.empty = .ofRecords (items.map keysOf) := by
  rw [KeyedColumns.ofRecords, List.foldl_map]
  congr 1
  funext columns item
  exact register_eq_addAll columns item

theorem length_project {columns : KeyedColumns} (wellFormed : columns.WellFormed)
    (null : Option String) (item : Document) :
    (project null columns item).length = columns.names.length := by
  cases item with
  | record fields => exact KeyedColumns.length_project wellFormed _
  | null | bool | number | text | list => simp [project, KeyedColumns.width]

/-- The items that are read ahead, and those that follow them. -/
def window (options : ReadOptions) (feed : Feed Document) :
    Result (List Document × Feed Document) := do
  let path := match options.path with
    | some expression => Path.parse expression
    | none => ⟨[]⟩
  let feed ← Feed.discard options.skip (items path feed)
  Feed.take options.ahead feed

theorem exists_of_sourceOf {feed : Feed Document} (made : sourceOf options feed = .ok source) :
    ∃ ahead rest, window options feed = .ok (ahead, rest) ∧
      let columns := KeyedColumns.ofRecords (ahead.map keysOf)
      let row := project options.null columns
      source = .table columns.schema? (ahead.map row) (options.liveRows (Feed.map row rest)) := by
  obtain ⟨body, skipped, made⟩ := bind_ok made
  obtain ⟨⟨ahead, rest⟩, taken, made⟩ := bind_ok made
  refine ⟨ahead, rest, ?_, ?_⟩
  · rw [window]
    exact skipped ▸ taken
  · rw [← foldl_register]
    exact (Except.ok.inj made).symm

theorem sound_sourceOf {feed : Feed Document} (made : sourceOf options feed = .ok source) :
    source.Sound := by
  obtain ⟨ahead, rest, -, rfl⟩ := exists_of_sourceOf made
  have wellFormed := KeyedColumns.wellFormed_ofRecords (ahead.map keysOf)
  refine Source.sound_table (fun schema found => ?_) ahead rest
  obtain ⟨fine, same⟩ := KeyedColumns.fitting_schema wellFormed found
  exact ⟨fine, fun item => same ▸ length_project wellFormed options.null item⟩

end Documents

/-! ## Values in memory -/

namespace InMemory

variable {source : Source}

private theorem sound_ofRows {names : List String} {rows : List Row} (distinct : Distinct names)
    (width : ∀ row ∈ rows, row.length = names.length) : (ofRows names rows).Sound := by
  intro schema found
  obtain rfl := Option.some.inj found
  exact .table ⟨by simp, distinct⟩ width (by simp)

private theorem sound_ofLists {items : List Document} (made : ofLists items = .ok source) :
    source.Sound := by
  obtain ⟨lists, -, made⟩ := bind_ok made
  obtain rfl := Except.ok.inj made
  refine sound_ofRows (distinct_positional _) fun row member => ?_
  obtain ⟨list, -, rfl⟩ := List.mem_map.mp member
  simp

private theorem sound_ofRecords {items : List Document} (made : ofRecords items = .ok source) :
    source.Sound := by
  obtain ⟨records, -, made⟩ := bind_ok made
  obtain rfl := Except.ok.inj made
  have wellFormed := KeyedColumns.wellFormed_ofRecords (records.map fun fields => fields.map (·.1))
  refine sound_ofRows wellFormed.names fun row member => ?_
  obtain ⟨record, -, rfl⟩ := List.mem_map.mp member
  exact KeyedColumns.length_project wellFormed _

theorem sound_source {document : Document} (made : InMemory.source document = .ok source) :
    source.Sound := by
  have pair : Distinct [positionalName 0, positionalName 1] := distinct_positional 2
  have single : Distinct [positionalName 0] := distinct_positional 1
  have scalars (items : List Document) :
      (ofRows [positionalName 0] (items.map fun item => [cell item])).Sound := by
    refine sound_ofRows single fun row member => ?_
    obtain ⟨item, -, rfl⟩ := List.mem_map.mp member
    rfl
  cases document with
  | list items =>
      rcases items with _ | ⟨first, items⟩
      · exact Except.ok.inj made ▸ scalars []
      · cases first with
        | list => exact sound_ofLists made
        | record => exact sound_ofRecords made
        | null | bool | number | text => exact Except.ok.inj made ▸ scalars (_ :: items)
  | record fields =>
      refine Except.ok.inj made ▸ sound_ofRows pair fun row member => ?_
      obtain ⟨field, -, rfl⟩ := List.mem_map.mp member
      rfl
  | null | bool | number | text => cases made

end InMemory

namespace Source

/-- A source of an input or of a value in memory, with any number of number columns. -/
inductive Built : Source → Prop where
  | read {options : ReadOptions} {input : Input} {source : Source} :
      Source.read options input = .ok source → Built source
  | inMemory {document : Document} {source : Source} :
      InMemory.source document = .ok source → Built source
  | numbered {inner : Source} : Built inner → Built (.numbered inner 0)

private theorem sound_readPlain {options : ReadOptions} {input : Input} {source : Source}
    (made : readPlain options input = .ok source) : source.Sound := by
  rw [readPlain] at made
  cases chosen : options.format with
  | guess | csv =>
      rw [chosen] at made
      obtain ⟨delimiter, -, made⟩ := bind_ok made
      exact Delimited.sound_sourceOf (Delimited.sourceOf_of_source made)
  | tsv | psv =>
      rw [chosen] at made
      exact Delimited.sound_sourceOf (Delimited.sourceOf_of_source made)
  | ltsv =>
      rw [chosen] at made
      exact Labelled.sound_source made
  | json =>
      rw [chosen] at made
      exact Documents.sound_sourceOf made
  | yaml =>
      rw [chosen] at made
      obtain ⟨feed, -, made⟩ := bind_ok made
      exact Documents.sound_sourceOf made
  | tbln =>
      rw [chosen] at made
      exact Framed.sound_source made
  | width =>
      rw [chosen] at made
      exact Aligned.sound_source made
  | text =>
      rw [chosen] at made
      exact PlainText.sound_source made

theorem Built.sound {source : Source} (built : Built source) : source.Sound := by
  induction built with
  | @read options input source made =>
      cases plain : readPlain options input with
      | error failure =>
          rw [Source.read, plain] at made
          cases made
      | ok inner =>
          rw [Source.read, plain] at made
          obtain rfl := Except.ok.inj made
          have sound := sound_readPlain plain
          rw [numberedIf]
          split
          · exact sound.numbered 0
          · exact sound
  | inMemory made => exact InMemory.sound_source made
  | numbered _ ih => exact ih.numbered 0

/-- A source whose names are known keeps its names and types through every run of calls, gives rows
of that many cells only, the rows read ahead once and nothing after the end. -/
theorem answers_fit_of_built {source : Source} (built : Built source) {columns : List String}
    (named : source.names = .ok columns) (asks : List Ask) :
    ∃ kinds, kinds.length = columns.length ∧ source.types = .ok kinds ∧
      (source.answers asks).2.names = .ok columns ∧ (source.answers asks).2.types = .ok kinds ∧
      (∀ answer ∈ (source.answers asks).1, ∀ row ∈ answer.rows, row.length = columns.length) ∧
      (source.answers asks).1.Pairwise Answer.Precedes := by
  obtain ⟨schema, found, rfl⟩ := exists_schema named
  have fits := built.sound schema found
  have kept := fits.answers asks
  exact ⟨schema.types, fits.wellFormed.types, fits.types_eq, kept.1.names_eq, kept.1.types_eq,
    kept.2, answers_pairwise source asks⟩

/-- The lines `a,,A` and `1,2`, `3,4,5,6`, `7` after it, numbered, with calls that change places. -/
theorem answers_fit_of_built_ragged :
    ∃ source kinds,
      Source.read { header := true, ahead := 3, rowNumber := true }
        ⟨Utf8.bytes "a,,A\n1,2\n3,4,5,6\n7\n", true⟩ = .ok source ∧
      source.names = .ok ["num", "a", "c2", "A0", "c4"] ∧ kinds.length = 5 ∧
      source.types = .ok kinds ∧
      (source.answers [.next, .ahead, .next, .ahead]).2.names =
        .ok ["num", "a", "c2", "A0", "c4"] ∧
      (source.answers [.next, .ahead, .next, .ahead]).2.types = .ok kinds ∧
      (∀ answer ∈ (source.answers [.next, .ahead, .next, .ahead]).1,
        ∀ row ∈ answer.rows, row.length = 5) ∧
      (source.answers [.next, .ahead, .next, .ahead]).1.Pairwise Answer.Precedes := by
  obtain ⟨source, made, named⟩ : ∃ source,
      Source.read { header := true, ahead := 3, rowNumber := true }
        ⟨Utf8.bytes "a,,A\n1,2\n3,4,5,6\n7\n", true⟩ = .ok source ∧
      source.names = .ok ["num", "a", "c2", "A0", "c4"] :=
    bind_ok (by decide +kernel)
  obtain ⟨kinds, same, kept⟩ :=
    answers_fit_of_built (.read made) named [.next, .ahead, .next, .ahead]
  exact ⟨source, kinds, made, named, same, kept⟩

end Source

end Tabular
