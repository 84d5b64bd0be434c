import Tabular.Proofs.Sink.Lines
import Tabular.Proofs.Source.Window

/-!
# Labelled fields that are written and read back

A label ends at the first colon of its field and a field at a tab. So values with colons are read as
they were written, and a word for null is read as null when no text is that word.
-/

set_option autoImplicit false

namespace Tabular

theorem KeyedColumns.cellOf_of_mem {record : List (String × Cell)} {key : String} {cell : Cell}
    (once : (record.map Prod.fst).Nodup) (member : (key, cell) ∈ record) :
    cellOf key record = cell := by
  rw [cellOf]
  cases found : record.reverse.find? fun pair => pair.1 == key with
  | none =>
      have other := List.find?_eq_none.mp found _ (List.mem_reverse.mpr member)
      exact absurd (beq_self_eq_true key) other
  | some pair =>
      have same : pair.1 = key := eq_of_beq (by simpa using List.find?_some found)
      have inside := List.mem_reverse.mp (List.mem_of_find?_eq_some found)
      have one := List.inj_on_of_nodup_map once inside member same
      rw [one]

private theorem KeyedColumns.project_zip {labels : List String} (distinct : Distinct labels)
    {row : Row} (width : row.length = labels.length) :
    project ⟨labels, labels⟩ (labels.zip row) = row := by
  have labelled : (labels.zip row).map Prod.fst = labels := List.map_fst_zip width.ge
  have once : ((labels.zip row).map Prod.fst).Nodup := by
    rw [labelled]
    exact List.Nodup.of_map Ascii.lower distinct
  rw [project_eq_map]
  apply List.ext_getElem
  · rw [List.length_map, width]
  · intro position inside within
    rw [List.getElem_map]
    refine cellOf_of_mem once (List.mem_iff_getElem.mpr ⟨position, ?_, List.getElem_zip⟩)
    rw [List.length_zip, width, Nat.min_self, ← width]
    exact within

namespace Labelled

/-- A text without the characters that end a field or a line. -/
def Inline (text : String) : Prop :=
  '\t' ∉ text.toList ∧ '\r' ∉ text.toList ∧ '\n' ∉ text.toList

instance (text : String) : Decidable (Inline text) :=
  inferInstanceAs (Decidable (_ ∧ _ ∧ _))

/-- A cell that a field can carry: a text, or null where there is a word for it. -/
inductive Carried (null : Option String) : Cell → Prop where
  | text {value : String} (inline : Inline value) (other : null ≠ some value) :
      Carried null (.text value)
  | null {word : String} (given : null = some word) : Carried null .null

structure Table (null : Option String) (labels : List String) (rows : List Row) : Prop where
  labelled : labels ≠ []
  distinct : Distinct labels
  label : ∀ label ∈ labels, ':' ∉ label.toList ∧ Inline label
  word : ∀ word, null = some word → Inline word
  width : ∀ row ∈ rows, row.length = labels.length
  cell : ∀ row ∈ rows, ∀ cell ∈ row, Carried null cell

variable {null : Option String} {labels types : List String} {rows : List Row}

/-! ## Lines of fields -/

def field (null : Option String) (label : String) (cell : Cell) : List Char :=
  label.toList ++ ':' :: (cell.toTextOr null).toList

def body (null : Option String) (labels : List String) (row : Row) : List Char :=
  ['\t'].intercalate (List.zipWith (field null) labels row)

theorem linewise (null : Option String) (labels types : List String) :
    Sink.Linewise ⟨.labelled, null⟩ labels types [] (body null labels) where
  start := rfl
  row := by
    intro row
    have fields : (List.zipWith (fun label (cell : Cell) => label ++ ":" ++ cell.toTextOr null)
        labels row).map String.toList = List.zipWith (field null) labels row := by
      rw [List.map_zipWith]
      congr
      funext label cell
      simp only [field, String.toList_append, List.append_assoc]
      rfl
    have line : Sink.labelledRow null labels row = String.ofList (body null labels row ++ ['\n']) := by
      apply String.toList_inj.mp
      rw [Sink.labelledRow, String.toList_append, String.toList_intercalate, fields]
      exact String.toList_ofList.symm
    rw [← line]
    rfl
  finish := rfl

private theorem Carried.inline {cell : Cell} (word : ∀ word, null = some word → Inline word)
    (carried : Carried null cell) : Inline (cell.toTextOr null) := by
  cases carried with
  | text inline other => exact inline
  | null given =>
      subst given
      exact word _ rfl

private theorem Carried.read {cell : Cell} (carried : Carried null cell) :
    (Cell.ofBytes (Utf8.bytes (cell.toTextOr null))).nullIf null = cell := by
  rw [Cell.ofBytes, Utf8.string?_bytes]
  cases carried with
  | text inline other => exact Cell.nullIf_of_ne other
  | null given =>
      subst given
      exact Cell.nullIf_word _

/-- What stands in a line is the tab, or stands in a field. -/
theorem mem_body {row : Row} {c : Char} (member : c ∈ body null labels row) :
    c = '\t' ∨ ∃ label ∈ labels, ∃ cell ∈ row, c ∈ field null label cell := by
  obtain tab | ⟨part, inside, here⟩ := Text.mem_of_mem_intercalate member
  · exact .inl (List.mem_singleton.mp tab)
  · obtain ⟨⟨label, cell⟩, pair, rfl⟩ := List.mem_map.mp (List.map_uncurry_zip_eq_zipWith ▸ inside)
    obtain ⟨first, second⟩ := List.of_mem_zip pair
    exact .inr ⟨label, first, cell, second, here⟩

theorem Table.not_mem_body (table : Table null labels rows) {row : Row} (member : row ∈ rows)
    {c : Char} (tab : c ≠ '\t') (colon : c ≠ ':')
    (absent : ∀ text, Inline text → c ∉ text.toList) : c ∉ body null labels row := by
  intro inside
  obtain rfl | ⟨label, known, cell, given, here⟩ := mem_body inside
  · exact tab rfl
  · rw [field, List.mem_append, List.mem_cons] at here
    rcases here with front | rfl | back
    · exact absent label (table.label label known).2 front
    · exact colon rfl
    · exact absent _ ((table.cell row member cell given).inline table.word) back

theorem Table.colon_mem_body (table : Table null labels rows) {row : Row} (member : row ∈ rows) :
    ':' ∈ body null labels row := by
  have width := table.width row member
  have labelled := table.labelled
  cases labels with
  | nil => exact absurd rfl labelled
  | cons label labels =>
      cases row with
      | nil => cases width
      | cons cell row =>
          have inside : ':' ∈ field null label cell :=
            List.mem_append_right _ List.mem_cons_self
          exact Text.mem_intercalate_of_mem List.mem_cons_self inside

/-! ## Records of lines -/

private theorem pair_field {label : String} {cell : Cell} (plain : ':' ∉ label.toList)
    (carried : Carried null cell) (number : Nat) :
    pair null number (Utf8.encode (field null label cell)) = .ok (label, cell) := by
  have absent : 0x3A ∉ Utf8.bytes label := Utf8.not_mem_encode (by decide) plain
  have bytes : Utf8.encode (field null label cell) =
      Utf8.bytes label ++ 0x3A :: Utf8.bytes (cell.toTextOr null) := Utf8.encode_append _ _
  rw [pair, bytes, Text.dropWhile_ne_append absent, Text.takeWhile_ne_append absent,
    Utf8.stringLossy_bytes]
  exact congrArg (fun cell => Except.ok (label, cell)) carried.read

private theorem mapM_pair (plain : ∀ label ∈ labels, ':' ∉ label.toList) {row : Row}
    (carried : ∀ cell ∈ row, Carried null cell) (number : Nat) :
    ((List.zipWith (field null) labels row).map Utf8.encode).mapM (pair null number) =
      .ok (labels.zip row) := by
  induction labels generalizing row with
  | nil => rfl
  | cons label labels ih =>
      cases row with
      | nil => rfl
      | cons cell row =>
          obtain ⟨first, others⟩ := List.forall_mem_cons.mp plain
          obtain ⟨here, later⟩ := List.forall_mem_cons.mp carried
          rw [List.zipWith_cons_cons, List.map_cons, List.mapM_cons, pair_field first here,
            ih others later]
          rfl

private theorem Table.pairs_body (table : Table null labels rows) {row : Row} (member : row ∈ rows)
    (number : Nat) :
    pairs null number (Utf8.encode (body null labels row)) = .ok (labels.zip row) := by
  have plain : ∀ label ∈ labels, ':' ∉ label.toList := fun label known => (table.label label known).1
  have fields : ∀ bytes ∈ (List.zipWith (field null) labels row).map Utf8.encode, 0x09 ∉ bytes := by
    intro bytes inside
    obtain ⟨part, given, rfl⟩ := List.mem_map.mp inside
    obtain ⟨⟨label, cell⟩, pair, rfl⟩ := List.mem_map.mp (List.map_uncurry_zip_eq_zipWith ▸ given)
    obtain ⟨known, held⟩ := List.of_mem_zip pair
    refine Utf8.not_mem_encode (by decide) fun tab => ?_
    obtain front | colon | back := (List.mem_append.trans (or_congr_right List.mem_cons)).mp tab
    · exact (table.label label known).2.1 front
    · cases colon
    · exact ((table.cell row member cell held).inline table.word).1 back
  have some : (List.zipWith (field null) labels row).map Utf8.encode ≠ [] := by
    intro empty
    rw [List.map_eq_nil_iff, List.zipWith_eq_nil_iff, ← List.length_eq_zero_iff (l := row),
      table.width row member, List.length_eq_zero_iff, or_self] at empty
    exact table.labelled empty
  have split : (Utf8.encode (body null labels row)).splitOn 0x09 =
      (List.zipWith (field null) labels row).map Utf8.encode := by
    rw [body, Utf8.encode_intercalate]
    exact List.splitOn_intercalate 0x09 fields some
  rw [pairs, split, mapM_pair plain (table.cell row member)]

theorem trimReturns_of_not_mem {line : List UInt8} (absent : 0x0D ∉ line) :
    trimReturns line = line := by
  have kept : line.reverse.dropWhile (· == 0x0D) = line.reverse := by
    cases last : line.reverse with
    | nil => rfl
    | cons b rest =>
        refine List.dropWhile_cons_of_neg fun same => absent ?_
        rw [← List.mem_reverse, last, eq_of_beq same]
        exact List.mem_cons_self
  rw [trimReturns, kept, List.reverse_reverse]

theorem isBlank_of_mem {line : List UInt8} (member : 0x3A ∈ line) : isBlank line = false := by
  rw [isBlank, List.all_eq_false]
  exact ⟨0x3A, member, by decide⟩

theorem mem_encode {text : List Char} {c : Char} (member : c ∈ text) {b : UInt8}
    (byte : Utf8.encodeChar c = [b]) : b ∈ Utf8.encode text :=
  List.mem_flatMap.mpr ⟨c, member, byte ▸ List.mem_singleton_self b⟩

private theorem Table.records (table : Table null labels rows) {some : List Row}
    (inside : some ⊆ rows) (number : Nat) :
    records null number (Feed.ofList (some.map fun row => Utf8.encode (body null labels row))) =
      Feed.ofList (some.map fun row => labels.zip row) := by
  -- For some of its rows, so that the table stays the same in the induction.
  induction some generalizing number with
  | nil => rfl
  | cons row some ih =>
      obtain ⟨member, later⟩ := List.cons_subset.mp inside
      have returns : 0x0D ∉ Utf8.encode (body null labels row) :=
        Utf8.not_mem_encode (by decide) <|
          table.not_mem_body member (by decide) (by decide) fun text inline => inline.2.1
      have colon := mem_encode (table.colon_mem_body member) (b := 0x3A) rfl
      rw [List.map_cons, List.map_cons, Feed.ofList, List.map_cons, Labelled.records,
        trimReturns_of_not_mem returns, isBlank_of_mem colon, if_neg Bool.false_ne_true,
        table.pairs_body member]
      exact congrArg _ (ih later (number + 1))

/-! ## Tables -/

private theorem Table.columns (table : Table null labels rows) (inhabited : rows ≠ []) {count : Nat}
    (window : 1 ≤ count) :
    KeyedColumns.ofRecords (((rows.map fun row => labels.zip row).take count).map fun pairs =>
      pairs.map (·.1)) = ⟨labels, labels⟩ := by
  obtain ⟨row, rest, rfl⟩ := List.exists_cons_of_ne_nil inhabited
  obtain ⟨count, rfl⟩ := Nat.exists_eq_add_of_le' window
  have keys : (((row :: rest).map fun row => labels.zip row).take (count + 1)).map
      (fun pairs => pairs.map (·.1)) = List.replicate ((rest.take count).length + 1) labels := by
    refine List.eq_replicate_iff.mpr ⟨?_, ?_⟩
    · simp only [List.map_cons, List.take_succ_cons, List.length_cons, List.length_map,
        List.length_take]
    · intro keys member
      obtain ⟨record, taken, rfl⟩ := List.mem_map.mp member
      obtain ⟨row, given, rfl⟩ := List.mem_map.mp (List.mem_of_mem_take taken)
      exact List.map_fst_zip (table.width row given).ge
  rw [keys, KeyedColumns.ofRecords_replicate table.distinct]

/-- A written table is read as it was: the labels are the names, and the rows are read in order,
first those of the window. -/
theorem labelled_round_trip {write : WriteOptions} {read : ReadOptions} (format : write.format = .ltsv)
    (same : read.null = write.null) (fromStart : read.skip = 0) (window : 1 ≤ read.ahead)
    (whole : read.onlyAhead = false) (types : List String)
    (table : Table write.null labels rows) (inhabited : rows ≠ []) :
    ∃ sink output source, Sink.ofOptions write = .ok sink ∧
      Run.writeResult TextOutput.writer ⟨labels, types, Feed.ofList rows⟩ { sink } =
        (.ok (), output) ∧
      Labelled.source read ⟨Utf8.bytes output.text, true⟩ = .ok source ∧
      source.names = .ok labels ∧
      source.takeAhead.1 = rows.take read.ahead ∧
      source.rows = Feed.ofList rows := by
  have made : Sink.ofOptions write = .ok ⟨.labelled, write.null⟩ := by
    rw [Sink.ofOptions, format]
    rfl
  have oneLine : ∀ line ∈ [] ++ rows.map (body write.null labels), '\n' ∉ line := by
    intro line member
    obtain ⟨row, given, rfl⟩ := List.mem_map.mp member
    exact table.not_mem_body given (by decide) (by decide) fun text inline => inline.2.2
  obtain ⟨output, written, lines⟩ := (linewise write.null labels types).lines rows oneLine
  rw [List.nil_append, List.map_map] at lines
  have columns := table.columns inhabited window
  have projected : (rows.map fun row => labels.zip row).map (KeyedColumns.project ⟨labels, labels⟩) =
      rows := by
    rw [List.map_map]
    refine (List.map_congr_left fun row given => ?_).trans (List.map_id rows)
    exact KeyedColumns.project_zip table.distinct (table.width row given)
  have found : Labelled.source read ⟨Utf8.bytes output.text, true⟩ = .ok (.table
      (KeyedColumns.schema? ⟨labels, labels⟩)
      (((rows.map fun row => labels.zip row).take read.ahead).map
        (KeyedColumns.project ⟨labels, labels⟩))
      (read.liveRows (Feed.map (KeyedColumns.project ⟨labels, labels⟩)
        (Feed.ofList ((rows.map fun row => labels.zip row).drop read.ahead))))) := by
    have records : Labelled.records read.null 1 (Input.lines ⟨Utf8.bytes output.text, true⟩) =
        Feed.ofList (rows.map fun row => labels.zip row) := by
      rw [lines, same]
      exact table.records (List.Subset.refl rows) 1
    rw [Labelled.source, records, fromStart, Feed.discard]
    change (Feed.take read.ahead _ >>= _) = _
    rw [Feed.take_ofList]
    change Except.ok _ = _
    rw [columns]
  refine ⟨_, output, _, made, written, found, ?names, ?ahead, ?rows⟩
  case names =>
    have some : labels.isEmpty = false := List.isEmpty_eq_false_iff.mpr table.labelled
    simp only [Source.names, Source.schema, Source.schema?, KeyedColumns.schema?, some]
    rfl
  case ahead =>
    rw [Source.takeAhead, List.map_take, projected]
  case rows =>
    rw [Source.rows_window whole, projected]

/-- Values with colons and an empty value, a null, and a row behind the window. -/
theorem labelled_round_trip_colons :
    let write : WriteOptions := { format := .ltsv, null := some "-" }
    let read : ReadOptions := { null := some "-" }
    let labels := ["time", "Note"]
    let rows : List Row := [[.text "10:20:30", .null], [.text "", .text ":a: b:"]]
    Table write.null labels rows ∧ ∃ sink output source, Sink.ofOptions write = .ok sink ∧
      Run.writeResult TextOutput.writer ⟨labels, ["text", "text"], Feed.ofList rows⟩ { sink } =
        (.ok (), output) ∧
      Labelled.source read ⟨Utf8.bytes output.text, true⟩ = .ok source ∧
      source.names = .ok labels ∧
      source.takeAhead.1 = rows.take read.ahead ∧
      source.rows = Feed.ofList rows := by
  intro write read labels rows
  have table : Table write.null labels rows := by
    refine ⟨by decide, by decide +kernel, by decide +kernel, ?word, by decide, ?cell⟩
    case word =>
      rintro word ⟨⟩
      decide +kernel
    case cell =>
      simp only [rows, List.forall_mem_cons, List.not_mem_nil, false_imp_iff, implies_true, and_true]
      exact ⟨⟨.text (by decide +kernel) (by decide), .null rfl⟩,
        .text (by decide +kernel) (by decide), .text (by decide +kernel) (by decide)⟩
  exact ⟨table, labelled_round_trip rfl rfl rfl (by decide) rfl _ table (by decide)⟩

end Labelled

end Tabular
