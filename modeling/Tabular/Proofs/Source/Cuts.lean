import Tabular.Proofs.Source.Window
import Tabular.Proofs.Text.Blank

/-!
# Aligned lines, cut and sampled

Whatever the positions a line is cut at, its pieces are the line. And however many rows are read
ahead, up to the size of the sample, the lines that are not blank are those of the rows, each once
and in order: those of the sample first, then those behind it.
-/

set_option autoImplicit false

namespace Tabular.Aligned

/-! ## Slices of a line -/

/-- The slices of a text of the given length that end at the given stops. A stop before the start of
its slice stands for that start, a stop past the end for the end. -/
def slicesFrom (length start : Nat) : List Nat → List (Nat × Nat)
  | [] => []
  | stop :: rest =>
    let stop := min (max stop start) length
    (min start length, stop) :: slicesFrom length stop rest

/-- The slices that boundaries cut a text of the given length into. -/
def slices (boundaries : List Nat) (length : Nat) : List (Nat × Nat) :=
  slicesFrom length 0 (boundaries ++ [length])

theorem bounds_of_mem_slicesFrom {length start : Nat} {stops : List Nat} {slice : Nat × Nat}
    (member : slice ∈ slicesFrom length start stops) :
    slice.1 ≤ slice.2 ∧ slice.2 ≤ length := by
  induction stops generalizing start with
  | nil => cases member
  | cons stop stops ih =>
      rcases List.mem_cons.mp member with rfl | later
      · dsimp only
        omega
      · exact ih later

variable {line : List Char}

theorem extract_append_drop (line : List Char) {start stop : Nat} (ordered : start ≤ stop) :
    line.extract start stop ++ line.drop stop = line.drop start := by
  have rest : line.drop stop = (line.drop start).drop (stop - start) := by
    rw [List.drop_drop, Nat.add_sub_cancel' ordered]
  rw [List.extract_eq_take_drop, rest, List.take_append_drop]

/-- The slices of a line put together are the line. -/
theorem flatMap_extract_slicesFrom {start : Nat} (inside : start ≤ line.length)
    (boundaries : List Nat) :
    (slicesFrom line.length start (boundaries ++ [line.length])).flatMap
        (fun slice => line.extract slice.1 slice.2) = line.drop start := by
  induction boundaries generalizing start with
  | nil =>
      have last : min (max line.length start) line.length = line.length := by omega
      simp only [List.nil_append, slicesFrom, last, Nat.min_eq_left inside, List.flatMap_cons,
        List.flatMap_nil, List.append_nil]
      have whole := extract_append_drop line inside
      rwa [List.drop_length, List.append_nil] at whole
  | cons stop boundaries ih =>
      have ordered : start ≤ min (max stop start) line.length := by omega
      simp only [List.cons_append, slicesFrom, List.flatMap_cons, ih (Nat.min_le_right _ _),
        Nat.min_eq_left inside]
      exact extract_append_drop line ordered

private theorem cut_eq {start : Nat} (inside : start ≤ line.length) (stop : Nat) :
    cut line start stop =
      String.ofList (Text.trim (line.extract start (min (max stop start) line.length))) := by
  rw [cut, List.extract_eq_take_drop]
  congr 2
  refine List.take_eq_take_iff.mpr ?_
  simp only [Nat.max_def, List.length_drop]
  split <;> omega

private theorem cutFrom_eq {start : Nat} (inside : start ≤ line.length) (boundaries : List Nat) :
    cutFrom line start boundaries =
      (slicesFrom line.length start (boundaries ++ [line.length])).map fun slice =>
        String.ofList (Text.trim (line.extract slice.1 slice.2)) := by
  induction boundaries generalizing start with
  | nil =>
      simp only [cutFrom, List.nil_append, slicesFrom, List.map_cons, List.map_nil,
        Nat.min_eq_left inside, cut_eq inside]
  | cons stop boundaries ih =>
      simp only [cutFrom, List.cons_append, slicesFrom, List.map_cons, Nat.min_eq_left inside,
        cut_eq inside]
      exact congrArg _ (ih (Nat.min_le_right _ _))

/-- The cells of a line are its slices without the blanks around them. -/
theorem cells_eq (boundaries : List Nat) (line : List Char) :
    cells boundaries line = (slices boundaries line.length).map fun slice =>
      String.ofList (Text.trim (line.extract slice.1 slice.2)) :=
  cutFrom_eq (Nat.zero_le _) boundaries

/-- Cells have all characters of their line that are not blank, in order. -/
theorem flatMap_solid_cells (boundaries : List Nat) (line : List Char) :
    (cells boundaries line).flatMap (fun cell => Text.solid cell.toList) = Text.solid line := by
  have whole : (slices boundaries line.length).flatMap
      (fun slice => line.extract slice.1 slice.2) = line :=
    flatMap_extract_slicesFrom (Nat.zero_le _) boundaries
  rw [cells_eq, List.flatMap_map]
  simp only [String.toList_ofList, Text.solid_trim]
  rw [Text.solid, ← whole, List.filter_flatMap, whole]
  rfl

end Tabular.Aligned

namespace Tabular

/-! ## Lines up to a failure -/

namespace Input

/-- The lines that can be read: all, or those with a line feed where reading fails. -/
def wholeLines (input : Input) : List Line :=
  let all := Line.split input.bytes
  if input.intact then all else all.filter Line.ended

/-- What comes behind the lines. -/
def ending {α : Type} (input : Input) : Feed α :=
  if input.intact then [] else [.error .io]

variable {α β : Type}

private theorem lines_eq (input : Input) :
    input.lines = Feed.ofList (input.wholeLines.map Line.body) ++ input.ending := by
  rw [lines, wholeLines, ending, Feed.ofList, List.map_map]
  cases input.intact with
  | true => exact (List.append_nil _).symm
  | false => rfl

private theorem map_ending (f : α → β) (input : Input) :
    Feed.map f input.ending = input.ending := by
  simp only [ending]
  cases input.intact <;> rfl

variable {input : Input} {count : Nat} {pieces : List α}

private theorem discard_ending (enough : input.intact = true ∨ count ≤ pieces.length) :
    Feed.discard count (Feed.ofList pieces ++ input.ending) =
      .ok (Feed.ofList (pieces.drop count) ++ input.ending) := by
  rcases enough with intact | long
  · rw [ending, if_pos intact, List.append_nil, List.append_nil]
    exact Feed.discard_ofList count pieces
  · exact Feed.discard_ofList_append long

private theorem take_ending (enough : input.intact = true ∨ count ≤ pieces.length) :
    Feed.take count (Feed.ofList pieces ++ input.ending) =
      .ok (pieces.take count, Feed.ofList (pieces.drop count) ++ input.ending) := by
  rcases enough with intact | long
  · rw [ending, if_pos intact, List.append_nil, List.append_nil]
    exact Feed.take_ofList count pieces
  · exact Feed.take_ofList_append long

end Input

namespace Aligned

/-- The texts of lines that have a character that is not blank, tabs expanded. -/
def solidTexts (bodies : List (List UInt8)) : List (List Char) :=
  ((bodies.map fun body => Text.trimLineEnd (Utf8.decodeLossy body)).filter
    fun text => !(Text.solid text).isEmpty).map expandTabs

def solidLines (input : Input) : List (List Char) :=
  solidTexts (input.wholeLines.map Line.body)

theorem lines_ofList_append (bodies : List (List UInt8)) (rest : Feed (List UInt8)) :
    lines (Feed.ofList bodies ++ rest) = Feed.ofList (solidTexts bodies) ++ lines rest := by
  induction bodies with
  | nil => rfl
  | cons body bodies ih =>
      have step : lines (Feed.ofList (body :: bodies) ++ rest) =
          if (Text.trim (Text.trimLineEnd (Utf8.decodeLossy body))).isEmpty
          then lines (Feed.ofList bodies ++ rest)
          else .ok (expandTabs (Text.trimLineEnd (Utf8.decodeLossy body))) ::
            lines (Feed.ofList bodies ++ rest) := rfl
      rw [step, ih]
      by_cases empty : Text.solid (Text.trimLineEnd (Utf8.decodeLossy body)) = []
      · simp [solidTexts, Text.trim_eq_nil_iff, empty]
      · simp [solidTexts, Text.trim_eq_nil_iff, empty, Feed.ofList]

private theorem lines_input (input : Input) :
    lines input.lines = Feed.ofList (solidLines input) ++ input.ending := by
  have last : lines input.ending = input.ending := by
    simp only [Input.ending]
    cases input.intact <;> rfl
  rw [Input.lines_eq, lines_ofList_append, last]
  rfl

/-! ## Sampled lines -/

/-- The boundaries that the first lines of a text have in common. -/
def sampledBoundaries (texts : List (List Char)) : List Nat :=
  match texts.take sampleSize with
  | [] => []
  | first :: others => boundaries first (first :: others)

def schemaOf (header : Bool) (texts : List (List Char)) : Option Schema :=
  texts.head?.map fun first =>
    let names := columnNames header (sampledBoundaries texts) first
    ⟨names, defaultTypes names.length⟩

/-- The lines that have a row. -/
def bodyOf (header : Bool) (texts : List (List Char)) : List (List Char) :=
  if header then texts.drop 1 else texts

theorem bodyOf_take_append_drop (header : Bool) (count : Nat) (texts : List (List Char)) :
    bodyOf header (texts.take (count + 1)) ++ texts.drop (count + 1) = bodyOf header texts := by
  cases header with
  | false => exact List.take_append_drop _ _
  | true =>
      cases texts with
      | nil => rfl
      | cons first texts => exact List.take_append_drop _ _

variable {options : ReadOptions} {input : Input}

/-- The table of an input. The rest of the sample waits in front of the lines behind it. -/
def tableOf (options : ReadOptions) (input : Input) : Source :=
  let texts := (solidLines input).drop options.skip
  let sample := bodyOf options.header (texts.take sampleSize)
  let row := row options.null (sampledBoundaries texts)
  .table (schemaOf options.header texts) ((sample.take options.ahead).map row)
    (options.liveRows ((sample.drop options.ahead).map (fun line => .ok (row line)) ++
      Feed.map row (Feed.ofList (texts.drop sampleSize) ++ input.ending)))

/-- Whether an input can be read up to the end of the sample. -/
def Sampled (options : ReadOptions) (input : Input) : Prop :=
  input.intact = true ∨ options.skip + sampleSize ≤ (solidLines input).length

private theorem source_of_sampled (few : options.ahead ≤ sampleSize)
    (enough : Sampled options input) :
    Aligned.source options input = .ok (tableOf options input) := by
  have skipped : input.intact = true ∨ options.skip ≤ (solidLines input).length :=
    enough.imp_right fun long => Nat.le_trans (Nat.le_add_right _ _) long
  have sampled : input.intact = true ∨
      sampleSize ≤ ((solidLines input).drop options.skip).length := by
    refine enough.imp_right fun long => ?_
    rw [List.length_drop]
    exact Nat.le_sub_of_add_le' long
  have size : Nat.max sampleSize options.ahead = sampleSize := Nat.max_eq_left few
  rw [Aligned.source, lines_input, Input.discard_ending skipped]
  change (Feed.take (Nat.max sampleSize options.ahead) _ >>= _) = _
  rw [size, Input.take_ending sampled, tableOf]
  generalize (solidLines input).drop options.skip = texts at sampled ⊢
  cases texts with
  | nil =>
      have whole : input.intact = true := by simpa [sampleSize] using sampled
      have empty : bodyOf options.header [] = [] := by
        cases options.header <;> rfl
      have idle : options.liveRows ([] : Feed Row) = [] := by
        simp [ReadOptions.liveRows]
      simp only [List.take_nil, List.drop_nil, empty, Input.ending, whole, if_true]
      exact (congrArg (fun live => Except.ok (Source.table none [] live)) idle).symm
  | cons first texts =>
      cases header : options.header with
      | false => rfl
      | true => rfl

private theorem rows_tableOf (wanted : options.onlyAhead = false) :
    let texts := (solidLines input).drop options.skip
    (tableOf options input).rows = Feed.ofList ((bodyOf options.header texts).map
      (row options.null (sampledBoundaries texts))) ++ input.ending := by
  intro texts
  let row := row options.null (sampledBoundaries texts)
  let sample := bodyOf options.header (texts.take sampleSize)
  have live : (tableOf options input).rows = Feed.ofList ((sample.take options.ahead).map row) ++
      ((sample.drop options.ahead).map (fun line => .ok (row line)) ++
        Feed.map row (Feed.ofList (texts.drop sampleSize) ++ input.ending)) := by
    simp only [Source.rows, tableOf, Source.takeAhead, Source.live, ReadOptions.liveRows, wanted,
      Bool.false_eq_true, if_false]
    rfl
  have joined : bodyOf options.header texts = sample ++ texts.drop sampleSize :=
    (bodyOf_take_append_drop options.header 999 texts).symm
  have ahead : sample.map row = (sample.take options.ahead).map row ++
      (sample.drop options.ahead).map row := by
    rw [← List.map_append, List.take_append_drop]
  rw [live, Feed.map_ofList_append, joined, List.map_append, ahead]
  simp only [Feed.map_append, Feed.map_ofList, Input.map_ending, Feed.ofList_append,
    List.append_assoc]
  rfl

private theorem source_of_not_sampled (few : options.ahead ≤ sampleSize)
    (short : ¬ Sampled options input) : Aligned.source options input = .error .io := by
  obtain ⟨broken, long⟩ := not_or.mp short
  have ending : input.ending = ([.error .io] : Feed (List Char)) := if_neg broken
  have size : Nat.max sampleSize options.ahead = sampleSize := Nat.max_eq_left few
  rw [Aligned.source, lines_input, ending]
  rcases Nat.lt_or_ge (solidLines input).length options.skip with fewer | many
  · rw [Feed.discard_of_error fewer]
    rfl
  · rw [Feed.discard_ofList_append many]
    change (Feed.take (Nat.max sampleSize options.ahead) _ >>= _) = _
    rw [size, Feed.take_of_error]
    · rfl
    · rw [List.length_drop]
      omega

/-- However a line is cut, its slices lie within it, one more than there are boundaries, and the cells
have all of its characters that are not blank, in order. The lines of an input that are not blank are
those of the rows, each once and in order, but for the header and the discarded ones. The names, the
boundaries and the rows are the same however many rows are read ahead, as long as they are no more
than the sample; where reading fails within the sample there is no source. -/
theorem lines_kept :
    (∀ (line : List Char) (boundaries : List Nat),
      let slices := slices boundaries line.length
      (∀ slice ∈ slices, slice.1 ≤ slice.2 ∧ slice.2 ≤ line.length) ∧
      cells boundaries line = slices.map (fun slice =>
        String.ofList (Text.trim (line.extract slice.1 slice.2))) ∧
      (cells boundaries line).length = boundaries.length + 1 ∧
      (cells boundaries line).flatMap (fun cell => Text.solid cell.toList) = Text.solid line) ∧
    ∀ (options : ReadOptions) (input : Input), options.onlyAhead = false →
      let texts := (solidLines input).drop options.skip
      (input.intact = true ∨ options.skip + 1000 ≤ (solidLines input).length →
        ∀ ahead ≤ 1000, ∃ source,
          Aligned.source { options with ahead := ahead } input = .ok source ∧
          source.schema? = schemaOf options.header texts ∧
          source.rows = Feed.ofList ((bodyOf options.header texts).map
            (row options.null (sampledBoundaries texts))) ++ input.ending) ∧
      (¬ (input.intact = true ∨ options.skip + 1000 ≤ (solidLines input).length) →
        ∀ ahead ≤ 1000, Aligned.source { options with ahead := ahead } input = .error .io) := by
  refine ⟨?cut, ?read⟩
  case cut =>
    intro line boundaries slices
    refine ⟨fun slice => bounds_of_mem_slicesFrom, cells_eq boundaries line,
      length_cells boundaries line, flatMap_solid_cells boundaries line⟩
  case read =>
    intro options input wanted texts
    refine ⟨fun enough ahead few => ?_, fun short ahead few => ?_⟩
    · have sampled : Sampled { options with ahead := ahead } input := enough
      exact ⟨_, source_of_sampled few sampled, rfl, rows_tableOf wanted⟩
    · have broken : ¬ Sampled { options with ahead := ahead } input := short
      exact source_of_not_sampled few broken

/-- A line to discard, a header with a tab, a blank line, a line with a carriage return and a cell
that is null, read with no row ahead, with two and with all. -/
theorem lines_kept_tabs :
    let options : ReadOptions := { header := true, skip := 1, null := some "-" }
    let input : Input := ⟨Utf8.bytes "noise\nPID\tNAME\n \t\n 1\ta b\r\n22\t-\n", true⟩
    options.onlyAhead = false ∧ input.intact = true ∧
      (∀ ahead ∈ [0, 2, 1000], ahead ≤ 1000 ∧ ∃ source,
        Aligned.source { options with ahead := ahead } input = .ok source ∧
        source.columns = ["PID", "NAME"] ∧
        source.rows = Feed.ofList [[.text "1", .text "a b"], [.text "22", .null]]) ∧
      Aligned.source options { input with intact := false } = .error .io := by
  intro options input
  have wanted : options.onlyAhead = false := rfl
  have small : ∀ ahead ∈ [0, 2, 1000], ahead ≤ 1000 := by decide
  refine ⟨wanted, rfl, fun ahead member => ?_, ?_⟩
  · have few := small ahead member
    obtain ⟨source, made, schema, rows⟩ := (lines_kept.2 options input wanted).1 (.inl rfl) ahead few
    refine ⟨few, source, made, ?_, rows.trans (by decide +kernel)⟩
    rw [Source.columns, schema]
    decide +kernel
  · refine (lines_kept.2 options { input with intact := false } wanted).2 ?_ 1 (by decide)
    decide +kernel

end Aligned

end Tabular
