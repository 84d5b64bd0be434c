import Tabular.Proofs.Source.Concatenation
import Tabular.Proofs.Source.Window

/-!
# The first line that is refused

Labelled fields are read when every line is blank or has a label in each of its fields. If one is
neither, the first such line is the failure that is met, with its number and the first of its fields
without a colon: in place of the source when the line is among those that are discarded or read
ahead, and behind the rows of all lines before it otherwise.
-/

set_option autoImplicit false

namespace Tabular

/-! ## Rows handed out to the end -/

namespace Source

variable {schema : Option Schema}

/-- A source that hands out the rows read ahead, then the others one by one, and then its end or a
failure. -/
def Drains (source : Source) (ahead live : List Row) (ending : Result (Option Row)) : Prop :=
  (source.answers (.ahead :: List.replicate (live.length + 1) .next)).1 =
    .ahead ahead :: live.map (fun row => .next (.ok (some row))) ++ [.next ending]

private theorem answers_replicate_next (schema : Option Schema) (ahead live : List Row)
    (rest : Feed Row) :
    ((table schema ahead (Feed.ofList live ++ rest)).answers
        (List.replicate (live.length + 1) .next)).1 =
      live.map (fun row => .next (.ok (some row))) ++ [.next (table schema ahead rest).next.1] := by
  induction live with
  | nil => rfl
  | cons row live ih =>
      rw [List.map_cons, List.cons_append, ← ih]
      rfl

private theorem drains_table (schema : Option Schema) (ahead live : List Row) (rest : Feed Row) :
    (table schema ahead (Feed.ofList live ++ rest)).Drains ahead live
      (table schema [] rest).next.1 := by
  have others := answers_replicate_next schema [] live rest
  rw [Drains, List.cons_append, ← others]
  rfl

private theorem Drains.exists_error {source : Source} {ahead live : List Row} {failure : Error}
    (drains : source.Drains ahead live (.error failure)) :
    ∃ asks, .next (.error failure) ∈ (source.answers asks).1 := by
  refine ⟨.ahead :: List.replicate (live.length + 1) .next, ?_⟩
  rw [drains]
  simp

/-- Without a failure in the feed no call fails. -/
theorem answers_of_ofList (ahead live : List Row) (asks : List Ask) (failure : Error) :
    .next (.error failure) ∉ ((table schema ahead (Feed.ofList live)).answers asks).1 := by
  induction asks generalizing ahead live with
  | nil => simp [answers]
  | cons ask asks ih =>
      intro member
      cases ask with
      | ahead =>
          rcases List.mem_cons.mp member with here | later
          · cases here
          · exact ih [] live later
      | next =>
          cases live with
          | nil =>
              rcases List.mem_cons.mp member with here | later
              · cases here
              · exact ih ahead [] later
          | cons row live =>
              rcases List.mem_cons.mp member with here | later
              · cases here
              · exact ih ahead live later

end Source

/-! ## Lines that are refused -/

private theorem exists_first_not {α : Type} {accepts : α → Prop} {items : List α}
    (refused : ¬∀ item ∈ items, accepts item) :
    ∃ before item after, items = before ++ item :: after ∧ (∀ other ∈ before, accepts other) ∧
      ¬accepts item := by
  classical
  obtain ⟨other, member, wrong⟩ : ∃ item ∈ items, ¬accepts item := by simpa using refused
  have some : (items.find? fun item => ¬accepts item).isSome :=
    List.find?_isSome.mpr ⟨other, member, by simpa using wrong⟩
  obtain ⟨item, found⟩ := Option.isSome_iff_exists.mp some
  obtain ⟨first, before, after, parted, fine⟩ := List.find?_eq_some_iff_append.mp found
  exact ⟨before, item, after, parted, by simpa using fine, by simpa using first⟩

namespace Labelled

/-- A line that is blank, or has a label in each of its fields. -/
def Accepted (line : Line) : Prop :=
  isBlank line.body = true ∨ ∀ field ∈ (trimReturns line.body).splitOn 0x09, 0x3A ∈ field

/-- The lines in front of the first one that is refused, and the first field of this line that has no
colon. -/
inductive Refused : List Line → List Line → List UInt8 → Prop where
  | line {before after : List Line} {line : Line} {fields others : List (List UInt8)}
      {field : List UInt8} :
      (∀ earlier ∈ before, Accepted earlier) → isBlank line.body = false →
      (trimReturns line.body).splitOn 0x09 = fields ++ field :: others →
      (∀ earlier ∈ fields, 0x3A ∈ earlier) → 0x3A ∉ field →
      Refused (before ++ line :: after) before field

variable {lines before : List Line} {field : List UInt8}

private theorem Accepted.wellFormed {line : Line} (accepted : Accepted line) :
    WellFormed line.body := by
  rw [WellFormed, isBlank_trimReturns]
  exact accepted

private theorem exists_refused (refused : ¬∀ line ∈ lines, Accepted line) :
    ∃ before field, Refused lines before field := by
  obtain ⟨before, line, after, rfl, fine, wrong⟩ := exists_first_not refused
  obtain ⟨solid, unlabelled⟩ := not_or.mp wrong
  obtain ⟨fields, field, others, split, labelled, missing⟩ := exists_first_not unlabelled
  exact ⟨before, field, .line fine (Bool.eq_false_iff.mpr solid) split labelled missing⟩

theorem pair_of_not_mem (missing : 0x3A ∉ field) (null : Option String) (number : Nat) :
    pair null number field = .error (.invalidColumn number (Utf8.stringLossy field)) := by
  have none : field.dropWhile (· != 0x3A) = [] :=
    List.dropWhile_eq_nil_iff.mpr (Text.forall_ne_of_not_mem missing)
  rw [pair, none]

theorem mapM_pair_of_not_mem {fields : List (List UInt8)} (labelled : ∀ field ∈ fields, 0x3A ∈ field)
    (missing : 0x3A ∉ field) (others : List (List UInt8)) (null : Option String) (number : Nat) :
    (fields ++ field :: others).mapM (pair null number) =
      .error (.invalidColumn number (Utf8.stringLossy field)) := by
  induction fields with
  | nil =>
      rw [List.nil_append, List.mapM_cons, pair_of_not_mem missing]
      rfl
  | cons first fields ih =>
      obtain ⟨colon, later⟩ := List.forall_mem_cons.mp labelled
      rw [List.cons_append, List.mapM_cons, pair_of_colon colon, ih later]
      rfl

/-- The failure for a field without a colon, behind the given lines. -/
def failure (before : List Line) (field : List UInt8) : Error :=
  .invalidColumn (before.length + 1) (Utf8.stringLossy field)

/-- The records of a text up to the first line that is refused. -/
theorem Refused.records (refused : Refused lines before field) (null : Option String) :
    ∃ rest, records null 1 (lines.map fun line => .ok line.body) =
      Feed.ofList (recordsOf null (before.map Line.body)) ++ .error (failure before field) :: rest := by
  cases refused with
  | @line _ after line fields others _ accepted solid split labelled missing =>
      have fine : ∀ body ∈ before.map Line.body, WellFormed body := by
        intro body member
        obtain ⟨earlier, inside, rfl⟩ := List.mem_map.mp member
        exact (accepted earlier inside).wellFormed
      have front : (before ++ line :: after).map (fun line => Except.ok (ε := Error) line.body) =
          Feed.ofList (before.map Line.body) ++
            .ok line.body :: after.map fun line => .ok line.body := by
        simp [Feed.ofList]
      rw [front, records_append fine, records_of_solid solid, pairs, split,
        mapM_pair_of_not_mem labelled missing, List.length_map, Nat.add_comm 1]
      exact ⟨_, rfl⟩

/-! ## Sources of lines -/

/-- The records of lines, without those that are discarded. -/
def kept (options : ReadOptions) (lines : List Line) : List Record :=
  (recordsOf options.null (lines.map Line.body)).drop options.skip

/-- The columns for the labels of the records read ahead. -/
def columnsOf (options : ReadOptions) (lines : List Line) : KeyedColumns :=
  Record.columns ((kept options lines).take options.ahead)

def rowsOf (options : ReadOptions) (lines : List Line) : List Row :=
  (kept options lines).map (columnsOf options lines).project

/-- The number of lines that are not blank. -/
def filled (lines : List Line) : Nat :=
  lines.countP fun line => !isBlank line.body

theorem length_recordsOf (null : Option String) (lines : List Line) :
    (recordsOf null (lines.map Line.body)).length = filled lines := by
  rw [recordsOf, List.length_map, List.filter_map, List.length_map, filled,
    List.countP_eq_length_filter]
  rfl

variable {options : ReadOptions} {bytes : List UInt8} {rest : Feed Record}

private theorem source_of_le (wanted : options.onlyAhead = false)
    (read : records options.null 1 ((Line.split bytes).map fun line => .ok line.body) =
      Feed.ofList (recordsOf options.null (before.map Line.body)) ++ rest)
    (enough : options.skip + options.ahead ≤ filled before) :
    source options ⟨bytes, true⟩ = .ok (.table (columnsOf options before).schema?
      ((rowsOf options before).take options.ahead)
      (Feed.ofList ((rowsOf options before).drop options.ahead) ++
        Feed.map (columnsOf options before).project rest)) := by
  rw [← length_recordsOf options.null] at enough
  rw [source, Input.lines_of_intact, read, Feed.take_discard_of_le enough]
  rw [rowsOf, ← List.map_take, ← List.map_drop, ← Feed.map_ofList, ← Feed.map_append]
  simp only [ReadOptions.liveRows, wanted]
  rfl

private theorem source_of_lt {error : Error}
    (read : records options.null 1 ((Line.split bytes).map fun line => .ok line.body) =
      Feed.ofList (recordsOf options.null (before.map Line.body)) ++ .error error :: rest)
    (few : filled before < options.skip + options.ahead) :
    source options ⟨bytes, true⟩ = .error error := by
  rw [← length_recordsOf options.null] at few
  rw [source, Input.lines_of_intact, read, Feed.take_discard_of_lt few]

private theorem source_of_accepted (wanted : options.onlyAhead = false)
    (accepted : ∀ line ∈ Line.split bytes, Accepted line) :
    ∃ schema, source options ⟨bytes, true⟩ = .ok (.table schema
      ((rowsOf options (Line.split bytes)).take options.ahead)
      (Feed.ofList ((rowsOf options (Line.split bytes)).drop options.ahead))) := by
  have fine : ∀ body ∈ (Line.split bytes).map Line.body, WellFormed body := by
    intro body member
    obtain ⟨line, inside, rfl⟩ := List.mem_map.mp member
    exact (accepted line inside).wellFormed
  have lines : Input.lines ⟨bytes, true⟩ = Feed.ofList ((Line.split bytes).map Line.body) := by
    rw [Input.lines_of_intact, Feed.ofList, List.map_map]
    rfl
  have read := records_ofList fine options.null 1
  rw [← lines] at read
  refine ⟨(columnsOf options (Line.split bytes)).schema?, ?_⟩
  rw [source_ofList read, Source.keyed, Feed.map_ofList, ReadOptions.liveRows, wanted, rowsOf,
    ← List.map_take, ← List.map_drop]
  rfl

private theorem source_of_refused (wanted : options.onlyAhead = false)
    (refused : Refused (Line.split bytes) before field) :
    (filled before < options.skip + options.ahead →
      source options ⟨bytes, true⟩ = .error (failure before field)) ∧
    (options.skip + options.ahead ≤ filled before →
      ∃ made, source options ⟨bytes, true⟩ = .ok made ∧
        made.Drains ((rowsOf options before).take options.ahead)
          ((rowsOf options before).drop options.ahead) (.error (failure before field))) := by
  obtain ⟨rest, read⟩ := refused.records options.null
  constructor
  · exact source_of_lt read
  · intro enough
    exact ⟨_, source_of_le wanted read enough, Source.drains_table _ _ _ _⟩

/-- Lines of labelled fields are read without a failure exactly if each is accepted, and then the rows
of all that are not discarded are handed out in order. Otherwise one is the first that is refused, and
it is the failure that is met: there is no source if fewer lines with a record are in front of it than
are discarded and read ahead, and else the failure comes behind the rows of these lines. -/
theorem first_refused_reported (wanted : options.onlyAhead = false) (bytes : List UInt8) :
    let lines := Line.split bytes
    ((∀ line ∈ lines, Accepted line) ↔ ∃ made, source options ⟨bytes, true⟩ = .ok made ∧
      ∀ asks error, .next (.error error) ∉ (made.answers asks).1) ∧
    ((∀ line ∈ lines, Accepted line) → ∃ made, source options ⟨bytes, true⟩ = .ok made ∧
      made.Drains ((rowsOf options lines).take options.ahead)
        ((rowsOf options lines).drop options.ahead) (.ok none)) ∧
    ((¬∀ line ∈ lines, Accepted line) → ∃ before field, Refused lines before field) ∧
    ∀ before field, Refused lines before field →
      (source options ⟨bytes, true⟩ = .error (failure before field) ↔
        filled before < options.skip + options.ahead) ∧
      (options.skip + options.ahead ≤ filled before →
        ∃ made, source options ⟨bytes, true⟩ = .ok made ∧
          made.Drains ((rowsOf options before).take options.ahead)
            ((rowsOf options before).drop options.ahead) (.error (failure before field))) := by
  intro lines
  refine ⟨⟨?calm, ?accepts⟩, ?rows, exists_refused, ?refused⟩
  case calm =>
    intro accepted
    obtain ⟨schema, read⟩ := source_of_accepted wanted accepted
    exact ⟨_, read, fun asks error => Source.answers_of_ofList _ _ asks error⟩
  case accepts =>
    rintro ⟨made, read, calm⟩
    by_contra wrong
    obtain ⟨before, field, refused⟩ := exists_refused wrong
    obtain ⟨few, enough⟩ := source_of_refused wanted refused
    rcases Nat.lt_or_ge (filled before) (options.skip + options.ahead) with short | long
    · cases read.symm.trans (few short)
    · obtain ⟨other, same, drains⟩ := enough long
      obtain rfl := Except.ok.inj (read.symm.trans same)
      obtain ⟨asks, failed⟩ := drains.exists_error
      exact calm asks _ failed
  case rows =>
    intro accepted
    obtain ⟨schema, read⟩ := source_of_accepted wanted accepted
    have drains := Source.drains_table schema ((rowsOf options lines).take options.ahead)
      ((rowsOf options lines).drop options.ahead) []
    rw [List.append_nil] at drains
    exact ⟨_, read, drains⟩
  case refused =>
    intro before field refused
    obtain ⟨few, enough⟩ := source_of_refused wanted refused
    refine ⟨⟨fun stopped => ?_, few⟩, enough⟩
    by_contra long
    obtain ⟨made, read, -⟩ := enough (Nat.le_of_not_lt long)
    cases stopped.symm.trans read

/-- Blank lines before and between records, and a byte that is no text in the field that is refused,
in front of another one. One record is discarded and one read ahead; with two ahead there is no
source. -/
theorem first_refused_reported_blanks :
    let options : ReadOptions := { skip := 1, null := some "3" }
    let front := Utf8.bytes "\na:1\n \t\nb:2\ta:3\r\n\n"
    let bytes := front ++ Utf8.bytes "c:\t" ++ 0xFF :: Utf8.bytes "\ty\r\nz\n"
    options.onlyAhead = false ∧ ({ options with ahead := 2 } : ReadOptions).onlyAhead = false ∧
      Refused (Line.split bytes) (Line.split front) [0xFF] ∧
      (∃ made, source options ⟨bytes, true⟩ = .ok made ∧
        made.Drains [[.text "2", .null]] [] (.error (.invalidColumn 6 "\uFFFD"))) ∧
      source { options with ahead := 2 } ⟨bytes, true⟩ = .error (.invalidColumn 6 "\uFFFD") := by
  intro options front bytes
  let last : Line := ⟨Utf8.bytes "c:\t" ++ 0xFF :: Utf8.bytes "\ty\r", true⟩
  have lines : Line.split bytes = Line.split front ++ last :: [⟨Utf8.bytes "z", true⟩] := by
    decide +kernel
  have refused : Refused (Line.split bytes) (Line.split front) [0xFF] := by
    rw [lines]
    have parted : (trimReturns last.body).splitOn 0x09 =
        [Utf8.bytes "c:"] ++ [0xFF] :: [Utf8.bytes "y"] := by
      decide +kernel
    exact .line (by unfold Accepted; decide +kernel) (by decide +kernel) parted
      (by decide +kernel) (by decide +kernel)
  have wanted : options.onlyAhead = false := rfl
  have wantedToo : ({ options with ahead := 2 } : ReadOptions).onlyAhead = false := rfl
  have reached : filled (Line.split front) = 2 := by decide +kernel
  have told : failure (Line.split front) [0xFF] = .invalidColumn 6 "\uFFFD" := by decide +kernel
  refine ⟨wanted, wantedToo, refused, ?late, ?early⟩
  case late =>
    obtain ⟨-, -, -, each⟩ := first_refused_reported wanted bytes
    obtain ⟨made, read, drains⟩ := (each _ _ refused).2 (by rw [reached]; decide)
    refine ⟨made, read, ?_⟩
    have rows : rowsOf options (Line.split front) = [[.text "2", .null]] := by decide +kernel
    rwa [rows, told] at drains
  case early =>
    obtain ⟨-, -, -, each⟩ := first_refused_reported wantedToo bytes
    rw [← told]
    exact (each _ _ refused).1.mpr (by rw [reached]; decide)

end Labelled

end Tabular
