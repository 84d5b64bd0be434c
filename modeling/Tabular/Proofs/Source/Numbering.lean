import Tabular.Proofs.Source.Calls

/-!
# Numbered rows

A reader answers the asks of a source, and nothing else is known of it: it can hand out rows read
ahead more than once, fail and go on, and have rows after its end. Around any such reader the rows
are numbered from one on without gaps. Numbered sources are one case of this.
-/

set_option autoImplicit false

namespace Tabular

open Source

/-! ## Readers -/

/-- What answers for rows, given its state. One that knows its names knows its types. -/
structure RowReader (State : Type) where
  names : State → Result (List String)
  types : State → Result (List String)
  takeAhead : State → List Row × State
  next : State → Result (Option Row) × State
  typed : ∀ {state : State} {columns : List String}, names state = .ok columns →
    ∃ kinds, types state = .ok kinds

/-- A reader with the names and types that it had when the numbers were put in front of its rows, and
how many rows were handed out since then. -/
structure Numbered (State : Type) where
  inner : State
  names : List String
  types : List String
  given : Nat

namespace RowReader

variable {State : Type}

def answer (reader : RowReader State) : Ask → State → Answer × State
  | .ahead, state => (.ahead (reader.takeAhead state).1, (reader.takeAhead state).2)
  | .next, state => (.next (reader.next state).1, (reader.next state).2)

def answers (reader : RowReader State) : List Ask → State → List Answer × State
  | [], state => ([], state)
  | ask :: asks, state =>
    let (first, state) := reader.answer ask state
    let (others, state) := reader.answers asks state
    (first :: others, state)

/-- A reader whose rows are to be numbered. Without names it has no column of numbers either. -/
def wrap (reader : RowReader State) (inner : State) : Numbered State :=
  match reader.names inner, reader.types inner with
  | .ok names, .ok types =>
    let schema := numberedSchema ⟨names, types⟩
    ⟨inner, schema.names, schema.types, 0⟩
  | _, _ => ⟨inner, [], [], 0⟩

def numbered (reader : RowReader State) : RowReader (Numbered State) where
  names state := if state.names.isEmpty then .error .noRows else .ok state.names
  types state := if state.names.isEmpty then .error .noRows else .ok state.types
  takeAhead state :=
    let (rows, inner) := reader.takeAhead state.inner
    (numberRows state.given rows, { state with inner, given := state.given + rows.length })
  next state :=
    match reader.next state.inner with
    | (.ok (some row), inner) =>
      (.ok (some (numberRow (state.given + 1) row)), { state with inner, given := state.given + 1 })
    | (outcome, inner) => (outcome, { state with inner })
  typed := by
    intro state columns named
    split at named
    · cases named
    · rename_i filled
      exact ⟨state.types, if_neg filled⟩

end RowReader

/-! ## Numbered answers -/

namespace Source

theorem numberRows_cons (given : Nat) (row : Row) (rows : List Row) :
    numberRows given (row :: rows) = numberRow (given + 1) row :: numberRows (given + 1) rows := by
  have shifted : ∀ i, given + (i + 1) + 1 = given + 1 + i + 1 := by omega
  simp only [numberRows, List.mapIdx_cons, Nat.add_zero, shifted]

theorem numberRows_append (given : Nat) (rows more : List Row) :
    numberRows given (rows ++ more) =
      numberRows given rows ++ numberRows (given + rows.length) more := by
  induction rows generalizing given with
  | nil => rfl
  | cons row rows ih =>
      simp only [List.cons_append, numberRows_cons, ih, List.length_cons, Nat.add_assoc,
        Nat.add_comm 1]

/-- An answer with numbers from `given + 1` on in front of its rows. -/
def Answer.numbered (given : Nat) : Answer → Answer
  | .ahead rows => .ahead (numberRows given rows)
  | .next (.ok (some row)) => .next (.ok (some (numberRow (given + 1) row)))
  | .next outcome => .next outcome

def numberAnswers (given : Nat) : List Answer → List Answer
  | [] => []
  | answer :: rest => answer.numbered given :: numberAnswers (given + answer.rows.length) rest

/-- An answer and what becomes of it: each row gets a cell in front of it, and failures and ends are
passed on. -/
inductive Answer.Passes : Answer → Answer → Prop where
  | ahead {rows numbered : List Row} :
      List.Forall₂ (fun row whole => ∃ number, whole = number :: row) rows numbered →
      Passes (.ahead rows) (.ahead numbered)
  | row {row : Row} {number : Cell} :
      Passes (.next (.ok (some row))) (.next (.ok (some (number :: row))))
  | ended : Passes (.next (.ok none)) (.next (.ok none))
  | failed {failure : Error} : Passes (.next (.error failure)) (.next (.error failure))

private theorem forall₂_numberRows (given : Nat) (rows : List Row) :
    List.Forall₂ (fun row whole => ∃ number, whole = number :: row) rows (numberRows given rows) := by
  induction rows generalizing given with
  | nil => exact .nil
  | cons row rows ih =>
      rw [numberRows_cons]
      exact .cons ⟨_, rfl⟩ (ih (given + 1))

private theorem Answer.passes_numbered (given : Nat) (answer : Answer) :
    answer.Passes (answer.numbered given) := by
  rcases answer with rows | failure | _ | row
  · exact .ahead (forall₂_numberRows given rows)
  · exact .failed
  · exact .ended
  · exact .row

private theorem Answer.rows_numbered (given : Nat) (answer : Answer) :
    (answer.numbered given).rows = numberRows given answer.rows := by
  rcases answer with rows | failure | _ | row <;> rfl

private theorem forall₂_numberAnswers (given : Nat) (answers : List Answer) :
    List.Forall₂ Answer.Passes answers (numberAnswers given answers) := by
  induction answers generalizing given with
  | nil => exact .nil
  | cons answer answers ih => exact .cons (answer.passes_numbered given) (ih _)

/-- However the rows come in answers, they are numbered as if they came in one list. -/
theorem rows_numberAnswers (given : Nat) (answers : List Answer) :
    (numberAnswers given answers).flatMap Answer.rows =
      numberRows given (answers.flatMap Answer.rows) := by
  induction answers generalizing given with
  | nil => rfl
  | cons answer answers ih =>
      simp only [numberAnswers, List.flatMap_cons, Answer.rows_numbered, ih, numberRows_append]

end Source

/-! ## Runs -/

namespace RowReader

variable {State : Type} (reader : RowReader State)

theorem answer_numbered (ask : Ask) (state : Numbered State) :
    reader.numbered.answer ask state =
      let (answer, inner) := reader.answer ask state.inner
      (answer.numbered state.given, { state with inner, given := state.given + answer.rows.length }) := by
  cases ask with
  | ahead => rfl
  | next =>
      simp only [answer, numbered]
      rcases reader.next state.inner with ⟨failure | _ | row, inner⟩ <;> rfl

/-- The state after a run has the names and types that it had before, and the reader inside has been
asked the same. -/
theorem answers_numbered (asks : List Ask) (state : Numbered State) :
    reader.numbered.answers asks state =
      let (answers, inner) := reader.answers asks state.inner
      (numberAnswers state.given answers,
        { state with inner, given := state.given + (answers.flatMap Answer.rows).length }) := by
  induction asks generalizing state with
  | nil => rfl
  | cons ask asks ih =>
      simp only [answers, answer_numbered, ih, numberAnswers, List.flatMap_cons, List.length_append,
        Nat.add_assoc]

private theorem wrap_of_names {inner : State} {columns kinds : List String}
    (named : reader.names inner = .ok columns) (typed : reader.types inner = .ok kinds) :
    reader.wrap inner =
      ⟨inner, uniqueName numberColumn columns :: columns, numberType :: kinds, 0⟩ := by
  rw [wrap, named, typed]
  rfl

private theorem inner_wrap (inner : State) : (reader.wrap inner).inner = inner := by
  rw [wrap]
  split <;> rfl

private theorem given_wrap (inner : State) : (reader.wrap inner).given = 0 := by
  rw [wrap]
  split <;> rfl

end RowReader

/-! ## Numbered sources -/

namespace Source

/-- A source, as a reader. -/
def reader : RowReader Source where
  names := names
  types := types
  takeAhead := takeAhead
  next := next
  typed := by
    intro source columns named
    obtain ⟨schema, found, -⟩ := exists_schema named
    refine ⟨schema.types, ?_⟩
    rw [types, Source.schema, found]
    rfl

private theorem answers_reader (asks : List Ask) (source : Source) :
    reader.answers asks source = source.answers asks := by
  have step : ∀ ask source, reader.answer ask source = answer ask source := by
    intro ask source
    cases ask <;> rfl
  induction asks generalizing source with
  | nil => rfl
  | cons ask asks ih => simp only [RowReader.answers, answers, step, ih]

private theorem schema?_takeAhead (source : Source) :
    source.takeAhead.2.schema? = source.schema? := by
  induction source with
  | table => rfl
  | numbered inner given ih => exact congrArg (Option.map numberedSchema) ih

private theorem schema?_next (source : Source) : source.next.2.schema? = source.schema? := by
  induction source with
  | table schema ahead live => cases live <;> rfl
  | numbered inner given ih =>
      rw [next]
      split <;> simp_all [schema?]

private theorem schema?_answers (asks : List Ask) (source : Source) :
    (source.answers asks).2.schema? = source.schema? := by
  induction asks generalizing source with
  | nil => rfl
  | cons ask asks ih =>
      refine (ih _).trans ?_
      cases ask with
      | ahead => exact schema?_takeAhead source
      | next => exact schema?_next source

theorem answer_numbered (ask : Ask) (inner : Source) (given : Nat) :
    (numbered inner given).answer ask =
      let (answer, inner) := inner.answer ask
      (answer.numbered given, numbered inner (given + answer.rows.length)) := by
  cases ask with
  | ahead => rfl
  | next =>
      simp only [answer, next]
      rcases inner.next with ⟨failure | _ | row, rest⟩ <;> rfl

theorem answers_numbered (asks : List Ask) (inner : Source) (given : Nat) :
    (numbered inner given).answers asks =
      let (answers, inner) := inner.answers asks
      (numberAnswers given answers,
        numbered inner (given + (answers.flatMap Answer.rows).length)) := by
  induction asks generalizing inner given with
  | nil => rfl
  | cons ask asks ih =>
      simp only [answers, answer_numbered, ih, numberAnswers, List.flatMap_cons, List.length_append,
        Nat.add_assoc]

private theorem names_numbered (source : Source) :
    (numbered source 0).names = reader.numbered.names (reader.wrap source) := by
  simp only [names, Source.schema, schema?, RowReader.numbered, RowReader.wrap, reader, types]
  cases source.schema? <;> rfl

private theorem types_numbered (source : Source) :
    (numbered source 0).types = reader.numbered.types (reader.wrap source) := by
  simp only [types, Source.schema, schema?, RowReader.numbered, RowReader.wrap, reader, names]
  cases source.schema? <;> rfl

/-- Whatever is asked of a reader that knows its names, in whatever order, its rows come with the
numbers from one on in front of them, and failures and ends come as they are. Its names and types stay
behind one more name and type, and no column has the name of that. A numbered source is numbered in this
way, with or without names. -/
theorem numbered_without_gaps (asks : List Ask) :
    (∀ {State : Type} (reader : RowReader State) {inner : State} {columns : List String},
      reader.names inner = .ok columns →
      let inside := reader.answers asks inner
      let outside := reader.numbered.answers asks (reader.wrap inner)
      let number := uniqueName "num" columns
      outside.1.flatMap Answer.rows =
        (inside.1.flatMap Answer.rows).mapIdx (fun k row => Cell.int (k + 1) :: row) ∧
      List.Forall₂ Answer.Passes inside.1 outside.1 ∧ outside.2.inner = inside.2 ∧
      (∀ column ∈ columns, Ascii.lower column ≠ Ascii.lower number) ∧
      reader.numbered.names outside.2 = .ok (number :: columns) ∧
      ∃ kinds, reader.types inner = .ok kinds ∧
        reader.numbered.types outside.2 = .ok ("int" :: kinds)) ∧
    ∀ source : Source,
      let outside := (numbered source 0).answers asks
      let read := reader.numbered.answers asks (reader.wrap source)
      outside.1 = read.1 ∧ outside.2.names = reader.numbered.names read.2 ∧
        outside.2.types = reader.numbered.types read.2 := by
  refine ⟨?readers, ?sources⟩
  case readers =>
    intro State reader inner columns named inside outside number
    obtain ⟨kinds, typed⟩ := reader.typed named
    have run : outside = (numberAnswers 0 inside.1,
        { reader.wrap inner with
          inner := inside.2, given := 0 + (inside.1.flatMap Answer.rows).length }) := by
      simp only [outside, RowReader.answers_numbered, RowReader.inner_wrap, RowReader.given_wrap]
      rfl
    rw [RowReader.wrap_of_names reader named typed] at run
    have rows : numberRows 0 (inside.1.flatMap Answer.rows) =
        (inside.1.flatMap Answer.rows).mapIdx (fun k row => Cell.int (k + 1) :: row) := by
      simp [numberRows, numberRow]
    have free : isTaken columns number = false := (uniqueName_spec "num" columns).1
    refine ⟨?_, ?_, ?_, ?_, ?_, kinds, typed, ?_⟩
    · rw [run, rows_numberAnswers, rows]
    · rw [run]
      exact forall₂_numberAnswers 0 inside.1
    · rw [run]
    · intro column member same
      rw [isTaken_iff.mpr ⟨column, member, same⟩] at free
      cases free
    · rw [run]
      rfl
    · rw [run]
      rfl
  case sources =>
    intro source outside read
    have run : outside = (numberAnswers 0 (source.answers asks).1,
        numbered (source.answers asks).2
          (0 + ((source.answers asks).1.flatMap Answer.rows).length)) :=
      answers_numbered asks source 0
    have kept : outside.2.schema? = (numbered source 0).schema? := by
      rw [run]
      exact congrArg (Option.map numberedSchema) (schema?_answers asks source)
    have other := RowReader.answers_numbered reader asks (reader.wrap source)
    refine ⟨?_, ?_, ?_⟩
    · simp only [run, read, other, RowReader.inner_wrap, RowReader.given_wrap, answers_reader]
    · rw [names, Source.schema, kept]
      refine (names_numbered source).trans ?_
      simp only [read, other]
      rfl
    · rw [types, Source.schema, kept]
      refine (types_numbered source).trans ?_
      simp only [read, other]
      rfl

/-- A reader with rows in each third answer, that fails and ends in between and hands out rows read
ahead whenever it is asked. -/
def restless : RowReader Nat where
  names _ := .ok ["NUM", "num0"]
  types _ := .ok ["text", "text"]
  takeAhead asked := ([[.text "ahead", .int asked], []], asked + 1)
  next asked :=
    (if asked % 3 = 0 then .error .io else if asked % 3 = 1 then .ok none
      else .ok (some [.text "next", .int asked]), asked + 1)
  typed _ := ⟨_, rfl⟩

theorem numbered_without_gaps_restless :
    let asks : List Ask := [.next, .ahead, .next, .next, .next, .next, .ahead]
    let outside := restless.numbered.answers asks (restless.wrap 0)
    restless.names 0 = .ok ["NUM", "num0"] ∧
      outside.1.flatMap Answer.rows = [[.int 1, .text "ahead", .int 1], [.int 2],
        [.int 3, .text "next", .int 2], [.int 4, .text "next", .int 5],
        [.int 5, .text "ahead", .int 6], [.int 6]] ∧
      List.Forall₂ Answer.Passes (restless.answers asks 0).1 outside.1 ∧
      restless.numbered.names outside.2 = .ok ["num1", "NUM", "num0"] := by
  intro asks outside
  have named : restless.names 0 = .ok ["NUM", "num0"] := rfl
  obtain ⟨rows, passed, -, -, names, -⟩ := (numbered_without_gaps asks).1 restless named
  exact ⟨named, rows.trans (by decide +kernel), passed, names.trans (by decide +kernel)⟩

end Source

end Tabular
