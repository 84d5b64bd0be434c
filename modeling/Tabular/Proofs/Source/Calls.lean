import Tabular.Proofs.Column
import Tabular.Source

/-!
# Calls on a source

A source that fits a schema keeps to it through all calls, in whatever order they come: every row it
hands out has a cell for each name. The rows read ahead are handed out once, and a feed that has
ended stays at its end.
-/

set_option autoImplicit false

namespace Tabular

/-- A schema of distinct names with a type for each. -/
structure Schema.WellFormed (schema : Schema) : Prop where
  types : schema.types.length = schema.names.length
  names : Distinct schema.names

namespace Source

/-- A source that has the given schema, and rows of its width only. -/
inductive Fits : Schema → Source → Prop where
  | table {schema : Schema} {ahead : List Row} {live : Feed Row} :
      schema.WellFormed →
      (∀ row ∈ ahead, row.length = schema.names.length) →
      (∀ row, .ok row ∈ live → row.length = schema.names.length) →
      Fits schema (.table (some schema) ahead live)
  | numbered {schema : Schema} {inner : Source} {given : Nat} :
      Fits schema inner → Fits (numberedSchema schema) (.numbered inner given)

variable {schema : Schema} {source : Source}

/-! ## The schema -/

theorem Fits.wellFormed (fits : source.Fits schema) : schema.WellFormed := by
  induction fits with
  | table wellFormed _ _ => exact wellFormed
  | numbered _ ih => exact ⟨congrArg (· + 1) ih.types, ih.names.cons numberColumn⟩

private theorem Fits.schema?_eq (fits : source.Fits schema) : source.schema? = some schema := by
  induction fits with
  | table => rfl
  | numbered _ ih => rw [schema?, ih, Option.map_some]

theorem Fits.names_eq (fits : source.Fits schema) : source.names = .ok schema.names := by
  rw [names, Source.schema, fits.schema?_eq]
  rfl

theorem Fits.types_eq (fits : source.Fits schema) : source.types = .ok schema.types := by
  rw [types, Source.schema, fits.schema?_eq]
  rfl

theorem exists_schema {columns : List String} (named : source.names = .ok columns) :
    ∃ schema, source.schema? = some schema ∧ schema.names = columns := by
  rw [names, Source.schema] at named
  cases found : source.schema? with
  | none =>
      rw [found] at named
      cases named
  | some schema =>
      rw [found] at named
      exact ⟨schema, rfl, Except.ok.inj named⟩

/-! ## One call -/

theorem exists_of_mem_numberRows {given : Nat} {rows : List Row} {row : Row}
    (member : row ∈ numberRows given rows) :
    ∃ number, ∃ inside ∈ rows, row = numberRow number inside := by
  obtain ⟨i, bound, rfl⟩ := List.mem_mapIdx.mp member
  exact ⟨_, rows[i], List.getElem_mem bound, rfl⟩

private theorem Fits.takeAhead (fits : source.Fits schema) :
    source.takeAhead.2.Fits schema ∧
      ∀ row ∈ source.takeAhead.1, row.length = schema.names.length := by
  induction fits with
  | table wellFormed ahead live => exact ⟨.table wellFormed (by simp) live, ahead⟩
  | numbered _ ih =>
      refine ⟨.numbered ih.1, fun row member => ?_⟩
      obtain ⟨number, inside, found, rfl⟩ := exists_of_mem_numberRows member
      exact congrArg (· + 1) (ih.2 inside found)

private theorem Fits.next (fits : source.Fits schema) :
    source.next.2.Fits schema ∧
      ∀ row, source.next.1 = .ok (some row) → row.length = schema.names.length := by
  induction fits with
  | @table schema ahead live wellFormed early late =>
      cases live with
      | nil =>
          refine ⟨.table wellFormed early late, fun row given => ?_⟩
          cases given
      | cons piece live =>
          refine ⟨.table wellFormed early fun row member => late row (.tail _ member), ?_⟩
          intro row given
          cases piece with
          | error failure => cases given
          | ok first =>
              cases given
              exact late row (.head _)
  | @numbered schema inner given _ ih =>
      cases outcome : inner.next with
      | mk result inner' =>
        rw [outcome] at ih
        rw [Source.next, outcome]
        rcases result with failure | none | row
        · exact ⟨.numbered ih.1, fun _ given => by cases given⟩
        · exact ⟨.numbered ih.1, fun _ given => by cases given⟩
        · refine ⟨.numbered ih.1, fun numbered given => ?_⟩
          cases given
          exact congrArg (· + 1) (ih.2 row rfl)

theorem numberRows_eq_nil {given : Nat} {rows : List Row} :
    numberRows given rows = [] ↔ rows = [] :=
  List.mapIdx_eq_nil_iff

private theorem takeAhead_takeAhead (source : Source) : source.takeAhead.2.takeAhead.1 = [] := by
  induction source with
  | table => rfl
  | numbered inner given ih => exact numberRows_eq_nil.mpr ih

private theorem takeAhead_next (source : Source) :
    source.next.2.takeAhead.1 = [] ↔ source.takeAhead.1 = [] := by
  induction source with
  | table schema ahead live => cases live <;> rfl
  | numbered inner given ih =>
      rw [next]
      split <;> simp_all [takeAhead, numberRows_eq_nil]

private theorem remaining_takeAhead (source : Source) :
    source.takeAhead.2.remaining = source.remaining := by
  induction source with
  | table => rfl
  | numbered inner given ih => exact ih

theorem next_eq_none_iff (source : Source) : source.next.1 = .ok none ↔ source.remaining = 0 := by
  induction source with
  | table schema ahead live =>
      rcases live with _ | ⟨_ | row, live⟩ <;> simp [next, remaining, Except.map]
  | numbered inner given ih =>
      rw [next, remaining, ← ih]
      split <;> simp_all

/-! ## A run of calls -/

/-- What can be asked of a source. -/
inductive Ask where
  /-- The rows read ahead. -/
  | ahead
  /-- The next row of the feed. -/
  | next
deriving DecidableEq, Repr

inductive Answer where
  | ahead (rows : List Row)
  | next (outcome : Result (Option Row))

/-- The rows that come with an answer. -/
def Answer.rows : Answer → List Row
  | .ahead rows => rows
  | .next (.ok (some row)) => [row]
  | .next _ => []

def answer : Ask → Source → Answer × Source
  | .ahead, source => (.ahead source.takeAhead.1, source.takeAhead.2)
  | .next, source => (.next source.next.1, source.next.2)

/-- The answers to a list of asks, and the source after them. -/
def answers : List Ask → Source → List Answer × Source
  | [], source => ([], source)
  | ask :: asks, source =>
    let (first, source) := answer ask source
    let (others, source) := answers asks source
    (first :: others, source)

/-- Whether an answer may be given at any time after another one: there are no rows after the rows
read ahead were handed out, and nothing comes after the end. -/
def Answer.Precedes : Answer → Answer → Prop
  | .ahead _, .ahead later => later = []
  | .next (.ok none), .next later => later = .ok none
  | _, _ => True

private theorem Fits.answer (fits : source.Fits schema) (ask : Ask) :
    (source.answer ask).2.Fits schema ∧
      ∀ row ∈ (source.answer ask).1.rows, row.length = schema.names.length := by
  cases ask with
  | ahead => exact fits.takeAhead
  | next =>
      refine ⟨fits.next.1, fun row member => ?_⟩
      rw [Source.answer] at member
      cases outcome : source.next.1 with
      | error failure => simp [outcome, Answer.rows] at member
      | ok found =>
          cases found with
          | none => simp [outcome, Answer.rows] at member
          | some given =>
              have same : row = given := by simpa [outcome, Answer.rows] using member
              exact same ▸ fits.next.2 given outcome

theorem Fits.answers (fits : source.Fits schema) (asks : List Ask) :
    (source.answers asks).2.Fits schema ∧
      ∀ answer ∈ (source.answers asks).1,
        ∀ row ∈ answer.rows, row.length = schema.names.length := by
  induction asks generalizing source with
  | nil => exact ⟨fits, by simp [Source.answers]⟩
  | cons ask asks ih =>
      have first := fits.answer ask
      have others := ih first.1
      refine ⟨others.1, fun answer member => ?_⟩
      rcases List.mem_cons.mp member with rfl | later
      · exact first.2
      · exact others.2 answer later

private theorem answers_of_taken (taken : source.takeAhead.1 = []) (asks : List Ask) :
    ∀ rows, .ahead rows ∈ (source.answers asks).1 → rows = [] := by
  induction asks generalizing source with
  | nil => intro rows member; cases member
  | cons ask asks ih =>
      intro rows member
      have kept : (source.answer ask).2.takeAhead.1 = [] := by
        cases ask with
        | ahead => exact takeAhead_takeAhead source
        | next => exact (takeAhead_next source).mpr taken
      rcases List.mem_cons.mp member with here | later
      · cases ask with
        | ahead => exact (Answer.ahead.inj here).trans taken
        | next => cases here
      · exact ih kept rows later

private theorem answers_of_ended (ended : source.remaining = 0) (asks : List Ask) :
    ∀ outcome, .next outcome ∈ (source.answers asks).1 → outcome = .ok none := by
  induction asks generalizing source with
  | nil => intro outcome member; cases member
  | cons ask asks ih =>
      intro outcome member
      have kept : (source.answer ask).2.remaining = 0 := by
        cases ask with
        | ahead => exact (remaining_takeAhead source).trans ended
        | next => exact (remaining_next source).trans (by rw [ended])
      rcases List.mem_cons.mp member with here | later
      · cases ask with
        | ahead => cases here
        | next => exact (Answer.next.inj here).trans ((next_eq_none_iff source).mpr ended)
      · exact ih kept outcome later

private theorem answer_precedes (source : Source) (ask : Ask) (asks : List Ask) :
    ∀ later ∈ ((source.answer ask).2.answers asks).1, (source.answer ask).1.Precedes later := by
  intro later member
  cases ask with
  | ahead =>
      cases later with
      | ahead rows => exact answers_of_taken (takeAhead_takeAhead source) asks rows member
      | next outcome => exact trivial
  | next =>
      change (Answer.next source.next.1).Precedes later
      rcases given : source.next.1 with failure | _ | row
      · cases later <;> trivial
      · have ended : source.next.2.remaining = 0 :=
          (remaining_next source).trans (by rw [(next_eq_none_iff source).mp given])
        cases later with
        | ahead rows => exact trivial
        | next outcome => exact answers_of_ended ended asks outcome member
      · cases later <;> trivial

theorem answers_pairwise (source : Source) (asks : List Ask) :
    (source.answers asks).1.Pairwise Answer.Precedes := by
  induction asks generalizing source with
  | nil => exact .nil
  | cons ask asks ih => exact .cons (answer_precedes source ask asks) (ih _)

end Source

end Tabular
