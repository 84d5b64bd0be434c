import Tabular.Engine.Load
import Tabular.Proofs.Engine.Statements

/-!
# The parts of a load that may fail

A load by insertion against the same load without failures, on a recording engine that is told to
fail in any way and with a feed that fails anywhere. Part by part the two make the same calls up to
the first failure, and the load stops there.
-/

set_option autoImplicit false

namespace Tabular.Load

open Recorder

def heldId (prepared : Option Prepared) : Option Nat :=
  prepared.map fun current => current.statement.id

/-- How a part of a load goes on a recorder, against the same part without failures. The failures of
the feed are given: they stop a part only when all calls before them succeeded. -/
inductive Part {α : Type} (start : Recorder) (held : Option Nat) :
    List Error → Result α × Progress Recorder → Result α × Progress Recorder → Prop where
  | clean {calls : List CallRecord} {value : α} {prepared : Option Prepared}
      (quiet : start.failures calls = []) (steps : Steps start held calls (heldId prepared)) :
      Part start held [] (.ok value, ⟨start.after calls, prepared⟩)
        (.ok value, ⟨start.mended.after calls, prepared⟩)
  | broken {errors : List Error} {calls more : List CallRecord} {last : CallRecord} {error : Error}
      {prepared : Option Prepared} {calm : Result α × Progress Recorder}
      (quiet : start.failures calls = [])
      (failed : (start.after calls).failure? last = some error)
      (steps : Steps start held (calls ++ [last]) (heldId prepared))
      (agrees : calm.2.engine = start.mended.after (calls ++ [last] ++ more)) :
      Part start held errors (.error error, ⟨start.after (calls ++ [last]), prepared⟩) calm
  | stopped {errors : List Error} {calls more : List CallRecord} {error : Error}
      {prepared : Option Prepared} {calm : Result α × Progress Recorder}
      (quiet : start.failures calls = []) (steps : Steps start held calls (heldId prepared))
      (agrees : calm.2.engine = start.mended.after (calls ++ more)) :
      Part start held (error :: errors) (.error error, ⟨start.after calls, prepared⟩) calm

def andThen {α β : Type} (first : Result α × Progress Recorder)
    (next : α → Progress Recorder → Result β × Progress Recorder) : Result β × Progress Recorder :=
  match first with
  | (.error error, progress) => (.error error, progress)
  | (.ok value, progress) => next value progress

def Grows {α : Type} (next : Progress Recorder → Result α × Progress Recorder) : Prop :=
  ∀ progress, ∃ more, (next progress).2.engine = progress.engine.after more

/-! ## Parts one after the other -/

section Parts

variable {α β : Type} {start : Recorder} {held middle : Option Nat} {errors : List Error}
  {faulty calm : Result α × Progress Recorder}

private theorem Part.calls (part : Part start held errors faulty calm) :
    ∃ calls, faulty.2.engine = start.after calls := by
  cases part with
  | clean _ _ => exact ⟨_, rfl⟩
  | broken _ _ _ _ => exact ⟨_, rfl⟩
  | stopped _ _ _ => exact ⟨_, rfl⟩

private theorem Part.prepend {before : List CallRecord} (sound : start.failures before = [])
    (steps : Steps start held before middle)
    (part : Part (start.after before) middle errors faulty calm) :
    Part start held errors faulty calm := by
  cases part with
  | clean quiet rest =>
      rw [mended_after, ← after_append, ← after_append]
      exact .clean (failures_append_eq_nil sound quiet) (steps.append rest)
  | broken quiet failed rest agrees =>
      rw [← after_append] at failed
      rw [mended_after, ← after_append, List.append_assoc, ← List.append_assoc,
        ← List.append_assoc] at agrees
      rw [← after_append, ← List.append_assoc]
      refine .broken (failures_append_eq_nil sound quiet) failed ?_ agrees
      rw [List.append_assoc]
      exact steps.append rest
  | stopped quiet rest agrees =>
      rw [← after_append]
      rw [mended_after, ← after_append, ← List.append_assoc] at agrees
      exact .stopped (failures_append_eq_nil sound quiet) (steps.append rest) agrees

/-- A part that fails is not gone on from; the one without failures may be. -/
theorem Part.andThen {first sound : Result α × Progress Recorder}
    {next calmNext : α → Progress Recorder → Result β × Progress Recorder}
    (part : Part start held [] first sound) (grows : ∀ value, Grows (calmNext value))
    (later : ∀ value after prepared, first = (.ok value, ⟨after, prepared⟩) →
      Part after (heldId prepared) errors (next value ⟨after, prepared⟩)
        (calmNext value ⟨after.mended, prepared⟩)) :
    Part start held errors (Load.andThen first next) (Load.andThen sound calmNext) := by
  cases part with
  | clean quiet steps => exact .prepend quiet steps (later _ _ _ rfl)
  | broken quiet failed steps agrees =>
      have onward : ∃ more, (Load.andThen sound calmNext).2.engine = sound.2.engine.after more := by
        rcases sound with ⟨_ | value, progress⟩
        · exact ⟨[], rfl⟩
        · exact grows value progress
      obtain ⟨more, reached⟩ := onward
      rw [agrees, ← after_append, List.append_assoc] at reached
      exact .broken quiet failed steps reached

/-- One call as a part: what is open after it when it succeeds, and when it fails. -/
def called (call : CallRecord) (answer : α) (kept lost : Option Prepared) (now : Recorder) :
    Result α × Progress Recorder :=
  match now.failure? call with
  | some error => (.error error, ⟨now.push call, lost⟩)
  | none => (.ok answer, ⟨now.push call, kept⟩)

end Parts

/-! ## The parts of a load -/

section Load

variable (dialect : Dialect) (target : Target)

def feedErrors (feed : Feed Row) : List Error :=
  feed.filterMap fun piece =>
    match piece with
    | .error error => some error
    | .ok _ => none

/-- A feed and one without failures that agree up to the first failure. -/
inductive Mended : Feed Row → Feed Row → Prop where
  | done : Mended [] []
  | row (row : Row) {feed sound : Feed Row} (rest : Mended feed sound) :
      Mended (.ok row :: feed) (.ok row :: sound)
  | failure (error : Error) (feed : Feed Row) (rows : List Row) :
      Mended (.error error :: feed) (rows.map .ok)

def Inserted.part (inserted : Inserted Recorder) : Result Nat × Progress Recorder :=
  (inserted.outcome, inserted.progress)

private theorem Grows.andThen {α β : Type}
    {first : Progress Recorder → Result α × Progress Recorder}
    {next : α → Progress Recorder → Result β × Progress Recorder} (grows : Grows first)
    (onward : ∀ value, Grows (next value)) :
    Grows fun progress => Load.andThen (first progress) next := by
  intro progress
  obtain ⟨calls, reached⟩ := grows progress
  cases made : first progress with
  | mk outcome after =>
      rw [made] at reached
      cases outcome with
      | error error =>
          refine ⟨calls, ?_⟩
          simp only [made, Load.andThen]
          exact reached
      | ok value =>
          obtain ⟨more, ended⟩ := onward value after
          refine ⟨calls ++ more, ?_⟩
          simp only [made, Load.andThen]
          rw [ended, reached, after_append]

end Load

end Tabular.Load
