import Tabular.Proofs.Load.Part

/-!
# Loads that fail

A load by insertion that fails stops at its first failure and answers with it. What it calls until
then is what the load without failures calls; after it only the statement that is open is closed.
-/

set_option autoImplicit false

namespace Tabular.Load

open Recorder

/-! ## The end of a load -/

/-- How a load ends on a recorder, against the same load without failures: with its calls up to the
first failure, and those that clean up after it. -/
structure Ending (start : Recorder) (errors : List Error) (upto cleanup : List CallRecord)
    (faulty calm : Result Nat × Recorder) : Prop where
  reached : faulty.2 = start.after (upto ++ cleanup)
  agrees : ∃ more, calm.2 = start.mended.after (upto ++ more)
  first : start.failures upto.dropLast = []
  closes : cleanup = [] ∨ ∃ id, cleanup = [.close id]
  outcome :
    match start.failures upto ++ errors with
    | [] => faulty.1 = calm.1 ∧ cleanup = [] ∧ calm.2 = start.mended.after upto
    | error :: _ => faulty.1 = .error error
  steps : Steps start none (upto ++ cleanup) none

def ended {rest : Type} (load : Result Nat × rest × Recorder) : Result Nat × Recorder :=
  (load.1, load.2.2)

def closings (prepared : Option Prepared) : List CallRecord :=
  (heldId prepared).toList.map .close

section Ending

variable (dialect : Dialect) {start : Recorder} {errors : List Error}

private theorem closings_cases (prepared : Option Prepared) :
    closings prepared = [] ∨ ∃ id, closings prepared = [.close id] := by
  cases prepared with
  | none => exact .inl rfl
  | some prepared => exact .inr ⟨prepared.statement.id, rfl⟩

private theorem steps_closings (now : Recorder) (prepared : Option Prepared) :
    Steps now (heldId prepared) (closings prepared) none := by
  cases prepared with
  | none => exact .done
  | some prepared => exact (Step.close prepared.statement.id).single

private theorem ended_closed (outcome : Result Nat) (unread : Feed Row) (now : Recorder)
    (prepared : Option Prepared) :
    ended (closed (Recorder.engine dialect) ⟨outcome, unread, ⟨now, prepared⟩⟩) =
      (match outcome, now.failures (closings prepared) with
        | .ok _, error :: _ => .error error
        | outcome, _ => outcome, now.after (closings prepared)) := by
  cases prepared with
  | none => cases outcome <;> rfl
  | some prepared =>
      have recorded : (Recorder.engine dialect).close prepared.statement now =
          record (.close prepared.statement.id) () now := rfl
      have closing : closings (some prepared) = [.close prepared.statement.id] := rfl
      rw [closing, failures_singleton]
      simp only [closed, recorded, record_eq]
      cases now.failure? (.close prepared.statement.id) with
      | none => cases outcome <;> rfl
      | some error => cases outcome <;> rfl

private theorem failures_dropLast {calls : List CallRecord} (quiet : start.failures calls = []) :
    start.failures calls.dropLast = [] := by
  rcases List.eq_nil_or_concat calls with rfl | ⟨before, last, rfl⟩
  · rfl
  · rw [List.concat_eq_append] at quiet ⊢
    rw [List.dropLast_concat]
    rw [failures_append] at quiet
    exact (List.append_eq_nil_iff.mp quiet).1

private theorem failures_dropLast_closings {calls : List CallRecord}
    (quiet : start.failures calls = []) (prepared : Option Prepared) :
    start.failures (calls ++ closings prepared).dropLast = [] := by
  rcases closings_cases prepared with nothing | ⟨id, one⟩
  · rw [nothing, List.append_nil]
    exact failures_dropLast quiet
  · rw [one, List.dropLast_concat]
    exact quiet

private theorem failures_closings (now : Recorder) (prepared : Option Prepared) :
    now.failures (closings prepared) = [] ∨
      ∃ error, now.failures (closings prepared) = [error] := by
  rcases closings_cases prepared with nothing | ⟨id, one⟩
  · rw [nothing]
    exact .inl rfl
  · rw [one, failures_singleton]
    cases now.failure? (.close id) with
    | none => exact .inl rfl
    | some error => exact .inr ⟨error, rfl⟩

private theorem calm_failures {recorder : Recorder} (calm : recorder.Calm)
    (calls : List CallRecord) :
    recorder.failures calls = [] := by
  induction calls generalizing recorder with
  | nil => rfl
  | cons call calls ih =>
      rw [failures, failure?, calm]
      exact ih calm

/-- Closing what is open ends a load: what failed before stays its outcome. -/
theorem Part.closed {faulty sound : Inserted Recorder}
    (part : Part start none errors faulty.part sound.part) :
    ∃ upto cleanup, Ending start errors upto cleanup
      (ended (Load.closed (Recorder.engine dialect) faulty))
      (ended (Load.closed (Recorder.engine dialect) sound)) := by
  obtain ⟨outcome, unread, now, current⟩ := faulty
  obtain ⟨calmOutcome, calmUnread, calmNow, calmOpen⟩ := sound
  rw [ended_closed, ended_closed]
  simp only [Inserted.part] at part
  cases part with
  | @clean calls value prepared quiet steps =>
      refine ⟨calls ++ closings current, [], ?_⟩
      have more : start.failures (calls ++ closings current) =
          (start.after calls).failures (closings current) := by
        rw [failures_append, quiet]
        rfl
      exact
        { reached := by rw [List.append_nil, after_append]
          agrees := ⟨[], by rw [List.append_nil, after_append]⟩
          first := failures_dropLast_closings quiet current
          closes := .inl rfl
          outcome := by
            have calm : (start.mended.after calls).Calm := calm_mended start
            rw [more, List.append_nil, after_append, calm_failures calm]
            rcases failures_closings (start.after calls) current with sound | ⟨error, failed⟩
            · rw [sound]
              exact ⟨rfl, rfl, rfl⟩
            · rw [failed]
          steps := by
            rw [List.append_nil]
            exact steps.append (steps_closings _ _) }
  | @broken _ calls more last error prepared _ quiet failed steps agrees =>
      have once : start.failures (calls ++ [last]) = [error] := by
        rw [failures_append, quiet, failures_singleton, failed]
        rfl
      refine ⟨calls ++ [last], closings current, ?_⟩
      exact
        { reached := (after_append ..).symm
          agrees := by
            have calmReached : calmNow = start.mended.after (calls ++ [last] ++ more) := agrees
            exact ⟨more ++ closings calmOpen, by
              rw [calmReached, ← List.append_assoc, after_append _ (calls ++ [last] ++ more)]⟩
          first := by
            rw [List.dropLast_concat]
            exact quiet
          closes := closings_cases current
          outcome := by rw [once, List.cons_append]
          steps := steps.append (steps_closings _ _) }
  | @stopped later calls more error prepared _ quiet steps agrees =>
      refine ⟨calls, closings current, ?_⟩
      exact
        { reached := (after_append ..).symm
          agrees := by
            have calmReached : calmNow = start.mended.after (calls ++ more) := agrees
            exact ⟨more ++ closings calmOpen, by
              rw [calmReached, ← List.append_assoc, after_append _ (calls ++ more)]⟩
          first := failures_dropLast quiet
          closes := closings_cases current
          outcome := by rw [quiet, List.nil_append]
          steps := steps.append (steps_closings _ _) }

/-- A call before that succeeds changes nothing in how a load ends. -/
theorem Ending.prepend {call : CallRecord} (sound : start.failure? call = none)
    (step : Step start none call none) {upto cleanup : List CallRecord}
    {faulty calm : Result Nat × Recorder}
    (ending : Ending (start.push call) errors upto cleanup faulty calm) :
    Ending start errors (call :: upto) cleanup faulty calm := by
  have silent (calls : List CallRecord) :
      start.failures (call :: calls) = (start.push call).failures calls := by
    rw [failures, sound]
    rfl
  exact
    { reached := by rw [ending.reached, List.cons_append, after_cons]
      agrees := by
        obtain ⟨more, reached⟩ := ending.agrees
        exact ⟨more, by rw [reached, List.cons_append, after_cons]; rfl⟩
      first := by
        cases upto with
        | nil => rfl
        | cons next rest =>
            rw [List.dropLast_cons_cons, silent]
            exact ending.first
      closes := ending.closes
      outcome := by
        rw [silent, after_cons]
        exact ending.outcome
      steps := .step step ending.steps }

theorem Mended.append {feed sound : Feed Row} (mended : Mended feed sound) (rows : List Row) :
    Mended (rows.map .ok ++ feed) (rows.map .ok ++ sound) := by
  induction rows with
  | nil => exact mended
  | cons row rows ih => exact .row row ih

variable (target : Target)

end Ending

end Tabular.Load
