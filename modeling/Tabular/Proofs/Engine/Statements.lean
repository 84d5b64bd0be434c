import Tabular.Proofs.Engine.Recorder

/-!
# Statements over a run of calls

How a caller that keeps at most one statement open uses a recording engine, call by call. From the
steps it follows for a whole run that every statement it is given is closed once and is not run
afterwards.
-/

set_option autoImplicit false

namespace Tabular.Recorder

/-- A call of one who holds an open statement or none, and what is held after it. A statement is
held from the call that prepares it until the one that closes it, even when that call fails. -/
inductive Step (recorder : Recorder) : Option Nat → CallRecord → Option Nat → Prop where
  | execute (sql : String) : Step recorder none (.execute sql) none
  | granted {sql : String}
      (sound : recorder.failure? (.prepare sql recorder.nextId) = none) :
      Step recorder none (.prepare sql recorder.nextId) (some recorder.nextId)
  | refused {sql : String} {error : Error}
      (failed : recorder.failure? (.prepare sql recorder.nextId) = some error) :
      Step recorder none (.prepare sql recorder.nextId) none
  | run (id : Nat) (params : List Cell) : Step recorder (some id) (.run id params) (some id)
  | close (id : Nat) : Step recorder (some id) (.close id) none

inductive Steps : Recorder → Option Nat → List CallRecord → Option Nat → Prop where
  | done {recorder : Recorder} {held : Option Nat} : Steps recorder held [] held
  | step {recorder : Recorder} {held next last : Option Nat} {call : CallRecord}
      {calls : List CallRecord} (one : Step recorder held call next)
      (rest : Steps (recorder.push call) next calls last) :
      Steps recorder held (call :: calls) last

variable {recorder : Recorder} {held next last : Option Nat} {call : CallRecord}
  {calls : List CallRecord}

theorem Step.single (step : Step recorder held call next) : Steps recorder held [call] next :=
  .step step .done

theorem Steps.append {middle : Option Nat} {first second : List CallRecord}
    (before : Steps recorder held first middle)
    (rest : Steps (recorder.after first) middle second last) :
    Steps recorder held (first ++ second) last := by
  induction before with
  | done => exact rest
  | step one _ ih => exact .step one (ih (by rwa [after_cons] at rest))

private theorem Steps.split {first second : List CallRecord}
    (steps : Steps recorder held (first ++ second) last) :
    ∃ middle, Steps recorder held first middle ∧
      Steps (recorder.after first) middle second last := by
  induction first generalizing recorder held with
  | nil => exact ⟨held, .done, steps⟩
  | cons call first ih =>
      cases steps with
      | step one rest =>
          obtain ⟨middle, before, later⟩ := ih rest
          exact ⟨middle, .step one before, by rwa [after_cons]⟩

/-! ## Every statement is closed -/

private theorem Step.closed (step : Step recorder held call next) :
    held.toList ++ (recorder.grant? call).toList = call.closedId?.toList ++ next.toList := by
  cases step with
  | execute sql =>
      rw [grant?]
      split <;> rfl
  | granted sound =>
      rw [grant?, sound]
      rfl
  | refused failed =>
      rw [grant?, failed]
      rfl
  | run id params =>
      rw [grant?]
      split <;> rfl
  | close id =>
      rw [grant?]
      split <;> rfl

/-- What is held and granted is closed or held at the end. -/
theorem Steps.closed (steps : Steps recorder held calls last) :
    held.toList ++ recorder.granted calls =
      calls.filterMap CallRecord.closedId? ++ last.toList := by
  induction steps with
  | done => exact List.append_nil _
  | @step recorder held next last call calls one rest ih =>
      have gathered : (call :: calls).filterMap CallRecord.closedId? =
          call.closedId?.toList ++ calls.filterMap CallRecord.closedId? := by
        rw [List.filterMap_cons]
        split <;> rename_i found <;> rw [found] <;> rfl
      calc held.toList ++ recorder.granted (call :: calls)
          = held.toList ++ (recorder.grant? call).toList ++
              (recorder.push call).granted calls := (List.append_assoc ..).symm
        _ = call.closedId?.toList ++ (next.toList ++ (recorder.push call).granted calls) := by
            rw [one.closed, List.append_assoc]
        _ = (call :: calls).filterMap CallRecord.closedId? ++ last.toList := by
            rw [ih, gathered, List.append_assoc]

/-! ## Statements are numbered anew -/

private theorem nextId_push (recorder : Recorder) (call : CallRecord) :
    (recorder.push call).nextId =
      recorder.nextId + if call.kind = CallKind.prepare then 1 else 0 := by
  simp only [nextId, count, push, List.countP_cons, decide_eq_true_eq]
  omega

private theorem nextId_le_push (recorder : Recorder) (call : CallRecord) :
    recorder.nextId ≤ (recorder.push call).nextId := by
  rw [nextId_push]
  exact Nat.le_add_right _ _

private theorem nextId_lt_push (recorder : Recorder) (sql : String) (id : Nat) :
    recorder.nextId < (recorder.push (.prepare sql id)).nextId := by
  rw [nextId_push]
  exact Nat.lt_succ_self _

private theorem Step.numbered (step : Step recorder held call next)
    (below : ∀ id ∈ held, id < recorder.nextId) :
    ∀ id ∈ next, id < (recorder.push call).nextId := by
  intro id member
  cases step with
  | execute sql => cases member
  | granted sound =>
      cases member
      exact nextId_lt_push recorder _ _
  | refused failed => cases member
  | run _ params => exact Nat.lt_of_lt_of_le (below id member) (nextId_le_push _ _)
  | close _ => cases member

private theorem Steps.numbered (steps : Steps recorder held calls last)
    (below : ∀ id ∈ held, id < recorder.nextId) :
    ∀ id ∈ last, id < (recorder.after calls).nextId := by
  induction steps with
  | done => exact below
  | step one rest ih =>
      rw [after_cons]
      exact ih (one.numbered below)

private theorem Step.grant_eq (step : Step recorder held call next) {id : Nat}
    (granted : recorder.grant? call = some id) :
    id = recorder.nextId ∧ recorder.nextId < (recorder.push call).nextId := by
  cases step with
  | granted sound =>
      rw [grant?, sound] at granted
      exact ⟨(Option.some.inj granted).symm, nextId_lt_push recorder _ _⟩
  | refused failed =>
      rw [grant?, failed] at granted
      cases granted
  | execute _ | run _ _ | close _ =>
      rw [grant?] at granted
      split at granted <;> cases granted

/-- Statements are granted in the order of their numbers, from the next number on. -/
theorem Steps.ordered (steps : Steps recorder held calls last) :
    (∀ id ∈ recorder.granted calls, recorder.nextId ≤ id) ∧
      (recorder.granted calls).Pairwise (· < ·) := by
  induction steps with
  | done => exact ⟨fun _ member => (nomatch member), .nil⟩
  | @step recorder held next last call calls one rest ih =>
      obtain ⟨above, ordered⟩ := ih
      rw [granted]
      cases given : recorder.grant? call with
      | none =>
          exact ⟨fun id member => Nat.le_trans (nextId_le_push recorder call) (above id member),
            ordered⟩
      | some id =>
          obtain ⟨rfl, lower⟩ := one.grant_eq given
          refine ⟨fun id member => ?_, .cons (fun id member => ?_) ordered⟩
          · cases member with
            | head => exact Nat.le_refl _
            | tail _ other => exact Nat.le_of_lt (Nat.lt_of_lt_of_le lower (above id other))
          · exact Nat.lt_of_lt_of_le lower (above id member)

/-! ## No closed statement is run -/

private theorem Steps.runs (steps : Steps recorder held calls last) {id : Nat} {params : List Cell}
    (ran : .run id params ∈ calls) : id ∈ held ∨ recorder.nextId ≤ id := by
  induction steps with
  | done => cases ran
  | @step recorder held next last call calls one rest ih =>
      cases ran with
      | head =>
          cases one with
          | run _ _ => exact .inl rfl
      | tail _ later =>
          rcases ih later with inside | above
          · cases one with
            | granted sound =>
                cases inside
                exact .inr (Nat.le_refl _)
            | run _ _ => exact .inl inside
            | execute _ | refused _ | close _ => cases inside
          · exact .inr (Nat.le_trans (nextId_le_push recorder call) above)

end Tabular.Recorder
