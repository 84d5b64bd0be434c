import Tabular.Engine.Recorder

/-!
# What a recording engine records

The calls in their order, what they prepare, run and close, and the one equation that describes
every call of the recording engine.
-/

set_option autoImplicit false

namespace Tabular

namespace CallRecord

def preparedId? : CallRecord → Option Nat
  | prepare _ id => some id
  | _ => none

def closedId? : CallRecord → Option Nat
  | close id => some id
  | _ => none

end CallRecord

namespace Recorder

def log (recorder : Recorder) : List CallRecord :=
  recorder.calls.reverse

def push (call : CallRecord) (recorder : Recorder) : Recorder :=
  { recorder with calls := call :: recorder.calls }

def after (recorder : Recorder) (calls : List CallRecord) : Recorder :=
  { recorder with calls := calls.reverse ++ recorder.calls }

/-- How a call fails that is made next, if it does. -/
def failure? (recorder : Recorder) (call : CallRecord) : Option Error :=
  recorder.fault call.kind ((recorder.push call).count call.kind)

def nextId (recorder : Recorder) : Nat :=
  recorder.count .prepare + 1

def Calm (recorder : Recorder) : Prop :=
  ∀ kind number, recorder.fault kind number = none

def mended (recorder : Recorder) : Recorder :=
  { recorder with fault := fun _ _ => none }

/-! ## One call -/

@[simp]
theorem log_push (call : CallRecord) (recorder : Recorder) :
    (recorder.push call).log = recorder.log ++ [call] :=
  List.reverse_cons

theorem record_eq {α : Type} (call : CallRecord) (answer : α) (recorder : Recorder) :
    record call answer recorder =
      ((match recorder.failure? call with
        | some error => .error error
        | none => .ok answer), recorder.push call) := by
  have unfolded : record call answer recorder =
      match recorder.failure? call with
      | some error => (.error error, recorder.push call)
      | none => (.ok answer, recorder.push call) := rfl
  rw [unfolded]
  cases recorder.failure? call with
  | none => rfl
  | some error => rfl

theorem calm_mended (recorder : Recorder) : recorder.mended.Calm :=
  fun _ _ => rfl

/-! ## Several calls -/

theorem after_cons (recorder : Recorder) (call : CallRecord) (calls : List CallRecord) :
    recorder.after (call :: calls) = (recorder.push call).after calls := by
  simp only [after, push, List.reverse_cons, List.append_assoc]
  rfl

theorem after_append (recorder : Recorder) (first second : List CallRecord) :
    recorder.after (first ++ second) = (recorder.after first).after second := by
  simp only [after, List.reverse_append, List.append_assoc]

theorem mended_after (recorder : Recorder) (calls : List CallRecord) :
    (recorder.after calls).mended = recorder.mended.after calls := rfl

def failures : Recorder → List CallRecord → List Error
  | _, [] => []
  | recorder, call :: calls =>
    (recorder.failure? call).toList ++ failures (recorder.push call) calls

/-- The statement that a call prepares, unless it fails. -/
def grant? (recorder : Recorder) (call : CallRecord) : Option Nat :=
  match recorder.failure? call with
  | some _ => none
  | none => call.preparedId?

def granted : Recorder → List CallRecord → List Nat
  | _, [] => []
  | recorder, call :: calls => (recorder.grant? call).toList ++ granted (recorder.push call) calls

theorem failures_append (recorder : Recorder) (first second : List CallRecord) :
    recorder.failures (first ++ second) =
      recorder.failures first ++ (recorder.after first).failures second := by
  induction first generalizing recorder with
  | nil => rfl
  | cons call first ih =>
      rw [List.cons_append, failures, failures, ih, after_cons, List.append_assoc]

theorem failures_append_eq_nil {recorder : Recorder} {first second : List CallRecord}
    (quiet : recorder.failures first = []) (rest : (recorder.after first).failures second = []) :
    recorder.failures (first ++ second) = [] := by
  rw [failures_append, quiet, rest]
  rfl

theorem failures_singleton (recorder : Recorder) (call : CallRecord) :
    recorder.failures [call] = (recorder.failure? call).toList :=
  List.append_nil _

end Recorder

end Tabular
