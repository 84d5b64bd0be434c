/-!
# Pipes

Files that are read as one go through a pipe. Each is copied into it in chunks, with a line end of its
own behind them. A reader gets no more than it asks for, and no more than is left of the chunk that it
has begun; it begins the next chunk when nothing is left. What was sent and what is still to be sent
are not told apart: a reader that finds nothing waits.
-/

set_option autoImplicit false

namespace Tabular

structure Pipe where
  /-- What has not been read of the chunk that was begun. -/
  chunk : List UInt8 := []
  /-- The chunks that were not begun, in the order in which they are sent. -/
  waiting : List (List UInt8) := []
deriving DecidableEq, Repr, Inhabited

namespace Pipe

def chunkSize : Nat := 64 * 1024

/-- How much a reader of lines asks for. -/
def bufferSize : Nat := 8 * 1024

/-- Bytes cut into chunks. -/
def chunks (bytes : List UInt8) : List (List UInt8) :=
  match bytes with
  | [] => []
  | b :: rest => (b :: rest).take chunkSize :: chunks ((b :: rest).drop chunkSize)
termination_by bytes.length
decreasing_by
  simp only [List.length_drop, List.length_cons, chunkSize]
  omega

/-- The pipe into which files are copied, given the chunks of each. -/
def ofCopies (copies : List (List (List UInt8))) : Pipe :=
  { waiting := copies.flatMap fun chunks => chunks ++ [[0x0A]] }

/-- The pipe with its next chunk begun where nothing is left of the one before. -/
def begun : List UInt8 → List (List UInt8) → Pipe
  | [], next :: waiting => begun next waiting
  | chunk, waiting => ⟨chunk, waiting⟩

/-- Read up to `size` bytes. There are none at the end of the last file. -/
def read (size : Nat) (pipe : Pipe) : List UInt8 × Pipe :=
  let pipe := begun pipe.chunk pipe.waiting
  (pipe.chunk.take size, { pipe with chunk := pipe.chunk.drop size })

/-- The bytes that a pipe still gives. -/
def remaining (pipe : Pipe) : List UInt8 :=
  pipe.chunk ++ pipe.waiting.flatten

theorem remaining_begun (chunk : List UInt8) (waiting : List (List UInt8)) :
    (begun chunk waiting).remaining = chunk ++ waiting.flatten := by
  fun_induction begun chunk waiting with
  | case1 next waiting ih => exact ih
  | case2 chunk waiting => rfl

/-- What is read and what remains is what remained. -/
theorem read_append_remaining (size : Nat) (pipe : Pipe) :
    (pipe.read size).1 ++ (pipe.read size).2.remaining = pipe.remaining := by
  have whole := remaining_begun pipe.chunk pipe.waiting
  rw [read, remaining, ← List.append_assoc, List.take_append_drop]
  exact whole

/-- All that a pipe gives to a reader that asks for `sizes 0` bytes, then for `sizes 1`, and so on
until it gets none. This is after `asked` times. -/
def readFrom (sizes : Nat → Nat) (asked : Nat) (pipe : Pipe) : List UInt8 :=
  match _read : pipe.read (sizes asked) with
  | ([], _) => []
  | (b :: rest, after) => b :: rest ++ readFrom sizes (asked + 1) after
termination_by pipe.remaining.length
decreasing_by
  have whole := congrArg List.length (read_append_remaining (sizes asked) pipe)
  rw [_read] at whole
  simp only [List.length_append, List.length_cons] at whole
  omega

def readAll (sizes : Nat → Nat) (pipe : Pipe) : List UInt8 :=
  readFrom sizes 0 pipe

end Pipe

end Tabular
