import Tabular.Files.Reference

/-!
# Files through a pipe

A pipe gives the bytes of the files in order, each with a line end behind it. Neither the chunks in
which the files are copied nor the sizes that the reader asks for are seen in them.
-/

set_option autoImplicit false

namespace Tabular

namespace Pipe

private theorem flatten_chunks (bytes : List UInt8) : (chunks bytes).flatten = bytes := by
  fun_induction chunks bytes with
  | case1 => rfl
  | case2 b rest ih => rw [List.flatten_cons, ih, List.take_append_drop]

theorem begun_of_chunk_nil {chunk : List UInt8} {waiting : List (List UInt8)}
    (ended : (begun chunk waiting).chunk = []) : (begun chunk waiting).waiting = [] := by
  fun_induction begun chunk waiting with
  | case1 next waiting ih => exact ih ended
  | case2 chunk waiting more =>
      cases waiting with
      | nil => rfl
      | cons next waiting => exact (more next waiting ended rfl).elim

/-- A reader that asks for bytes gets none only at the end. -/
theorem remaining_of_read_nil {size : Nat} {pipe : Pipe} (asked : 0 < size)
    (none_left : (pipe.read size).1 = []) : pipe.remaining = [] := by
  have ended : (begun pipe.chunk pipe.waiting).chunk = [] := by
    rcases List.take_eq_nil_iff.mp none_left with zero | ended
    · exact absurd zero (Nat.ne_of_gt asked)
    · exact ended
  rw [remaining, ← remaining_begun, remaining, ended, begun_of_chunk_nil ended]
  rfl

private theorem readFrom_eq {sizes : Nat → Nat} (asked : ∀ n, 0 < sizes n) (count : Nat)
    (pipe : Pipe) :
    pipe.readFrom sizes count = pipe.remaining := by
  fun_induction readFrom sizes count pipe with
  | case1 count pipe after read =>
      have none_left : (pipe.read (sizes count)).1 = [] := congrArg Prod.fst read
      exact (remaining_of_read_nil (asked count) none_left).symm
  | case2 count pipe b rest after read ih =>
      have whole := read_append_remaining (sizes count) pipe
      rw [read] at whole
      rw [ih, whole]

private theorem remaining_ofCopies (copies : List (List (List UInt8))) :
    (ofCopies copies).remaining = (copies.map List.flatten).flatMap (· ++ [0x0A]) := by
  rw [remaining, ofCopies, List.nil_append]
  induction copies with
  | nil => rfl
  | cons chunks copies ih =>
      rw [List.flatMap_cons, List.flatten_append, ih]
      simp

/-- All that is read of files, in whatever chunks they come and whatever sizes are asked for. -/
theorem readAll_ofCopies {sizes : Nat → Nat} (asked : ∀ n, 0 < sizes n)
    (copies : List (List (List UInt8))) :
    (ofCopies copies).readAll sizes = (copies.map List.flatten).flatMap (· ++ [0x0A]) := by
  rw [readAll, readFrom_eq asked, remaining_ofCopies]

end Pipe

theorem Reference.readPattern_eq {pattern : String} {tree : Node} {contents : List (List UInt8)}
    (found : Pattern.files pattern.toList tree = .ok contents) (matched : contents ≠ []) :
    readPattern pattern tree =
      .ok { bytes := contents.flatMap fun content => (Compression.read content).bytes ++ [0x0A] } := by
  have whole : ∀ files : List (List UInt8),
      (Pipe.ofCopies (files.map fun content => Pipe.chunks (Compression.read content).bytes)).readAll
        (fun _ => Pipe.bufferSize) =
      files.flatMap fun content => (Compression.read content).bytes ++ [0x0A] := by
    intro files
    rw [Pipe.readAll_ofCopies (fun _ => by decide), List.map_map, List.flatMap_map]
    simp only [Function.comp_apply, Pipe.flatten_chunks]
  rw [readPattern, found]
  cases contents with
  | nil => exact absurd rfl matched
  | cons content contents => simp only [whole]

end Tabular
