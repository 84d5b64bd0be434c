import Tabular.Proofs.Source.Feed
import Tabular.Proofs.Text.Blank
import Tabular.Proofs.Text.Utf8
import Tabular.Source.Input

/-!
# Lines of a written text

A text that is written line by line, with a line feed after each, is read as these lines.
-/

set_option autoImplicit false

namespace Tabular

/-- Lines with a line feed after each. -/
def terminated (lines : List (List Char)) : List Char :=
  lines.flatMap (· ++ ['\n'])

theorem terminated_append (lines more : List (List Char)) :
    terminated (lines ++ more) = terminated lines ++ terminated more :=
  List.flatMap_append

theorem Line.split_append {body : List UInt8} (whole : 0x0A ∉ body) (rest : List UInt8) :
    split (body ++ 0x0A :: rest) = ⟨body, true⟩ :: split rest := by
  have ended := Text.dropWhile_ne_append whole rest
  have begun := Text.takeWhile_ne_append whole rest
  cases front : body ++ 0x0A :: rest with
  | nil => simp at front
  | cons b tail =>
      rw [front] at ended begun
      rw [split]
      split
      · rename_i none
        rw [ended] at none
        cases none
      · rename_i mark after found
        rw [ended] at found
        obtain ⟨-, rfl⟩ := List.cons.inj found
        rw [begun]

private theorem Line.split_terminated {bodies : List (List UInt8)}
    (whole : ∀ body ∈ bodies, 0x0A ∉ body) :
    split (bodies.flatMap (· ++ [0x0A])) = bodies.map (⟨·, true⟩) := by
  induction bodies with
  | nil => exact split_nil
  | cons body bodies ih =>
      obtain ⟨first, others⟩ := List.forall_mem_cons.mp whole
      rw [List.flatMap_cons, List.append_assoc, List.singleton_append, split_append first,
        ih others, List.map_cons]

private theorem Utf8.encode_terminated (lines : List (List Char)) :
    encode (terminated lines) = (lines.map encode).flatMap (· ++ [0x0A]) := by
  induction lines with
  | nil => rfl
  | cons line lines ih =>
      rw [terminated] at ih
      rw [terminated, List.flatMap_cons, encode_append, encode_append, ih]
      rfl

theorem Input.lines_terminated {lines : List (List Char)} (whole : ∀ line ∈ lines, '\n' ∉ line) :
    Input.lines ⟨Utf8.encode (terminated lines), true⟩ = Feed.ofList (lines.map Utf8.encode) := by
  have bodies : ∀ body ∈ lines.map Utf8.encode, 0x0A ∉ body := by
    intro body member
    obtain ⟨line, inside, rfl⟩ := List.mem_map.mp member
    exact Utf8.not_mem_encode (by decide) (whole line inside)
  rw [Input.lines, Utf8.encode_terminated, if_pos rfl, Line.split_terminated bodies,
    List.map_map]
  rfl

end Tabular
