import Mathlib.Data.List.TakeWhile
import Tabular.Text.Blank

/-!
# Texts stripped, split and joined

What stripping leaves of a text with characters put around it, where a text is split, and what stands
in a text that is put together.
-/

set_option autoImplicit false

namespace Tabular.Text

theorem trimEndBy_of_kept {drop : Char → Bool} {last : Char} (kept : drop last = false)
    (text : List Char) : trimEndBy drop (text ++ [last]) = text ++ [last] := by
  rw [trimEndBy, List.reverse_append, List.reverse_singleton, List.singleton_append,
    List.dropWhile_cons_of_neg (by rw [kept]; decide), List.reverse_cons, List.reverse_reverse]

private theorem trimEndBy_of_dropped {drop : Char → Bool} {last : Char} (dropped : drop last = true)
    (text : List Char) : trimEndBy drop (text ++ [last]) = trimEndBy drop text := by
  rw [trimEndBy, List.reverse_append, List.reverse_singleton, List.singleton_append,
    List.dropWhile_cons_of_pos dropped, trimEndBy]

theorem trim_cons_blank {first : Char} (blank : isBlank first = true) (text : List Char) :
    trim (first :: text) = trim text := by
  rw [trim, trimBy, trimStartBy, List.dropWhile_cons_of_pos blank]
  rfl

theorem trim_append_blank {last : Char} (blank : isBlank last = true) (text : List Char) :
    trim (text ++ [last]) = trim text := by
  rw [trim, trim, trimBy, trimBy, trimStartBy, trimStartBy, List.dropWhile_append]
  by_cases empty : (text.dropWhile isBlank).isEmpty
  · rw [if_pos empty, List.isEmpty_iff.mp empty, List.dropWhile_cons_of_pos blank]
    rfl
  · rw [if_neg empty, trimEndBy_of_dropped blank]

theorem trim_of_solid {first last : Char} (start : isBlank first = false)
    (finish : isBlank last = false) (text : List Char) :
    trim (first :: text ++ [last]) = first :: text ++ [last] := by
  have kept : trimStartBy isBlank (first :: text ++ [last]) = first :: text ++ [last] :=
    List.dropWhile_cons_of_neg (by rw [start]; decide)
  rw [trim, trimBy, kept, trimEndBy_of_kept finish]

theorem trimBy_of_kept {drop : Char → Bool} {text : List Char}
    (first : ∀ c ∈ text.head?, drop c = false) (last : ∀ c ∈ text.getLast?, drop c = false) :
    trimBy drop text = text := by
  have kept {front : List Char} (outer : ∀ c ∈ front.head?, drop c = false) :
      front.dropWhile drop = front := by
    cases front with
    | nil => rfl
    | cons c front => exact List.dropWhile_cons_of_neg (by simp [outer c rfl])
  rw [trimBy, trimEndBy, trimStartBy, kept first, kept, List.reverse_reverse]
  simpa using last

/-- The characters of a text that are not blank. -/
def solid (text : List Char) : List Char :=
  text.filter fun c => !isBlank c

private theorem solid_dropWhile (text : List Char) :
    solid (text.dropWhile isBlank) = solid text := by
  induction text with
  | nil => rfl
  | cons c text ih =>
      cases blank : isBlank c with
      | false => rw [List.dropWhile_cons_of_neg (by simp [blank])]
      | true =>
          rw [List.dropWhile_cons_of_pos blank, ih]
          simp [solid, blank]

theorem solid_trim (text : List Char) : solid (trim text) = solid text := by
  have reversed (text : List Char) : solid text.reverse = (solid text).reverse := List.filter_reverse
  rw [trim, trimBy, trimEndBy, trimStartBy, reversed, solid_dropWhile, reversed, List.reverse_reverse,
    solid_dropWhile]

theorem trim_eq_nil_iff {text : List Char} : trim text = [] ↔ solid text = [] := by
  constructor
  · intro empty
    rw [← solid_trim, empty]
    rfl
  · intro empty
    have blank : text.dropWhile isBlank = [] := by
      simpa [solid, List.dropWhile_eq_nil_iff, List.filter_eq_nil_iff] using empty
    rw [trim, trimBy, trimStartBy, blank]
    rfl

theorem dropWhile_append_solid (leading : List Char) {text : List Char}
    (filled : text ≠ []) (solid : ∀ c ∈ text, isBlank c = false) (rest : List Char) :
    (leading ++ (text ++ rest)).dropWhile isBlank =
      leading.dropWhile isBlank ++ (text ++ rest) := by
  obtain ⟨first, others, rfl⟩ := List.exists_cons_of_ne_nil filled
  have kept : (first :: others ++ rest).dropWhile isBlank = first :: others ++ rest :=
    List.dropWhile_cons_of_neg (by simp [solid first])
  rw [List.dropWhile_append, kept]
  split
  · rename_i empty
    rw [List.isEmpty_iff.mp empty, List.nil_append]
  · rfl

/-- What is stripped from a text has no part in a piece of it without blanks. -/
theorem infix_trim {text piece : List Char} (filled : piece ≠ [])
    (solid : ∀ c ∈ piece, isBlank c = false) (inside : piece <:+: text) : piece <:+: trim text := by
  obtain ⟨leading, rest, rfl⟩ := inside
  have begun := dropWhile_append_solid leading filled solid rest
  have ended := dropWhile_append_solid rest.reverse (List.reverse_ne_nil_iff.mpr filled)
    (fun c member => solid c (List.mem_reverse.mp member)) (leading.dropWhile isBlank).reverse
  refine ⟨leading.dropWhile isBlank, (rest.reverse.dropWhile isBlank).reverse, ?_⟩
  rw [trim, trimBy, trimStartBy, trimEndBy, List.append_assoc leading, begun, List.reverse_append,
    List.reverse_append, List.append_assoc rest.reverse, ended]
  simp

/-! ## A text up to a mark -/

section Mark

variable {α : Type} [BEq α] [LawfulBEq α] {mark : α} {text : List α}

theorem forall_ne_of_not_mem (absent : mark ∉ text) : ∀ item ∈ text, (item != mark) = true := by
  intro item member
  refine bne_iff_ne.mpr ?_
  rintro rfl
  exact absent member

theorem takeWhile_ne_append (absent : mark ∉ text) (rest : List α) :
    (text ++ mark :: rest).takeWhile (· != mark) = text := by
  have begun : (mark :: rest).takeWhile (· != mark) = [] :=
    List.takeWhile_cons_of_neg (by simp)
  rw [List.takeWhile_append_of_pos (forall_ne_of_not_mem absent), begun, List.append_nil]

theorem dropWhile_ne_append (absent : mark ∉ text) (rest : List α) :
    (text ++ mark :: rest).dropWhile (· != mark) = mark :: rest := by
  rw [List.dropWhile_append_of_pos (forall_ne_of_not_mem absent)]
  exact List.dropWhile_cons_of_neg (by simp)

end Mark

theorem splitOnce?_append {separator : Char} {text : List Char} (absent : separator ∉ text)
    (rest : List Char) : splitOnce? separator (text ++ separator :: rest) = some (text, rest) := by
  rw [splitOnce?, dropWhile_ne_append absent, takeWhile_ne_append absent]

/-! ## Parts put together -/

theorem mem_intercalate_of_mem {α : Type} {separator part : List α} {parts : List (List α)}
    {item : α} (member : part ∈ parts) (inside : item ∈ part) :
    item ∈ separator.intercalate parts := by
  induction parts with
  | nil => cases member
  | cons first parts ih =>
      cases parts with
      | nil =>
          obtain rfl := List.mem_singleton.mp member
          rwa [List.intercalate_singleton]
      | cons next parts =>
          rw [List.intercalate_cons_cons, List.append_assoc, List.mem_append]
          cases member with
          | head => exact .inl inside
          | tail _ later => exact .inr (List.mem_append_right _ (ih later))

theorem mem_of_mem_intercalate {α : Type} {separator : List α} {parts : List (List α)}
    {item : α} (member : item ∈ separator.intercalate parts) :
    item ∈ separator ∨ ∃ part ∈ parts, item ∈ part := by
  induction parts with
  | nil => cases member
  | cons first parts ih =>
      cases parts with
      | nil =>
          rw [List.intercalate_singleton] at member
          exact .inr ⟨first, List.mem_singleton_self first, member⟩
      | cons next parts =>
          rw [List.intercalate_cons_cons, List.append_assoc, List.mem_append,
            List.mem_append] at member
          rcases member with here | between | later
          · exact .inr ⟨first, List.mem_cons_self, here⟩
          · exact .inl between
          · obtain found | ⟨part, inside, here⟩ := ih later
            · exact .inl found
            · exact .inr ⟨part, List.mem_cons_of_mem first inside, here⟩

end Tabular.Text
