import Mathlib.Data.List.TakeDrop
import Mathlib.Data.List.DropRight
import Tabular.Json.Parser

/-!
# Reading JSON values

A value that is read takes bytes off the input, so fuel for every byte is enough, and with more of it
the answer is the same. A text that holds one value is a sequence of just this value.
-/

set_option autoImplicit false

namespace Tabular.Json

variable {α β : Type}

/-! ## What a reading leaves -/

/-- A reading that leaves no more bytes than the given number. -/
def Leaves (size : Nat) (outcome : Except Fault (Parsed α)) : Prop :=
  ∀ found rest, outcome = .ok (found, rest) → rest.length ≤ size

private theorem Leaves.mono {small large : Nat} {outcome : Except Fault (Parsed α)}
    (leaves : Leaves small outcome) (order : small ≤ large) : Leaves large outcome :=
  fun found rest read => Nat.le_trans (leaves found rest read) order

private theorem leaves_ok {size : Nat} {found : α} {rest : List UInt8}
    (short : rest.length ≤ size) :
    Leaves size (.ok (found, rest)) := by
  intro other after read
  cases read
  exact short

private theorem leaves_failAt (size : Nat) (cause : Cause) (rest : List UInt8) :
    Leaves size (failAt cause rest : Except Fault (Parsed α)) := by
  intro found after read
  cases read

private theorem leaves_failAtNext (size : Nat) (cause : Cause) (rest : List UInt8) :
    Leaves size (failAtNext cause rest : Except Fault (Parsed α)) := by
  intro found after read
  cases read

private theorem Leaves.bind {first size : Nat} {outcome : Except Fault (Parsed α)}
    {onward : Parsed α → Except Fault (Parsed β)} (leaves : Leaves first outcome)
    (later : ∀ found rest, rest.length ≤ first → Leaves size (onward (found, rest))) :
    Leaves size (outcome >>= onward) := by
  cases outcome with
  | error fault =>
      intro found rest read
      cases read
  | ok parsed => exact later _ _ (leaves parsed.1 parsed.2 rfl)

private theorem Leaves.bind_congr {size : Nat} {outcome : Except Fault (Parsed α)}
    {onward other : Parsed α → Except Fault (Parsed β)} (leaves : Leaves size outcome)
    (same : ∀ found rest, rest.length ≤ size → onward (found, rest) = other (found, rest)) :
    (outcome >>= onward) = (outcome >>= other) := by
  cases outcome with
  | error fault => rfl
  | ok parsed => exact same _ _ (leaves parsed.1 parsed.2 rfl)

theorem length_skipBlank_le (input : List UInt8) : (skipBlank input).length ≤ input.length :=
  (List.dropWhile_sublist _).length_le

theorem length_of_skipBlank {input rest : List UInt8} {b : UInt8}
    (start : skipBlank input = b :: rest) : rest.length + 1 ≤ input.length := by
  have bound := length_skipBlank_le input
  rwa [start, List.length_cons] at bound

/-- What is read of an item or a member behind the comma, if there is one. -/
theorem length_skipBlank_comma (first : Bool) (b : UInt8) (rest : List UInt8) :
    (skipBlank (if first then b :: rest else rest)).length ≤ rest.length + 1 := by
  refine Nat.le_trans (length_skipBlank_le _) ?_
  split <;> simp

theorem length_digits (input : List UInt8) :
    (digits input).1.length + (digits input).2.length = input.length := by
  rw [digits, List.span_eq_takeWhile_dropWhile, ← List.length_append,
    List.takeWhile_append_dropWhile]

/-! ## Numbers -/

private theorem leaves_scaled (negative : Bool) (n : Nat) (power : Int) (rest : List UInt8) :
    Leaves rest.length (scaled negative n power rest) := by
  rw [scaled]
  split
  · exact leaves_ok (Nat.le_refl _)
  · exact leaves_failAt _ _ _

private theorem leaves_exponentPart (negative : Bool) (n : Nat) (power : Int) (input : List UInt8) :
    Leaves input.length (exponentPart negative n power input) := by
  unfold exponentPart
  split
  rename_i down start sign
  have short : start.length ≤ input.length := by
    split at sign <;> cases sign <;> simp
  cases start with
  | nil => exact leaves_failAt _ _ _
  | cons first rest =>
      have size := length_digits (first :: rest)
      dsimp only
      split
      · exact leaves_failAt _ _ _
      · split
        · exact (leaves_scaled _ _ _ _).mono (by omega)
        · split
          · exact leaves_failAt _ _ _
          · exact leaves_ok (by omega)

private theorem leaves_fractionPart (negative : Bool) (n : Nat) (power : Int) (input : List UInt8) :
    Leaves input.length (fractionPart negative n power input) := by
  have size := length_digits input
  unfold fractionPart
  dsimp only
  split
  · split
    · exact leaves_failAt _ _ _
    · exact leaves_failAtNext _ _ _
  · split
    · rename_i tail found
      rw [found, List.length_cons] at size
      exact (leaves_exponentPart _ _ _ _).mono (by omega)
    · rename_i tail found
      rw [found, List.length_cons] at size
      exact (leaves_exponentPart _ _ _ _).mono (by omega)
    · exact (leaves_scaled _ _ _ _).mono (by omega)

private theorem leaves_unsignedNumber (negative : Bool) (input : List UInt8) :
    Leaves (input.length - 1) (unsignedNumber negative input) := by
  have size := length_digits input
  unfold unsignedNumber
  dsimp only
  split
  · split
    · exact leaves_failAt _ _ _
    · exact leaves_failAt _ _ _
  · rename_i first others run
    rw [run, List.length_cons] at size
    split
    · exact leaves_failAtNext _ _ _
    · split
      · rename_i tail found
        rw [found, List.length_cons] at size
        exact (leaves_fractionPart _ _ _ _).mono (by omega)
      · rename_i tail found
        rw [found, List.length_cons] at size
        exact (leaves_exponentPart _ _ _ _).mono (by omega)
      · rename_i tail found
        rw [found, List.length_cons] at size
        exact (leaves_exponentPart _ _ _ _).mono (by omega)
      · split
        · exact (leaves_scaled _ _ _ _).mono (by omega)
        · split
          · exact leaves_ok (by omega)
          · split
            · exact leaves_ok (by omega)
            · exact leaves_ok (by omega)

/-! ## Words and texts -/

private theorem leaves_word (letters : List UInt8) (value : Document) (input : List UInt8) :
    Leaves input.length (word letters value input) := by
  fun_induction word letters value input with
  | case1 => exact leaves_ok (Nat.le_refl _)
  | case2 => exact leaves_failAt _ _ _
  | case3 letter letters b rest same ih => exact ih.mono (Nat.le_succ _)
  | case4 => exact leaves_failAt _ _ _

private theorem leaves_hexEscape (input : List UInt8) : Leaves input.length (hexEscape input) := by
  unfold hexEscape
  split
  · split
    · exact leaves_ok (by simp only [List.length_cons]; omega)
    · exact leaves_failAt _ _ _
  · exact leaves_failAt _ _ _

private theorem leaves_unicodeEscape (input : List UInt8) :
    Leaves input.length (unicodeEscape input) := by
  refine (leaves_hexEscape input).bind fun high rest short => ?_
  dsimp only
  split
  · exact leaves_failAt _ _ _
  · split
    · split
      · rename_i more _ _
        simp only [List.length_cons] at short
        refine (leaves_hexEscape more).bind fun low behind bound => ?_
        dsimp only
        split
        · exact leaves_ok (by omega)
        · exact leaves_failAt _ _ _
      · exact leaves_failAt _ _ _
    · exact leaves_ok short

private theorem leaves_stringBytes (fuel : Nat) (read input : List UInt8) :
    Leaves (input.length - 1) (stringBytes fuel read input) := by
  induction fuel generalizing read input with
  | zero => exact leaves_failAt _ _ _
  | succ fuel ih =>
      unfold stringBytes
      split
      · exact leaves_failAt _ _ _
      · exact leaves_ok (Nat.le_refl _)
      · split
        · exact leaves_failAt _ _ _
        · rename_i more
          refine (leaves_unicodeEscape more).bind fun c rest short => (ih _ _).mono ?_
          simp only [List.length_cons]
          omega
        · split
          · refine (ih _ _).mono ?_
            simp only [List.length_cons]
            omega
          · exact leaves_failAt _ _ _
      · split
        · exact leaves_failAt _ _ _
        · exact (ih _ _).mono (Nat.sub_le _ _)

private theorem leaves_stringBody (fuel : Nat) (input : List UInt8) :
    Leaves (input.length - 1) (stringBody fuel input) := by
  refine (leaves_stringBytes fuel [] input).bind fun bytes rest short => ?_
  dsimp only
  split
  · exact leaves_ok short
  · exact leaves_failAt _ _ _

/-! ## Values -/

/-- With the given fuel a value takes at least one byte, and so do the items and the members up to
their closing bracket. -/
structure Shrinks (fuel : Nat) : Prop where
  value : ∀ depth input, Leaves (input.length - 1) (value fuel depth input)
  items : ∀ depth first read input,
    Leaves (input.length - 1) (items fuel depth first read input)
  members : ∀ depth first read input,
    Leaves (input.length - 1) (members fuel depth first read input)

section

variable {fuel : Nat} (shrinks : Shrinks fuel) (depth : Nat) (first : Bool)

include shrinks

theorem leaves_value_succ (input : List UInt8) :
    Leaves (input.length - 1) (value (fuel + 1) depth input) := by
  unfold value
  split
  case h_1 => exact leaves_failAt _ _ _
  case h_2 rest start | h_3 rest start | h_4 rest start =>
      have size := length_of_skipBlank start
      exact (leaves_word _ _ _).mono (by omega)
  case h_5 rest start =>
      have size := length_of_skipBlank start
      refine (leaves_stringBody _ _).bind fun text behind short => ?_
      exact leaves_ok (by omega)
  case h_6 rest start =>
      have size := length_of_skipBlank start
      exact (leaves_unsignedNumber _ _).mono (by omega)
  case h_7 rest start =>
      have size := length_of_skipBlank start
      split
      · exact leaves_failAt _ _ _
      · refine (shrinks.items _ _ _ _).bind fun found behind short => ?_
        exact leaves_ok (by omega)
  case h_8 rest start =>
      have size := length_of_skipBlank start
      split
      · exact leaves_failAt _ _ _
      · refine (shrinks.members _ _ _ _).bind fun found behind short => ?_
        exact leaves_ok (by omega)
  case h_9 b rest _ _ _ _ _ _ _ start =>
      have size := length_of_skipBlank start
      split
      · refine (leaves_unsignedNumber _ _).mono ?_
        rw [List.length_cons]
        omega
      · exact leaves_failAt _ _ _

theorem leaves_items_succ (read : List Document) (input : List UInt8) :
    Leaves (input.length - 1) (items (fuel + 1) depth first read input) := by
  unfold items
  split
  case h_1 => exact leaves_failAt _ _ _
  case h_2 rest start =>
      have size := length_of_skipBlank start
      exact leaves_ok (by omega)
  case h_3 b rest _ start =>
      have size := length_of_skipBlank start
      have behindComma := length_skipBlank_comma first b rest
      split
      · exact leaves_failAt _ _ _
      · split
        · exact leaves_failAt _ _ _
        · exact leaves_failAt _ _ _
        · refine (shrinks.value _ _).bind fun item behind short => ?_
          exact (shrinks.items _ _ _ _).mono (by omega)

theorem leaves_members_succ (read : List (String × Document)) (input : List UInt8) :
    Leaves (input.length - 1) (members (fuel + 1) depth first read input) := by
  unfold members
  split
  case h_1 => exact leaves_failAt _ _ _
  case h_2 rest start =>
      have size := length_of_skipBlank start
      exact leaves_ok (by omega)
  case h_3 b rest _ start =>
      have size := length_of_skipBlank start
      have behindComma := length_skipBlank_comma first b rest
      split
      · exact leaves_failAt _ _ _
      · split
        case h_2 key opened =>
            rw [opened, List.length_cons] at behindComma
            refine (leaves_stringBody _ _).bind fun name behind short => ?_
            dsimp only
            split
            · exact leaves_failAt _ _ _
            · rename_i colon
              have later := length_of_skipBlank colon
              refine (shrinks.value _ _).bind fun found after shorter =>
                (shrinks.members _ _ _ _).mono ?_
              dsimp only
              omega
            · exact leaves_failAt _ _ _
        all_goals exact leaves_failAt _ _ _

end

private theorem shrinks (fuel : Nat) : Shrinks fuel := by
  induction fuel with
  | zero =>
      exact ⟨fun _ _ => leaves_failAt _ _ _, fun _ _ _ _ => leaves_failAt _ _ _,
        fun _ _ _ _ => leaves_failAt _ _ _⟩
  | succ fuel ih =>
      exact ⟨leaves_value_succ ih, leaves_items_succ ih, leaves_members_succ ih⟩

/-! ## Fuel -/

theorem stringBytes_succ (fuel : Nat) (read input : List UInt8) (enough : input.length < fuel) :
    stringBytes (fuel + 1) read input = stringBytes fuel read input := by
  induction fuel generalizing read input with
  | zero => cases enough
  | succ fuel ih =>
      unfold stringBytes
      split
      · rfl
      · rfl
      · split
        · rfl
        · rename_i more
          simp only [List.length_cons] at enough
          refine (leaves_unicodeEscape more).bind_congr fun c rest short => ih _ _ ?_
          omega
        · simp only [List.length_cons] at enough
          split
          · exact ih _ _ (by omega)
          · rfl
      · simp only [List.length_cons] at enough
        split
        · rfl
        · exact ih _ _ (by omega)

theorem stringBody_succ (fuel : Nat) (input : List UInt8) (enough : input.length < fuel) :
    stringBody (fuel + 1) input = stringBody fuel input := by
  rw [stringBody, stringBody, stringBytes_succ fuel [] input enough]

/-- The given fuel is as good as more of it for all texts that are short enough. A list takes a step
for itself and one for each item, and a byte at least for both, so there are two steps for a byte. -/
structure Settled (fuel : Nat) : Prop where
  value : ∀ depth input, 2 * input.length + 1 ≤ fuel →
    value (fuel + 1) depth input = value fuel depth input
  items : ∀ depth first read input, 2 * input.length + 2 ≤ fuel →
    items (fuel + 1) depth first read input = items fuel depth first read input
  members : ∀ depth first read input, 2 * input.length + 2 ≤ fuel →
    members (fuel + 1) depth first read input = members fuel depth first read input

section

variable {fuel : Nat} (settled : Settled fuel) (depth : Nat) (first : Bool)

include settled

private theorem value_settled (input : List UInt8) (enough : 2 * input.length + 1 ≤ fuel + 1) :
    value (fuel + 2) depth input = value (fuel + 1) depth input := by
  unfold value
  split
  case h_5 rest start =>
      have size := length_of_skipBlank start
      rw [stringBody_succ fuel rest (by omega)]
  case h_7 rest start =>
      have size := length_of_skipBlank start
      rw [settled.items _ _ _ _ (by omega)]
  case h_8 rest start =>
      have size := length_of_skipBlank start
      rw [settled.members _ _ _ _ (by omega)]
  all_goals rfl

private theorem items_settled (read : List Document) (input : List UInt8)
    (enough : 2 * input.length + 2 ≤ fuel + 1) :
    items (fuel + 2) depth first read input = items (fuel + 1) depth first read input := by
  unfold items
  split
  case h_3 b rest _ start =>
      have size := length_of_skipBlank start
      have behindComma := length_skipBlank_comma first b rest
      split
      · rfl
      · split
        · rfl
        · rfl
        · rw [settled.value _ _ (by omega)]
          refine ((shrinks fuel).value _ _).bind_congr fun item behind short => ?_
          exact settled.items _ _ _ _ (by omega)
  all_goals rfl

private theorem members_settled (read : List (String × Document)) (input : List UInt8)
    (enough : 2 * input.length + 2 ≤ fuel + 1) :
    members (fuel + 2) depth first read input = members (fuel + 1) depth first read input := by
  unfold members
  split
  case h_3 b rest _ start =>
      have size := length_of_skipBlank start
      have behindComma := length_skipBlank_comma first b rest
      split
      · rfl
      · split
        case h_2 key opened =>
            rw [opened, List.length_cons] at behindComma
            rw [stringBody_succ _ _ (by omega)]
            refine (leaves_stringBody _ _).bind_congr fun name behind short => ?_
            dsimp only
            split
            · rfl
            · rename_i colon
              have later := length_of_skipBlank colon
              rw [settled.value _ _ (by omega)]
              refine ((shrinks fuel).value _ _).bind_congr fun found after shorter => ?_
              refine settled.members _ _ _ _ ?_
              dsimp only
              omega
            · rfl
        all_goals rfl
  all_goals rfl

end

private theorem settled (fuel : Nat) : Settled fuel := by
  induction fuel with
  | zero =>
      refine ⟨fun _ _ few => ?_, fun _ _ _ _ few => ?_, fun _ _ _ _ few => ?_⟩
      · cases few
      · cases few
      · cases few
  | succ fuel ih => exact ⟨value_settled ih, items_settled ih, members_settled ih⟩

/-! ## Texts of one value -/

private theorem skipBlank_skipBlank (input : List UInt8) :
    skipBlank (skipBlank input) = skipBlank input :=
  List.dropWhile_idempotent _ _

private theorem value_skipBlank (fuel depth : Nat) (input : List UInt8) :
    value (fuel + 1) depth (skipBlank input) = value (fuel + 1) depth input := by
  unfold value
  rw [skipBlank_skipBlank]

private theorem isBlank_of_skipBlank {c : UInt8} {rest : List UInt8}
    (blank : skipBlank (c :: rest) = []) : isBlank c = true :=
  List.dropWhile_eq_nil_iff.mp blank c (.head _)

private theorem sequence_of_blank (fuel : Nat) {input : List UInt8} (blank : skipBlank input = []) :
    sequence fuel input = [] := by
  cases fuel with
  | zero => rfl
  | succ fuel => simp only [sequence, blank]

private theorem exists_value_of_parse {input : List UInt8} {document : Document}
    (parsed : parse input = .ok document) :
    ∃ rest, value (fuelFor input) depthLimit input = .ok (document, rest) ∧ skipBlank rest = [] := by
  unfold parse at parsed
  cases read : value (fuelFor input) depthLimit input with
  | error fault =>
      rw [read] at parsed
      cases parsed
  | ok outcome =>
      obtain ⟨found, rest⟩ := outcome
      rw [read] at parsed
      change atEnd (found, rest) = _ at parsed
      dsimp only [atEnd] at parsed
      split at parsed
      · rename_i blank
        cases parsed
        exact ⟨_, rfl, blank⟩
      · cases parsed

/-- A text that is one value is a sequence of this value. -/
theorem parseAll_of_parse {input : List UInt8} {document : Document}
    (parsed : parse input = .ok document) : parseAll input = [.ok document] := by
  obtain ⟨rest, read, blank⟩ := exists_value_of_parse parsed
  have again : value (2 * input.length + 3) depthLimit (skipBlank input) = .ok (document, rest) := by
    rw [value_skipBlank, ← (settled _).value _ _ (by omega), ← read]
    rfl
  change sequence (2 * input.length + 3 + 1) input = _
  unfold sequence
  split
  · rename_i nothing
    rw [nothing] at again
    cases again
  · rename_i b start opened
    rw [← opened, again]
    dsimp only
    cases rest with
    | nil => rfl
    | cons c rest =>
        have ends : endsScalar c = true := by
          simp [endsScalar, isBlank_of_skipBlank blank]
        simp [ends, sequence_of_blank _ blank]

end Tabular.Json
