import Tabular.Instant
import Tabular.Number.Style

/-!
# Plain texts

The texts of numbers and instants are made of letters, digits and four marks. Each such character
is one byte, and none is a backslash or a control character, so no format needs to escape them.
-/

set_option autoImplicit false

namespace Tabular

/-- A letter or digit of ASCII or one of the marks of numbers and times. -/
def Plain (c : Char) : Prop :=
  c.isAlphanum = true ∨ c ∈ ['-', '+', '.', ':']

instance (c : Char) : Decidable (Plain c) :=
  inferInstanceAs (Decidable (_ ∨ _))

def PlainList (text : List Char) : Prop :=
  ∀ c ∈ text, Plain c

instance (text : List Char) : Decidable (PlainList text) :=
  List.decidableBAll Plain text

def PlainText (text : String) : Prop :=
  PlainList text.toList

instance (text : String) : Decidable (PlainText text) :=
  inferInstanceAs (Decidable (PlainList _))

@[simp]
theorem plainList_nil : PlainList [] := fun _ member => absurd member List.not_mem_nil

@[simp]
theorem plainList_cons {c : Char} {text : List Char} :
    PlainList (c :: text) ↔ Plain c ∧ PlainList text :=
  List.forall_mem_cons

@[simp]
theorem plainList_append {left right : List Char} :
    PlainList (left ++ right) ↔ PlainList left ∧ PlainList right :=
  List.forall_mem_append

@[simp]
theorem plainText_append {left right : String} :
    PlainText (left ++ right) ↔ PlainText left ∧ PlainText right := by
  unfold PlainText
  rw [String.toList_append]
  exact plainList_append

private theorem PlainList.take {text : List Char} (plain : PlainList text) (count : Nat) :
    PlainList (text.take count) :=
  fun c member => plain c (List.mem_of_mem_take member)

private theorem PlainList.drop {text : List Char} (plain : PlainList text) (count : Nat) :
    PlainList (text.drop count) :=
  fun c member => plain c (List.mem_of_mem_drop member)

/-- A plain character has a small value that is none of the values to be escaped. -/
theorem Plain.toNat {c : Char} (plain : Plain c) :
    c.toNat < 0x80 ∧ c.toNat ≠ 0x09 ∧ c.toNat ≠ 0x0A ∧ c.toNat ≠ 0x0D ∧ c.toNat ≠ 0x5C := by
  rcases plain with word | mark
  · have ranges : c.isAlphanum =
        (decide ('A'.val ≤ c.val ∧ c.val ≤ 'Z'.val) ||
          decide ('a'.val ≤ c.val) && decide (c.val ≤ 'z'.val) ||
          decide ('0'.val ≤ c.val) && decide (c.val ≤ '9'.val)) := rfl
    simp only [ranges, Bool.or_eq_true, Bool.and_eq_true, decide_eq_true_eq,
      UInt32.le_iff_toNat_le] at word
    change ((65 ≤ c.toNat ∧ c.toNat ≤ 90) ∨ (97 ≤ c.toNat ∧ c.toNat ≤ 122)) ∨
      (48 ≤ c.toNat ∧ c.toNat ≤ 57) at word
    omega
  · simp only [List.mem_cons, List.not_mem_nil, or_false] at mark
    rcases mark with rfl | rfl | rfl | rfl <;> decide

/-! ## Numbers -/

private theorem plain_digits (n : Nat) : PlainText (toString n) := by
  intro c member
  have digit : c ∈ Nat.toDigits 10 n := by simpa using member
  exact .inl (by simp [Char.isAlphanum, Nat.isDigit_of_mem_toDigits (by decide) (by decide) digit])

theorem plain_integer (n : Int) : PlainText (toString n) := by
  rw [Int.toString_eq_repr, Int.repr_eq_if]
  split
  · exact plain_digits _
  · exact plainText_append.mpr ⟨by decide, plain_digits _⟩

namespace NumberStyle

private theorem plain_zeros (count : Nat) : PlainList (zeros count) := by
  intro c member
  rw [List.eq_of_mem_replicate member]
  decide

variable {style : NumberStyle}

private theorem plain_positionalText (wholeMark : PlainText style.wholeMark) {digits : List Char}
    (plain : PlainList digits) (point : Int) : PlainList (style.positionalText digits point) := by
  have zero : Plain '0' := by decide
  have mark : Plain '.' := by decide
  unfold positionalText
  split
  · simp only [plainList_append, plainList_cons]
    exact ⟨⟨zero, mark, plain_zeros _⟩, plain⟩
  · dsimp only
    split
    · simp only [plainList_append]
      exact ⟨⟨plain, plain_zeros _⟩, wholeMark⟩
    · simp only [plainList_append, plainList_cons]
      exact ⟨plain.take _, mark, plain.drop _⟩

private theorem plain_exponentText (exponentSign : PlainText style.exponentSign)
    {digits : List Char} (plain : PlainList digits) (point : Int) :
    PlainList (style.exponentText digits point) := by
  have mark : Plain '.' := by decide
  have letter : Plain 'e' := by decide
  have sign : PlainList (if 1 ≤ point then style.exponentSign.toList else []) := by
    split
    · exact exponentSign
    · exact plainList_nil
  have power := plainList_append.mpr ⟨sign, plain_integer (point - 1)⟩
  unfold exponentText
  match digits, plain with
  | [], _ => exact plainList_nil
  | [d], plain =>
      rw [plainList_cons] at plain
      exact plainList_cons.mpr ⟨plain.1, plainList_cons.mpr ⟨letter, power⟩⟩
  | d :: e :: rest, plain =>
      rw [plainList_cons] at plain
      have fraction := plainList_cons.mpr ⟨mark, plain.2⟩
      exact plainList_append.mpr
        ⟨plainList_cons.mpr ⟨plain.1, fraction⟩, plainList_cons.mpr ⟨letter, power⟩⟩

private theorem plain_decimalText (wholeMark : PlainText style.wholeMark)
    (exponentSign : PlainText style.exponentSign) (d : Decimal) :
    PlainList (style.decimalText d) := by
  unfold decimalText
  split
  · exact plainList_cons.mpr ⟨by decide, wholeMark⟩
  · dsimp only
    split
    · exact plain_positionalText wholeMark (plain_digits _) _
    · exact plain_exponentText exponentSign (plain_digits _) _

/-- Numbers are plain in a style whose own words are. -/
theorem plain_text (words : PlainText style.nan ∧ PlainText style.infinity ∧
      PlainText style.negativeInfinity) (wholeMark : PlainText style.wholeMark)
    (exponentSign : PlainText style.exponentSign) (x : Binary64) : PlainText (style.text x) := by
  have digits := plain_decimalText wholeMark exponentSign (Shortest.decimal x)
  unfold text
  split
  · exact words.1
  · split
    · split
      · exact words.2.2
      · exact words.2.1
    · dsimp only
      unfold PlainText
      rw [String.toList_ofList]
      split
      · exact plainList_cons.mpr ⟨by decide, digits⟩
      · exact digits

end NumberStyle

/-! ## Instants -/

namespace Instant

private theorem plain_padded (width n : Nat) : PlainText (padded width n) := by
  refine plainText_append.mpr ⟨?_, plain_digits n⟩
  unfold PlainText
  rw [String.toList_ofList]
  exact NumberStyle.plain_zeros _

private theorem plain_yearText (year : Int) : PlainText (yearText year) := by
  unfold yearText
  split
  · exact plain_padded _ _
  · refine plainText_append.mpr ⟨?_, plain_padded _ _⟩
    split <;> decide

private theorem plain_fractionText (nanoseconds : Nat) : PlainText (fractionText nanoseconds) := by
  have mark : PlainText "." := by decide
  unfold fractionText
  split
  · decide
  · split
    · exact plainText_append.mpr ⟨mark, plain_padded _ _⟩
    · split
      · exact plainText_append.mpr ⟨mark, plain_padded _ _⟩
      · exact plainText_append.mpr ⟨mark, plain_padded _ _⟩

theorem plain_text (t : Instant) : PlainText t.text := by
  have dash : PlainText "-" := by decide
  have letter : PlainText "T" := by decide
  have colon : PlainText ":" := by decide
  have zone : PlainText "+00:00" := by decide
  unfold text
  simp only [plainText_append, plain_yearText, plain_padded, plain_fractionText, dash, letter, colon,
    zone, and_self]

end Instant

end Tabular
