import Mathlib.Tactic.SplitIfs
import Tabular.Text.Utf8

/-!
# Decoding undoes encoding

A byte string is decoded strictly exactly when it encodes a text, and what is decoded is that text.
Both directions go character by character: a character is read off the front of a byte string
exactly when its bytes stand there. So lossy decoding loses nothing of a text, and a byte of ASCII
stands in the bytes of a text only for its own character.
-/

set_option autoImplicit false

namespace Tabular.Utf8

/-! ## The bytes of a character by the size of its value -/

private theorem toNat_val_ofNat {n : Nat} (valid : n.isValidChar) :
    (Char.ofNat n).val.toNat = n := by
  rw [Char.ofNat, dif_pos valid]
  rfl

theorem encodeChar_one {n : Nat} (small : n < 0x80) :
    encodeChar (Char.ofNat n) = [UInt8.ofNat n] := by
  have value := toNat_val_ofNat (n := n) (.inl (by omega))
  simp only [encodeChar, String.utf8EncodeChar, value]
  rw [if_pos (by omega)]

private theorem encodeChar_two {n : Nat} (low : 0x80 ≤ n) (high : n < 0x800) :
    encodeChar (Char.ofNat n) = [UInt8.ofNat (n / 64 + 0xC0), UInt8.ofNat (n % 64 + 0x80)] := by
  have value := toNat_val_ofNat (n := n) (.inl (by omega))
  have lead : n / 64 % 0x20 = n / 64 := Nat.mod_eq_of_lt (by omega)
  simp only [encodeChar, String.utf8EncodeChar, value, lead]
  rw [if_neg (by omega), if_pos (by omega)]

private theorem encodeChar_three {n : Nat} (low : 0x800 ≤ n) (high : n < 0x10000)
    (scalar : n < 0xD800 ∨ 0xE000 ≤ n) :
    encodeChar (Char.ofNat n) =
      [UInt8.ofNat (n / 4096 + 0xE0), UInt8.ofNat (n / 64 % 64 + 0x80),
        UInt8.ofNat (n % 64 + 0x80)] := by
  have valid : n.isValidChar := by
    rcases scalar with below | above
    · exact .inl below
    · exact .inr ⟨by omega, by omega⟩
  have value := toNat_val_ofNat valid
  have lead : n / 4096 % 0x10 = n / 4096 := Nat.mod_eq_of_lt (by omega)
  simp only [encodeChar, String.utf8EncodeChar, value, lead]
  rw [if_neg (by omega), if_neg (by omega), if_pos (by omega)]

private theorem encodeChar_four {n : Nat} (low : 0x10000 ≤ n) (high : n < 0x110000) :
    encodeChar (Char.ofNat n) =
      [UInt8.ofNat (n / 262144 + 0xF0), UInt8.ofNat (n / 4096 % 64 + 0x80),
        UInt8.ofNat (n / 64 % 64 + 0x80), UInt8.ofNat (n % 64 + 0x80)] := by
  have value := toNat_val_ofNat (n := n) (.inr ⟨by omega, by omega⟩)
  have lead : n / 262144 % 0x08 = n / 262144 := Nat.mod_eq_of_lt (by omega)
  simp only [encodeChar, String.utf8EncodeChar, value, lead]
  rw [if_neg (by omega), if_neg (by omega), if_neg (by omega)]

private theorem scalar_cases (c : Char) :
    c.toNat < 0x80 ∨ (0x80 ≤ c.toNat ∧ c.toNat < 0x800) ∨
      (0x800 ≤ c.toNat ∧ c.toNat < 0x10000 ∧ (c.toNat < 0xD800 ∨ 0xE000 ≤ c.toNat)) ∨
      (0x10000 ≤ c.toNat ∧ c.toNat < 0x110000) := by
  have valid : c.toNat.isValidChar := c.valid
  rcases valid with below | ⟨_, _⟩ <;> omega

/-! ## Reading the bytes of a character -/

/-- Whether two bytes begin a sequence in which `more` bytes follow them: the sequence is no longer
than its value needs, and the value is neither a surrogate nor too large. -/
def Begins (lead b : UInt8) (more : Nat) : Prop :=
  (0x80 ≤ b.toNat ∧ b.toNat ≤ 0xBF) ∧
    ((more = 0 ∧ 0xC2 ≤ lead.toNat ∧ lead.toNat ≤ 0xDF) ∨
      (more = 1 ∧ 0xE0 ≤ lead.toNat ∧ lead.toNat ≤ 0xEF ∧
        (lead.toNat = 0xE0 → 0xA0 ≤ b.toNat) ∧ (lead.toNat = 0xED → b.toNat ≤ 0x9F)) ∨
      (more = 2 ∧ 0xF0 ≤ lead.toNat ∧ lead.toNat ≤ 0xF4 ∧
        (lead.toNat = 0xF0 → 0x90 ≤ b.toNat) ∧ (lead.toNat = 0xF4 → b.toNat ≤ 0x8F)))

theorem within_iff {low high b : UInt8} :
    within low high b = true ↔ low.toNat ≤ b.toNat ∧ b.toNat ≤ high.toNat := by
  simp [within, UInt8.le_iff_toNat_le]

theorem begins_iff {lead b : UInt8} {more : Nat} :
    Begins lead b more ↔
      ∃ low high, secondByte? lead = some (low, high, more) ∧ within low high b = true := by
  unfold Begins secondByte?
  simp only [within_iff, beq_iff_eq, ← UInt8.toNat_inj, UInt8.reduceToNat]
  split_ifs <;> simp [and_assoc] <;> omega

theorem continuation_succ_eq_some_iff {count value read : Nat} {rest remaining : List UInt8} :
    continuation (count + 1) value rest = (some read, remaining) ↔
      ∃ b tail, rest = b :: tail ∧ (0x80 ≤ b.toNat ∧ b.toNat ≤ 0xBF) ∧
        continuation count (value * 64 + b.toNat % 64) tail = (some read, remaining) := by
  cases rest with
  | nil => simp [continuation]
  | cons b tail =>
      by_cases inside : within 0x80 0xBF b = true
      · have range := within_iff.mp inside
        simp only [UInt8.reduceToNat] at range
        constructor
        · intro step
          exact ⟨b, tail, rfl, range, by simpa [continuation, inside, payload] using step⟩
        · rintro ⟨_, _, ⟨rfl, rfl⟩, _, step⟩
          simpa [continuation, inside, payload] using step
      · have range := mt within_iff.mpr inside
        simp only [UInt8.reduceToNat] at range
        simp only [continuation, inside, Bool.false_eq_true, ↓reduceIte, Prod.mk.injEq,
          reduceCtorEq, false_and, List.cons.injEq, false_iff, not_exists, not_and]
        rintro _ _ ⟨rfl, rfl⟩ outside
        exact absurd outside range

/-- A character is read either from a single byte or from a sequence of two to four. -/
theorem next_eq_some_cases {lead : UInt8} {rest remaining : List UInt8} {c : Char} :
    next lead rest = (some c, remaining) ↔
      (lead.toNat < 0x80 ∧ c = Char.ofNat lead.toNat ∧ rest = remaining) ∨
        ∃ b tail more read, rest = b :: tail ∧ Begins lead b more ∧
          continuation more (leadValue lead * 64 + b.toNat % 64) tail = (some read, remaining) ∧
          c = Char.ofNat read := by
  by_cases single : lead.toNat < 0x80
  · have small : lead < 0x80 := UInt8.lt_iff_toNat_lt.mpr single
    have none_begins : ∀ b more, ¬ Begins lead b more := by
      intro b more begins
      unfold Begins at begins
      omega
    simp [next, small, single, none_begins, eq_comm]
  · have large : ¬ lead < 0x80 := fun small => single (UInt8.lt_iff_toNat_lt.mp small)
    simp only [single, false_and, false_or]
    cases rest with
    | nil =>
        cases secondByte? lead <;> simp [next, large]
    | cons b tail =>
        simp only [List.cons.injEq]
        constructor
        · intro read
          unfold next at read
          rw [if_neg large] at read
          cases found : secondByte? lead with
          | none => simp [found] at read
          | some range =>
              obtain ⟨low, high, more⟩ := range
              simp only [found] at read
              split at read
              · rename_i inside
                split at read
                · rename_i value remaining same
                  simp only [Prod.mk.injEq, Option.some.injEq] at read
                  obtain ⟨rfl, rfl⟩ := read
                  exact ⟨b, tail, more, value, ⟨rfl, rfl⟩, begins_iff.mpr ⟨low, high, found, inside⟩,
                    same, rfl⟩
                · simp at read
              · simp at read
        · rintro ⟨_, _, more, value, ⟨rfl, rfl⟩, begins, same, rfl⟩
          obtain ⟨low, high, found, inside⟩ := begins_iff.mp begins
          simp [next, large, found, inside, payload, same]

/-! ## A character at the front of a byte string -/

private theorem ofNat_eq {n : Nat} {b : UInt8} (same : n = b.toNat) : UInt8.ofNat n = b := by
  subst same
  exact UInt8.ofNat_toNat

private theorem toNat_ofNat {n : Nat} (small : n < 256) : (UInt8.ofNat n).toNat = n := by
  simp [Nat.mod_eq_of_lt small]

private theorem leadValue_eq (lead : UInt8) :
    leadValue lead =
      if lead.toNat < 0xE0 then lead.toNat % 32
      else if lead.toNat < 0xF0 then lead.toNat % 16 else lead.toNat % 8 := by
  simp [leadValue, UInt8.lt_iff_toNat_lt]

/-- What is read off the front of a byte string is what stands there. -/
theorem encodeChar_append_of_next {lead : UInt8} {rest remaining : List UInt8} {c : Char}
    (read : next lead rest = (some c, remaining)) : encodeChar c ++ remaining = lead :: rest := by
  have leadBound := lead.toNat_lt
  rcases next_eq_some_cases.mp read with
    ⟨small, rfl, rfl⟩ | ⟨b, tail, more, value, rfl, begins, same, rfl⟩
  · rw [encodeChar_one small, ofNat_eq rfl, List.singleton_append]
  · obtain ⟨second, ⟨rfl, first⟩ | ⟨rfl, first⟩ | ⟨rfl, first⟩⟩ := begins
    · obtain ⟨rfl, rfl⟩ : leadValue lead * 64 + b.toNat % 64 = value ∧ tail = remaining := by
        simpa [continuation] using same
      rw [leadValue_eq, if_pos (by omega)]
      rw [encodeChar_two (by omega) (by omega), ofNat_eq (b := lead) (by omega),
        ofNat_eq (b := b) (by omega)]
      rfl
    · obtain ⟨third, tail, rfl, thirdRange, same⟩ := continuation_succ_eq_some_iff.mp same
      obtain ⟨rfl, rfl⟩ : (leadValue lead * 64 + b.toNat % 64) * 64 + third.toNat % 64 = value ∧
          tail = remaining := by
        simpa [continuation] using same
      rw [leadValue_eq, if_neg (by omega), if_pos (by omega)]
      rw [encodeChar_three (by omega) (by omega) (by omega), ofNat_eq (b := lead) (by omega),
        ofNat_eq (b := b) (by omega), ofNat_eq (b := third) (by omega)]
      rfl
    · obtain ⟨third, tail, rfl, thirdRange, same⟩ := continuation_succ_eq_some_iff.mp same
      obtain ⟨fourth, tail, rfl, fourthRange, same⟩ := continuation_succ_eq_some_iff.mp same
      obtain ⟨rfl, rfl⟩ : ((leadValue lead * 64 + b.toNat % 64) * 64 + third.toNat % 64) * 64 +
          fourth.toNat % 64 = value ∧ tail = remaining := by
        simpa [continuation] using same
      rw [leadValue_eq, if_neg (by omega), if_neg (by omega)]
      rw [encodeChar_four (by omega) (by omega), ofNat_eq (b := lead) (by omega),
        ofNat_eq (b := b) (by omega), ofNat_eq (b := third) (by omega),
        ofNat_eq (b := fourth) (by omega)]
      rfl

/-- A character whose bytes stand at the front of a byte string is read off it. -/
theorem next_of_encodeChar_append {lead : UInt8} {rest remaining : List UInt8} {c : Char}
    (front : encodeChar c ++ remaining = lead :: rest) : next lead rest = (some c, remaining) := by
  rw [next_eq_some_cases]
  have value := Char.ofNat_toNat c
  rw [← value] at front
  rcases scalar_cases c with small | ⟨low, high⟩ | ⟨low, high, scalar⟩ | ⟨low, high⟩
  · rw [encodeChar_one small] at front
    obtain ⟨rfl, rfl⟩ := List.cons.inj front
    have lead := toNat_ofNat (n := c.toNat) (by omega)
    exact .inl ⟨by omega, by rw [lead, value], rfl⟩
  · rw [encodeChar_two low high] at front
    obtain ⟨rfl, rfl⟩ := List.cons.inj front
    have lead := toNat_ofNat (n := c.toNat / 64 + 0xC0) (by omega)
    have second := toNat_ofNat (n := c.toNat % 64 + 0x80) (by omega)
    refine .inr ⟨_, _, 0, c.toNat, rfl, ⟨by omega, .inl ⟨rfl, by omega⟩⟩, ?_, value.symm⟩
    simp only [continuation, Prod.mk.injEq, Option.some.injEq]
    refine ⟨?_, rfl⟩
    rw [leadValue_eq, lead, second, if_pos (by omega)]
    omega
  · rw [encodeChar_three low high scalar] at front
    obtain ⟨rfl, rfl⟩ := List.cons.inj front
    have lead := toNat_ofNat (n := c.toNat / 4096 + 0xE0) (by omega)
    have second := toNat_ofNat (n := c.toNat / 64 % 64 + 0x80) (by omega)
    have third := toNat_ofNat (n := c.toNat % 64 + 0x80) (by omega)
    refine .inr ⟨_, _, 1, c.toNat, rfl, ⟨by omega, .inr (.inl ⟨rfl, by omega⟩)⟩, ?_, value.symm⟩
    refine continuation_succ_eq_some_iff.mpr ⟨_, _, rfl, by omega, ?_⟩
    simp only [continuation, Prod.mk.injEq, Option.some.injEq]
    refine ⟨?_, rfl⟩
    rw [leadValue_eq, lead, second, third, if_neg (by omega), if_pos (by omega)]
    omega
  · rw [encodeChar_four low high] at front
    obtain ⟨rfl, rfl⟩ := List.cons.inj front
    have lead := toNat_ofNat (n := c.toNat / 262144 + 0xF0) (by omega)
    have second := toNat_ofNat (n := c.toNat / 4096 % 64 + 0x80) (by omega)
    have third := toNat_ofNat (n := c.toNat / 64 % 64 + 0x80) (by omega)
    have fourth := toNat_ofNat (n := c.toNat % 64 + 0x80) (by omega)
    refine .inr ⟨_, _, 2, c.toNat, rfl, ⟨by omega, .inr (.inr ⟨rfl, by omega⟩)⟩, ?_, value.symm⟩
    refine continuation_succ_eq_some_iff.mpr ⟨_, _, rfl, by omega, ?_⟩
    refine continuation_succ_eq_some_iff.mpr ⟨_, _, rfl, by omega, ?_⟩
    simp only [continuation, Prod.mk.injEq, Option.some.injEq]
    refine ⟨?_, rfl⟩
    rw [leadValue_eq, lead, second, third, fourth, if_neg (by omega), if_neg (by omega)]
    omega

theorem next_eq_some_iff {lead : UInt8} {rest remaining : List UInt8} {c : Char} :
    next lead rest = (some c, remaining) ↔ encodeChar c ++ remaining = lead :: rest :=
  ⟨encodeChar_append_of_next, next_of_encodeChar_append⟩

/-! ## Texts -/

theorem encodeChar_ne_nil (c : Char) : encodeChar c ≠ [] :=
  String.utf8EncodeChar_ne_nil

theorem decodeOnto?_eq_some_iff {read : List Char} {input : List UInt8} {text : List Char} :
    decodeOnto? read input = some text ↔
      ∃ more, encode more = input ∧ read.reverse ++ more = text := by
  fun_induction decodeOnto? read input generalizing text with
  | case1 read =>
      constructor
      · intro done
        exact ⟨[], rfl, by simpa using done⟩
      · rintro ⟨more, encoded, rfl⟩
        cases more with
        | nil => simp
        | cons c more => exact absurd encoded (by simp [encode, encodeChar_ne_nil])
  | case2 read lead rest c remaining step ih =>
      have front := next_eq_some_iff.mp step
      rw [ih]
      constructor
      · rintro ⟨more, rfl, rfl⟩
        exact ⟨c :: more, front, by simp⟩
      · rintro ⟨more, encoded, rfl⟩
        cases more with
        | nil => cases encoded
        | cons first more =>
            have other := next_eq_some_iff.mpr encoded
            rw [step] at other
            obtain ⟨same, rest⟩ := Prod.mk.inj other
            obtain rfl := Option.some.inj same
            exact ⟨more, rest.symm, by simp⟩
  | case3 read lead rest remaining step =>
      simp only [reduceCtorEq, false_iff, not_exists, not_and]
      intro more encoded
      cases more with
      | nil => cases encoded
      | cons first more =>
          have other := next_eq_some_iff.mpr encoded
          rw [step] at other
          cases other

/-- Strict decoding accepts what encodes a text, and gives that text. -/
theorem string?_eq_some_iff {input : List UInt8} {text : String} :
    string? input = some text ↔ bytes text = input := by
  simp only [string?, decode?, Option.map_eq_some_iff, decodeOnto?_eq_some_iff, List.reverse_nil,
    List.nil_append, exists_eq_right]
  constructor
  · rintro ⟨characters, rfl, rfl⟩
    simp [bytes]
  · rintro rfl
    exact ⟨text.toList, rfl, by simp⟩

def IsText (input : List UInt8) : Prop :=
  ∃ text, bytes text = input

theorem isText_iff {input : List UInt8} : IsText input ↔ (string? input).isSome = true := by
  simp only [IsText, Option.isSome_iff_exists, string?_eq_some_iff]

instance (input : List UInt8) : Decidable (IsText input) :=
  decidable_of_iff _ isText_iff.symm

theorem string?_bytes (text : String) : string? (bytes text) = some text :=
  string?_eq_some_iff.mpr rfl

theorem encode_ne_nil {text : List Char} (filled : text ≠ []) : encode text ≠ [] := by
  obtain ⟨c, rest, rfl⟩ := List.exists_cons_of_ne_nil filled
  rw [encode, List.flatMap_cons]
  exact List.append_ne_nil_of_left_ne_nil (encodeChar_ne_nil c) _

theorem encode_append (first second : List Char) :
    encode (first ++ second) = encode first ++ encode second :=
  List.flatMap_append

theorem encode_intercalate (separator : List Char) (parts : List (List Char)) :
    encode (separator.intercalate parts) = (encode separator).intercalate (parts.map encode) := by
  induction parts with
  | nil => rfl
  | cons part parts ih =>
      cases parts with
      | nil =>
          rw [List.map_cons, List.map_nil, List.intercalate_singleton, List.intercalate_singleton]
      | cons next parts =>
          rw [List.map_cons] at ih
          rw [List.map_cons, List.map_cons, List.intercalate_cons_cons,
            List.intercalate_cons_cons, encode_append, encode_append, ih]

private theorem decodeLossyOnto_encode (read text : List Char) :
    decodeLossyOnto read (encode text) = read.reverse ++ text := by
  induction text generalizing read with
  | nil =>
      rw [encode, List.flatMap_nil, decodeLossyOnto, List.append_nil]
  | cons c text ih =>
      have front : encode (c :: text) = encodeChar c ++ encode text := rfl
      cases split : encode (c :: text) with
      | nil =>
          rw [front] at split
          exact absurd (List.append_eq_nil_iff.mp split).1 (encodeChar_ne_nil c)
      | cons lead rest =>
          have step := next_of_encodeChar_append (front.symm.trans split)
          rw [decodeLossyOnto, step, Option.getD_some, ih, List.reverse_cons, List.append_assoc]
          rfl

theorem decodeLossy_encode (text : List Char) : decodeLossy (encode text) = text :=
  decodeLossyOnto_encode [] text

theorem stringLossy_bytes (text : String) : stringLossy (bytes text) = text := by
  rw [stringLossy, bytes, decodeLossy_encode, String.ofList_toList]

/-! ## Bytes of ASCII -/

theorem toNat_of_mem_encodeChar {b : UInt8} (ascii : b.toNat < 0x80) {c : Char}
    (member : b ∈ encodeChar c) : c.toNat = b.toNat := by
  rw [← Char.ofNat_toNat c] at member
  rcases scalar_cases c with small | ⟨low, high⟩ | ⟨low, high, scalar⟩ | ⟨low, high⟩
  · rw [encodeChar_one small, List.mem_singleton] at member
    rw [member, toNat_ofNat (by omega)]
  · rw [encodeChar_two low high] at member
    simp only [List.mem_cons, List.not_mem_nil, or_false] at member
    rcases member with rfl | rfl <;> rw [toNat_ofNat (by omega)] at ascii <;> omega
  · rw [encodeChar_three low high scalar] at member
    simp only [List.mem_cons, List.not_mem_nil, or_false] at member
    rcases member with rfl | rfl | rfl <;> rw [toNat_ofNat (by omega)] at ascii <;> omega
  · rw [encodeChar_four low high] at member
    simp only [List.mem_cons, List.not_mem_nil, or_false] at member
    rcases member with rfl | rfl | rfl | rfl <;> rw [toNat_ofNat (by omega)] at ascii <;> omega

theorem not_mem_encode {b : UInt8} (ascii : b.toNat < 0x80) {text : List Char}
    (absent : Char.ofNat b.toNat ∉ text) : b ∉ encode text := by
  intro member
  obtain ⟨c, inside, here⟩ := List.mem_flatMap.mp member
  rw [← toNat_of_mem_encodeChar ascii here, Char.ofNat_toNat] at absent
  exact absent inside

end Tabular.Utf8
