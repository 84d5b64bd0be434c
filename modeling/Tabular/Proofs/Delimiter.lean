import Mathlib.Data.List.TakeWhile
import Mathlib.Data.Nat.Digits.Defs
import Tabular.Delimiter

/-!
# The grammar of delimiter literals

Reading a literal tries one alternative after the other and takes as many digits as it can. No two
alternatives begin alike, so the one that is taken never hides another one, and a literal is read to
its end exactly if it is one of the grammar.
-/

set_option autoImplicit false

namespace Tabular

private theorem exists_of_forall₂ {α β : Type} {related : α → β → Prop} {left : List α}
    {right : List β} (matched : List.Forall₂ related left right) {a : α} (member : a ∈ left) :
    ∃ b ∈ right, related a b := by
  induction matched with
  | nil => cases member
  | @cons first second left right here others ih =>
      cases member with
      | head => exact ⟨second, List.mem_cons_self, here⟩
      | tail _ member =>
          obtain ⟨b, inside, later⟩ := ih member
          exact ⟨b, List.mem_cons_of_mem _ inside, later⟩

/-! ## Hexadecimal numbers -/

namespace Ascii

/-- A hexadecimal digit and its value, in either case of letters. -/
def HexDigit (c : Char) (value : Nat) : Prop :=
  value < 16 ∧ (c = hexChar value ∨ c = (hexChar value).toUpper)

instance (c : Char) (value : Nat) : Decidable (HexDigit c value) :=
  inferInstanceAs (Decidable (_ ∧ _))

private theorem toNat_lt_of_hexDigit? {c : Char} {value : Nat} (found : hexDigit? c = some value) :
    c.toNat < 0x80 := by
  have word (last : Char) (within : c ≤ last) : c.toNat ≤ last.toNat := within
  unfold hexDigit? at found
  split at found
  · rename_i range
    exact Nat.lt_of_le_of_lt (word _ range.2) (by decide)
  · split at found
    · rename_i range
      exact Nat.lt_of_le_of_lt (word _ range.2) (by decide)
    · split at found
      · rename_i range
        exact Nat.lt_of_le_of_lt (word _ range.2) (by decide)
      · cases found

theorem hexDigit?_eq_some_iff {c : Char} {value : Nat} :
    hexDigit? c = some value ↔ HexDigit c value := by
  constructor
  · intro found
    have digits : ∀ n < 0x80, ∀ value ∈ hexDigit? (Char.ofNat n), HexDigit (Char.ofNat n) value := by
      decide +kernel
    have small := toNat_lt_of_hexDigit? found
    rw [← Char.ofNat_toNat c] at found ⊢
    exact digits c.toNat small value found
  · have values : ∀ value < 16, hexDigit? (hexChar value) = some value ∧
        hexDigit? (hexChar value).toUpper = some value := by
      decide
    rintro ⟨small, rfl | rfl⟩
    · exact (values value small).1
    · exact (values value small).2

theorem isSome_hexDigit?_iff {c : Char} :
    (hexDigit? c).isSome = true ↔ ∃ value, HexDigit c value := by
  simp only [Option.isSome_iff_exists, hexDigit?_eq_some_iff]

/-- Digits, the first one the most significant, and the number they stand for. -/
def HexNumber (digits : List Char) (number : Nat) : Prop :=
  ∃ values, List.Forall₂ HexDigit digits values ∧ number = Nat.ofDigits 16 values.reverse

/-- A number with one more digit, unless there is none or the digit is no digit. -/
def withDigit? (total : Option Nat) (c : Char) : Option Nat := do
  return (← total) * 16 + (← hexDigit? c)

private theorem foldl_withDigit?_none (digits : List Char) :
    digits.foldl withDigit? none = none := by
  induction digits with
  | nil => rfl
  | cons c digits ih => exact ih

theorem foldl_withDigit?_eq_some_iff {digits : List Char} {total number : Nat} :
    digits.foldl withDigit? (some total) = some number ↔
      ∃ values, List.Forall₂ HexDigit digits values ∧
        number = values.foldl (fun total value => value + 16 * total) total := by
  induction digits generalizing total with
  | nil =>
      constructor
      · intro read
        exact ⟨[], .nil, (Option.some.inj read).symm⟩
      · rintro ⟨values, matched, rfl⟩
        cases matched
        rfl
  | cons c digits ih =>
      cases found : hexDigit? c with
      | none =>
          have step : (c :: digits).foldl withDigit? (some total) = none := by
            rw [List.foldl_cons, withDigit?, found]
            exact foldl_withDigit?_none digits
          constructor
          · intro read
            rw [step] at read
            cases read
          · rintro ⟨values, matched, -⟩
            cases matched with
            | cons digit others =>
                rw [hexDigit?_eq_some_iff.mpr digit] at found
                cases found
      | some value =>
          have step : (c :: digits).foldl withDigit? (some total) =
              digits.foldl withDigit? (some (value + 16 * total)) := by
            rw [List.foldl_cons, withDigit?, found, Nat.add_comm, Nat.mul_comm]
            rfl
          rw [step, ih]
          constructor
          · rintro ⟨values, others, rfl⟩
            exact ⟨value :: values, .cons (hexDigit?_eq_some_iff.mp found) others, rfl⟩
          · rintro ⟨values, matched, rfl⟩
            cases matched with
            | @cons _ first _ values digit others =>
                rw [hexDigit?_eq_some_iff.mpr digit] at found
                obtain rfl := Option.some.inj found
                exact ⟨values, others, rfl⟩

theorem hexNumber?_eq_some_iff {digits : List Char} {number : Nat} :
    hexNumber? digits = some number ↔ HexNumber digits number := by
  have reversed (values : List Nat) : Nat.ofDigits 16 values.reverse =
      values.foldl (fun total value => value + 16 * total) 0 := by
    rw [Nat.ofDigits_eq_foldr, List.foldr_reverse]
    rfl
  have read : hexNumber? digits = digits.foldl withDigit? (some 0) := rfl
  simp only [read, foldl_withDigit?_eq_some_iff, HexNumber, reversed]

theorem HexNumber.unique {digits : List Char} {number other : Nat} (read : HexNumber digits number)
    (also : HexNumber digits other) : number = other :=
  Option.some.inj ((hexNumber?_eq_some_iff.mpr read).symm.trans (hexNumber?_eq_some_iff.mpr also))

end Ascii

namespace Delimiter

open Ascii

/-! ## What is read at the front of a text -/

namespace Reading

variable {α β : Type} {text rest : List Char}

theorem character_eq_some_iff {expected c : Char} :
    character expected text = some (c, rest) ↔ c = expected ∧ text = expected :: rest := by
  cases text with
  | nil => simp [character]
  | cons first text =>
      rw [character]
      by_cases same : first = expected
      · subst same
        simp only [beq_self_eq_true, if_true, Option.some.injEq, Prod.mk.injEq, List.cons.injEq,
          true_and]
        exact and_congr_left fun _ => eq_comm
      · simp [same]

theorem otherThan_eq_some_iff {refused c : Char} :
    otherThan refused text = some (c, rest) ↔ c ≠ refused ∧ text = c :: rest := by
  cases text with
  | nil => simp [otherThan]
  | cons first text =>
      rw [otherThan]
      by_cases same : first = refused
      · subst same
        simp only [beq_self_eq_true, if_true, reduceCtorEq, List.cons.injEq, false_iff, not_and]
        rintro other rfl
        exact absurd rfl other
      · simp only [beq_iff_eq, same, if_false, Option.some.injEq, Prod.mk.injEq, List.cons.injEq]
        constructor
        · rintro ⟨rfl, rfl⟩
          exact ⟨same, rfl, rfl⟩
        · rintro ⟨-, rfl, rfl⟩
          exact ⟨rfl, rfl⟩

theorem behind_eq_some_iff {mark : Char} {reading : Reading α} {value : α} :
    behind mark reading text = some (value, rest) ↔
      ∃ later, text = mark :: later ∧ reading later = some (value, rest) := by
  simp only [behind, Option.bind_eq_bind, Option.bind_eq_some_iff, Prod.exists,
    character_eq_some_iff]
  constructor
  · rintro ⟨c, later, ⟨-, same⟩, read⟩
    exact ⟨later, same, read⟩
  · rintro ⟨later, same, read⟩
    exact ⟨mark, later, ⟨rfl, same⟩, read⟩

theorem endedBy_eq_some_iff {mark : Char} {reading : Reading α} {value : α} :
    endedBy mark reading text = some (value, rest) ↔ reading text = some (value, mark :: rest) := by
  simp only [endedBy, Option.bind_eq_bind, Option.bind_eq_some_iff, Prod.exists,
    character_eq_some_iff, Option.some.injEq, Prod.mk.injEq]
  constructor
  · rintro ⟨found, later, read, c, last, ⟨-, rfl⟩, rfl, rfl⟩
    exact read
  · intro read
    exact ⟨value, mark :: rest, read, mark, rest, ⟨rfl, rfl⟩, rfl, rfl⟩

theorem filterMap_eq_some_iff {f : α → Option β} {reading : Reading α} {value : β} :
    filterMap f reading text = some (value, rest) ↔
      ∃ found, reading text = some (found, rest) ∧ f found = some value := by
  simp only [filterMap, Option.bind_eq_bind, Option.bind_eq_some_iff, Prod.exists,
    Option.some.injEq, Prod.mk.injEq]
  constructor
  · rintro ⟨found, later, read, given, made, rfl, rfl⟩
    exact ⟨found, read, made⟩
  · rintro ⟨found, read, made⟩
    exact ⟨found, rest, read, value, made, rfl, rfl⟩

theorem whole_eq_some_iff {reading : Reading α} {value : α} :
    whole reading text = some value ↔ reading text = some (value, []) := by
  rw [whole]
  split
  · rename_i found read
    rw [read]
    simp
  · rename_i other
    constructor
    · intro wrong
      cases wrong
    · intro read
      exact absurd read (other value)

/-- What is taken of a text are all leading characters that pass if a character that does not pass
follows them, or no more may be taken. -/
theorem takeWhile_take_append {passes : Char → Bool} {front : List Char} {most : Nat}
    (pass : ∀ c ∈ front, passes c = true) (few : front.length ≤ most) :
    ((front ++ rest).take most).takeWhile passes = front ↔
      front.length = most ∨ ∀ c ∈ rest.head?, passes c = false := by
  rw [List.take_append, List.take_of_length_le few, List.takeWhile_append_of_pos pass,
    List.append_right_eq_self]
  cases room : most - front.length with
  | zero =>
      have full : front.length = most := by omega
      simp [full]
  | succ room =>
      have short : front.length ≠ most := by omega
      cases rest with
      | nil => simp [short]
      | cons c rest => simp [short, List.takeWhile_cons]

/-- The digits that are taken are as many as there are: the text goes on with something else, or no
more may be taken. -/
theorem hexDigits_eq_some_iff {least most : Nat} {digits : List Char} :
    hexDigits least most text = some (digits, rest) ↔
      text = digits ++ rest ∧ least ≤ digits.length ∧ digits.length ≤ most ∧
        (∀ c ∈ digits, ∃ value, HexDigit c value) ∧
        (digits.length = most ∨ ∀ c ∈ rest.head?, ¬∃ value, HexDigit c value) := by
  simp only [hexDigits, ← isSome_hexDigit?_iff, Bool.not_eq_true]
  constructor
  · intro read
    split at read
    · cases read
    · rename_i enough
      obtain ⟨taken, rfl⟩ := Prod.mk.inj (Option.some.inj read)
      rw [taken] at enough ⊢
      have front : digits <+: text := taken ▸ (List.takeWhile_prefix _).trans (List.take_prefix _ _)
      have whole := List.prefix_iff_eq_append.mp front
      have few : digits.length ≤ most :=
        taken ▸ (List.takeWhile_prefix _).length_le.trans (List.length_take_le _ _)
      have pass : ∀ c ∈ digits, (hexDigit? c).isSome = true := by
        intro c member
        rw [← taken] at member
        exact List.mem_takeWhile_imp (p := fun c => (hexDigit? c).isSome) member
      rw [← whole] at taken
      exact ⟨whole.symm, Nat.le_of_not_lt enough, few, pass, (takeWhile_take_append pass few).mp taken⟩
  · rintro ⟨rfl, enough, few, pass, stop⟩
    rw [(takeWhile_take_append pass few).mpr stop, if_neg (Nat.not_lt.mpr enough), List.drop_left]

/-! ### Alternatives -/

/-- Two readings that never both succeed. -/
def Apart (first second : Reading α) : Prop :=
  ∀ text, first text = none ∨ second text = none

theorem firstOf_eq_some_iff {readings : List (Reading α)} (apart : readings.Pairwise Apart)
    {found : α × List Char} :
    firstOf readings text = some found ↔ ∃ reading ∈ readings, reading text = some found := by
  induction apart with
  | nil => simp [firstOf]
  | @cons first readings others apart ih =>
      rw [firstOf] at ih ⊢
      rw [List.findSome?_cons]
      cases read : first text with
      | none =>
          simp only [ih, List.mem_cons, exists_eq_or_imp, read, reduceCtorEq, false_or]
      | some value =>
          constructor
          · intro same
            exact ⟨first, List.mem_cons_self, read.trans same⟩
          · rintro ⟨reading, member, later⟩
            cases member with
            | head => exact read.symm.trans later
            | tail _ member =>
                rcases others reading member text with none | none
                · rw [read] at none
                  cases none
                · rw [later] at none
                  cases none

/-- A reading that succeeds only on texts that begin with a given character. -/
def Begins (reading : Reading α) (mark : Char) : Prop :=
  ∀ text, text.head? ≠ some mark → reading text = none

private theorem Begins.apart {first second : Reading α} {mark other : Char}
    (begins : Begins first mark) (later : Begins second other) (differ : mark ≠ other) :
    Apart first second := by
  intro text
  by_cases same : text.head? = some mark
  · right
    refine later text fun head => differ ?_
    exact Option.some.inj (same.symm.trans head)
  · exact .inl (begins text same)

private theorem pairwise_apart {readings : List (Reading α)} {marks : List Char}
    (begins : List.Forall₂ Begins readings marks) (distinct : marks.Nodup) :
    readings.Pairwise Apart := by
  induction begins with
  | nil => exact .nil
  | @cons first mark readings marks begins others ih =>
      obtain ⟨fresh, distinct⟩ := List.nodup_cons.mp distinct
      refine .cons (fun reading member => ?_) (ih distinct)
      obtain ⟨other, inside, later⟩ := exists_of_forall₂ others member
      exact begins.apart later fun same => fresh (same ▸ inside)

private theorem begins_character (mark : Char) : Begins (character mark) mark := by
  intro text other
  cases text with
  | nil => rfl
  | cons c text =>
      have differ : c ≠ mark := fun same => other (congrArg some same)
      rw [character, if_neg (by rwa [beq_iff_eq])]

private theorem begins_behind (mark : Char) (reading : Reading α) :
    Begins (behind mark reading) mark := by
  intro text other
  rw [behind, begins_character mark text other]
  rfl

private theorem Begins.filterMap {reading : Reading α} {mark : Char} (begins : Begins reading mark)
    (f : α → Option β) : Begins (reading.filterMap f) mark := by
  intro text other
  rw [Reading.filterMap, begins text other]
  rfl

end Reading

open Reading

/-! ## The grammar -/

/-- The hexadecimal code of a character. As there is no character for a surrogate or for a number
above `10FFFF`, these are no codes. -/
def Code (digits : List Char) (c : Char) : Prop :=
  HexNumber digits c.toNat

theorem ofHex?_eq_some_iff {digits : List Char} {c : Char} :
    ofHex? digits = some c ↔ Code digits c := by
  simp only [ofHex?, Option.bind_eq_bind, Option.bind_eq_some_iff, hexNumber?_eq_some_iff, Code]
  constructor
  · rintro ⟨number, read, made⟩
    split at made
    · rename_i valid
      obtain rfl := Option.some.inj made
      rw [Char.ofNat, dif_pos valid]
      exact read
    · cases made
  · intro read
    refine ⟨c.toNat, read, ?_⟩
    have valid : c.toNat.isValidChar := c.valid
    rw [if_pos valid, Char.ofNat_toNat]

/-- What may stand behind a backslash, and the character it stands for. -/
inductive Escapes : List Char → Char → Prop where
  | tab : Escapes ['t'] '\t'
  | lineFeed : Escapes ['n'] '\n'
  | carriageReturn : Escapes ['r'] '\r'
  | zero : Escapes ['0'] '\x00'
  | itself {c : Char} (quotes : c ∈ ['\\', '\'', '"']) : Escapes [c] c
  | byte {digits : List Char} {c : Char} (two : digits.length = 2) (code : Code digits c) :
      Escapes ('x' :: digits) c
  | code {digits : List Char} {c : Char} (four : digits.length = 4) (code : Code digits c) :
      Escapes ('u' :: digits) c
  | braced {digits : List Char} {c : Char} (some : 1 ≤ digits.length) (few : digits.length ≤ 6)
      (code : Code digits c) : Escapes ('u' :: '\x7b' :: digits ++ ['\x7d']) c

/-- The literals of a delimiter. -/
inductive Denotes : List Char → Char → Prop where
  | empty : Denotes [] ','
  | plain {c : Char} (other : c ≠ '\\') : Denotes [c] c
  | escaped {text : List Char} {c : Char} (escapes : Escapes text c) : Denotes ('\\' :: text) c

/-! ## Reading the grammar -/

private theorem Code.hex {digits : List Char} {c : Char} (code : Code digits c) :
    ∀ d ∈ digits, ∃ value, HexDigit d value := by
  obtain ⟨values, matched, -⟩ := code
  intro d member
  obtain ⟨value, -, digit⟩ := exists_of_forall₂ matched member
  exact ⟨value, digit⟩

private theorem not_hexDigit_brace :
    (¬∃ value, HexDigit '\x7b' value) ∧ ¬∃ value, HexDigit '\x7d' value := by
  simp only [← isSome_hexDigit?_iff]
  decide

variable {text rest digits : List Char} {c : Char}

private theorem hexDigits_fixed {count : Nat} :
    hexDigits count count text = some (digits, rest) ↔
      text = digits ++ rest ∧ digits.length = count ∧ ∀ d ∈ digits, ∃ value, HexDigit d value := by
  rw [hexDigits_eq_some_iff]
  constructor
  · rintro ⟨split, enough, few, hex, -⟩
    exact ⟨split, Nat.le_antisymm few enough, hex⟩
  · rintro ⟨split, full, hex⟩
    exact ⟨split, full.ge, full.le, hex, .inl full⟩

theorem bracedDigits_eq_some_iff :
    bracedDigits text = some (digits, rest) ↔
      text = '\x7b' :: digits ++ '\x7d' :: rest ∧ 1 ≤ digits.length ∧ digits.length ≤ 6 ∧
        ∀ d ∈ digits, ∃ value, HexDigit d value := by
  simp only [bracedDigits, behind_eq_some_iff, endedBy_eq_some_iff, hexDigits_eq_some_iff]
  constructor
  · rintro ⟨later, rfl, rfl, enough, few, hex, -⟩
    exact ⟨rfl, enough, few, hex⟩
  · rintro ⟨rfl, enough, few, hex⟩
    -- The closing brace is no digit, so the digits end there.
    refine ⟨_, rfl, rfl, enough, few, hex, .inr ?_⟩
    rintro d ⟨⟩
    exact not_hexDigit_brace.2

theorem letterEscape_eq_some_iff {letter meant : Char} :
    letterEscape letter meant text = some (c, rest) ↔ text = letter :: rest ∧ c = meant := by
  simp only [letterEscape, filterMap_eq_some_iff, character_eq_some_iff, Option.some.injEq]
  constructor
  · rintro ⟨found, ⟨-, split⟩, rfl⟩
    exact ⟨split, rfl⟩
  · rintro ⟨split, rfl⟩
    exact ⟨letter, ⟨rfl, split⟩, rfl⟩

theorem byteEscape_eq_some_iff :
    byteEscape text = some (c, rest) ↔
      ∃ digits, text = 'x' :: digits ++ rest ∧ digits.length = 2 ∧ Code digits c := by
  simp only [byteEscape, filterMap_eq_some_iff, behind_eq_some_iff, hexDigits_fixed,
    ofHex?_eq_some_iff]
  constructor
  · rintro ⟨digits, ⟨later, rfl, rfl, two, -⟩, code⟩
    exact ⟨digits, rfl, two, code⟩
  · rintro ⟨digits, rfl, two, code⟩
    exact ⟨digits, ⟨_, rfl, rfl, two, code.hex⟩, code⟩

private theorem apart_bracedDigits : Apart bracedDigits (hexDigits 4 4) := by
  intro text
  by_cases brace : text.head? = some '\x7b'
  · right
    rw [Option.eq_none_iff_forall_ne_some]
    rintro ⟨digits, rest⟩ read
    obtain ⟨rfl, four, hex⟩ := hexDigits_fixed.mp read
    cases digits with
    | nil => cases four
    | cons first digits =>
        obtain rfl := Option.some.inj brace
        exact not_hexDigit_brace.1 (hex _ List.mem_cons_self)
  · exact .inl (begins_behind _ _ text brace)

theorem codeEscape_eq_some_iff :
    codeEscape text = some (c, rest) ↔
      ∃ digits, Code digits c ∧ (text = 'u' :: digits ++ rest ∧ digits.length = 4 ∨
        text = 'u' :: '\x7b' :: digits ++ '\x7d' :: rest ∧ 1 ≤ digits.length ∧ digits.length ≤ 6) := by
  have apart : [bracedDigits, hexDigits 4 4].Pairwise Apart :=
    List.pairwise_pair.mpr apart_bracedDigits
  simp only [codeEscape, filterMap_eq_some_iff, behind_eq_some_iff, firstOf_eq_some_iff apart,
    List.mem_cons, List.not_mem_nil, or_false, exists_eq_or_imp, exists_eq_left, ofHex?_eq_some_iff]
  constructor
  · rintro ⟨digits, ⟨later, rfl, read | read⟩, code⟩
    · obtain ⟨rfl, enough, few, -⟩ := bracedDigits_eq_some_iff.mp read
      exact ⟨digits, code, .inr ⟨rfl, enough, few⟩⟩
    · obtain ⟨rfl, four, -⟩ := hexDigits_fixed.mp read
      exact ⟨digits, code, .inl ⟨rfl, four⟩⟩
  · rintro ⟨digits, code, ⟨rfl, four⟩ | ⟨rfl, enough, few⟩⟩
    · exact ⟨digits, ⟨_, rfl, .inr (hexDigits_fixed.mpr ⟨rfl, four, code.hex⟩)⟩, code⟩
    · exact ⟨digits, ⟨_, rfl, .inl (bracedDigits_eq_some_iff.mpr ⟨rfl, enough, few, code.hex⟩)⟩, code⟩

private theorem begins_escapes :
    List.Forall₂ Begins escapes ['t', 'n', 'r', '0', '\\', '\'', '"', 'x', 'u'] := by
  have letter (letter meant : Char) : Begins (letterEscape letter meant) letter :=
    (begins_character letter).filterMap _
  have byte : Begins byteEscape 'x' := (begins_behind 'x' _).filterMap _
  have code : Begins codeEscape 'u' := (begins_behind 'u' _).filterMap _
  exact .cons (letter _ _) <| .cons (letter _ _) <| .cons (letter _ _) <| .cons (letter _ _) <|
    .cons (letter _ _) <| .cons (letter _ _) <| .cons (letter _ _) <| .cons byte <| .cons code .nil

private theorem escapes_of_read {reading : Reading Char} (member : reading ∈ escapes)
    (read : reading text = some (c, rest)) : ∃ front, text = front ++ rest ∧ Escapes front c := by
  have letter {l meant : Char} (escapes : Escapes [l] meant)
      (read : letterEscape l meant text = some (c, rest)) :
      ∃ front, text = front ++ rest ∧ Escapes front c := by
    obtain ⟨rfl, rfl⟩ := letterEscape_eq_some_iff.mp read
    exact ⟨[l], rfl, escapes⟩
  simp only [escapes, List.mem_cons, List.not_mem_nil, or_false] at member
  rcases member with rfl | rfl | rfl | rfl | rfl | rfl | rfl | rfl | rfl
  · exact letter .tab read
  · exact letter .lineFeed read
  · exact letter .carriageReturn read
  · exact letter .zero read
  · exact letter (.itself (by decide)) read
  · exact letter (.itself (by decide)) read
  · exact letter (.itself (by decide)) read
  · obtain ⟨digits, rfl, two, code⟩ := byteEscape_eq_some_iff.mp read
    exact ⟨_, rfl, .byte two code⟩
  · obtain ⟨digits, code, ⟨rfl, four⟩ | ⟨rfl, enough, few⟩⟩ := codeEscape_eq_some_iff.mp read
    · exact ⟨_, rfl, .code four code⟩
    · exact ⟨_, by simp, .braced enough few code⟩

private theorem Escapes.exists_read {front : List Char} (found : Escapes front c)
    (rest : List Char) :
    ∃ reading ∈ escapes, reading (front ++ rest) = some (c, rest) := by
  have letter (l meant : Char) (member : letterEscape l meant ∈ escapes) :
      ∃ reading ∈ escapes, reading ([l] ++ rest) = some (meant, rest) :=
    ⟨_, member, letterEscape_eq_some_iff.mpr ⟨rfl, rfl⟩⟩
  cases found with
  | tab => exact letter _ _ (by simp [escapes])
  | lineFeed => exact letter _ _ (by simp [escapes])
  | carriageReturn => exact letter _ _ (by simp [escapes])
  | zero => exact letter _ _ (by simp [escapes])
  | itself quotes =>
      simp only [List.mem_cons, List.not_mem_nil, or_false] at quotes
      rcases quotes with rfl | rfl | rfl
      · exact letter _ _ (by simp [escapes])
      · exact letter _ _ (by simp [escapes])
      · exact letter _ _ (by simp [escapes])
  | byte two code =>
      exact ⟨byteEscape, by simp [escapes], byteEscape_eq_some_iff.mpr ⟨_, rfl, two, code⟩⟩
  | code four code =>
      exact ⟨codeEscape, by simp [escapes], codeEscape_eq_some_iff.mpr ⟨_, code, .inl ⟨rfl, four⟩⟩⟩
  | braced enough few code =>
      exact ⟨codeEscape, by simp [escapes],
        codeEscape_eq_some_iff.mpr ⟨_, code, .inr ⟨by simp, enough, few⟩⟩⟩

theorem escape_eq_some_iff :
    escape text = some (c, rest) ↔ ∃ front, text = '\\' :: front ++ rest ∧ Escapes front c := by
  have apart := pairwise_apart begins_escapes (by decide)
  simp only [escape, behind_eq_some_iff, firstOf_eq_some_iff apart]
  constructor
  · rintro ⟨later, rfl, reading, member, read⟩
    obtain ⟨front, rfl, found⟩ := escapes_of_read member read
    exact ⟨front, rfl, found⟩
  · rintro ⟨front, rfl, found⟩
    exact ⟨front ++ rest, rfl, found.exists_read rest⟩

theorem single_eq_some_iff :
    single text = some (c, rest) ↔
      (∃ front, text = '\\' :: front ++ rest ∧ Escapes front c) ∨ c ≠ '\\' ∧ text = c :: rest := by
  have apart : Apart escape (otherThan '\\') := by
    intro text
    by_cases backslash : text.head? = some '\\'
    · right
      obtain ⟨later, rfl⟩ := List.head?_eq_some_iff.mp backslash
      rfl
    · exact .inl (begins_behind _ _ text backslash)
  simp only [single, firstOf_eq_some_iff (List.pairwise_pair.mpr apart), List.mem_cons,
    List.not_mem_nil, or_false, exists_eq_or_imp, exists_eq_left, escape_eq_some_iff,
    otherThan_eq_some_iff]

/-! ## Literals -/

private theorem whole_single (filled : text ≠ []) :
    single.whole text = some c ↔ Denotes text c := by
  simp only [whole_eq_some_iff, single_eq_some_iff, List.append_nil]
  constructor
  · rintro (⟨front, rfl, found⟩ | ⟨other, rfl⟩)
    · exact .escaped found
    · exact .plain other
  · intro denotes
    cases denotes with
    | empty => exact absurd rfl filled
    | plain other => exact .inr ⟨other, rfl⟩
    | escaped found => exact .inl ⟨_, rfl, found⟩

/-- A literal is decoded or refused by what it denotes. -/
theorem exists_denoted (literal : String) :
    ∃ denoted : Option Char, (∀ c, denoted = some c ↔ Denotes literal.toList c) ∧
      parse literal = match denoted with
        | some c => .ok c
        | none => .error (.invalidDelimiter literal "must be a single character") := by
  by_cases empty : literal = ""
  · subst empty
    refine ⟨some ',', fun c => ?_, rfl⟩
    constructor
    · rintro ⟨⟩
      exact .empty
    · intro denotes
      cases denotes
      rfl
  · have filled : literal.toList ≠ [] := fun none => empty (String.toList_eq_nil_iff.mp none)
    have nonempty : ¬literal.isEmpty = true := fun none => empty (String.isEmpty_iff.mp none)
    exact ⟨single.whole literal.toList, fun c => whole_single filled, if_neg nonempty⟩

theorem parse_eq_ok_iff {literal : String} : parse literal = .ok c ↔ Denotes literal.toList c := by
  obtain ⟨denoted, meaning, made⟩ := exists_denoted literal
  rw [made, ← meaning]
  cases denoted with
  | none => simp
  | some found => simp

theorem parse_eq_error_iff {literal : String} :
    parse literal = .error (.invalidDelimiter literal "must be a single character") ↔
      ∀ c, ¬Denotes literal.toList c := by
  obtain ⟨denoted, meaning, made⟩ := exists_denoted literal
  simp only [made, ← meaning]
  cases denoted with
  | none => simp
  | some found => simp

theorem Denotes.unique {other : Char} (denotes : Denotes text c) (also : Denotes text other) :
    c = other := by
  rw [← String.toList_ofList (l := text)] at denotes also
  exact Except.ok.inj ((parse_eq_ok_iff.mpr denotes).symm.trans (parse_eq_ok_iff.mpr also))

private theorem exists_denotes (c : Char) : ∃ text, Denotes text c := by
  by_cases backslash : c = '\\'
  · subst backslash
    exact ⟨_, .escaped (.itself (by decide))⟩
  · exact ⟨_, .plain backslash⟩

/-- Decoding accepts exactly the literals of the grammar and gives the character they denote; every
other text is refused. Every character has a literal, no literal has two characters, and hexadecimal
digits whose number is that of no character denote none. -/
theorem literals_of_grammar :
    (∀ literal c, parse literal = .ok c ↔ Denotes literal.toList c) ∧
      (∀ literal, parse literal = .error (.invalidDelimiter literal "must be a single character") ↔
        ∀ c, ¬Denotes literal.toList c) ∧
      (∀ c, ∃ literal, parse literal = .ok c) ∧
      (∀ text c other, Denotes text c → Denotes text other → c = other) ∧
      ∀ digits number, HexNumber digits number → ¬number.isValidChar → ∀ c, ¬Code digits c := by
  refine ⟨fun _ _ => parse_eq_ok_iff, fun _ => parse_eq_error_iff, ?every, ?unique, ?invalid⟩
  case every =>
    intro c
    obtain ⟨text, denotes⟩ := exists_denotes c
    exact ⟨String.ofList text, parse_eq_ok_iff.mpr (by rwa [String.toList_ofList])⟩
  case unique =>
    intro text c other
    exact Denotes.unique
  case invalid =>
    intro digits number read invalid c code
    exact invalid (read.unique code ▸ c.valid)

/-- Six digits at most: the seventh stands where the brace should be. -/
example : parse "\\u\x7b00001F\x7d" = .ok '\x1f' ∧
    parse "\\u\x7b000001F\x7d" =
      .error (.invalidDelimiter "\\u\x7b000001F\x7d" "must be a single character") := by
  decide +kernel

end Delimiter

end Tabular
