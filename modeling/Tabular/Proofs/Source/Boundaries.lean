import Mathlib.Data.Nat.Find
import Mathlib.Order.Bounds.Basic
import Tabular.Proofs.Source.Cuts

/-!
# Boundaries of aligned columns

The words of a line are its longest pieces without blanks. Between two words of the first line that
stand next to each other there is a boundary if some position is blank in all lines, at the first such
position. So no word of a line is cut, and two words of the first line stay together if nothing can
part them.
-/

set_option autoImplicit false

namespace Tabular.Aligned

/-! ## Words of a line -/

/-- A position of a line that holds no character but a blank, or is past the end. -/
def BlankAt (text : List Char) (position : Nat) : Prop :=
  ∀ c, text[position]? = some c → Text.isBlank c = true

variable {text : List Char}

theorem blankAt_iff {position : Nat} {c : Char} (here : text[position]? = some c) :
    BlankAt text position ↔ Text.isBlank c = true := by
  simp [BlankAt, here]

theorem lt_length_of_not_blankAt {position : Nat} (solid : ¬ BlankAt text position) :
    position < text.length := by
  by_contra past
  apply solid
  intro c here
  rw [List.getElem?_eq_none (Nat.not_lt.mp past)] at here
  cases here

/-- A piece of a line without blanks that no longer one holds. -/
structure IsWord (text : List Char) (start stop : Nat) : Prop where
  ordered : start < stop
  solid : ∀ position, start ≤ position → position < stop → ¬ BlankAt text position
  before : start = 0 ∨ BlankAt text (start - 1)
  after : BlankAt text stop

namespace IsWord

variable {start stop start' stop' position : Nat}

theorem start_lt_length (word : IsWord text start stop) : start < text.length :=
  lt_length_of_not_blankAt (word.solid start (Nat.le_refl _) word.ordered)

theorem stop_le_length (word : IsWord text start stop) : stop ≤ text.length := by
  have ordered := word.ordered
  have last := lt_length_of_not_blankAt (word.solid (stop - 1) (by omega) (by omega))
  omega

private theorem start_le_of_overlap (word : IsWord text start stop)
    (other : IsWord text start' stop') (inside : start ≤ position ∧ position < stop)
    (shared : start' ≤ position) :
    start' ≤ start := by
  by_contra later
  rcases other.before with zero | blank
  · omega
  · exact word.solid (start' - 1) (by omega) (by omega) blank

private theorem le_stop_of_overlap (word : IsWord text start stop)
    (other : IsWord text start' stop') (inside : start ≤ position ∧ position < stop)
    (shared : position < stop') : stop ≤ stop' := by
  by_contra later
  exact word.solid stop' (by omega) (by omega) other.after

/-- Words that share a position are the same. -/
theorem eq_of_overlap (word : IsWord text start stop) (other : IsWord text start' stop')
    (inside : start ≤ position ∧ position < stop) (shared : start' ≤ position ∧ position < stop') :
    start = start' ∧ stop = stop' :=
  ⟨Nat.le_antisymm (other.start_le_of_overlap word shared inside.1)
      (word.start_le_of_overlap other inside shared.1),
    Nat.le_antisymm (word.le_stop_of_overlap other inside shared.2)
      (other.le_stop_of_overlap word shared inside.2)⟩

theorem isBlank_of_mem_extract (word : IsWord text start stop) :
    ∀ c ∈ text.extract start stop, Text.isBlank c = false := by
  intro c member
  obtain ⟨i, bound, rfl⟩ := List.mem_iff_getElem.mp member
  have size := bound
  simp only [List.extract_eq_take_drop, List.length_take, List.length_drop] at size
  have here : text[start + i]? = some (text.extract start stop)[i] := by
    simp [List.extract_eq_take_drop, List.getElem?_eq_getElem (show start + i < text.length by omega)]
  have solid := word.solid (start + i) (by omega) (by omega)
  rw [blankAt_iff here] at solid
  exact Bool.not_eq_true _ ▸ solid

theorem extract_ne_nil (word : IsWord text start stop) : text.extract start stop ≠ [] := by
  have ordered := word.ordered
  have inside := word.start_lt_length
  intro empty
  have size := congrArg List.length empty
  simp only [List.extract_eq_take_drop, List.length_take, List.length_drop, List.length_nil] at size
  omega

end IsWord

private theorem exists_stop {position : Nat} (solid : ¬ BlankAt text position) :
    ∃ stop, position < stop ∧ BlankAt text stop ∧
      ∀ between, position ≤ between → between < stop → ¬ BlankAt text between := by
  classical
  have ended : ∃ stop, position ≤ stop ∧ BlankAt text stop := by
    refine ⟨max position text.length, Nat.le_max_left _ _, ?_⟩
    by_contra solid
    exact absurd (lt_length_of_not_blankAt solid) (by omega)
  obtain ⟨later, blank⟩ := Nat.find_spec ended
  refine ⟨Nat.find ended, Nat.lt_of_le_of_ne later ?_, blank, ?_⟩
  · intro same
    exact solid (same ▸ blank)
  · intro between start stop inside
    exact Nat.find_min ended stop ⟨start, inside⟩

/-- Every position that is not blank is in a word. -/
theorem exists_word {position : Nat} (solid : ¬ BlankAt text position) :
    ∃ start stop, IsWord text start stop ∧ start ≤ position ∧ position < stop := by
  obtain ⟨stop, later, blank, between⟩ := exists_stop solid
  induction position with
  | zero => exact ⟨0, stop, ⟨later, between, .inl rfl, blank⟩, Nat.le_refl 0, later⟩
  | succ position ih =>
      by_cases first : BlankAt text position
      · exact ⟨position + 1, stop, ⟨later, between, .inr first, blank⟩, Nat.le_refl _, later⟩
      · obtain ⟨start, stop', word, before, after⟩ := ih first (by omega) (by
          intro other low high
          rcases Nat.eq_or_lt_of_le low with rfl | above
          · exact first
          · exact between other above high)
        exact ⟨start, stop', word, by omega, by
          by_contra short
          have same : stop' = position + 1 := by omega
          exact solid (same ▸ word.after)⟩

/-! ## The scan for words -/

/-- What is known of a line up to a position, when the word there started at the given place or no word
is open. -/
def Scanned (text : List Char) (position : Nat) : Option Nat → Prop
  | none => position = 0 ∨ BlankAt text (position - 1)
  | some start => start < position ∧ (start = 0 ∨ BlankAt text (start - 1)) ∧
      ∀ between, start ≤ between → between < position → ¬ BlankAt text between

variable {position : Nat} {open? : Option Nat}

private theorem Scanned.word {start : Nat} (scanned : Scanned text position (some start))
    (blank : BlankAt text position) : IsWord text start position :=
  ⟨scanned.1, scanned.2.2, scanned.2.1, blank⟩

private theorem Scanned.closed (blank : BlankAt text position) : Scanned text (position + 1) none :=
  .inr blank

private theorem Scanned.opened (scanned : Scanned text position none)
    (solid : ¬ BlankAt text position) :
    Scanned text (position + 1) (some position) := by
  refine ⟨Nat.lt_succ_self _, scanned, fun between low high => ?_⟩
  have same : between = position := by omega
  exact same ▸ solid

private theorem Scanned.continued {start : Nat} (scanned : Scanned text position (some start))
    (solid : ¬ BlankAt text position) : Scanned text (position + 1) (some start) := by
  obtain ⟨before, first, inside⟩ := scanned
  refine ⟨by omega, first, fun between low high => ?_⟩
  rcases Nat.lt_or_ge between position with earlier | last
  · exact inside between low earlier
  · have same : between = position := by omega
    exact same ▸ solid

theorem getElem?_of_drop {c : Char} {rest : List Char} (here : text.drop position = c :: rest) :
    text[position]? = some c ∧ text.drop (position + 1) = rest := by
  constructor
  · rw [← List.head?_drop, here, List.head?_cons]
  · rw [← List.tail_drop, here, List.tail_cons]

section

variable {c : Char} (rest : List Char) (position : Nat)

theorem wordSpansFrom_cons (c : Char) (open? : Option Nat) :
    wordSpansFrom position open? (c :: rest) =
      match Text.isBlank c, open? with
      | false, none => wordSpansFrom (position + 1) (some position) rest
      | true, some start => (start, position) :: wordSpansFrom (position + 1) none rest
      | _, _ => wordSpansFrom (position + 1) open? rest := by
  cases open? <;> rfl

private theorem wordSpansFrom_gap (blank : Text.isBlank c = true) :
    wordSpansFrom position none (c :: rest) = wordSpansFrom (position + 1) none rest := by
  rw [wordSpansFrom_cons, blank]

private theorem wordSpansFrom_closed (first : Nat) (blank : Text.isBlank c = true) :
    wordSpansFrom position (some first) (c :: rest) =
      (first, position) :: wordSpansFrom (position + 1) none rest := by
  rw [wordSpansFrom_cons, blank]

private theorem wordSpansFrom_opened (solid : Text.isBlank c = false) :
    wordSpansFrom position none (c :: rest) = wordSpansFrom (position + 1) (some position) rest := by
  rw [wordSpansFrom_cons, solid]

private theorem wordSpansFrom_continued (first : Nat) (solid : Text.isBlank c = false) :
    wordSpansFrom position (some first) (c :: rest) =
      wordSpansFrom (position + 1) (some first) rest := by
  rw [wordSpansFrom_cons, solid]

end

/-- From a position on, the words that end behind it are found. -/
theorem mem_wordSpansFrom_iff {rest : List Char} (here : text.drop position = rest)
    (scanned : Scanned text position open?) {start stop : Nat} :
    (start, stop) ∈ wordSpansFrom position open? rest ↔
      IsWord text start stop ∧ open?.getD position ≤ start := by
  induction rest generalizing position open? with
  | nil =>
      have ended : text.length ≤ position := List.drop_eq_nil_iff.mp here
      have blank : BlankAt text position := by
        by_contra solid
        exact absurd (lt_length_of_not_blankAt solid) (by omega)
      cases open? with
      | none =>
          refine ⟨fun member => (List.not_mem_nil member).elim, fun ⟨word, behind⟩ => ?_⟩
          have inside := word.start_lt_length
          rw [Option.getD_none] at behind
          omega
      | some first =>
          change (start, stop) ∈ [(first, position)] ↔ _
          simp only [List.mem_singleton, Prod.mk.injEq, Option.getD_some]
          constructor
          · rintro ⟨rfl, rfl⟩
            exact ⟨scanned.word blank, Nat.le_refl _⟩
          · rintro ⟨word, later⟩
            have inside := word.start_lt_length
            exact word.eq_of_overlap (scanned.word blank) ⟨Nat.le_refl _, word.ordered⟩
              ⟨later, by omega⟩
  | cons c rest ih =>
      obtain ⟨at_c, later⟩ := getElem?_of_drop here
      have known := blankAt_iff at_c
      cases blank : Text.isBlank c with
      | true =>
          have gap : BlankAt text position := known.mpr blank
          cases open? with
          | none =>
              simp only [wordSpansFrom_gap _ _ blank, ih later (.closed gap), Option.getD_none]
              refine and_congr_right fun word => ?_
              have other : start ≠ position := by
                rintro rfl
                exact word.solid start (Nat.le_refl _) word.ordered gap
              omega
          | some first =>
              simp only [wordSpansFrom_closed _ _ _ blank, List.mem_cons, Prod.mk.injEq,
                ih later (.closed gap), Option.getD_none, Option.getD_some]
              have found := scanned.word gap
              constructor
              · rintro (⟨rfl, rfl⟩ | ⟨word, behind⟩)
                · exact ⟨found, Nat.le_refl _⟩
                · exact ⟨word, by have := scanned.1; omega⟩
              · rintro ⟨word, behind⟩
                -- A word that starts earlier shares its first position with the open one.
                rcases Nat.lt_trichotomy start position with inside | rfl | past
                · exact .inl (word.eq_of_overlap found ⟨Nat.le_refl _, word.ordered⟩
                    ⟨behind, inside⟩)
                · exact absurd gap (word.solid start (Nat.le_refl _) word.ordered)
                · exact .inr ⟨word, past⟩
      | false =>
          have solid : ¬ BlankAt text position := by simp [known, blank]
          cases open? with
          | none =>
              simp only [wordSpansFrom_opened _ _ blank, ih later (scanned.opened solid),
                Option.getD_none, Option.getD_some]
          | some first =>
              simp only [wordSpansFrom_continued _ _ _ blank, ih later (scanned.continued solid),
                Option.getD_some]

private theorem pairwise_wordSpansFrom {rest : List Char} (here : text.drop position = rest)
    (scanned : Scanned text position open?) :
    (wordSpansFrom position open? rest).Pairwise fun left right => left.2 < right.1 := by
  induction rest generalizing position open? with
  | nil =>
      cases open? with
      | none => exact .nil
      | some first => exact List.pairwise_singleton _ _
  | cons c rest ih =>
      obtain ⟨at_c, later⟩ := getElem?_of_drop here
      have known := blankAt_iff at_c
      cases blank : Text.isBlank c with
      | true =>
          have gap : BlankAt text position := known.mpr blank
          cases open? with
          | none =>
              rw [wordSpansFrom_gap _ _ blank]
              exact ih later (.closed gap)
          | some first =>
              rw [wordSpansFrom_closed _ _ _ blank]
              refine .cons (fun span member => ?_) (ih later (.closed gap))
              exact ((mem_wordSpansFrom_iff later (.closed gap)).mp member).2
      | false =>
          have solid : ¬ BlankAt text position := by simp [known, blank]
          cases open? with
          | none =>
              rw [wordSpansFrom_opened _ _ blank]
              exact ih later (scanned.opened solid)
          | some first =>
              rw [wordSpansFrom_continued _ _ _ blank]
              exact ih later (scanned.continued solid)

private theorem scanned_start (text : List Char) : Scanned text 0 none :=
  .inl rfl

/-- The words that are found are the words of the line. -/
theorem mem_wordSpans_iff {start stop : Nat} :
    (start, stop) ∈ wordSpans text ↔ IsWord text start stop :=
  (mem_wordSpansFrom_iff List.drop_zero (scanned_start text)).trans
    (and_iff_left (Nat.zero_le start))

theorem isWord_of_getElem? {i : Nat} {word : Nat × Nat} (here : (wordSpans text)[i]? = some word) :
    IsWord text word.1 word.2 :=
  mem_wordSpans_iff.mp (List.mem_of_getElem? here)

theorem lt_of_getElem?_wordSpans {i j : Nat} {left right : Nat × Nat} (order : i < j)
    (first : (wordSpans text)[i]? = some left) (second : (wordSpans text)[j]? = some right) :
    left.2 < right.1 := by
  have sorted : (wordSpans text).Pairwise fun left right => left.2 < right.1 :=
    pairwise_wordSpansFrom List.drop_zero (scanned_start text)
  obtain ⟨_, rfl⟩ := List.getElem?_eq_some_iff.mp first
  obtain ⟨_, rfl⟩ := List.getElem?_eq_some_iff.mp second
  exact List.pairwise_iff_getElem.mp sorted i j _ _ order

/-! ## Gaps -/

/-- Two words of a line with nothing but blanks between them. -/
structure Adjacent (text : List Char) (left right : Nat × Nat) : Prop where
  leftWord : IsWord text left.1 left.2
  rightWord : IsWord text right.1 right.2
  ordered : left.2 ≤ right.1
  blank : ∀ position, left.2 ≤ position → position < right.1 → BlankAt text position

theorem adjacent_iff {left right : Nat × Nat} :
    Adjacent text left right ↔
      ∃ i : Nat, (wordSpans text)[i]? = some left ∧ (wordSpans text)[i + 1]? = some right := by
  constructor
  · intro adjacent
    obtain ⟨i, first⟩ := List.mem_iff_getElem?.mp (mem_wordSpans_iff.mpr adjacent.leftWord)
    obtain ⟨j, second⟩ := List.mem_iff_getElem?.mp (mem_wordSpans_iff.mpr adjacent.rightWord)
    have leftOrdered := adjacent.leftWord.ordered
    have rightOrdered := adjacent.rightWord.ordered
    have ordered := adjacent.ordered
    rcases Nat.lt_trichotomy (i + 1) j with between | rfl | before
    · -- A word between the two would stand on blanks.
      obtain ⟨inside, -⟩ := List.getElem?_eq_some_iff.mp second
      have third : (wordSpans text)[i + 1]? = some (wordSpans text)[i + 1] :=
        List.getElem?_eq_getElem _
      have after := lt_of_getElem?_wordSpans (Nat.lt_succ_self i) first third
      have until_right := lt_of_getElem?_wordSpans between third second
      have word := isWord_of_getElem? third
      have wordOrdered := word.ordered
      exact absurd (adjacent.blank _ (Nat.le_of_lt after) (by omega))
        (word.solid _ (Nat.le_refl _) word.ordered)
    · exact ⟨i, first, second⟩
    · rcases Nat.eq_or_lt_of_le (Nat.le_of_lt_succ before) with rfl | reversed
      · have same : left = right := Option.some.inj (first.symm.trans second)
        subst same
        omega
      · have crossed := lt_of_getElem?_wordSpans reversed second first
        omega
  · rintro ⟨i, first, second⟩
    have ordered := lt_of_getElem?_wordSpans (Nat.lt_succ_self i) first second
    refine ⟨isWord_of_getElem? first, isWord_of_getElem? second, Nat.le_of_lt ordered, ?_⟩
    intro position low high
    by_contra solid
    obtain ⟨start, stop, word, before, after⟩ := exists_word solid
    obtain ⟨j, here⟩ := List.mem_iff_getElem?.mp (mem_wordSpans_iff.mpr word)
    have leftOrdered := (isWord_of_getElem? first).ordered
    have rightOrdered := (isWord_of_getElem? second).ordered
    rcases Nat.lt_trichotomy j i with earlier | rfl | later
    · have apart := lt_of_getElem?_wordSpans earlier here first
      dsimp only at apart
      omega
    · obtain rfl := Option.some.inj (here.symm.trans first)
      dsimp only at low
      omega
    · rcases Nat.eq_or_lt_of_le (Nat.succ_le_of_lt later) with rfl | last
      · obtain rfl := Option.some.inj (here.symm.trans second)
        dsimp only at high
        omega
      · have apart := lt_of_getElem?_wordSpans last second here
        dsimp only at apart
        omega

/-- Words with a position between them that is in one gap have the same gap. -/
theorem Adjacent.gap_eq {left right left' right' : Nat × Nat} {position : Nat}
    (adjacent : Adjacent text left right) (other : Adjacent text left' right')
    (inside : left.2 ≤ position ∧ position < right.1)
    (shared : left'.2 ≤ position ∧ position < right'.1) : left.2 = left'.2 ∧ right.1 = right'.1 := by
  have starts {left right left' right' : Nat × Nat} (adjacent : Adjacent text left right)
      (other : Adjacent text left' right') (inside : position < right.1)
      (shared : left'.2 ≤ position) : left'.2 ≤ left.2 := by
    by_contra later
    have ordered := other.leftWord.ordered
    exact other.leftWord.solid (left'.2 - 1) (by omega) (by omega)
      (adjacent.blank (left'.2 - 1) (by omega) (by omega))
  have stops {left right left' right' : Nat × Nat} (adjacent : Adjacent text left right)
      (other : Adjacent text left' right') (inside : left.2 ≤ position)
      (shared : position < right'.1) : right.1 ≤ right'.1 := by
    by_contra later
    exact other.rightWord.solid right'.1 (Nat.le_refl _) other.rightWord.ordered
      (adjacent.blank right'.1 (by omega) (by omega))
  exact ⟨Nat.le_antisymm (starts other adjacent shared.2 inside.1) (starts adjacent other inside.2 shared.1),
    Nat.le_antisymm (stops adjacent other inside.1 shared.2) (stops other adjacent shared.1 inside.2)⟩

theorem getElem?_gaps_eq_some_iff {words : List (Nat × Nat)} {i : Nat} {gap : Nat × Nat} :
    (gaps words)[i]? = some gap ↔
      ∃ left right, words[i]? = some left ∧ words[i + 1]? = some right ∧ (left.2, right.1) = gap := by
  simp [gaps, List.getElem?_map, List.getElem?_zip_eq_some, Option.map_eq_some_iff, and_assoc]

theorem mem_gaps_iff {gap : Nat × Nat} :
    gap ∈ gaps (wordSpans text) ↔ ∃ left right, Adjacent text left right ∧ (left.2, right.1) = gap := by
  simp only [List.mem_iff_getElem?, getElem?_gaps_eq_some_iff, adjacent_iff]
  constructor
  · rintro ⟨i, left, right, first, second, same⟩
    exact ⟨left, right, ⟨i, first, second⟩, same⟩
  · rintro ⟨left, right, ⟨i, first, second⟩, same⟩
    exact ⟨i, left, right, first, second, same⟩

private theorem pairwise_gaps (text : List Char) :
    (gaps (wordSpans text)).Pairwise fun gap later => gap.2 < later.1 := by
  rw [List.pairwise_iff_getElem]
  intro i j inside within order
  obtain ⟨left, right, -, second, gap⟩ :=
    getElem?_gaps_eq_some_iff.mp (List.getElem?_eq_getElem inside)
  obtain ⟨left', right', first', -, later⟩ :=
    getElem?_gaps_eq_some_iff.mp (List.getElem?_eq_getElem within)
  rw [← gap, ← later]
  have ordered := (isWord_of_getElem? second).ordered
  have orderedLater := (isWord_of_getElem? first').ordered
  rcases Nat.eq_or_lt_of_le (Nat.succ_le_of_lt order) with rfl | apart
  · obtain rfl := Option.some.inj (second.symm.trans first')
    exact ordered
  · have before := lt_of_getElem?_wordSpans apart second first'
    dsimp only
    omega

/-! ## Boundaries -/

variable {sample : List (List Char)}

theorem isGap_iff : isGap sample position = true ↔ ∀ text ∈ sample, BlankAt text position := by
  rw [isGap, List.all_eq_true]
  refine forall₂_congr fun text _ => ?_
  cases here : text[position]? with
  | none => simp [BlankAt, here]
  | some c => simp [BlankAt, here]

theorem boundary?_eq_some_iff {gap : Nat × Nat} :
    boundary? sample gap = some position ↔
      IsLeast {p | gap.1 ≤ p ∧ p < gap.2 ∧ ∀ text ∈ sample, BlankAt text p} position := by
  rw [boundary?, List.find?_range'_eq_some]
  simp only [isGap_iff, List.mem_range'_1, IsLeast, lowerBounds, Set.mem_ofPred_eq,
    Bool.not_eq_true', Bool.eq_false_iff, ne_eq]
  constructor
  · rintro ⟨blank, ⟨low, high⟩, least⟩
    refine ⟨⟨low, by omega, blank⟩, fun other ⟨above, below, common⟩ => ?_⟩
    by_contra smaller
    exact least other above (by omega) common
  · rintro ⟨⟨low, high, blank⟩, least⟩
    refine ⟨blank, ⟨low, by omega⟩, fun other above below common => ?_⟩
    have bound := least ⟨above, by omega, common⟩
    omega

theorem mem_boundaries_iff {first : List Char} :
    position ∈ boundaries first sample ↔ ∃ left right, Adjacent first left right ∧
      IsLeast {p | left.2 ≤ p ∧ p < right.1 ∧ ∀ text ∈ sample, BlankAt text p} position := by
  simp only [boundaries, List.mem_filterMap, mem_gaps_iff, boundary?_eq_some_iff]
  constructor
  · rintro ⟨gap, ⟨left, right, adjacent, rfl⟩, least⟩
    exact ⟨left, right, adjacent, least⟩
  · rintro ⟨left, right, adjacent, least⟩
    exact ⟨_, ⟨left, right, adjacent, rfl⟩, least⟩

theorem blankAt_of_mem_boundaries {first : List Char} (member : position ∈ boundaries first sample) :
    ∀ text ∈ sample, BlankAt text position := by
  obtain ⟨left, right, -, least⟩ := mem_boundaries_iff.mp member
  exact least.1.2.2

private theorem pairwise_boundaries (first : List Char) (sample : List (List Char)) :
    (boundaries first sample).Pairwise (· < ·) := by
  rw [boundaries, List.pairwise_filterMap]
  refine (pairwise_gaps first).imp fun {gap later} apart position found other foundLater => ?_
  have inside := (boundary?_eq_some_iff.mp found).1
  have behind := (boundary?_eq_some_iff.mp foundLater).1
  exact Nat.lt_of_lt_of_le (Nat.lt_trans inside.2.1 apart) behind.1

/-! ## Words and slices -/

section Slices

variable {length start stop : Nat} {cuts stops : List Nat} {slice : Nat × Nat}

theorem le_fst_of_mem_slicesFrom (member : slice ∈ slicesFrom length start stops) :
    min start length ≤ slice.1 := by
  induction stops generalizing start with
  | nil => cases member
  | cons stop stops ih =>
      rcases List.mem_cons.mp member with rfl | later
      · exact Nat.le_refl _
      · have bound := ih later
        omega

/-- No slice reaches over a cut. -/
theorem apart_of_mem_slicesFrom (sorted : cuts.Pairwise (· ≤ ·)) (ahead : ∀ cut ∈ cuts, start ≤ cut)
    (member : slice ∈ slicesFrom length start (cuts ++ [length])) {cut : Nat} (found : cut ∈ cuts) :
    min cut length ≤ slice.1 ∨ slice.2 ≤ min cut length := by
  induction cuts generalizing start with
  | nil => cases found
  | cons stop cuts ih =>
      obtain ⟨first, others⟩ := List.pairwise_cons.mp sorted
      have forward := ahead stop (.head _)
      have behind : ∀ later ∈ cuts, min (max stop start) length ≤ later := by
        intro later inside
        have bound := first later inside
        omega
      rcases List.mem_cons.mp member with rfl | later
      · right
        dsimp only
        rcases List.mem_cons.mp found with rfl | inside
        · omega
        · have bound := behind cut inside
          omega
      · rcases List.mem_cons.mp found with rfl | inside
        · left
          have bound := le_fst_of_mem_slicesFrom later
          omega
        · exact ih others behind later inside

private theorem exists_slice (ordered : start ≤ position) (inside : stop ≤ length)
    (clear : ∀ cut ∈ cuts, cut ≤ position ∨ stop ≤ cut) :
    ∃ slice ∈ slicesFrom length start (cuts ++ [length]), slice.1 ≤ position ∧ stop ≤ slice.2 := by
  induction cuts generalizing start with
  | nil =>
      refine ⟨_, .head _, ?_, ?_⟩
      · dsimp only
        omega
      · dsimp only
        omega
  | cons cut cuts ih =>
      rcases clear cut (.head _) with before | behind
      · have advanced : min (max cut start) length ≤ position := by omega
        obtain ⟨slice, member, whole⟩ := ih advanced fun later found => clear later (.tail _ found)
        exact ⟨slice, .tail _ member, whole⟩
      · refine ⟨_, .head _, ?_, ?_⟩
        · dsimp only
          omega
        · dsimp only
          omega

/-- A piece of a line is in one slice if no boundary is strictly inside it. -/
theorem exists_slice_iff (sorted : cuts.Pairwise (· ≤ ·)) (shorter : start < stop)
    (inside : stop ≤ length) :
    (∃ slice ∈ slices cuts length, slice.1 ≤ start ∧ stop ≤ slice.2) ↔
      ∀ cut ∈ cuts, cut ≤ start ∨ stop ≤ cut := by
  constructor
  · rintro ⟨slice, member, before, after⟩ cut found
    have apart := apart_of_mem_slicesFrom sorted (fun cut _ => Nat.zero_le cut) member found
    omega
  · exact exists_slice (Nat.zero_le _) inside

end Slices

private theorem extract_infix_extract {start stop : Nat} {slice : Nat × Nat}
    (before : slice.1 ≤ start) (after : stop ≤ slice.2) :
    text.extract start stop <:+: text.extract slice.1 slice.2 := by
  simp only [List.extract_eq_take_drop]
  have inner : (text.drop start).take (stop - start) =
      (((text.drop slice.1).take (slice.2 - slice.1)).drop (start - slice.1)).take (stop - start) := by
    rw [List.drop_take, List.drop_drop, List.take_take, Nat.add_sub_cancel' before]
    congr 1
    omega
  rw [inner]
  exact (List.take_prefix _ _).isInfix.trans (List.drop_suffix _ _).isInfix

/-! ## Words and boundaries -/

variable {first : List Char} {left right : Nat × Nat}

theorem exists_boundary_iff (adjacent : Adjacent first left right) :
    (∃ p ∈ boundaries first sample, left.2 ≤ p ∧ p < right.1) ↔
      ∃ p, left.2 ≤ p ∧ p < right.1 ∧ ∀ text ∈ sample, BlankAt text p := by
  classical
  constructor
  · rintro ⟨p, member, low, high⟩
    exact ⟨p, low, high, blankAt_of_mem_boundaries member⟩
  · intro some_blank
    obtain ⟨low, high, blank⟩ := Nat.find_spec some_blank
    refine ⟨Nat.find some_blank, mem_boundaries_iff.mpr ⟨left, right, adjacent, ?_⟩, low, high⟩
    exact ⟨⟨low, high, blank⟩, fun other inside => Nat.find_min' some_blank inside⟩

theorem eq_of_mem_boundaries (adjacent : Adjacent first left right) {p q : Nat}
    (found : p ∈ boundaries first sample) (low : left.2 ≤ p) (high : p < right.1)
    (other : q ∈ boundaries first sample) (lowOther : left.2 ≤ q) (highOther : q < right.1) :
    p = q := by
  obtain ⟨left', right', near, least⟩ := mem_boundaries_iff.mp found
  obtain ⟨left'', right'', nearOther, leastOther⟩ := mem_boundaries_iff.mp other
  obtain ⟨starts, stops⟩ := near.gap_eq adjacent ⟨least.1.1, least.1.2.1⟩ ⟨low, high⟩
  obtain ⟨startsOther, stopsOther⟩ :=
    nearOther.gap_eq adjacent ⟨leastOther.1.1, leastOther.1.2.1⟩ ⟨lowOther, highOther⟩
  rw [starts, stops] at least
  rw [startsOther, stopsOther] at leastOther
  exact least.unique leastOther

/-- A word of a sampled line is whole in one cell. -/
theorem exists_cell_of_isWord (member : text ∈ sample) {start stop : Nat}
    (word : IsWord text start stop) :
    ∃ (i : Nat) (slice : Nat × Nat),
      (slices (boundaries first sample) text.length)[i]? = some slice ∧
      slice.1 ≤ start ∧ stop ≤ slice.2 ∧
      ∃ cell, (cells (boundaries first sample) text)[i]? = some cell ∧
        text.extract start stop <:+: cell.toList := by
  have sorted := (pairwise_boundaries first sample).imp fun order => Nat.le_of_lt order
  have clear : ∀ cut ∈ boundaries first sample, cut ≤ start ∨ stop ≤ cut := by
    intro cut found
    by_contra inside
    exact word.solid cut (by omega) (by omega) (blankAt_of_mem_boundaries found text member)
  obtain ⟨slice, found, before, after⟩ :=
    (exists_slice_iff sorted word.ordered word.stop_le_length).mpr clear
  obtain ⟨i, here⟩ := List.mem_iff_getElem?.mp found
  have shown : (cells (boundaries first sample) text)[i]? =
      some (String.ofList (Text.trim (text.extract slice.1 slice.2))) := by
    rw [cells_eq, List.getElem?_map, here, Option.map_some]
  refine ⟨i, slice, here, before, after, _, shown, ?_⟩
  rw [String.toList_ofList]
  exact Text.infix_trim word.extract_ne_nil word.isBlank_of_mem_extract
    (extract_infix_extract before after)

/-- Adjacent words of the first line share a slice if no position between them is blank in all lines. -/
theorem exists_slice_of_adjacent_iff (member : first ∈ sample) (adjacent : Adjacent first left right) :
    (∃ slice ∈ slices (boundaries first sample) first.length, slice.1 ≤ left.1 ∧ right.2 ≤ slice.2) ↔
      ¬ ∃ p, left.2 ≤ p ∧ p < right.1 ∧ ∀ text ∈ sample, BlankAt text p := by
  have sorted := (pairwise_boundaries first sample).imp fun order => Nat.le_of_lt order
  have leftOrdered := adjacent.leftWord.ordered
  have rightOrdered := adjacent.rightWord.ordered
  have ordered := adjacent.ordered
  rw [exists_slice_iff sorted (by omega) adjacent.rightWord.stop_le_length,
    ← exists_boundary_iff adjacent]
  constructor
  · rintro clear ⟨cut, found, low, high⟩
    have apart := clear cut found
    omega
  · intro none cut found
    by_contra inside
    have blank := blankAt_of_mem_boundaries found first member
    rcases Nat.lt_or_ge cut left.2 with early | behind
    · exact adjacent.leftWord.solid cut (by omega) early blank
    · rcases Nat.lt_or_ge cut right.1 with between | late
      · exact none ⟨cut, found, behind, between⟩
      · exact adjacent.rightWord.solid cut late (by omega) blank

/-- The boundaries of sampled lines ascend, and they are the first positions between adjacent words of
the first line that are blank in all lines: one between two words if there is such a position, and
none otherwise. Every word of every line is whole in a cell, and adjacent words of the first line are
in one cell if and only if no position between them is blank in all lines. -/
theorem boundaries_part_words (first : List Char) (others : List (List Char)) :
    let sample := first :: others
    let found := boundaries first sample
    found.Pairwise (· < ·) ∧
    (∀ p, p ∈ found ↔ ∃ left right, Adjacent first left right ∧
      IsLeast {q | left.2 ≤ q ∧ q < right.1 ∧ ∀ text ∈ sample, BlankAt text q} p) ∧
    (∀ left right, Adjacent first left right →
      ((∃ p ∈ found, left.2 ≤ p ∧ p < right.1) ↔
        ∃ p, left.2 ≤ p ∧ p < right.1 ∧ ∀ text ∈ sample, BlankAt text p) ∧
      (∀ p ∈ found, left.2 ≤ p → p < right.1 →
        ∀ q ∈ found, left.2 ≤ q → q < right.1 → p = q) ∧
      ((∃ slice ∈ slices found first.length, slice.1 ≤ left.1 ∧ right.2 ≤ slice.2) ↔
        ¬ ∃ p, left.2 ≤ p ∧ p < right.1 ∧ ∀ text ∈ sample, BlankAt text p)) ∧
    ∀ text ∈ sample,
      cells found text = (slices found text.length).map (fun slice =>
        String.ofList (Text.trim (text.extract slice.1 slice.2))) ∧
      ∀ start stop, IsWord text start stop → ∃ (i : Nat) (slice : Nat × Nat),
        (slices found text.length)[i]? = some slice ∧ slice.1 ≤ start ∧ stop ≤ slice.2 ∧
        ∃ cell, (cells found text)[i]? = some cell ∧ text.extract start stop <:+: cell.toList := by
  intro sample found
  refine ⟨pairwise_boundaries first sample, fun p => mem_boundaries_iff, ?adjacent, ?words⟩
  case adjacent =>
    intro left right adjacent
    refine ⟨exists_boundary_iff adjacent, ?_, exists_slice_of_adjacent_iff (.head _) adjacent⟩
    intro p member low high q other lowOther highOther
    exact eq_of_mem_boundaries adjacent member low high other lowOther highOther
  case words =>
    intro text member
    exact ⟨cells_eq found text, fun start stop => exists_cell_of_isWord member⟩

/-- A header whose last words nothing parts, over a line with one long word and a short line. -/
theorem boundaries_part_words_joined :
    let first := "USER  START TIME".toList
    let sample := [first, "root  yesterday".toList, "me".toList]
    let found := boundaries first sample
    found = [4] ∧
      (Adjacent first (0, 4) (6, 11) ∧ ∃ p ∈ found, 4 ≤ p ∧ p < 6) ∧
      (Adjacent first (6, 11) (12, 16) ∧
        ¬ ∃ p, 11 ≤ p ∧ p < 12 ∧ ∀ text ∈ sample, BlankAt text p) ∧
      IsWord "root  yesterday".toList 6 15 ∧
        ∃ cell ∈ cells found "root  yesterday".toList, "yesterday".toList <:+: cell.toList := by
  intro first sample found
  obtain ⟨-, -, adjacent, words⟩ :=
    boundaries_part_words first ["root  yesterday".toList, "me".toList]
  have only : found = [4] := by decide +kernel
  have parted : Adjacent first (0, 4) (6, 11) :=
    adjacent_iff.mpr ⟨0, by decide +kernel, by decide +kernel⟩
  have joined : Adjacent first (6, 11) (12, 16) :=
    adjacent_iff.mpr ⟨1, by decide +kernel, by decide +kernel⟩
  have word : IsWord "root  yesterday".toList 6 15 := mem_wordSpans_iff.mp (by decide +kernel)
  refine ⟨only, ⟨parted, (adjacent _ _ parted).1.mpr ⟨4, by decide, by decide, ?_⟩⟩, ⟨joined, ?_⟩,
    word, ?_⟩
  · exact isGap_iff.mp (by decide +kernel)
  · exact (adjacent _ _ joined).2.2.mp (by decide +kernel)
  · obtain ⟨i, slice, here, before, after, cell, shown, whole⟩ :=
      (words _ (.tail _ (.head _))).2 6 15 word
    exact ⟨cell, List.mem_of_getElem? shown, whole⟩

end Tabular.Aligned
