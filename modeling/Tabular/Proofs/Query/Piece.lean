import Tabular.Query.Field

/-!
# The pieces of a query

A query is a sequence of fields and of single characters between them. Every query can be cut into
pieces, and pieces that keep fields apart are found again when their text is cut: so they stay the
same when some of them are replaced.
-/

set_option autoImplicit false

namespace Tabular.Query

/-! ## Reading a field by characters -/

/-- The part of a text that continues a field, and the rest. A quote may be open. -/
def continued : Option Char → List Char → List Char × List Char
  | _, [] => ([], [])
  | some quote, c :: rest =>
    let more := continued (if c = quote then none else some quote) rest
    (c :: more.1, more.2)
  | none, c :: rest =>
    if isQuote c then
      let more := continued (some c) rest
      (c :: more.1, more.2)
    else if isBare c then
      let more := continued none rest
      (c :: more.1, more.2)
    else ([], c :: rest)

/-- The quote that is open behind a text of which every character continues a field; none if some
character ends the field. -/
def openAfter? : Option Char → List Char → Option (Option Char)
  | opened, [] => some opened
  | some quote, c :: rest => openAfter? (if c = quote then none else some quote) rest
  | none, c :: rest =>
    if isQuote c then openAfter? (some c) rest
    else if isBare c then openAfter? none rest
    else none

/-- Whether a field that has no open quote ends before a text. -/
def EndsField : List Char → Prop
  | [] => True
  | c :: _ => isQuote c = false ∧ isBare c = false

private theorem continued_of_endsField {rest : List Char} (ends : EndsField rest) :
    continued none rest = ([], rest) := by
  cases rest with
  | nil => rfl
  | cons c rest => simp [continued, ends.1, ends.2]

/-- A quoted run is read up to its closing quote, or to the end. -/
theorem continued_quoted (quote : Char) (rest : List Char) :
    continued (some quote) rest =
      (rest.takeWhile (· != quote) ++ (rest.dropWhile (· != quote)).take 1 ++
          (continued none ((rest.dropWhile (· != quote)).drop 1)).1,
        (continued none ((rest.dropWhile (· != quote)).drop 1)).2) := by
  induction rest with
  | nil => rfl
  | cons c rest ih =>
      by_cases closes : c = quote
      · simp [continued, closes]
      · simp [continued, closes, ih]

private theorem continued_bare (rest : List Char) :
    continued none rest =
      (rest.takeWhile isBare ++ (continued none (rest.dropWhile isBare)).1,
        (continued none (rest.dropWhile isBare)).2) := by
  induction rest with
  | nil => rfl
  | cons c rest ih =>
      cases bare : isBare c with
      | false => simp [bare]
      | true =>
          have noQuote : isQuote c = false := by
            simp only [isBare, Bool.and_eq_true, Bool.not_eq_true'] at bare
            exact bare.2
          simp only [continued, bare, noQuote, List.takeWhile_cons_of_pos, List.dropWhile_cons_of_pos,
            Bool.false_eq_true, if_true, if_false, List.cons_append]
          rw [ih]

/-- A field is read character by character. -/
theorem field_eq_continued (text : List Char) : field text = continued none text := by
  induction size : text.length using Nat.strongRecOn generalizing text with
  | ind size ih =>
    cases text with
    | nil => simp [field, run?, continued]
    | cons c rest =>
        cases quote : isQuote c with
        | true =>
            have found : run? (c :: rest) = some (c :: rest.takeWhile (· != c) ++
                (rest.dropWhile (· != c)).take 1, (rest.dropWhile (· != c)).drop 1) := by
              simp [run?, quote]
            have after := ih _ (size ▸ run?_length_lt found) _ rfl
            rw [field]
            split
            · simp_all
            · rename_i run more same
              obtain ⟨rfl, rfl⟩ := Prod.mk.inj (Option.some.inj (found.symm.trans same))
              rw [after]
              simp [continued, quote, continued_quoted c rest]
        | false =>
            cases bare : isBare c with
            | true =>
                have found : run? (c :: rest) =
                    some (c :: rest.takeWhile isBare, rest.dropWhile isBare) := by
                  simp [run?, quote, bare]
                have after := ih _ (size ▸ run?_length_lt found) _ rfl
                rw [field]
                split
                · simp_all
                · rename_i run more same
                  obtain ⟨rfl, rfl⟩ := Prod.mk.inj (Option.some.inj (found.symm.trans same))
                  rw [after, continued]
                  simp only [quote, bare, Bool.false_eq_true, if_true, if_false]
                  rw [continued_bare rest, List.cons_append]
            | false =>
                have ends : EndsField (c :: rest) := ⟨quote, bare⟩
                rw [continued_of_endsField ends, field]
                split
                · rfl
                · rename_i found
                  simp [run?, quote, bare] at found

theorem continued_append {opened after : Option Char} {text : List Char}
    (read : openAfter? opened text = some after) (rest : List Char) :
    continued opened (text ++ rest) =
      (text ++ (continued after rest).1, (continued after rest).2) := by
  induction text generalizing opened with
  | nil =>
      cases read
      rfl
  | cons c text ih =>
      cases opened with
      | some quote =>
          have more := ih read
          simp [continued, more]
      | none =>
          rw [openAfter?] at read
          split at read
          · rename_i quote
            have more := ih read
            simp [continued, quote, more]
          · rename_i noQuote
            split at read
            · rename_i bare
              have more := ih read
              simp [continued, noQuote, bare, more]
            · cases read

theorem openAfter?_append {opened after : Option Char} {text : List Char}
    (read : openAfter? opened text = some after) (more : List Char) :
    openAfter? opened (text ++ more) = openAfter? after more := by
  induction text generalizing opened with
  | nil =>
      cases read
      rfl
  | cons c text ih =>
      cases opened with
      | some quote => exact ih read
      | none =>
          rw [openAfter?] at read
          split at read
          · rename_i quote
            simpa [openAfter?, quote] using ih read
          · rename_i noQuote
            split at read
            · rename_i bare
              simpa [openAfter?, noQuote, bare] using ih read
            · cases read

/-- A field ends at the end of the text, or outside of quotes where a character ends it. -/
theorem openAfter?_continued (opened : Option Char) (text : List Char) :
    ∃ after, openAfter? opened (continued opened text).1 = some after ∧
      ((continued opened text).2 = [] ∨ after = none ∧ EndsField (continued opened text).2) := by
  induction text generalizing opened with
  | nil => exact ⟨opened, by simp [continued, openAfter?], .inl rfl⟩
  | cons c text ih =>
      cases opened with
      | some quote => exact ih (if c = quote then none else some quote)
      | none =>
          cases quote : isQuote c with
          | true => simpa [continued, openAfter?, quote] using ih (some c)
          | false =>
              cases bare : isBare c with
              | true => simpa [continued, openAfter?, quote, bare] using ih none
              | false =>
                  exact ⟨none, by simp [continued, openAfter?, quote, bare],
                    .inr (by simp [continued, quote, bare, EndsField])⟩

/-! ## Pieces -/

/-- A piece of a query: a field, or a character between fields. -/
inductive Piece where
  | gap (c : Char)
  | field (text : List Char)
deriving DecidableEq, Repr

namespace Piece

def text : Piece → List Char
  | gap c => [c]
  | field text => text

def joined (pieces : List Piece) : List Char :=
  pieces.flatMap text

/-- The fields among pieces, the first of which stands at a position. -/
def fieldsFrom (position : Nat) : List Piece → List Field
  | [] => []
  | gap _ :: pieces => fieldsFrom (position + 1) pieces
  | field text :: pieces => ⟨position, text⟩ :: fieldsFrom (position + text.length) pieces

/-- Whether a field that has no open quote ends before the pieces. -/
def Apart : List Piece → Prop
  | field text :: _ => text = [',']
  | _ => True

/-- Pieces that keep fields apart: a comma is a field of its own, and any other field is followed by
a character between fields, by a comma or by nothing. A quote that is not closed needs nothing to
follow. -/
inductive Cut : List Piece → Prop where
  | nil : Cut []
  | gap {c : Char} {pieces : List Piece} (separates : isSeparator c = true) (rest : Cut pieces) :
      Cut (.gap c :: pieces)
  | comma {pieces : List Piece} (rest : Cut pieces) : Cut (.field [','] :: pieces)
  | field {text : List Char} {after : Option Char} {pieces : List Piece} (nonempty : text ≠ [])
      (read : openAfter? none text = some after)
      (apart : pieces = [] ∨ after = none ∧ Apart pieces) (rest : Cut pieces) :
      Cut (.field text :: pieces)

@[simp]
theorem joined_nil : joined [] = [] := rfl

@[simp]
theorem joined_gap (c : Char) (pieces : List Piece) :
    joined (gap c :: pieces) = c :: joined pieces :=
  rfl

@[simp]
theorem joined_field (text : List Char) (pieces : List Piece) :
    joined (field text :: pieces) = text ++ joined pieces := rfl

private theorem isQuote_of_isSeparator {c : Char} (separates : isSeparator c = true) :
    isQuote c = false := by
  cases quote : isQuote c with
  | false => rfl
  | true =>
      simp only [isQuote, Bool.or_eq_true, beq_iff_eq] at quote
      rcases quote with (rfl | rfl) | rfl <;> exact absurd separates (by decide)

private theorem isBare_of_isSeparator {c : Char} (separates : isSeparator c = true) :
    isBare c = false := by
  rw [isBare, separates]
  rfl

private theorem Apart.endsField {pieces : List Piece} (apart : Apart pieces) (cut : Cut pieces) :
    EndsField (joined pieces) := by
  cases cut with
  | nil => trivial
  | gap separates _ => exact ⟨isQuote_of_isSeparator separates, isBare_of_isSeparator separates⟩
  | comma _ => exact ⟨by decide, by decide⟩
  | field nonempty read _ _ =>
      have comma : _ = [','] := apart
      rw [comma]
      exact ⟨by decide, by decide⟩

/-- The first character of a field is neither a comma nor a separator. -/
theorem starts_of_openAfter {c : Char} {text : List Char} {after : Option Char}
    (read : openAfter? none (c :: text) = some after) : c ≠ ',' ∧ isSeparator c = false := by
  constructor
  · rintro rfl
    exact absurd read (by simp [openAfter?, isQuote, isBare])
  · cases separates : isSeparator c with
    | false => rfl
    | true =>
        have refused := isBare_of_isSeparator separates
        simp [openAfter?, isQuote_of_isSeparator separates, refused] at read

/-- Pieces that keep fields apart are found again in their text. -/
theorem fieldsFrom_joined {pieces : List Piece} (cut : Cut pieces) (position : Nat) :
    Query.fieldsFrom position (joined pieces) = fieldsFrom position pieces := by
  induction cut generalizing position with
  | nil => simp [Query.fieldsFrom, fieldsFrom]
  | @gap c pieces separates _ ih =>
      have other : c ≠ ',' := by
        rintro rfl
        exact absurd separates (by decide)
      rw [joined_gap, Query.fieldsFrom]
      simp [other, separates, ih, fieldsFrom]
  | comma _ ih =>
      rw [joined_field, List.singleton_append, Query.fieldsFrom]
      simp [ih, fieldsFrom]
  | @field text after pieces nonempty read apart rest ih =>
      obtain ⟨c, tail, rfl⟩ := List.exists_cons_of_ne_nil nonempty
      obtain ⟨other, stays⟩ := starts_of_openAfter read
      have found : Query.field (c :: tail ++ joined pieces) = (c :: tail, joined pieces) := by
        rw [field_eq_continued, continued_append read]
        rcases apart with rfl | ⟨rfl, apart⟩
        · simp [continued]
        · rw [continued_of_endsField (apart.endsField rest), List.append_nil]
      rw [joined_field, List.cons_append, Query.fieldsFrom]
      rw [List.cons_append] at found
      simp [other, stays, found, ih, fieldsFrom]

/-- Every query can be cut into pieces. -/
theorem exists_cut (sql : List Char) : ∃ pieces, Cut pieces ∧ joined pieces = sql := by
  induction size : sql.length using Nat.strongRecOn generalizing sql with
  | ind size ih =>
    cases sql with
    | nil => exact ⟨[], .nil, rfl⟩
    | cons c rest =>
        subst size
        by_cases comma : c = ','
        · obtain ⟨pieces, cut, rfl⟩ := ih rest.length (by simp) rest rfl
          exact ⟨.field [','] :: pieces, .comma cut, by simp [comma]⟩
        cases separates : isSeparator c with
        | true =>
            obtain ⟨pieces, cut, rfl⟩ := ih rest.length (by simp) rest rfl
            exact ⟨.gap c :: pieces, .gap separates cut, rfl⟩
        | false =>
            -- The character starts a field, which leaves a shorter text.
            have whole := field_append (c :: rest)
            rw [field_eq_continued] at whole
            obtain ⟨after, read, ends⟩ := openAfter?_continued none (c :: rest)
            have nonempty : (continued none (c :: rest)).1 ≠ [] := by
              cases quote : isQuote c <;> simp [continued, quote, isBare, separates, comma]
            obtain ⟨pieces, cut, same⟩ := ih (continued none (c :: rest)).2.length
              (by
                have sum := congrArg List.length whole
                have positive := List.length_pos_iff.mpr nonempty
                rw [List.length_append] at sum
                omega) _ rfl
            refine ⟨.field (continued none (c :: rest)).1 :: pieces, .field nonempty read ?_ cut,
              by rw [joined_field, same, whole]⟩
            rw [← same] at ends
            rcases ends with none | ⟨closed, ends⟩
            · left
              cases cut with
              | nil => rfl
              | field filled _ _ _ => simp [filled] at none
              | _ => simp at none
            · refine .inr ⟨closed, ?_⟩
              cases cut with
              | nil => trivial
              | gap _ _ => trivial
              | comma _ => exact rfl
              | @field text _ _ filled start _ _ =>
                  obtain ⟨first, tail, rfl⟩ := List.exists_cons_of_ne_nil filled
                  obtain ⟨quote, bare⟩ := ends
                  simp [openAfter?, quote, bare] at start

/-! ## Positions -/

variable {pieces : List Piece}

theorem Cut.nonempty (cut : Cut pieces) : ∀ text, .field text ∈ pieces → text ≠ [] := by
  induction cut with
  | nil =>
      intro text member
      cases member
  | gap _ _ ih =>
      intro text member
      rcases List.mem_cons.mp member with here | later
      · cases here
      · exact ih text later
  | comma _ ih =>
      intro text member
      rcases List.mem_cons.mp member with here | later
      · cases here
        simp
      · exact ih text later
  | field nonempty _ _ _ ih =>
      intro text member
      rcases List.mem_cons.mp member with here | later
      · cases here
        exact nonempty
      · exact ih text later

theorem le_start_of_mem_fieldsFrom {position : Nat} {found : Field}
    (member : found ∈ fieldsFrom position pieces) : position ≤ found.start := by
  induction pieces generalizing position with
  | nil => cases member
  | cons piece pieces ih =>
      cases piece with
      | gap c => exact Nat.le_of_succ_le (ih member)
      | field text =>
          rcases List.mem_cons.mp member with rfl | later
          · exact Nat.le_refl position
          · exact Nat.le_trans (Nat.le_add_right position text.length) (ih later)

end Piece

end Tabular.Query
