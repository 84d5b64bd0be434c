import Tabular.Proofs.Query.Renaming

/-!
# Selections from one table

A query that selects columns from one table has that table as its only reference, whatever words the
columns are and whatever clause follows, if the table is one field with nothing but its name and no
quote that is open behind it.
-/

set_option autoImplicit false

namespace Tabular.Query

/-- A text that may stand as a word outside of table lists: no character ends it, no quote is open
behind it, and it starts no table list. -/
structure Word (text : List Char) : Prop where
  closed : openAfter? none text = some none
  noStart : startsList text = false

/-- Words as the columns of a query. -/
def Words (columns : List String) : Prop :=
  ∀ column ∈ columns, Word column.toList

/-- A text that may stand in a table list: it is one field that holds a reference and no more. -/
structure TableWord (text : List Char) : Prop where
  closed : openAfter? none text = some none
  named : reference? text = some text

theorem Enclosed.word {name : List Char} (enclosed : Enclosed name) : Word name := by
  have neutral := enclosed.neutral []
  rw [List.append_nil] at neutral
  exact ⟨enclosed.read, neutral.noStart⟩

namespace Piece

variable {pieces rest : List Piece} {text : List Char} {columns : List String}

/-! ## Pieces of a selection -/

def ofWord (text : List Char) : List Piece :=
  if text = [] then [] else [.field text]

def ofColumns : List String → List Piece
  | [] => []
  | [column] => ofWord column.toList
  | column :: next :: others =>
    ofWord column.toList ++ .field [','] :: .gap ' ' :: ofColumns (next :: others)

/-- What is in front of the table. -/
def select (columns : List String) : List Piece :=
  .field "SELECT".toList :: .gap ' ' ::
    (ofColumns columns ++ [.gap ' ', .field "FROM".toList, .gap ' '])

def keepsOut : Piece → Bool
  | gap _ => true
  | field text => !startsList text

/-- No word among pieces starts a table list. -/
def Outside (pieces : List Piece) : Prop :=
  pieces.all keepsOut = true

/-- What may follow the table: nothing, or a word that ends the table list and what belongs to it. -/
inductive Clause : List Piece → Prop where
  | none : Clause []
  | word {text : List Char} {pieces : List Piece} (ends : endsList text = true)
      (outside : Outside pieces) (cut : Cut (.gap ' ' :: .field text :: pieces)) :
      Clause (.gap ' ' :: .field text :: pieces)

theorem joined_append (pieces more : List Piece) :
    joined (pieces ++ more) = joined pieces ++ joined more :=
  List.flatMap_append

theorem joined_ofWord (text : List Char) : joined (ofWord text) = text := by
  by_cases empty : text = []
  · rw [ofWord, if_pos empty, empty]
    rfl
  · rw [ofWord, if_neg empty]
    exact List.append_nil text

theorem joined_ofColumns (columns : List String) :
    joined (ofColumns columns) = (", ".intercalate columns).toList := by
  fun_induction ofColumns columns with
  | case1 => rfl
  | case2 column => rw [joined_ofWord, String.intercalate_singleton]
  | case3 column next others ih =>
      rw [joined_append, joined_ofWord, joined_field, joined_gap, ih, String.intercalate_cons_cons,
        String.toList_append, String.toList_append, List.append_assoc]
      rfl

theorem cut_field (filled : text ≠ []) (closed : openAfter? none text = some none)
    (apart : Apart rest) (cut : Cut rest) : Cut (.field text :: rest) :=
  .field filled closed (.inr ⟨rfl, apart⟩) cut

theorem cut_spaced (filled : text ≠ []) (closed : openAfter? none text = some none)
    (cut : Cut rest) : Cut (.field text :: .gap ' ' :: rest) :=
  cut_field filled closed trivial (.gap (by decide) cut)

theorem cut_ofWord (word : Word text) (apart : Apart rest) (cut : Cut rest) :
    Cut (ofWord text ++ rest) := by
  by_cases empty : text = []
  · rw [ofWord, if_pos empty]
    exact cut
  · rw [ofWord, if_neg empty]
    exact cut_field empty word.closed apart cut

private theorem cut_ofColumns (words : Words columns) (apart : Apart rest) (cut : Cut rest) :
    Cut (ofColumns columns ++ rest) := by
  fun_induction ofColumns columns with
  | case1 => exact cut
  | case2 column => exact cut_ofWord (words column List.mem_cons_self) apart cut
  | case3 column next others ih =>
      have later := ih fun column member => words column (List.mem_cons_of_mem _ member)
      rw [List.append_assoc]
      exact cut_ofWord (words column List.mem_cons_self) rfl (.comma (.gap (by decide) later))

private theorem cut_select (words : Words columns) (cut : Cut rest) :
    Cut (select columns ++ rest) := by
  have listed : Cut (.gap ' ' :: .field "FROM".toList :: .gap ' ' :: rest) :=
    .gap (by decide) (cut_spaced (by decide) (by decide +kernel) cut)
  rw [select, List.cons_append, List.cons_append, List.append_assoc]
  exact cut_spaced (by decide) (by decide +kernel) (cut_ofColumns words trivial listed)

theorem outside_nil : Outside [] := rfl

theorem outside_gap (c : Char) (later : Outside pieces) : Outside (.gap c :: pieces) := later

theorem outside_field (noStart : startsList text = false) (later : Outside pieces) :
    Outside (.field text :: pieces) := by
  rw [Outside, List.all_cons, keepsOut, noStart]
  exact later

theorem outside_ofWord (word : Word text) : Outside (ofWord text) := by
  rw [ofWord]
  split
  · exact outside_nil
  · exact outside_field word.noStart outside_nil

theorem outside_append (front : Outside pieces) (back : Outside rest) : Outside (pieces ++ rest) := by
  rw [Outside, List.all_append, front, back]
  rfl

private theorem outside_ofColumns (words : Words columns) :
    Outside (ofColumns columns) := by
  fun_induction ofColumns columns with
  | case1 => rfl
  | case2 column => exact outside_ofWord (words column List.mem_cons_self)
  | case3 column next others ih =>
      have later := ih fun column member => words column (List.mem_cons_of_mem _ member)
      exact outside_append (outside_ofWord (words column List.mem_cons_self)) later

/-! ## References of a selection -/

private theorem spansFrom_outside (outside : Outside pieces) (position : Nat) (rest : List Piece) :
    spansFrom false false position (pieces ++ rest) =
      spansFrom false false (position + (joined pieces).length) rest := by
  induction pieces generalizing position with
  | nil => rfl
  | cons piece pieces ih =>
      rw [Outside, List.all_cons, Bool.and_eq_true_iff] at outside
      cases piece with
      | gap c =>
          rw [List.cons_append, spansFrom, ih outside.2, joined_gap, List.length_cons]
          congr 1
          omega
      | field text =>
          have noStart : startsList text = false := Bool.not_eq_eq_eq_not.mp outside.1
          have still : inListAfter false text = false := by
            rw [inListAfter, noStart]
            exact ite_self false
          rw [List.cons_append, spansFrom, still, Bool.false_and, ih outside.2, joined_field,
            List.length_append, Nat.add_assoc]
          rfl

private theorem endsList_not_startsList {word : List Char} (ends : endsList word = true) :
    startsList word = false := by
  have apart : ∀ other ∈ listEnds, other ∉ listStarts := by decide
  refine Bool.eq_false_iff.mpr fun starts => ?_
  exact apart _ (List.contains_iff_mem.mp ends) (List.contains_iff_mem.mp starts)

private theorem reference?_of_endsList {word : List Char} (ends : endsList word = true) :
    reference? word = none := by
  have bare : Span.unclosed word = word := by
    rcases unclosed_cases word with same | closed
    · exact same.symm
    · rw [closed, endsList_append_paren] at ends
      cases ends
  simp [reference?, Span.of?, bare, ends]

private theorem spansFrom_clause (clause : Clause pieces) (expected : Bool) (position : Nat) :
    spansFrom true expected position pieces = [] := by
  cases clause with
  | none => rfl
  | @word text pieces ends outside cut =>
      have noStart := endsList_not_startsList ends
      have nothing : Span.of? ⟨position + 1, text⟩ = Option.none := by
        rw [of?_eq, reference?_of_endsList ends]
        rfl
      have after : inListAfter true text = false := by
        rw [inListAfter, noStart, ends]
        rfl
      have rest := spansFrom_outside outside (position + 1 + text.length) []
      rw [List.append_nil] at rest
      rw [spansFrom, spansFrom, nothing, ite_self, after, Bool.false_and, rest]
      rfl

/-- The references of a selection are those in the text behind `FROM`. -/
theorem tableSpans_select (words : Words columns) (cut : Cut rest) :
    tableSpans (joined (select columns ++ rest)) =
      spansFrom true true (joined (select columns)).length rest := by
  have front : Outside (.field "SELECT".toList :: .gap ' ' ::
      (ofColumns columns ++ [.gap ' '])) := by
    have inner : Outside (ofColumns columns ++ [.gap ' ']) :=
      outside_append (outside_ofColumns words) (outside_gap ' ' outside_nil)
    exact outside_field (by decide +kernel) (outside_gap ' ' inner)
  have listed : inListAfter false "FROM".toList = true := by decide +kernel
  have precedes : precedesTable "FROM".toList = true := by decide +kernel
  have parts : select columns = (.field "SELECT".toList :: .gap ' ' ::
      (ofColumns columns ++ [.gap ' '])) ++ [.field "FROM".toList, .gap ' '] := by
    rw [select, List.cons_append, List.cons_append, List.append_assoc]
    rfl
  rw [tableSpans_joined (cut_select words cut), parts, List.append_assoc, spansFrom_outside front,
    joined_append, List.length_append, List.cons_append, List.singleton_append, spansFrom, spansFrom,
    listed, precedes]
  have width : (joined [.field "FROM".toList, .gap ' ']).length = "FROM".toList.length + 1 := rfl
  have place : 0 + (joined (.field "SELECT".toList :: .gap ' ' ::
      (ofColumns columns ++ [.gap ' ']))).length + "FROM".toList.length + 1 =
      (joined (.field "SELECT".toList :: .gap ' ' :: (ofColumns columns ++ [.gap ' ']))).length +
        (joined [.field "FROM".toList, .gap ' ']).length := by
    rw [width]
    omega
  rw [place]
  rfl

private theorem Clause.cut (clause : Clause pieces) : Cut pieces := by
  cases clause with
  | none => exact .nil
  | word _ _ cut => exact cut

private theorem Clause.apart (clause : Clause pieces) : Apart pieces := by
  cases clause with
  | none => trivial
  | word _ _ _ => trivial

/-- The table of a selection is its one reference. -/
theorem tableSpans_of_tableWord (words : Words columns)
    (table : TableWord text) (clause : Clause rest) :
    tableSpans (joined (select columns ++ .field text :: rest)) =
      [⟨text, (joined (select columns)).length⟩] := by
  have reference := isReference_of_reference? table.named
  rw [tableSpans_select words (cut_field reference.nonempty table.closed clause.apart clause.cut),
    spansFrom, if_pos rfl, of?_eq, table.named, reference.inListAfter, spansFrom_clause clause]
  rfl

/-! ## The table of a selection with one reference -/

theorem exists_field_of_mem_spansFrom {inList expected : Bool} {position : Nat} {span : Span}
    (member : span ∈ spansFrom inList expected position pieces) :
    ∃ text, .field text ∈ pieces ∧ reference? text = some span.name := by
  induction pieces generalizing inList expected position with
  | nil => cases member
  | cons piece pieces ih =>
      cases piece with
      | gap c =>
          obtain ⟨text, inside, found⟩ := ih member
          exact ⟨text, List.mem_cons_of_mem _ inside, found⟩
      | field text =>
          rcases List.mem_append.mp member with here | later
          · exact ⟨text, List.mem_cons_self, (mem_here_iff.mp here).2.1⟩
          · obtain ⟨other, inside, found⟩ := ih later
            exact ⟨other, List.mem_cons_of_mem _ inside, found⟩

theorem eq_nil_of_joined (nonempty : ∀ text, .field text ∈ pieces → text ≠ [])
    (empty : joined pieces = []) : pieces = [] := by
  cases pieces with
  | nil => rfl
  | cons piece pieces =>
      cases piece with
      | gap c => cases empty
      | field text =>
          have none_left := (List.append_eq_nil_iff.mp empty).1
          exact absurd none_left (nonempty text List.mem_cons_self)

/-- A text that holds a reference to itself is one field. -/
theorem eq_field_of_mem_spansFrom {inList expected : Bool} {position : Nat} {span : Span}
    (cut : Cut pieces) (member : span ∈ spansFrom inList expected position pieces)
    (whole : joined pieces = span.name) : pieces = [.field span.name] := by
  obtain ⟨other, inside, found⟩ := exists_field_of_mem_spansFrom member
  obtain ⟨before, after, rfl⟩ := List.append_of_mem inside
  rw [joined_append, joined_field] at whole
  have size := congrArg List.length whole
  have wide : span.name.length ≤ other.length := by
    rcases (isReference_of_reference? found).within with same | same
    · exact Nat.le_of_eq (congrArg List.length same.symm)
    · rw [same, List.length_append]
      exact Nat.le_add_right _ _
  rw [List.length_append, List.length_append] at size
  have emptyBefore : before = [] := by
    refine eq_nil_of_joined (fun text member => cut.nonempty text (List.mem_append_left _ member)) ?_
    exact List.length_eq_zero_iff.mp (by omega)
  have emptyAfter : after = [] := by
    refine eq_nil_of_joined (fun text member => cut.nonempty text ?_) ?_
    · exact List.mem_append_right _ (List.mem_cons_of_mem _ member)
    · exact List.length_eq_zero_iff.mp (by omega)
  subst emptyBefore emptyAfter
  rw [joined_nil, List.nil_append, List.append_nil] at whole
  rw [whole]
  rfl

/-- A field that reaches over a blank holds a reference that reaches over it as well. -/
theorem reference?_of_blank (before after : List Char) :
    ∃ name, reference? (before ++ ' ' :: after) = some name ∧ name ≠ before := by
  have words : ∀ word ∈ [','] :: listEnds, ' ' ∉ word := by decide
  have within : ' ' ∈ Span.unclosed (before ++ ' ' :: after) := by
    have member : ' ' ∈ before ++ ' ' :: after := List.mem_append_right _ List.mem_cons_self
    rcases unclosed_cases (before ++ ' ' :: after) with same | closed
    · exact same ▸ member
    · rw [closed] at member
      rcases List.mem_append.mp member with inside | last
      · exact inside
      · exact absurd last (by decide)
  have nonempty : Span.unclosed (before ++ ' ' :: after) ≠ [] := List.ne_nil_of_mem within
  have noComma : Span.unclosed (before ++ ' ' :: after) ≠ [','] := by
    intro same
    exact words _ List.mem_cons_self (same ▸ within)
  have noEnd : endsList (Span.unclosed (before ++ ' ' :: after)) = false := by
    refine Bool.eq_false_iff.mpr fun ends => ?_
    refine words _ (List.mem_cons_of_mem _ (List.contains_iff_mem.mp ends)) ?_
    exact List.mem_map.mpr ⟨' ', within, by decide⟩
  refine ⟨Span.unclosed (before ++ ' ' :: after), ?_, ?_⟩
  · simp [reference?, Span.of?, nonempty, noComma, noEnd]
  · intro same
    rcases unclosed_cases (before ++ ' ' :: after) with whole | whole
    · simp [same] at whole
    · simp [same] at whole

/-- A quote that is open behind a text takes the blank that follows it into the field. -/
theorem exists_span_of_open {quote : Char} (nonempty : text ≠ [])
    (opened : openAfter? none text = some (some quote)) (more : List Char) (position : Nat)
    (cut : Cut pieces) (whole : joined pieces = text ++ ' ' :: more) :
    ∃ span ∈ spansFrom true true position pieces, span.name ≠ text := by
  obtain ⟨c, tail, rfl⟩ := List.exists_cons_of_ne_nil nonempty
  obtain ⟨other, stays⟩ := starts_of_openAfter opened
  have read : ∃ rest, (Query.field (joined pieces)).1 = c :: tail ++ ' ' :: rest := by
    rw [whole, field_eq_continued, continued_append opened, continued]
    exact ⟨_, rfl⟩
  obtain ⟨rest, read⟩ := read
  have first : ∃ fields,
      fieldsFrom position pieces = ⟨position, c :: tail ++ ' ' :: rest⟩ :: fields := by
    rw [← fieldsFrom_joined cut, ← read, whole, List.cons_append, Query.fieldsFrom]
    rw [whole, List.cons_append] at read
    simp [other, stays, read]
  obtain ⟨fields, first⟩ := first
  obtain ⟨name, found, differs⟩ := reference?_of_blank (c :: tail) rest
  refine ⟨⟨name, position⟩, ?_, differs⟩
  rw [← spansFrom_fieldsFrom, first, if_pos rfl, List.head?_cons, Option.bind_some, of?_eq, found]
  exact List.mem_append_left _ List.mem_cons_self

/-- A text that is the one reference of a selection, alone and with a clause behind it, is a table
word. -/
theorem tableWord_of_tableSpans {others : List String} {table : List Char}
    (words : Words columns) (otherWords : Words others)
    (alone : ∀ name, name = table ↔
      name ∈ (tableSpans (joined (select columns ++ [.field table]))).map Span.name)
    (followed : ∀ name, name = table ↔
      name ∈ (tableSpans (joined (select others ++ .field table :: .gap ' ' :: rest))).map Span.name) :
    TableWord table := by
  obtain ⟨pieces, cut, whole⟩ := exists_cut table
  obtain ⟨later, laterCut, laterWhole⟩ := exists_cut (table ++ ' ' :: joined rest)
  rw [joined_append, joined_field, joined_nil, List.append_nil, ← whole, ← joined_append,
    tableSpans_select words cut] at alone
  rw [joined_append, joined_field, joined_gap, ← laterWhole, ← joined_append,
    tableSpans_select otherWords laterCut] at followed
  obtain ⟨span, member, named⟩ := List.mem_map.mp ((alone _).mp rfl)
  have single := eq_field_of_mem_spansFrom cut member named.symm
  rw [named, whole] at single
  subst single
  obtain ⟨found, inside, holds⟩ := exists_field_of_mem_spansFrom member
  obtain rfl : found = table := by
    rcases List.mem_cons.mp inside with here | later
    · exact Piece.field.inj here
    · cases later
  rw [named, whole] at holds
  have reference := isReference_of_reference? holds
  cases cut with
  | comma _ => exact absurd rfl reference.noComma
  | @field _ after _ nonempty read apart _ =>
      cases after with
      | none => exact ⟨read, holds⟩
      | some quote =>
          obtain ⟨other, member, differs⟩ := exists_span_of_open nonempty read (joined rest)
            (joined (select others)).length laterCut laterWhole
          exact absurd ((followed _).mpr (List.mem_map_of_mem member)) differs

end Piece

end Tabular.Query
