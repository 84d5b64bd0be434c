import Tabular.Proofs.Query.Piece
import Tabular.Proofs.Text.Utf8
import Tabular.Query.Table

/-!
# One pass over a query

Fields are found by trying runs one after the other. An automaton that looks at each character once,
and knows only which quote is open, finds the same fields. They lie in the query in order and apart
from each other, and what lies between them are commas of their own and separators.
-/

set_option autoImplicit false

namespace Tabular.Query

/-- What the automaton knows after a part of a query: the quote that is open, the characters of the
field it is in, and the fields before. -/
structure Automaton where
  active : Option Char := none
  current : List Char := []
  found : List (List Char) := []

namespace Automaton

/-- The fields when the current one ends. Where no character has been read there is none. -/
def ended (state : Automaton) : List (List Char) :=
  if state.current = [] then state.found else state.found ++ [state.current]

def step (state : Automaton) (c : Char) : Automaton :=
  match state.active with
  | some quote =>
    { state with active := if c = quote then none else some quote, current := state.current ++ [c] }
  | none =>
    if isSeparator c then { found := state.ended }
    else if c = ',' then { found := state.ended ++ [[',']] }
    else if isQuote c then { state with active := some c, current := state.current ++ [c] }
    else { state with current := state.current ++ [c] }

def fields (sql : List Char) : List (List Char) :=
  (sql.foldl step {}).ended

/-! ## The automaton over pieces -/

theorem ended_of_empty (active : Option Char) (found : List (List Char)) :
    (Automaton.mk active [] found).ended = found := rfl

theorem ended_of_ne_nil {current : List Char} (filled : current ≠ []) (active : Option Char)
    (found : List (List Char)) :
    (Automaton.mk active current found).ended = found ++ [current] :=
  if_neg filled

theorem step_separator {c : Char} (separates : isSeparator c = true) (current : List Char)
    (found : List (List Char)) :
    step ⟨none, current, found⟩ c = ⟨none, [], (Automaton.mk none current found).ended⟩ := by
  simp [step, separates]

theorem step_comma (current : List Char) (found : List (List Char)) :
    step ⟨none, current, found⟩ ',' =
      ⟨none, [], (Automaton.mk none current found).ended ++ [[',']]⟩ := by
  have bound : isSeparator ',' = false := by decide
  simp [step, bound]

/-- The characters that continue a field are added to it, and leave the same quote open. -/
theorem foldl_step_of_openAfter {opened after : Option Char} {text : List Char}
    (read : openAfter? opened text = some after) (current : List Char) (found : List (List Char)) :
    text.foldl step ⟨opened, current, found⟩ = ⟨after, current ++ text, found⟩ := by
  induction text generalizing opened current with
  | nil =>
      cases read
      rw [List.append_nil]
      rfl
  | cons c text ih =>
      rw [List.foldl_cons, List.append_cons current c text]
      cases opened with
      | some quote => exact ih read _
      | none =>
          have starts := Piece.starts_of_openAfter read
          rw [openAfter?] at read
          cases quote : isQuote c with
          | true =>
              rw [quote, if_pos rfl] at read
              have next : step ⟨none, current, found⟩ c = ⟨some c, current ++ [c], found⟩ := by
                simp [step, starts.1, starts.2, quote]
              rw [next, ih read]
          | false =>
              have next : step ⟨none, current, found⟩ c = ⟨none, current ++ [c], found⟩ := by
                simp [step, starts.1, starts.2, quote]
              cases bare : isBare c with
              | true =>
                  rw [quote, bare] at read
                  rw [next, ih read]
              | false =>
                  rw [quote, bare] at read
                  cases read

/-- A field that is being read ends before the pieces, unless there is none or nothing follows. -/
theorem ended_foldl_joined {pieces : List Piece} (cut : Piece.Cut pieces) {active : Option Char}
    {current : List Char} (ready : pieces = [] ∨ active = none ∧ (current = [] ∨ Piece.Apart pieces))
    (found : List (List Char)) (position : Nat) :
    ((Piece.joined pieces).foldl step ⟨active, current, found⟩).ended =
      (Automaton.mk active current found).ended ++
        (Piece.fieldsFrom position pieces).map Field.text := by
  induction cut generalizing active current found position with
  | nil => simp [Piece.fieldsFrom]
  | @gap c pieces separates rest ih =>
      obtain ⟨rfl, -⟩ := ready.resolve_left (List.cons_ne_nil _ _)
      rw [Piece.joined_gap, List.foldl_cons, step_separator separates,
        ih (.inr ⟨rfl, .inl rfl⟩) _ (position + 1), ended_of_empty]
      rfl
  | @comma pieces rest ih =>
      obtain ⟨rfl, -⟩ := ready.resolve_left (List.cons_ne_nil _ _)
      rw [Piece.joined_field, List.singleton_append, List.foldl_cons, step_comma,
        ih (.inr ⟨rfl, .inl rfl⟩) _ (position + 1), ended_of_empty, List.append_assoc]
      rfl
  | @field text after pieces nonempty read apart rest ih =>
      obtain ⟨rfl, empty | comma⟩ := ready.resolve_left (List.cons_ne_nil _ _)
      · subst empty
        have behind : pieces = [] ∨ after = none ∧ (text = [] ∨ Piece.Apart pieces) :=
          apart.imp id fun closed => ⟨closed.1, .inr closed.2⟩
        rw [Piece.joined_field, List.foldl_append, foldl_step_of_openAfter read, List.nil_append,
          ih behind found (position + text.length), ended_of_ne_nil nonempty, ended_of_empty,
          List.append_assoc]
        rfl
      · -- A field that a quote or a bare character starts is no comma.
        have same : text = [','] := comma
        rw [same] at read
        exact absurd rfl (Piece.starts_of_openAfter read).1

end Automaton

/-! ## Where fields lie -/

namespace Piece

variable {pieces : List Piece}

theorem exists_split_of_mem_fieldsFrom {position : Nat} {found : Field}
    (member : found ∈ fieldsFrom position pieces) :
    ∃ before after, joined pieces = before ++ found.text ++ after ∧
      found.start = position + before.length := by
  induction pieces generalizing position with
  | nil => cases member
  | cons piece pieces ih =>
      cases piece with
      | gap c =>
          obtain ⟨before, after, whole, start⟩ := ih member
          refine ⟨c :: before, after, by rw [joined_gap, whole]; rfl, ?_⟩
          rw [start, List.length_cons]
          omega
      | field text =>
          rcases List.mem_cons.mp member with rfl | later
          · exact ⟨[], joined pieces, rfl, rfl⟩
          · obtain ⟨before, after, whole, start⟩ := ih later
            refine ⟨text ++ before, after, ?_, ?_⟩
            · rw [joined_field, whole]
              simp only [List.append_assoc]
            · rw [start, List.length_append, Nat.add_assoc]

theorem mem_of_mem_fieldsFrom {position : Nat} {found : Field}
    (member : found ∈ fieldsFrom position pieces) : .field found.text ∈ pieces := by
  induction pieces generalizing position with
  | nil => cases member
  | cons piece pieces ih =>
      cases piece with
      | gap c => exact List.mem_cons_of_mem _ (ih member)
      | field text =>
          rcases List.mem_cons.mp member with rfl | later
          · exact List.mem_cons_self
          · exact List.mem_cons_of_mem _ (ih later)

private theorem pairwise_fieldsFrom (position : Nat) :
    (fieldsFrom position pieces).Pairwise fun first second =>
      first.start + first.text.length ≤ second.start := by
  induction pieces generalizing position with
  | nil => exact .nil
  | cons piece pieces ih =>
      cases piece with
      | gap c => exact ih (position + 1)
      | field text =>
          refine List.pairwise_cons.mpr ⟨?_, ih (position + text.length)⟩
          intro later member
          exact le_start_of_mem_fieldsFrom member

private theorem Cut.separates (cut : Cut pieces) : ∀ c, .gap c ∈ pieces → isSeparator c = true := by
  induction cut with
  | nil =>
      intro c member
      cases member
  | gap separates _ ih =>
      intro c member
      rcases List.mem_cons.mp member with here | later
      · cases here
        exact separates
      · exact ih c later
  | comma _ ih =>
      intro c member
      rcases List.mem_cons.mp member with here | later
      · cases here
      · exact ih c later
  | field _ _ _ _ ih =>
      intro c member
      rcases List.mem_cons.mp member with here | later
      · cases here
      · exact ih c later

private theorem separates_or_exists_field (separates : ∀ c, .gap c ∈ pieces → isSeparator c = true)
    {index : Nat} {c : Char} (here : (joined pieces)[index]? = some c) (position : Nat) :
    isSeparator c = true ∨ ∃ found ∈ fieldsFrom position pieces,
      found.start ≤ position + index ∧ position + index < found.start + found.text.length := by
  induction pieces generalizing index position with
  | nil => cases here
  | cons piece pieces ih =>
      have rest := fun c member => separates c (List.mem_cons_of_mem _ member)
      cases piece with
      | gap d =>
          cases index with
          | zero =>
              cases here
              exact .inl (separates c List.mem_cons_self)
          | succ index =>
              rw [← Nat.add_assoc, Nat.add_right_comm]
              exact ih rest here (position + 1)
      | field text =>
          rcases Nat.lt_or_ge index text.length with inside | behind
          · exact .inr ⟨⟨position, text⟩, List.mem_cons_self, Nat.le_add_right _ _,
              Nat.add_lt_add_left inside position⟩
          · rw [joined_field, List.getElem?_append_right behind] at here
            have same : position + text.length + (index - text.length) = position + index := by omega
            rcases ih rest here (position + text.length) with separator | ⟨found, member, within⟩
            · exact .inl separator
            · exact .inr ⟨found, List.mem_cons_of_mem _ member, same ▸ within⟩

end Piece

/-! ## Positions in bytes -/

/-- The position in bytes of the character at a position. -/
def bytesBefore (sql : List Char) (position : Nat) : Nat :=
  (Utf8.encode (sql.take position)).length

theorem bytesBefore_mono (sql : List Char) {first second : Nat} (ordered : first ≤ second) :
    bytesBefore sql first ≤ bytesBefore sql second := by
  have front : sql.take first = (sql.take second).take first := by
    rw [List.take_take, Nat.min_eq_left ordered]
  have whole := congrArg (fun text => (Utf8.encode text).length)
    (List.take_append_drop first (sql.take second))
  simp only [Utf8.encode_append, List.length_append] at whole
  rw [bytesBefore, bytesBefore, front]
  omega

private theorem foldl_utf8Size (text : List Char) (size : Nat) :
    text.foldl (fun size c => size + c.utf8Size) size = size + (Utf8.encode text).length := by
  induction text generalizing size with
  | nil => rfl
  | cons c text ih =>
      rw [List.foldl_cons, ih, Utf8.encode, Utf8.encode, List.flatMap_cons, List.length_append,
        Utf8.encodeChar, String.length_utf8EncodeChar, Nat.add_assoc]

/-- The bytes of a span are those of the text that it stands at. -/
theorem Span.bytes_of_split (span : Span) {sql before after : List Char}
    (whole : sql = before ++ span.name ++ after) (start : span.start = before.length) :
    span.byteRange sql = (bytesBefore sql span.start, bytesBefore sql span.stop) ∧
      ((Utf8.encode sql).take (span.byteRange sql).2).drop (span.byteRange sql).1 =
        Utf8.encode span.name := by
  have front : sql.take span.start = before := by
    rw [whole, start, List.append_assoc, List.take_left]
  have both : sql.take span.stop = before ++ span.name := by
    rw [whole, stop, start, ← List.length_append, List.take_left]
  have range : span.byteRange sql = (bytesBefore sql span.start, bytesBefore sql span.stop) := by
    simp only [byteRange, foldl_utf8Size, Nat.zero_add, bytesBefore, front, both,
      Utf8.encode_append, List.length_append]
  refine ⟨range, ?_⟩
  simp only [range, bytesBefore, front, both]
  rw [whole, Utf8.encode_append (before ++ span.name), List.take_left, Utf8.encode_append,
    List.drop_left]

/-- The bytes of a field: the position of the first one, and that behind the last one. -/
def Field.byteRange (sql : List Char) (field : Field) : Nat × Nat :=
  Span.byteRange sql ⟨field.text, field.start⟩

private theorem Field.byteRange_eq (sql : List Char) (field : Field) :
    field.byteRange sql = (bytesBefore sql field.start,
      bytesBefore sql field.start + (Utf8.encode field.text).length) := by
  simp only [byteRange, Span.byteRange, foldl_utf8Size, Nat.zero_add]
  rfl

section

variable {sql : List Char} {field : Field}

theorem exists_split_of_mem_fieldsAt (member : field ∈ fieldsAt sql) :
    ∃ before after, sql = before ++ field.text ++ after ∧ field.start = before.length := by
  obtain ⟨pieces, cut, rfl⟩ := Piece.exists_cut sql
  rw [fieldsAt, Piece.fieldsFrom_joined cut] at member
  obtain ⟨before, after, whole, start⟩ := Piece.exists_split_of_mem_fieldsFrom member
  exact ⟨before, after, whole, by rw [start, Nat.zero_add]⟩

theorem ne_nil_of_mem_fieldsAt (member : field ∈ fieldsAt sql) : field.text ≠ [] := by
  obtain ⟨pieces, cut, rfl⟩ := Piece.exists_cut sql
  rw [fieldsAt, Piece.fieldsFrom_joined cut] at member
  exact cut.nonempty _ (Piece.mem_of_mem_fieldsFrom member)

theorem pairwise_fieldsAt (sql : List Char) :
    (fieldsAt sql).Pairwise fun first second => first.start + first.text.length ≤ second.start := by
  obtain ⟨pieces, cut, rfl⟩ := Piece.exists_cut sql
  rw [fieldsAt, Piece.fieldsFrom_joined cut]
  exact Piece.pairwise_fieldsFrom 0

theorem bytes_of_mem_fieldsAt (member : field ∈ fieldsAt sql) :
    ((Utf8.encode sql).take (field.byteRange sql).2).drop (field.byteRange sql).1 =
      Utf8.encode field.text := by
  obtain ⟨before, after, whole, start⟩ := exists_split_of_mem_fieldsAt member
  exact (Span.bytes_of_split ⟨field.text, field.start⟩ whole start).2

/-- The last byte of a field stands before the character behind the field. -/
theorem byteRange_snd_of_mem_fieldsAt (member : field ∈ fieldsAt sql) :
    (field.byteRange sql).2 = bytesBefore sql (field.start + field.text.length) := by
  obtain ⟨before, after, whole, start⟩ := exists_split_of_mem_fieldsAt member
  exact congrArg Prod.snd (Span.bytes_of_split ⟨field.text, field.start⟩ whole start).1

end

/-- The fields of a query are those of the automaton. Each of them holds the bytes at its place, they
are not empty and come one behind the other, and every character that none of them holds is blank, a
semicolon or an equals sign. -/
theorem fieldsAt_eq_automaton (sql : List Char) :
    (fieldsAt sql).map Field.text = Automaton.fields sql ∧
      (∀ field ∈ fieldsAt sql, field.text ≠ [] ∧
        ((Utf8.encode sql).take (field.byteRange sql).2).drop (field.byteRange sql).1 =
          Utf8.encode field.text) ∧
      (fieldsAt sql).Pairwise (fun first second =>
        (first.byteRange sql).1 < (second.byteRange sql).1 ∧
          (first.byteRange sql).2 ≤ (second.byteRange sql).1) ∧
      ∀ index c, sql[index]? = some c →
        (Text.isBlank c = true ∨ c = ';' ∨ c = '=') ∨ ∃ field ∈ fieldsAt sql,
          (field.byteRange sql).1 ≤ bytesBefore sql index ∧
            bytesBefore sql (index + 1) ≤ (field.byteRange sql).2 := by
  obtain ⟨pieces, cut, whole⟩ := Piece.exists_cut sql
  have found : fieldsAt sql = Piece.fieldsFrom 0 pieces := by
    rw [← whole, fieldsAt, Piece.fieldsFrom_joined cut]
  refine ⟨?automaton, ?bytes, ?ordered, ?covered⟩
  case automaton =>
    rw [found, Automaton.fields, ← whole, Automaton.ended_foldl_joined cut (.inr ⟨rfl, .inl rfl⟩) [] 0]
    rfl
  case bytes =>
    intro field member
    exact ⟨ne_nil_of_mem_fieldsAt member, bytes_of_mem_fieldsAt member⟩
  case ordered =>
    refine (pairwise_fieldsAt sql).imp_of_mem ?_
    intro first second member _ behind
    have last : (first.byteRange sql).2 ≤ (second.byteRange sql).1 := by
      rw [byteRange_snd_of_mem_fieldsAt member, Field.byteRange_eq]
      exact bytesBefore_mono sql behind
    refine ⟨Nat.lt_of_lt_of_le ?_ last, last⟩
    have size := List.length_pos_iff.mpr (Utf8.encode_ne_nil (ne_nil_of_mem_fieldsAt member))
    rw [Field.byteRange_eq]
    exact Nat.lt_add_of_pos_right size
  case covered =>
    intro index c here
    rw [← whole] at here
    rcases Piece.separates_or_exists_field cut.separates here 0 with separates | ⟨field, member, low, high⟩
    · left
      simp only [isSeparator, Bool.or_eq_true, beq_iff_eq] at separates
      exact or_assoc.mp separates
    · rw [Nat.zero_add] at low high
      rw [← found] at member
      refine .inr ⟨field, member, ?_, ?_⟩
      · rw [Field.byteRange_eq]
        exact bytesBefore_mono sql low
      · rw [byteRange_snd_of_mem_fieldsAt member]
        exact bytesBefore_mono sql high

/-- A quote of another kind inside of quotes, letters of several bytes, runs that belong to one field,
a comma, and a quote that is not closed. The character at position 7 is the other quote. -/
theorem fieldsAt_eq_automaton_mixed :
    let sql := "FROM 'é\"x'é.csv,\u3000b=\x60c ;".toList
    Automaton.fields sql = ["FROM", "'é\"x'é.csv", ",", "b", "\x60c ;"].map String.toList ∧
      (fieldsAt sql).map Field.text = Automaton.fields sql ∧
      (fieldsAt sql).map (Field.byteRange sql) = [(0, 4), (5, 17), (17, 18), (21, 22), (23, 27)] ∧
      (∀ field ∈ fieldsAt sql, ((Utf8.encode sql).take (field.byteRange sql).2).drop
        (field.byteRange sql).1 = Utf8.encode field.text) ∧
      sql[7]? = some '"' ∧ ∃ field ∈ fieldsAt sql,
        (field.byteRange sql).1 ≤ bytesBefore sql 7 ∧ bytesBefore sql 8 ≤ (field.byteRange sql).2 := by
  intro sql
  obtain ⟨same, bytes, -, covered⟩ := fieldsAt_eq_automaton sql
  have quote : sql[7]? = some '"' := by decide +kernel
  have inside : ¬ (Text.isBlank '"' = true ∨ '"' = ';' ∨ '"' = '=') := by decide
  exact ⟨by decide +kernel, same, by decide +kernel, fun field member => (bytes field member).2, quote,
    (covered 7 '"' quote).resolve_left inside⟩

end Tabular.Query
