import Tabular.Proofs.Query.Substitution

/-!
# The fields of a rewritten query

A name between quotes takes the place of a reference in its field, and every other field stays as it
is. The new name leaves the table list as it was and does not stand before a table, so a second pass
finds nothing more to replace.
-/

set_option autoImplicit false

namespace Tabular

namespace Query

/-- A field of a query, under a new name if it is one of the given references. What follows the
reference in its field stays. -/
def Field.renamed (spans : List Span) (raw new : List Char) (field : Field) : List Char :=
  if ⟨raw, field.start⟩ ∈ spans then new ++ field.text.drop raw.length else field.text

theorem IsReference.inListAfter {name text : List Char} (reference : IsReference name text) :
    inListAfter true text = true := by
  have noEnd : endsList text = false := by
    rcases reference.within with rfl | rfl
    · exact reference.noEnd
    · exact endsList_append_paren name
  simp [Query.inListAfter, noEnd]

private theorem single_enclosed {new : List Char} (enclosed : Enclosed new) (raw : List Char) :
    ∀ name found, single raw new name = some found → Enclosed found := by
  intro name found lookup
  rw [single] at lookup
  split at lookup
  · cases lookup
    exact enclosed
  · cases lookup

namespace Piece

variable {pieces : List Piece} {raw new : List Char}

/-! ## Positions -/

theorem mem_here_iff {expected : Bool} {position : Nat} {text : List Char} {span : Span} :
    span ∈ (if expected then Span.of? ⟨position, text⟩ else none).toList ↔
      expected = true ∧ reference? text = some span.name ∧ span.start = position := by
  rw [Option.mem_toList]
  cases expected with
  | false => simp
  | true =>
      rw [if_pos rfl, of?_eq]
      constructor
      · intro member
        obtain ⟨name, found, rfl⟩ := Option.map_eq_some_iff.mp member
        exact ⟨rfl, found, rfl⟩
      · rintro ⟨-, found, rfl⟩
        rw [found]
        rfl

theorem le_start_of_mem_spansFrom {inList expected : Bool} {position : Nat} {span : Span}
    (member : span ∈ spansFrom inList expected position pieces) : position ≤ span.start := by
  induction pieces generalizing inList expected position with
  | nil => cases member
  | cons piece pieces ih =>
      cases piece with
      | gap c => exact Nat.le_of_succ_le (ih member)
      | field text =>
          rcases List.mem_append.mp member with here | later
          · exact Nat.le_of_eq (mem_here_iff.mp here).2.2.symm
          · exact Nat.le_trans (Nat.le_add_right position text.length) (ih later)

section

variable {inList expected : Bool} {position start : Nat} {text : List Char}

theorem mem_spansFrom_first (nonempty : text ≠ []) :
    ⟨raw, position⟩ ∈ spansFrom inList expected position (.field text :: pieces) ↔
      expected = true ∧ reference? text = some raw := by
  rw [spansFrom, List.mem_append, mem_here_iff]
  constructor
  · rintro (⟨expects, found, -⟩ | later)
    · exact ⟨expects, found⟩
    · have bound : position + text.length ≤ position := le_start_of_mem_spansFrom later
      have positive := List.length_pos_iff.mpr nonempty
      omega
  · rintro ⟨expects, found⟩
    exact .inl ⟨expects, found, rfl⟩

theorem mem_spansFrom_later (nonempty : text ≠ []) (later : position + text.length ≤ start) :
    ⟨raw, start⟩ ∈ spansFrom inList expected position (.field text :: pieces) ↔
      ⟨raw, start⟩ ∈ spansFrom (inListAfter inList text)
        (inListAfter inList text && precedesTable text) (position + text.length) pieces := by
  rw [spansFrom, List.mem_append, mem_here_iff]
  constructor
  · rintro (⟨-, -, same⟩ | member)
    · have positive := List.length_pos_iff.mpr nonempty
      simp only at same
      omega
    · exact member
  · exact .inr

end

/-! ## One field after the other -/

/-- A field in table position holds its reference, and a parenthesis at most. -/
theorem isReference_of_mem (nonempty : ∀ text, .field text ∈ pieces → text ≠ [])
    {inList expected : Bool} {position : Nat} {found : Field}
    (member : found ∈ fieldsFrom position pieces)
    (named : ⟨raw, found.start⟩ ∈ spansFrom inList expected position pieces) :
    IsReference raw found.text := by
  induction pieces generalizing inList expected position with
  | nil => cases member
  | cons piece pieces ih =>
      have filled := fun text member => nonempty text (List.mem_cons_of_mem _ member)
      cases piece with
      | gap c => exact ih filled member named
      | field text =>
          have here := nonempty text List.mem_cons_self
          rcases List.mem_cons.mp member with rfl | later
          · exact isReference_of_reference? ((mem_spansFrom_first here).mp named).2
          · have bound := le_start_of_mem_fieldsFrom later
            exact ih filled later ((mem_spansFrom_later here bound).mp named)

private theorem renamed_text {spans : List Span} {expected : Bool} {position : Nat}
    {text : List Char}
    (here : ⟨raw, position⟩ ∈ spans ↔ expected = true ∧ reference? text = some raw) :
    (if expected then renamedText (single raw new) text else text) =
      Field.renamed spans raw new ⟨position, text⟩ := by
  rw [Field.renamed]
  by_cases named : expected = true ∧ reference? text = some raw
  · rw [if_pos (here.mpr named), if_pos named.1, renamedText_of_table named.2 (if_pos rfl)]
  · rw [if_neg (fun member => named (here.mp member))]
    cases expected with
    | false => rfl
    | true =>
        rw [if_pos rfl]
        cases found : reference? text with
        | none => exact renamedText_of_no_reference found
        | some name =>
            have other : name ≠ raw := by
              rintro rfl
              exact named ⟨rfl, found⟩
            exact renamedText_of_no_table found (if_neg other)

/-- The texts of the fields do not depend on where the pieces stand in the rewritten query. -/
theorem map_text_fieldsFrom_renamed (nonempty : ∀ text, .field text ∈ pieces → text ≠ [])
    (raw new : List Char) (inList expected : Bool) (position moved : Nat) :
    (fieldsFrom moved (renamed (single raw new) inList expected pieces)).map Field.text =
      (fieldsFrom position pieces).map
        (Field.renamed (spansFrom inList expected position pieces) raw new) := by
  induction pieces generalizing inList expected position moved with
  | nil => rfl
  | cons piece pieces ih =>
      have rest := ih fun text member => nonempty text (List.mem_cons_of_mem _ member)
      cases piece with
      | gap c => exact rest inList expected (position + 1) (moved + 1)
      | field text =>
          have here := nonempty text List.mem_cons_self
          simp only [renamed, fieldsFrom, List.map_cons, List.cons.injEq]
          constructor
          · exact renamed_text (mem_spansFrom_first here)
          · rw [rest _ _ (position + text.length)]
            apply List.map_congr_left
            intro found member
            have later := le_start_of_mem_fieldsFrom member
            simp only [Field.renamed, mem_spansFrom_later here later]

/-! ## A second pass -/

private theorem renamedText_again (enclosed : Enclosed new) (other : new ≠ raw) (text : List Char) :
    renamedText (single raw new) (renamedText (single raw new) text) =
      renamedText (single raw new) text := by
  have once : andThen (single raw new) (single raw new) = single raw new := by
    funext name
    by_cases same : name = raw <;> simp [andThen, single, same, other]
  rw [renamedText_renamedText (single_enclosed enclosed raw), once]

private theorem inListAfter_renamedText (enclosed : Enclosed new) (text : List Char) :
    Query.inListAfter true (renamedText (single raw new) text) = Query.inListAfter true text := by
  cases found : reference? text with
  | none => rw [renamedText_of_no_reference found]
  | some name =>
      by_cases same : name = raw
      · subst same
        have neutral := enclosed.neutral (text.drop name.length)
        rw [renamedText_of_table found (if_pos rfl), neutral.inListAfter,
          (isReference_of_reference? found).inListAfter]
      · rw [renamedText_of_no_table found (if_neg same)]

private theorem precedesTable_of_renamedText (enclosed : Enclosed new) {text : List Char}
    (precedes : precedesTable (renamedText (single raw new) text) = true) :
    precedesTable text = true := by
  cases found : reference? text with
  | none => rwa [renamedText_of_no_reference found] at precedes
  | some name =>
      by_cases same : name = raw
      · subst same
        have neutral := enclosed.neutral (text.drop name.length)
        rw [renamedText_of_table found (if_pos rfl), neutral.precedesTable] at precedes
        cases precedes
      · rwa [renamedText_of_no_table found (if_neg same)] at precedes

/-- A replaced reference may have been a word that starts a table list. Then the field behind it is
in table position no longer, so the second pass expects references in fewer places. -/
theorem renamed_again (enclosed : Enclosed new) (other : new ≠ raw) {inList expected again : Bool}
    (listed : expected = true → inList = true) (fewer : again = true → expected = true)
    (pieces : List Piece) :
    renamed (single raw new) inList again (renamed (single raw new) inList expected pieces) =
      renamed (single raw new) inList expected pieces := by
  induction pieces generalizing inList expected again with
  | nil => rfl
  | cons piece pieces ih =>
      cases piece with
      | gap c =>
          simp only [renamed]
          rw [ih listed fewer]
      | field text =>
          have texts : (if again then renamedText (single raw new)
                (if expected then renamedText (single raw new) text else text)
              else if expected then renamedText (single raw new) text else text) =
              if expected then renamedText (single raw new) text else text := by
            cases again with
            | false => rfl
            | true =>
                rw [fewer rfl]
                exact renamedText_again enclosed other text
          have after : Query.inListAfter inList
                (if expected then renamedText (single raw new) text else text) =
              Query.inListAfter inList text ∧
              (precedesTable (if expected then renamedText (single raw new) text else text) = true →
                precedesTable text = true) := by
            cases expected with
            | false => exact ⟨rfl, id⟩
            | true =>
                rw [if_pos rfl, listed rfl]
                exact ⟨inListAfter_renamedText enclosed text, precedesTable_of_renamedText enclosed⟩
          simp only [renamed]
          rw [texts, after.1, ih]
          · intro expects
            exact (Bool.and_eq_true_iff.mp expects).1
          · intro expects
            obtain ⟨inside, precedes⟩ := Bool.and_eq_true_iff.mp expects
            exact Bool.and_eq_true_iff.mpr ⟨inside, after.2 precedes⟩

end Piece

/-! ## The whole query -/

private theorem replaceSpans_again {new : List Char} (enclosed : Enclosed new)
    (sql raw : List Char) :
    replaceSpans (replaceSpans sql raw new) raw new = replaceSpans sql raw new := by
  obtain ⟨pieces, cut, rfl⟩ := Piece.exists_cut sql
  have still := cut.renamed (single_enclosed enclosed raw) false false
  rw [Piece.replaceSpans_joined cut, Piece.replaceSpans_joined still]
  by_cases same : new = raw
  · have kept : ∀ name found, single raw new name = some found → found = name := by
      intro name found lookup
      rw [single] at lookup
      split at lookup
      · rename_i equal
        cases lookup
        rw [same, equal]
      · cases lookup
    rw [Piece.renamed_id kept, Piece.renamed_id kept]
  · rw [Piece.renamed_again enclosed same] <;> exact id

/-- Replacing a reference by a name between quotes keeps the fields of a query one for one: a field
in table position that names the reference has the new name, and the parenthesis if there was one,
and every other field is the same. Replacing it once more changes nothing. -/
theorem fields_replaceReference {dialect : Dialect} (quotes : isQuote dialect.quote = true)
    (sql raw name : String) :
    let escaped := dialect.quoteIdent name
    let replaced := replaceReference sql raw escaped
    fields replaced = (fieldsAt sql.toList).map (fun field => String.ofList
        (field.renamed (tableSpans sql.toList) raw.toList escaped.toList)) ∧
      (∀ field ∈ fieldsAt sql.toList, ⟨raw.toList, field.start⟩ ∈ tableSpans sql.toList →
        field.text = raw.toList ∨ field.text = raw.toList ++ [')']) ∧
      replaceReference replaced raw escaped = replaced := by
  intro escaped replaced
  have enclosed : Enclosed escaped.toList := dialect.enclosed_quoteIdent quotes name
  obtain ⟨pieces, cut, text⟩ := Piece.exists_cut sql.toList
  have spans : tableSpans sql.toList = Piece.spansFrom false false 0 pieces := by
    rw [← text, Piece.tableSpans_joined cut]
  have found : fieldsAt sql.toList = Piece.fieldsFrom 0 pieces := by
    rw [← text, fieldsAt, Piece.fieldsFrom_joined cut]
  refine ⟨?fields, ?within, ?again⟩
  case fields =>
    have still := cut.renamed (single_enclosed enclosed raw.toList) false false
    have texts := Piece.map_text_fieldsFrom_renamed cut.nonempty raw.toList escaped.toList
      false false 0 0
    have whole : replaced.toList = Piece.joined
        (Piece.renamed (single raw.toList escaped.toList) false false pieces) := by
      rw [← Piece.replaceSpans_joined cut, text]
      exact String.toList_ofList
    have shown := congrArg (List.map String.ofList) texts
    rw [fields, whole, fieldsAt, Piece.fieldsFrom_joined still, spans, found]
    rw [List.map_map, List.map_map] at shown
    exact shown
  case within =>
    intro field member named
    rw [found] at member
    rw [spans] at named
    exact (Piece.isReference_of_mem cut.nonempty member named).within
  case again =>
    have twice := replaceSpans_again enclosed sql.toList raw.toList
    simp only [replaced, replaceReference, String.toList_ofList, twice]

/-- A reference that starts a table list itself, at three positions, under a name with a comma, a
quote and a parenthesis. The last field is a quote that is not closed. -/
theorem fields_replaceReference_join :
    let dialect := Driver.postgres.dialect
    let sql := "SELECT 'join' FROM join join, JOIN join) b, \"x, join"
    let escaped := dialect.quoteIdent "a\", b) from"
    let replaced := replaceReference sql "join" escaped
    isQuote dialect.quote = true ∧ escaped = "\"a\"\", b) from\"" ∧
      fields replaced = ["SELECT", "'join'", "FROM", escaped, escaped, ",", "JOIN",
        escaped ++ ")", "b", ",", "\"x, join"] ∧
      replaceReference replaced "join" escaped = replaced := by
  intro dialect sql escaped replaced
  have quotes : isQuote dialect.quote = true := Driver.postgres.isQuote_quote
  obtain ⟨shown, -, again⟩ :=
    fields_replaceReference quotes sql "join" "a\", b) from"
  refine ⟨quotes, by decide +kernel, ?_, again⟩
  rw [shown]
  decide +kernel

end Query

end Tabular
