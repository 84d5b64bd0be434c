import Tabular.Description
import Tabular.Engine.Recorder
import Tabular.Proofs.Query.Selection
import Tabular.Proofs.Run.TableName
import Tabular.Proofs.Source.Feed

/-!
# Queries to start from

The columns of the queries are words and the value is a quoted text, whatever names and cells they
are. So each query has the name of the table as its one reference, if that name is one field.
-/

set_option autoImplicit false

namespace Tabular

open Query (Word Words TableWord openAfter? isBare startsList)

namespace Description

/-! ## Column names -/

def isPlainChar (c : Char) : Bool :=
  c.isLower || c.isDigit || c == '_'

private theorem facts_of_isPlainChar {c : Char} (plain : isPlainChar c = true) :
    isBare c = true ∧ Query.isQuote c = false ∧ c.toUpper.toLower = c := by
  have below : ∀ n : Fin 128, isPlainChar (Char.ofNat n) = true →
      isBare (Char.ofNat n) = true ∧ Query.isQuote (Char.ofNat n) = false ∧
        (Char.ofNat n).toUpper.toLower = Char.ofNat n := by
    decide +kernel
  have small : c.toNat < 128 := by
    have ranges : isPlainChar c = (decide ('a'.val ≤ c.val) && decide (c.val ≤ 'z'.val) ||
        decide ('0'.val ≤ c.val) && decide (c.val ≤ '9'.val) || c == '_') := rfl
    simp only [ranges, Bool.or_eq_true, Bool.and_eq_true, decide_eq_true_eq, beq_iff_eq,
      UInt32.le_iff_toNat_le] at plain
    rcases plain with (lower | digit) | rfl
    · exact Nat.lt_of_le_of_lt lower.2 (by decide)
    · exact Nat.lt_of_le_of_lt digit.2 (by decide)
    · decide
  have found := below ⟨c.toNat, small⟩
  rw [Char.ofNat_toNat] at found
  exact found plain

private theorem openAfter?_of_plain {text : List Char} (plain : ∀ c ∈ text, isPlainChar c = true) :
    openAfter? none text = some none := by
  induction text with
  | nil => rfl
  | cons c text ih =>
      obtain ⟨here, later⟩ := List.forall_mem_cons.mp plain
      obtain ⟨bare, noQuote, -⟩ := facts_of_isPlainChar here
      simp [openAfter?, bare, noQuote, ih later]

/-- The words that start a table list are key words, so a plain name is none of them. -/
theorem word_of_isPlain {name : String} (plain : isPlain name = true) : Word name.toList := by
  simp only [isPlain, Bool.and_eq_true, Bool.not_eq_true', List.all_eq_true] at plain
  obtain ⟨⟨-, letters⟩, noKeyword⟩ := plain
  refine ⟨openAfter?_of_plain letters, Bool.eq_false_iff.mpr fun starts => ?_⟩
  have keys : ∀ word ∈ Query.listStarts, keywords.contains (String.ofList (word.map Char.toLower)) =
      true := by decide +kernel
  have same : (name.toList.map Char.toUpper).map Char.toLower = name.toList := by
    rw [List.map_map]
    refine (List.map_congr_left fun c member => ?_).trans (List.map_id _)
    exact (facts_of_isPlainChar (letters c member)).2.2
  have keyword := keys _ (List.contains_iff_mem.mp starts)
  rw [same, String.ofList_toList, noKeyword] at keyword
  cases keyword

private theorem word_quoteName {dialect : Dialect} (quotes : Query.isQuote dialect.quote = true)
    (name : String) : Word (quoteName dialect name).toList := by
  rw [quoteName]
  split
  · rename_i plain
    exact word_of_isPlain plain
  · exact (dialect.enclosed_quoteIdent quotes name).word

private theorem word_count {key : String} (word : Word key.toList) :
    Word ("count(" ++ key ++ ")").toList := by
  have bracket : openAfter? none "count(".toList = some none := by decide +kernel
  rw [String.toList_append, String.toList_append]
  constructor
  · rw [List.append_assoc, Query.openAfter?_append bracket, Query.openAfter?_append word.closed]
    decide
  · exact Query.startsList_append_paren _

/-! ## The pieces of the queries -/

open Query.Piece

private theorem enclosed_literalText (value : String) :
    Query.Enclosed ("'" ++ literalText value ++ "'").toList := by
  let quoting : Dialect := { Driver.sqlite.dialect with quote := '\'' }
  have quoted : "'" ++ literalText value ++ "'" = quoting.quoteIdent value := by
    have letters : ∀ c : Char, (if c == '\'' then ['\'', '\''] else [c]) =
        if c == quoting.quote then [c, c] else [c] := by
      intro c
      by_cases same : c = '\''
      · rw [same]
      · simp [same, quoting]
    refine String.toList_inj.mp ?_
    simp only [literalText, Dialect.quoteIdent, String.toList_append, String.toList_ofList, letters]
    rfl
  rw [quoted]
  exact quoting.enclosed_quoteIdent rfl value

variable {columns : List String} {key value table : String}

def rowClause (key value : String) : List Query.Piece :=
  .gap ' ' :: .field "WHERE".toList :: .gap ' ' ::
    (ofWord key.toList ++
      [.gap ' ', .gap '=', .gap ' ', .field ("'" ++ literalText value ++ "'").toList])

def groupClause (key : String) : List Query.Piece :=
  .gap ' ' :: .field "GROUP".toList :: .gap ' ' :: .field "BY".toList :: .gap ' ' ::
    ofWord key.toList

def orderClause (key : String) : List Query.Piece :=
  .gap ' ' :: .field "ORDER".toList :: .gap ' ' :: .field "BY".toList :: .gap ' ' ::
    (ofWord key.toList ++ [.gap ' ', .field "LIMIT".toList, .gap ' ', .field "10".toList])

private theorem clause_row (word : Word key.toList) : Clause (rowClause key value) := by
  have literal := enclosed_literalText value
  have last : Query.Piece.Cut [.field ("'" ++ literalText value ++ "'").toList] :=
    cut_field literal.ne_nil literal.read trivial .nil
  rw [rowClause]
  constructor
  case ends => decide +kernel
  case outside =>
    refine outside_gap _ (outside_append (outside_ofWord word) ?_)
    exact outside_gap _ (outside_gap _ (outside_gap _ (outside_field literal.word.noStart outside_nil)))
  case cut =>
    refine .gap (by decide) (cut_spaced (by decide) (by decide +kernel) ?_)
    exact cut_ofWord word trivial (.gap (by decide) (.gap (by decide) (.gap (by decide) last)))

private theorem clause_group (word : Word key.toList) : Clause (groupClause key) := by
  rw [groupClause]
  constructor
  case ends => decide +kernel
  case outside =>
    exact outside_gap _ (outside_field (by decide +kernel) (outside_gap _ (outside_ofWord word)))
  case cut =>
    refine .gap (by decide) (cut_spaced (by decide) (by decide +kernel) ?_)
    refine cut_spaced (by decide) (by decide +kernel) ?_
    rw [← List.append_nil (ofWord key.toList)]
    exact cut_ofWord word trivial .nil

private theorem clause_order (word : Word key.toList) : Clause (orderClause key) := by
  have limit : Query.Piece.Cut [.gap ' ', .field "LIMIT".toList, .gap ' ', .field "10".toList] :=
    .gap (by decide) (cut_spaced (by decide) (by decide +kernel)
      (cut_field (by decide) (by decide +kernel) trivial .nil))
  rw [orderClause]
  constructor
  case ends => decide +kernel
  case outside =>
    refine outside_gap _ (outside_field (by decide +kernel) (outside_gap _ ?_))
    refine outside_append (outside_ofWord word) (outside_gap _ ?_)
    exact outside_field (by decide +kernel) (outside_gap _ (outside_field (by decide +kernel) rfl))
  case cut =>
    refine .gap (by decide) (cut_spaced (by decide) (by decide +kernel) ?_)
    refine cut_spaced (by decide) (by decide +kernel) ?_
    exact cut_ofWord word trivial limit

/-- The text of a selection of columns from a table, with a clause behind it. -/
def selection (columns : List String) (table : String) (clause : List Query.Piece) : String :=
  String.ofList (joined (select columns ++ .field table.toList :: clause))

private theorem selection_eq (columns : List String) (table : String) (clause : List Query.Piece) :
    selection columns table clause =
      "SELECT " ++ ", ".intercalate columns ++ " FROM " ++ table ++
        String.ofList (joined clause) := by
  refine String.toList_inj.mp ?_
  rw [selection, String.toList_ofList, joined_append, select, joined_field, joined_gap, joined_append,
    joined_ofColumns]
  simp [joined, Query.Piece.text]

private theorem text_rowClause (key value : String) :
    String.ofList (joined (rowClause key value)) =
      " WHERE " ++ key ++ " = '" ++ literalText value ++ "'" := by
  refine String.toList_inj.mp ?_
  rw [String.toList_ofList, rowClause, joined_gap, joined_field, joined_gap, joined_append,
    joined_ofWord]
  simp [joined, Query.Piece.text]

private theorem text_groupClause (key : String) :
    String.ofList (joined (groupClause key)) = " GROUP BY " ++ key := by
  refine String.toList_inj.mp ?_
  rw [String.toList_ofList, groupClause, joined_gap, joined_field, joined_gap, joined_field,
    joined_gap, joined_ofWord]
  simp

private theorem text_orderClause (key : String) :
    String.ofList (joined (orderClause key)) = " ORDER BY " ++ key ++ " LIMIT 10" := by
  refine String.toList_inj.mp ?_
  rw [String.toList_ofList, orderClause, joined_gap, joined_field, joined_gap, joined_field,
    joined_gap, joined_append, joined_ofWord]
  simp [joined, Query.Piece.text]

private theorem queries_eq {key : String} {columns : List String} (head : columns.headD "" = key)
    (table : String) (first : List String) :
    queries table columns first =
      [selection columns table [], selection columns table (rowClause key (first.headD "")),
        selection [key, "count(" ++ key ++ ")"] table (groupClause key),
        selection columns table (orderClause key)] := by
  have counted : selection [key, "count(" ++ key ++ ")"] table (groupClause key) =
      "SELECT " ++ key ++ ", count(" ++ key ++ ") FROM " ++ table ++ " GROUP BY " ++ key := by
    rw [selection_eq, text_groupClause, String.intercalate_cons_cons, String.intercalate_singleton]
    refine String.toList_inj.mp ?_
    simp
  have nothing : String.ofList (joined []) = "" := rfl
  rw [counted]
  simp only [selection_eq, text_rowClause, text_orderClause, nothing, queries, head,
    String.append_assoc, String.append_empty]

/-! ## The reference of the queries -/

private theorem tableRefs_selection {clause : List Query.Piece} (words : Words columns)
    (named : TableWord table.toList) (followed : Clause clause) :
    Query.tableRefs (selection columns table clause) = [table] := by
  rw [Query.tableRefs, selection, String.toList_ofList, tableSpans_of_tableWord words named followed,
    List.map_singleton, String.ofList_toList]
  rfl

theorem eq_iff_mem_names {pieces : List Query.Piece}
    (single : Query.tableRefs (String.ofList (joined pieces)) = [table]) (name : List Char) :
    name = table.toList ↔ name ∈ (Query.tableSpans (joined pieces)).map Query.Span.name := by
  have found : String.ofList name ∈ Query.tableRefs (String.ofList (joined pieces)) ↔
      name ∈ (Query.tableSpans (joined pieces)).map Query.Span.name := by
    rw [Query.tableRefs, String.toList_ofList, List.mem_eraseDups, List.mem_map, List.mem_map]
    simp only [String.ofList_inj]
  rw [← found, single, List.mem_singleton]
  constructor
  · rintro rfl
    exact String.ofList_toList
  · rintro rfl
    exact String.toList_ofList.symm

/-- Each of the queries has its table as its one reference, if and only if the table is one field with
nothing but a reference in it. -/
theorem tableRefs_queries_iff (words : Words columns) (first : List String) :
    (∀ query ∈ queries table columns first, Query.tableRefs query = [table]) ↔
      TableWord table.toList := by
  have word : Word (columns.headD "").toList := by
    cases columns with
    | nil => exact ⟨rfl, by decide +kernel⟩
    | cons column rest => exact words column List.mem_cons_self
  rw [queries_eq rfl]
  constructor
  · intro each
    have alone := each _ List.mem_cons_self
    have ordered := each (selection columns table (orderClause (columns.headD ""))) (by simp)
    rw [orderClause] at ordered
    exact tableWord_of_tableSpans words words (eq_iff_mem_names alone) (eq_iff_mem_names ordered)
  · intro named query member
    simp only [List.mem_cons, List.not_mem_nil, or_false] at member
    rcases member with rfl | rfl | rfl | rfl
    · exact tableRefs_selection words named .none
    · exact tableRefs_selection words named (clause_row word)
    · refine tableRefs_selection ?_ named (clause_group word)
      intro column member
      simp only [List.mem_cons, List.not_mem_nil, or_false] at member
      rcases member with rfl | rfl
      · exact word
      · exact word_count word
    · exact tableRefs_selection words named (clause_order word)

end Description

/-! ## What the queries lead to -/

namespace Description

variable {dialect : Dialect} {options : ReadOptions} {reference : String}
  {around after : Surroundings} {description : Description}

private theorem exists_opened_of_read
    (read : Description.read options reference around = (.ok description, after)) :
    ∃ opened, Reference.resolve reference around = (.ok (some opened), after) ∧
      description.table = Run.tableName opened := by
  rw [Description.read] at read
  cases resolved : Reference.resolve reference around with
  | mk outcome later =>
      rw [resolved] at read
      obtain ⟨made, rfl⟩ := Prod.mk.inj read
      obtain ⟨found, same, described⟩ := bind_ok made
      cases found with
      | none => cases described
      | some opened =>
          obtain ⟨source, -, sourced⟩ := bind_ok described
          obtain ⟨schema, -, finished⟩ := bind_ok sourced
          cases finished
          exact ⟨opened, by rw [same], rfl⟩

/-- The queries to start from name their table if and only if its name is one field with nothing but a
reference in it. The name leads to the same input and makes the same table, where the quotes that it
lacks are not needed. -/
theorem examples_lead_back (quotes : Query.isQuote dialect.quote = true)
    (read : Description.read options reference around = (.ok description, after))
    (sampled : description.samples ≠ []) :
    (description.examples dialect).length = 4 ∧
      ((∀ query ∈ description.examples dialect, Query.tableRefs query = [description.table]) ↔
        TableWord description.table.toList) ∧
      ∃ opened, Reference.resolve reference around = (.ok (some opened), after) ∧
        (Run.FoundAgain around opened →
          Reference.resolve description.table around =
            (.ok (some { opened with file := Reference.unquoted opened.file }), after) ∧
          ∀ {engineState : Type} (engine : Engine engineState) (now : engineState),
            Run.gatherOne engine options description.table (around, now) =
              Run.gatherOne engine options reference (around, now)) := by
  obtain ⟨opened, resolved, table⟩ := exists_opened_of_read read
  have words : Words (description.columns dialect) := by
    intro column member
    obtain ⟨name, -, rfl⟩ := List.mem_map.mp member
    exact word_quoteName quotes name
  obtain ⟨first, others, samples⟩ := List.exists_cons_of_ne_nil sampled
  have shown : description.examples dialect =
      queries description.table (description.columns dialect) first := by
    rw [examples, samples]
  refine ⟨by rw [shown]; rfl, ?_, opened, resolved, fun again => ?_⟩
  · rw [shown]
    exact tableRefs_queries_iff words first
  · rw [table]
    exact ⟨Run.resolve_tableName resolved again,
      fun engine now => Run.gatherOne_tableName engine options resolved again now⟩

/-- A file in quotes that it does not need, columns that need them and a value with a comma, a quote and
a word that starts a table list. -/
theorem examples_lead_back_quoted :
    let around : Surroundings :=
      { tree := .folder [("a.csv", .file "from,X y\n\"', join b\",1\n".toUTF8.toList)] }
    let options : ReadOptions := { header := true, ahead := 2 }
    let dialect := Driver.postgres.dialect
    Query.isQuote dialect.quote = true ∧ ∃ description after,
      Description.read options "\x60a.csv\x60" around = (.ok description, after) ∧
        description.samples ≠ [] ∧
        description.examples dialect =
          ["SELECT \"from\", \"X y\" FROM a.csv",
            "SELECT \"from\", \"X y\" FROM a.csv WHERE \"from\" = ''', join b'",
            "SELECT \"from\", count(\"from\") FROM a.csv GROUP BY \"from\"",
            "SELECT \"from\", \"X y\" FROM a.csv ORDER BY \"from\" LIMIT 10"] ∧
        (∀ query ∈ description.examples dialect, Query.tableRefs query = ["a.csv"]) ∧
        ∀ now, Run.gatherOne (Recorder.engine dialect) options "a.csv" (around, now) =
          Run.gatherOne (Recorder.engine dialect) options "\x60a.csv\x60" (around, now) := by
  intro around options dialect
  have quotes : Query.isQuote dialect.quote = true := Driver.postgres.isQuote_quote
  have shown : ((Description.read options "\x60a.csv\x60" around).1.map fun description =>
      (description.table, description.samples, description.examples dialect)) =
      .ok ("a.csv", [["', join b", "1"]],
        ["SELECT \"from\", \"X y\" FROM a.csv",
          "SELECT \"from\", \"X y\" FROM a.csv WHERE \"from\" = ''', join b'",
          "SELECT \"from\", count(\"from\") FROM a.csv GROUP BY \"from\"",
          "SELECT \"from\", \"X y\" FROM a.csv ORDER BY \"from\" LIMIT 10"]) := by
    decide +kernel
  have found : ((Reference.resolve "\x60a.csv\x60" around).1.map fun opened? =>
      opened?.map fun opened => (opened.file, opened.path)) = .ok (some ("\x60a.csv\x60", none)) := by
    decide +kernel
  cases read : Description.read options "\x60a.csv\x60" around with
  | mk outcome after =>
      rw [read] at shown
      cases outcome with
      | error error => cases shown
      | ok description =>
          obtain ⟨table, rest⟩ := Prod.mk.inj (Except.ok.inj shown)
          obtain ⟨samples, queries⟩ := Prod.mk.inj rest
          have sampled : description.samples ≠ [] := by rw [samples]; simp
          have word : TableWord "a.csv".toList := ⟨by decide +kernel, by decide +kernel⟩
          obtain ⟨-, refs, opened, resolved, leads⟩ := examples_lead_back quotes read sampled
          rw [resolved] at found
          obtain ⟨file, path⟩ := Prod.mk.inj (Option.some.inj (Except.ok.inj found))
          have again : Run.FoundAgain around opened := by
            constructor
            · rw [file]
              decide +kernel
            · rw [file]
              decide +kernel
            · intro other given
              rw [path] at given
              cases given
          rw [table] at refs leads
          exact ⟨quotes, description, after, rfl, sampled, queries, refs.mpr word,
            (leads again).2 _⟩

/-- Without the quotes that it needs the name of a table is cut at its blank: no query leads to it. -/
theorem examples_spaced :
    let around : Surroundings := { tree := .folder [("a b.csv", .file "1,2\n".toUTF8.toList)] }
    let dialect := Driver.sqlite.dialect
    let queries :=
      ["SELECT c1, c2 FROM a b.csv", "SELECT c1, c2 FROM a b.csv WHERE c1 = '1'",
        "SELECT c1, count(c1) FROM a b.csv GROUP BY c1",
        "SELECT c1, c2 FROM a b.csv ORDER BY c1 LIMIT 10"]
    ((Description.read {} "\x60a b.csv\x60" around).1.map fun description =>
        description.examples dialect) = .ok queries ∧
      (∀ query ∈ queries, Query.tableRefs query = ["a"]) ∧
      (Reference.resolve "a" around).1 = .ok none := by
  intro around dialect queries
  exact ⟨by decide +kernel, by decide +kernel, by decide +kernel⟩

end Description

end Tabular
