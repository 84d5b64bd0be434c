import Mathlib.Data.List.Induction
import Mathlib.Data.List.Nodup
import Tabular.Proofs.Query.Automaton
import Tabular.Proofs.Query.Substitution

/-!
# Fields in table position

Whether a field is a reference is decided field by field, with a note of whether a table list is open.
Without such a note: the field follows a word that starts a table list, or a comma, where the last word
before the comma that starts or ends a table list starts one.
-/

set_option autoImplicit false

namespace Tabular.Query

/-! ## Words -/

/-- A text is one of the given words, in any case of letters. -/
def IsAnyOf (words : List String) (text : List Char) : Prop :=
  ∃ word ∈ words, text.map Char.toUpper = word.toList

def Starts (text : List Char) : Prop :=
  IsAnyOf ["FROM", "JOIN"] text

def Ends (text : List Char) : Prop :=
  IsAnyOf ["WHERE", "GROUP", "HAVING", "WINDOW", "UNION", "ORDER", "LIMIT", "OFFSET", "FETCH", "FOR",
    "LEFT", "RIGHT", "CROSS", "INNER", "FULL", "LATERAL", "(SELECT"] text

theorem isAnyOf_iff {words : List String} {text : List Char} :
    IsAnyOf words text ↔ (words.map String.toList).contains (text.map Char.toUpper) = true := by
  rw [List.contains_iff_mem, List.mem_map]
  exact exists_congr fun word => and_congr_right fun _ => eq_comm

theorem starts_iff {text : List Char} : Starts text ↔ startsList text = true :=
  isAnyOf_iff

theorem ends_iff {text : List Char} : Ends text ↔ endsList text = true :=
  isAnyOf_iff

/-- A text without one parenthesis at its end, if there is one. -/
inductive Bares : List Char → List Char → Prop where
  | closed {name : List Char} : Bares (name ++ [')']) name
  | plain {name : List Char} (other : name.getLast? ≠ some ')') : Bares name name

/-- A field holds a reference if what is left of it without a parenthesis can be one. -/
structure Holds (text name : List Char) : Prop where
  bares : Bares text name
  nonempty : name ≠ []
  noComma : name ≠ [',']
  noEnd : ¬ Ends name

/-- A table list is open behind words: of those that start or end one, the last one starts one. -/
inductive ListOpen : List (List Char) → Prop where
  | started {before between : List (List Char)} {word : List Char} (starts : Starts word)
      (still : ∀ other ∈ between, ¬ Starts other ∧ ¬ Ends other) :
      ListOpen (before ++ word :: between)

/-- A table follows behind words: the last of them starts a table list, or is a comma in an open one. -/
inductive TableFollows : List (List Char) → Prop where
  | start {before : List (List Char)} {word : List Char} (starts : Starts word) :
      TableFollows (before ++ [word])
  | comma {before : List (List Char)} (listed : ListOpen before) : TableFollows (before ++ [[',']])

/-! ## The reference in a field -/

section

variable {text name : List Char}

theorem bares_iff : Bares text name ↔ Span.unclosed text = name := by
  constructor
  · intro bares
    cases bares with
    | closed => exact unclosed_append name
    | plain other =>
        rcases unclosed_cases text with same | closed
        · exact same.symm
        · rw [closed] at other
          exact absurd List.getLast?_concat other
  · rintro rfl
    rcases List.eq_nil_or_concat text with rfl | ⟨init, c, rfl⟩
    · exact .plain (by simp)
    · rw [List.concat_eq_append]
      by_cases closes : c = ')'
      · rw [closes, unclosed_append]
        exact .closed
      · rw [unclosed_of_ne closes]
        exact .plain (by simpa using closes)

theorem reference?_eq_some_iff : reference? text = some name ↔ Holds text name := by
  constructor
  · intro found
    have reference := isReference_of_reference? found
    simp only [reference?, Span.of?] at found
    split at found
    · cases found
    · refine ⟨bares_iff.mpr (Option.some.inj found), reference.nonempty, reference.noComma, ?_⟩
      exact fun ends => Bool.eq_false_iff.mp reference.noEnd (ends_iff.mp ends)
  · rintro ⟨bares, nonempty, noComma, noEnd⟩
    have noEnd := Bool.eq_false_iff.mpr fun ends => noEnd (ends_iff.mpr ends)
    simp [reference?, Span.of?, bares_iff.mp bares, nonempty, noComma, noEnd]

theorem of?_eq_some_iff {field : Field} {span : Span} :
    Span.of? field = some span ↔ Holds field.text span.name ∧ span.start = field.start := by
  obtain ⟨start, text⟩ := field
  rw [of?_eq, Option.map_eq_some_iff, ← reference?_eq_some_iff]
  constructor
  · rintro ⟨name, found, rfl⟩
    exact ⟨found, rfl⟩
  · rintro ⟨found, rfl⟩
    exact ⟨span.name, found, rfl⟩

end

/-! ## The words before a field -/

section

variable {words : List (List Char)} {last : List Char}

theorem listOpen_append_singleton :
    ListOpen (words ++ [last]) ↔ Starts last ∨ (¬ Starts last ∧ ¬ Ends last) ∧ ListOpen words := by
  constructor
  · intro listed
    generalize whole : words ++ [last] = all at listed
    cases listed with
    | @started before between word starts still =>
        rcases List.eq_nil_or_concat between with rfl | ⟨init, other, rfl⟩
        · obtain ⟨-, same⟩ := List.append_inj' whole rfl
          cases same
          exact .inl starts
        · rw [List.concat_eq_append] at whole still
          rw [← List.cons_append, ← List.append_assoc] at whole
          obtain ⟨rfl, same⟩ := List.append_inj' whole rfl
          cases same
          refine .inr ⟨still _ (List.mem_append_right _ List.mem_cons_self), .started starts ?_⟩
          exact fun other member => still other (List.mem_append_left _ member)
  · rintro (starts | ⟨neutral, ⟨starts, still⟩⟩)
    · exact .started starts (by simp)
    · rw [List.append_assoc, List.cons_append]
      refine .started starts fun other member => ?_
      rcases List.mem_append.mp member with inside | here
      · exact still other inside
      · rw [List.mem_singleton.mp here]
        exact neutral

/-- The note that is kept of the words says whether a table list is open behind them. -/
theorem foldl_inListAfter_iff (words : List (List Char)) :
    words.foldl inListAfter false = true ↔ ListOpen words := by
  -- The last word decides, so the induction is from behind.
  induction words using List.reverseRecOn with
  | nil =>
      refine iff_of_false Bool.false_ne_true fun listed => ?_
      generalize empty : [] = words at listed
      cases listed with
      | started _ _ => simp at empty
  | append_singleton words last ih =>
      rw [List.foldl_append, List.foldl_cons, List.foldl_nil, listOpen_append_singleton, starts_iff,
        ends_iff, ← ih, inListAfter]
      cases startsList last <;> cases endsList last <;> simp

theorem tableFollows_iff :
    TableFollows (words ++ [last]) ↔
      (words ++ [last]).foldl inListAfter false = true ∧ precedesTable last = true := by
  rw [foldl_inListAfter_iff, listOpen_append_singleton, precedesTable, Bool.or_eq_true, beq_iff_eq,
    ← starts_iff]
  constructor
  · intro follows
    generalize whole : words ++ [last] = all at follows
    cases follows with
    | start starts =>
        obtain ⟨-, same⟩ := List.append_inj' whole rfl
        cases same
        exact ⟨.inl starts, .inl starts⟩
    | comma listed =>
        obtain ⟨rfl, same⟩ := List.append_inj' whole rfl
        cases same
        have neutral : ¬ Starts [','] ∧ ¬ Ends [','] := by
          rw [starts_iff, ends_iff]
          decide
        exact ⟨.inr ⟨neutral, listed⟩, .inr rfl⟩
  · rintro ⟨starts | ⟨neutral, listed⟩, precedes⟩
    · exact .start starts
    · obtain rfl := precedes.resolve_left neutral.1
      exact .comma listed

end

/-! ## Spans and fields -/

/-- A span is that of a field behind a word that precedes a table while a list is open. -/
theorem mem_spansFrom_iff {inList : Bool} {fields : List Field} {span : Span} :
    span ∈ spansFrom inList fields ↔ ∃ front word field rest,
      fields = front ++ word :: field :: rest ∧
        ((front ++ [word]).map Field.text).foldl inListAfter inList = true ∧
        precedesTable word.text = true ∧ Span.of? field = some span := by
  induction fields generalizing inList with
  | nil => simp [spansFrom]
  | cons word fields ih =>
      rw [spansFrom, List.mem_append, ih, Option.mem_toList]
      constructor
      · rintro (here | ⟨front, later, field, rest, rfl, listed, precedes, found⟩)
        · split at here
          · rename_i expected
            obtain ⟨field, first, found⟩ := Option.bind_eq_some_iff.mp here
            obtain ⟨rest, rfl⟩ := List.head?_eq_some_iff.mp first
            obtain ⟨listed, precedes⟩ := Bool.and_eq_true_iff.mp expected
            exact ⟨[], word, field, rest, rfl, listed, precedes, found⟩
          · cases here
        · exact ⟨word :: front, later, field, rest, rfl, listed, precedes, found⟩
      · rintro ⟨front, before, field, rest, whole, listed, precedes, found⟩
        cases front with
        | nil =>
            obtain ⟨rfl, rfl⟩ := List.cons.inj whole
            have expected : (inListAfter inList word.text && precedesTable word.text) = true :=
              Bool.and_eq_true_iff.mpr ⟨listed, precedes⟩
            rw [if_pos expected]
            exact .inl found
        | cons first front =>
            obtain ⟨rfl, rfl⟩ := List.cons.inj whole
            exact .inr ⟨front, before, field, rest, rfl, listed, precedes, found⟩

theorem mem_tableSpans {sql : List Char} {span : Span} :
    span ∈ tableSpans sql ↔ ∃ front field rest, fieldsAt sql = front ++ field :: rest ∧
      span.start = field.start ∧ Holds field.text span.name ∧ TableFollows (front.map Field.text) := by
  rw [tableSpans, mem_spansFrom_iff]
  constructor
  · rintro ⟨front, word, field, rest, whole, listed, precedes, found⟩
    obtain ⟨holds, start⟩ := of?_eq_some_iff.mp found
    refine ⟨front ++ [word], field, rest, by rw [whole, List.append_cons], start, holds, ?_⟩
    rw [List.map_append] at listed ⊢
    exact tableFollows_iff.mpr ⟨listed, precedes⟩
  · rintro ⟨front, field, rest, whole, start, holds, follows⟩
    rcases List.eq_nil_or_concat front with rfl | ⟨init, word, rfl⟩
    · generalize empty : ([] : List Field).map Field.text = words at follows
      cases follows <;> simp at empty
    · rw [List.concat_eq_append] at whole follows
      rw [List.map_append] at follows
      obtain ⟨listed, precedes⟩ := tableFollows_iff.mp follows
      refine ⟨init, word, field, rest, by rw [whole, ← List.append_cons], ?_, precedes,
        of?_eq_some_iff.mpr ⟨holds, start⟩⟩
      rw [List.map_append]
      exact listed

private theorem exists_starts_of_follows {words : List (List Char)} (follows : TableFollows words) :
    ∃ word ∈ words, Starts word := by
  cases follows with
  | start starts => exact ⟨_, List.mem_append_right _ List.mem_cons_self, starts⟩
  | comma listed =>
      obtain ⟨starts, -⟩ := listed
      exact ⟨_, by simp, starts⟩

/-- The split of the fields at one of them is told from where the field starts. -/
theorem eq_of_fieldsAt_split {sql : List Char} {front front' rest rest' : List Field}
    {field field' : Field} (split : fieldsAt sql = front ++ field :: rest)
    (split' : fieldsAt sql = front' ++ field' :: rest') (same : field.start = field'.start) :
    front = front' ∧ field = field' := by
  have apart : ((fieldsAt sql).map Field.start).Nodup := by
    refine List.pairwise_map.mpr ((pairwise_fieldsAt sql).imp_of_mem ?_)
    intro first second member _ behind equal
    have size := List.length_pos_iff.mpr (ne_nil_of_mem_fieldsAt member)
    omega
  have here : ((fieldsAt sql).map Field.start)[front.length]? = some field.start := by
    simp [split]
  have here' : ((fieldsAt sql).map Field.start)[front'.length]? = some field.start := by
    simp [split', same]
  have within := (List.getElem?_eq_some_iff.mp here).1
  have size := (List.getElem?_inj within apart).mp (here.trans here'.symm)
  obtain ⟨fronts, later⟩ := List.append_inj (split.symm.trans split') size
  exact ⟨fronts, (List.cons.inj later).1⟩

private theorem sublist_spansFrom (inList : Bool) (fields : List Field) :
    (spansFrom inList fields).Sublist (fields.tail.filterMap Span.of?) := by
  induction fields generalizing inList with
  | nil => exact .slnil
  | cons word fields ih =>
      cases fields with
      | nil => simp [spansFrom]
      | cons field rest =>
          have later := ih (inListAfter inList word.text)
          have parts : (field :: rest).filterMap Span.of? =
              (Span.of? field).toList ++ rest.filterMap Span.of? := by
            cases found : Span.of? field <;> simp [found]
          rw [spansFrom, List.tail_cons, parts]
          refine .append ?_ later
          split
          · exact .refl _
          · exact List.nil_sublist _

/-- Spans come in order, and none of them reaches into the next one. -/
theorem pairwise_tableSpans (sql : List Char) :
    (tableSpans sql).Pairwise fun first second => first.stop ≤ second.start := by
  refine .sublist (sublist_spansFrom false (fieldsAt sql)) (List.pairwise_filterMap.mpr ?_)
  refine ((pairwise_fieldsAt sql).sublist (List.tail_sublist _)).imp ?_
  intro first second behind span found span' found'
  obtain ⟨holds, start⟩ := of?_eq_some_iff.mp found
  obtain ⟨-, start'⟩ := of?_eq_some_iff.mp found'
  have size := congrArg List.length
    (isReference_of_reference? (reference?_eq_some_iff.mpr holds)).split
  rw [List.length_append] at size
  rw [Span.stop]
  omega

/-- The text of a query at a span is its name. -/
theorem exists_split_of_mem_tableSpans {sql : List Char} {span : Span}
    (member : span ∈ tableSpans sql) :
    ∃ before after, sql = before ++ span.name ++ after ∧ span.start = before.length := by
  obtain ⟨front, field, rest, whole, start, holds, -⟩ := mem_tableSpans.mp member
  have inside : field ∈ fieldsAt sql := by simp [whole]
  obtain ⟨before, after, rfl, place⟩ := exists_split_of_mem_fieldsAt inside
  have reference := isReference_of_reference? (reference?_eq_some_iff.mpr holds)
  refine ⟨before, field.text.drop span.name.length ++ after, ?_, start.trans place⟩
  rw [← List.append_assoc, List.append_assoc before span.name, reference.split]

/-! ## The names of the tables -/

section

variable {α : Type} [BEq α] [LawfulBEq α]

private theorem idxOf_lt_of_filter {keeps : α → Bool} {list : List α} {first second : α}
    (kept : keeps first = true) (kept' : keeps second = true)
    (before : (list.filter keeps).idxOf first < (list.filter keeps).idxOf second) :
    list.idxOf first < list.idxOf second := by
  induction list with
  | nil => cases before
  | cons head list ih =>
      cases keep : keeps head with
      | true =>
          rw [List.filter_cons_of_pos keep] at before
          by_cases here : head = first
          · subst here
            have other : head ≠ second := by
              rintro rfl
              exact Nat.lt_irrefl _ before
            rw [List.idxOf_cons_self, List.idxOf_cons_ne _ other]
            exact Nat.succ_pos _
          · have other : head ≠ second := by
              rintro rfl
              rw [List.idxOf_cons_self] at before
              cases before
            rw [List.idxOf_cons_ne _ here, List.idxOf_cons_ne _ other] at before ⊢
            exact Nat.succ_lt_succ (ih (Nat.lt_of_succ_lt_succ before))
      | false =>
          rw [List.filter_cons_of_neg (by simp [keep])] at before
          have other : head ≠ first := by
            rintro rfl
            exact absurd (kept.symm.trans keep) (by decide)
          have other' : head ≠ second := by
            rintro rfl
            exact absurd (kept'.symm.trans keep) (by decide)
          rw [List.idxOf_cons_ne _ other, List.idxOf_cons_ne _ other']
          exact Nat.succ_lt_succ (ih before)

/-- Without their later occurrences, the members of a list are in the order of the first ones. -/
theorem pairwise_idxOf_eraseDups (list : List α) :
    list.eraseDups.Pairwise fun first second => list.idxOf first < list.idxOf second := by
  induction size : list.length using Nat.strongRecOn generalizing list with
  | ind size ih =>
    cases list with
    | nil => exact .nil
    | cons head rest =>
        subst size
        have shorter := List.length_filter_le (fun other => !other == head) rest
        have differs : ∀ other ∈ (rest.filter fun other => !other == head).eraseDups,
            other ≠ head := by
          simp [List.mem_eraseDups]
        rw [List.eraseDups_cons]
        refine List.pairwise_cons.mpr ⟨?_, ?_⟩
        · intro other member
          rw [List.idxOf_cons_self, List.idxOf_cons_ne _ (differs other member).symm]
          exact Nat.succ_pos _
        · refine (ih _ (Nat.lt_succ_of_le shorter) _ rfl).imp_of_mem ?_
          intro first second member member' before
          have other := differs first member
          have other' := differs second member'
          rw [List.idxOf_cons_ne _ other.symm, List.idxOf_cons_ne _ other'.symm]
          exact Nat.succ_lt_succ (idxOf_lt_of_filter (by simpa using other) (by simpa using other')
            before)

end

theorem tableRefs_nodup (sql : String) : (tableRefs sql).Nodup := by
  refine (pairwise_idxOf_eraseDups _).imp ?_
  rintro first _ before rfl
  exact Nat.lt_irrefl _ before

theorem mem_tableRefs {sql reference : String} :
    reference ∈ tableRefs sql ↔
      ∃ span ∈ tableSpans sql.toList, span.name = reference.toList := by
  rw [tableRefs, List.mem_eraseDups, List.mem_map]
  refine exists_congr fun span => and_congr_right fun _ => ?_
  rw [← String.toList_inj, String.toList_ofList]

/-- The fields in table position are those behind a word that starts a table list, or behind a comma
in an open one, if what is left of them without a parenthesis can be a reference. Their spans are the
bytes of the references, in order and apart from each other, and the tables of a query are their
names. -/
theorem mem_tableSpans_iff_follows (sql : String) :
    (∀ front field rest, fieldsAt sql.toList = front ++ field :: rest → ∀ name,
      ⟨name, field.start⟩ ∈ tableSpans sql.toList ↔
        Holds field.text name ∧ TableFollows (front.map Field.text)) ∧
      (∀ span ∈ tableSpans sql.toList, ∃ field ∈ fieldsAt sql.toList, span.start = field.start) ∧
      (∀ span ∈ tableSpans sql.toList, span.stop ≤ sql.toList.length ∧
        (span.byteRange sql.toList).1 < (span.byteRange sql.toList).2 ∧
        span.byteRange sql.toList =
          (bytesBefore sql.toList span.start, bytesBefore sql.toList span.stop) ∧
        ((Utf8.encode sql.toList).take (span.byteRange sql.toList).2).drop
          (span.byteRange sql.toList).1 = Utf8.encode span.name) ∧
      (tableSpans sql.toList).Pairwise (fun first second =>
        (first.byteRange sql.toList).2 ≤ (second.byteRange sql.toList).1) ∧
      ((tableRefs sql).Nodup ∧
        (∀ name, name ∈ tableRefs sql ↔
          ∃ span ∈ tableSpans sql.toList, span.name = name.toList) ∧
        (tableRefs sql).Pairwise fun first second =>
          ((tableSpans sql.toList).map fun span => String.ofList span.name).idxOf first <
            ((tableSpans sql.toList).map fun span => String.ofList span.name).idxOf second) ∧
      ((∀ field ∈ fieldsAt sql.toList, ¬ Starts field.text) →
        tableSpans sql.toList = [] ∧ tableRefs sql = []) := by
  refine ⟨?fields, ?starts, ?bytes, ?ordered,
    ⟨tableRefs_nodup sql, fun _ => mem_tableRefs, pairwise_idxOf_eraseDups _⟩, ?none⟩
  case fields =>
    intro front field rest whole name
    rw [mem_tableSpans]
    constructor
    · rintro ⟨front', field', rest', whole', start, found⟩
      obtain ⟨rfl, rfl⟩ := eq_of_fieldsAt_split whole whole' start
      exact found
    · intro found
      exact ⟨front, field, rest, whole, rfl, found⟩
  case starts =>
    intro span member
    obtain ⟨front, field, rest, whole, start, -, -⟩ := mem_tableSpans.mp member
    exact ⟨field, by simp [whole], start⟩
  case bytes =>
    intro span member
    obtain ⟨before, after, whole, start⟩ := exists_split_of_mem_tableSpans member
    obtain ⟨range, bytes⟩ := span.bytes_of_split whole start
    obtain ⟨_, _, _, -, -, holds, -⟩ := mem_tableSpans.mp member
    have size := List.length_pos_iff.mpr (Utf8.encode_ne_nil holds.nonempty)
    refine ⟨?_, ?_, range, bytes⟩
    · rw [whole, Span.stop, start, List.length_append, List.length_append]
      exact Nat.le_add_right _ _
    · rw [← bytes, List.length_drop, List.length_take] at size
      omega
  case ordered =>
    refine (pairwise_tableSpans sql.toList).imp_of_mem ?_
    intro first second member member' behind
    obtain ⟨_, _, whole, start⟩ := exists_split_of_mem_tableSpans member
    obtain ⟨_, _, whole', start'⟩ := exists_split_of_mem_tableSpans member'
    rw [(first.bytes_of_split whole start).1, (second.bytes_of_split whole' start').1]
    exact bytesBefore_mono sql.toList behind
  case none =>
    intro absent
    have empty : tableSpans sql.toList = [] := by
      refine List.eq_nil_iff_forall_not_mem.mpr fun span member => ?_
      obtain ⟨front, field, rest, whole, -, -, follows⟩ := mem_tableSpans.mp member
      obtain ⟨word, inside, starts⟩ := exists_starts_of_follows follows
      obtain ⟨other, inFront, rfl⟩ := List.mem_map.mp inside
      refine absent other ?_ starts
      rw [whole]
      exact List.mem_append_left _ inFront
    rw [tableRefs, empty]
    exact ⟨rfl, rfl⟩

/-- Words in any case of letters, a query within parentheses, a comma in front of a word that ends the
list, a letter of two bytes, tables that are there twice, and a comma behind the end of the list. -/
theorem mem_tableSpans_iff_follows_nested :
    let sql := "From é, (SELECT c FROM b) s, Where x JOIN é, b) Order c, d"
    let front := (fieldsAt sql.toList).take 14
    (tableSpans sql.toList).map (Span.byteRange sql.toList) =
        [(5, 7), (24, 25), (43, 45), (47, 48)] ∧
      (∀ span ∈ tableSpans sql.toList,
        ((Utf8.encode sql.toList).take (span.byteRange sql.toList).2).drop
          (span.byteRange sql.toList).1 = Utf8.encode span.name) ∧
      fieldsAt sql.toList = front ++ ⟨45, "b)".toList⟩ :: (fieldsAt sql.toList).drop 15 ∧
      Holds "b)".toList "b".toList ∧ TableFollows (front.map Field.text) ∧
      (tableRefs sql).Nodup ∧ tableRefs sql = ["é", "b"] := by
  intro sql front
  obtain ⟨fields, -, bytes, -, ⟨distinct, -⟩, -⟩ := mem_tableSpans_iff_follows sql
  have split : fieldsAt sql.toList =
      front ++ ⟨45, "b)".toList⟩ :: (fieldsAt sql.toList).drop 15 := by decide +kernel
  have there : ⟨"b".toList, 45⟩ ∈ tableSpans sql.toList := by decide +kernel
  obtain ⟨holds, follows⟩ := (fields _ _ _ split _).mp there
  exact ⟨by decide +kernel, fun span member => (bytes span member).2.2.2, split, holds, follows,
    distinct, by decide +kernel⟩

end Tabular.Query
