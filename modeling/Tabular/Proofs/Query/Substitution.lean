import Tabular.Proofs.Engine.Dialect
import Tabular.Proofs.Query.Piece
import Tabular.Query.Rewriter

/-!
# Substituting references

References can be replaced one after the other, each time in the text that the one before has left,
or all at once. Names between quotes do not disturb the fields around them, and take the place of a
reference in its table list. So both ways give the same query, unless the word that is replaced
starts a table list of its own or a name is a reference that is replaced later.
-/

set_option autoImplicit false

namespace Tabular

namespace Query

/-! ## All references at once -/

/-- The rest of a query that starts at a position, with every reference that has a table replaced by
its name. -/
def substituteSpans (table : List Char → Option (List Char)) (position : Nat) (rest : List Char) :
    List Span → List Char
  | [] => rest
  | span :: spans =>
    match table span.name with
    | none => substituteSpans table position rest spans
    | some name =>
      rest.take (span.start - position) ++ name ++
        substituteSpans table span.stop (rest.drop (span.stop - position)) spans

def ofText (table : String → Option String) (name : List Char) : Option (List Char) :=
  (table (String.ofList name)).map String.toList

/-- A query with every reference that has a table replaced by the name of that table, all at once.
Nothing else changes. -/
def substitute (table : String → Option String) (sql : String) : String :=
  String.ofList (substituteSpans (ofText table) 0 sql.toList (tableSpans sql.toList))

def single (raw name : List Char) (other : List Char) : Option (List Char) :=
  if other = raw then some name else none

private theorem splice_filter (raw name : List Char) (position : Nat) (rest : List Char)
    (spans : List Span) :
    splice name position rest (spans.filter fun span => span.name == raw) =
      substituteSpans (single raw name) position rest spans := by
  induction spans generalizing position rest with
  | nil => rfl
  | cons span spans ih =>
      by_cases same : span.name = raw
      · simp [substituteSpans, single, same, splice, ih]
      · simp [substituteSpans, single, same, ih]

/-! ## The reference in a field -/

def reference? (text : List Char) : Option (List Char) :=
  (Span.of? ⟨0, text⟩).map Span.name

theorem of?_eq (position : Nat) (text : List Char) :
    Span.of? ⟨position, text⟩ = (reference? text).map fun name => ⟨name, position⟩ := by
  simp only [reference?, Span.of?]
  split <;> rfl

theorem unclosed_append (text : List Char) : Span.unclosed (text ++ [')']) = text := by
  simp [Span.unclosed]

theorem unclosed_of_ne {text : List Char} {c : Char} (other : c ≠ ')') :
    Span.unclosed (text ++ [c]) = text ++ [c] := by
  simp [Span.unclosed, other]

theorem unclosed_cases (text : List Char) :
    text = Span.unclosed text ∨ text = Span.unclosed text ++ [')'] := by
  rcases List.eq_nil_or_concat text with rfl | ⟨init, c, rfl⟩
  · exact .inl rfl
  · rw [List.concat_eq_append]
    by_cases closes : c = ')'
    · rw [closes, unclosed_append]
      exact .inr rfl
    · rw [unclosed_of_ne closes]
      exact .inl rfl

/-- What is known of the reference in a field. -/
structure IsReference (name text : List Char) : Prop where
  nonempty : name ≠ []
  noComma : name ≠ [',']
  noEnd : endsList name = false
  within : text = name ∨ text = name ++ [')']

theorem isReference_of_reference? {name text : List Char} (found : reference? text = some name) :
    IsReference name text := by
  simp only [reference?, Span.of?] at found
  split at found
  · cases found
  · rename_i refused
    cases found
    simp only [Bool.or_eq_true, List.isEmpty_iff, beq_iff_eq, not_or, Bool.not_eq_true] at refused
    exact ⟨refused.1.1, refused.1.2, refused.2, unclosed_cases text⟩

theorem IsReference.split {name text : List Char} (reference : IsReference name text) :
    name ++ text.drop name.length = text := by
  rcases reference.within with same | same <;> simp [same]

/-! ## Words that change a table list -/

theorem startsList_append_paren (name : List Char) : startsList (name ++ [')']) = false := by
  have noParen : ∀ word ∈ listStarts, word.getLast? ≠ some ')' := by decide
  cases starts : startsList (name ++ [')']) with
  | false => rfl
  | true =>
      have member := List.contains_iff_mem.mp starts
      exact absurd (by simp) (noParen _ member)

theorem endsList_append_paren (name : List Char) : endsList (name ++ [')']) = false := by
  have noParen : ∀ word ∈ listEnds, word.getLast? ≠ some ')' := by decide
  cases ends : endsList (name ++ [')']) with
  | false => rfl
  | true =>
      have member := List.contains_iff_mem.mp ends
      exact absurd (by simp) (noParen _ member)

/-- A word that leaves a table list as it is, and does not stand before a table. -/
structure Neutral (word : List Char) : Prop where
  noStart : startsList word = false
  noEnd : endsList word = false
  noComma : word ≠ [',']

theorem Neutral.inListAfter {word : List Char} (neutral : Neutral word) (inList : Bool) :
    inListAfter inList word = inList := by
  simp [Query.inListAfter, neutral.noStart, neutral.noEnd]

theorem Neutral.precedesTable {word : List Char} (neutral : Neutral word) :
    precedesTable word = false := by
  simp [Query.precedesTable, neutral.noStart, neutral.noComma]

private theorem IsReference.neutral {name text : List Char} (reference : IsReference name text)
    (noStart : startsList name = false) : Neutral text := by
  rcases reference.within with rfl | rfl
  · exact ⟨noStart, reference.noEnd, reference.noComma⟩
  · refine ⟨startsList_append_paren name, endsList_append_paren name, fun same => ?_⟩
    exact absurd (congrArg List.getLast? same) (by simp)

/-! ## Names between quotes -/

/-- A name between quotes. It is read as one field, or the beginning of one. -/
inductive Enclosed : List Char → Prop where
  | quoted {quote : Char} {inside : List Char} (isQuote : isQuote quote = true)
      (read : openAfter? (some quote) (inside ++ [quote]) = some none) :
      Enclosed (quote :: (inside ++ [quote]))

variable {name : List Char}

theorem Enclosed.read (enclosed : Enclosed name) : openAfter? none name = some none := by
  cases enclosed with
  | quoted isQuote read => simpa [openAfter?, isQuote] using read

theorem Enclosed.ne_nil (enclosed : Enclosed name) : name ≠ [] := by
  cases enclosed
  simp

private theorem isQuote_toUpper {c : Char} (quote : isQuote c = true) :
    isQuote c.toUpper = true := by
  simp only [isQuote, Bool.or_eq_true, beq_iff_eq] at quote
  rcases quote with (rfl | rfl) | rfl <;> decide

theorem Enclosed.neutral (enclosed : Enclosed name) (more : List Char) :
    Neutral (name ++ more) := by
  have noQuote : (listStarts ++ listEnds ++ [[',']]).all (fun word => word.head?.all (!isQuote ·)) =
      true := by decide
  cases enclosed with
  | @quoted quote inside quotes _ =>
      -- No word of a table list begins with a quote.
      have absent (word : List Char) (member : word ∈ listStarts ++ listEnds ++ [[',']])
          (c : Char) (quotes : isQuote c = true) (rest : List Char) : c :: rest ≠ word := by
        rintro rfl
        have free := List.all_eq_true.mp noQuote _ member
        simp [quotes] at free
      refine ⟨?_, ?_, absent _ (by simp) _ quotes _⟩
      · refine Bool.eq_false_iff.mpr fun starts => ?_
        have member := List.mem_append_left listEnds (List.contains_iff_mem.mp starts)
        exact absent _ (List.mem_append_left _ member) _ (isQuote_toUpper quotes) _ rfl
      · refine Bool.eq_false_iff.mpr fun ends => ?_
        have member := List.mem_append_right listStarts (List.contains_iff_mem.mp ends)
        exact absent _ (List.mem_append_left _ member) _ (isQuote_toUpper quotes) _ rfl

private theorem Enclosed.reference? (enclosed : Enclosed name) :
    reference? name = some name ∧ Query.reference? (name ++ [')']) = some name := by
  have neutral := enclosed.neutral []
  rw [List.append_nil] at neutral
  have bare : Span.unclosed name = name := by
    cases enclosed with
    | @quoted quote inside quotes _ =>
        rw [← List.cons_append]
        refine unclosed_of_ne ?_
        rintro rfl
        exact absurd quotes (by decide)
  constructor
  · simp [Query.reference?, Span.of?, bare, neutral.noEnd, neutral.noComma, enclosed.ne_nil]
  · simp [Query.reference?, Span.of?, unclosed_append, neutral.noEnd, neutral.noComma,
      enclosed.ne_nil]

end Query

namespace Dialect

variable (dialect : Dialect)

/-- The quotes of a dialect enclose any name: a quote inside is doubled, so it closes a run and
opens the next one. -/
theorem enclosed_quoteIdent (quotes : Query.isQuote dialect.quote = true) (name : String) :
    Query.Enclosed (dialect.quoteIdent name).toList := by
  have inside (letters : List Char) :
      Query.openAfter? (some dialect.quote)
        (letters.flatMap dialect.doubled ++ [dialect.quote]) = some none := by
    induction letters with
    | nil => simp [Query.openAfter?]
    | cons c letters ih =>
        by_cases same : c = dialect.quote
        · simpa [same, doubled, Query.openAfter?, quotes] using ih
        · simpa [same, doubled, Query.openAfter?] using ih
  rw [toList_quoteIdent]
  exact .quoted quotes (inside name.toList)

end Dialect

theorem Driver.isQuote_quote (driver : Driver) : Query.isQuote driver.dialect.quote = true := by
  cases driver <;> rfl

namespace Query

/-! ## Pieces with their references replaced -/

namespace Piece

/-- A field with the reference in it replaced. -/
def renamedText (table : List Char → Option (List Char)) (text : List Char) : List Char :=
  match reference? text with
  | none => text
  | some name =>
    match table name with
    | none => text
    | some new => new ++ text.drop name.length

/-- The pieces with the references among them replaced. A reference is expected in the next field or
not. -/
def renamed (table : List Char → Option (List Char)) (inList expected : Bool) :
    List Piece → List Piece
  | [] => []
  | gap c :: pieces => gap c :: renamed table inList expected pieces
  | field text :: pieces =>
    field (if expected then renamedText table text else text) ::
      renamed table (inListAfter inList text) (inListAfter inList text && precedesTable text) pieces

def spansFrom (inList expected : Bool) (position : Nat) : List Piece → List Span
  | [] => []
  | gap _ :: pieces => spansFrom inList expected (position + 1) pieces
  | field text :: pieces =>
    (if expected then Span.of? ⟨position, text⟩ else none).toList ++
      spansFrom (inListAfter inList text) (inListAfter inList text && precedesTable text)
        (position + text.length) pieces

theorem spansFrom_fieldsFrom (inList expected : Bool) (position : Nat) (pieces : List Piece) :
    (if expected then (fieldsFrom position pieces).head?.bind Span.of? else none).toList ++
        Query.spansFrom inList (fieldsFrom position pieces) =
      spansFrom inList expected position pieces := by
  induction pieces generalizing inList expected position with
  | nil => cases expected <;> rfl
  | cons piece pieces ih =>
      cases piece with
      | gap c => exact ih inList expected (position + 1)
      | field text => simp only [fieldsFrom, spansFrom, Query.spansFrom, ← ih]; rfl

section RenamedText

variable {table : List Char → Option (List Char)} {text raw new : List Char}

theorem renamedText_of_no_reference (found : reference? text = none) :
    renamedText table text = text := by
  rw [renamedText, found]

theorem renamedText_of_no_table (found : reference? text = some raw) (lookup : table raw = none) :
    renamedText table text = text := by
  simp only [renamedText, found, lookup]

theorem renamedText_of_table (found : reference? text = some raw) (lookup : table raw = some new) :
    renamedText table text = new ++ text.drop raw.length := by
  simp only [renamedText, found, lookup]

end RenamedText

variable {pieces : List Piece} {table : List Char → Option (List Char)}

theorem tableSpans_joined (cut : Cut pieces) :
    tableSpans (joined pieces) = spansFrom false false 0 pieces := by
  rw [tableSpans, fieldsAt, fieldsFrom_joined cut, ← spansFrom_fieldsFrom]
  rfl

/-- Replacing by position is replacing piece by piece. `before` is the text since the last reference
that was replaced. -/
theorem substituteSpans_joined (table : List Char → Option (List Char)) (inList expected : Bool)
    (position : Nat) (before : List Char) (pieces : List Piece) :
    substituteSpans table position (before ++ joined pieces)
        (spansFrom inList expected (position + before.length) pieces) =
      before ++ joined (renamed table inList expected pieces) := by
  induction pieces generalizing inList expected position before with
  | nil => rfl
  | cons piece pieces ih =>
      cases piece with
      | gap c =>
          have more := ih inList expected position (before ++ [c])
          simpa [spansFrom, renamed, ← Nat.add_assoc] using more
      | field text =>
          have kept := ih (inListAfter inList text) (inListAfter inList text && precedesTable text)
            position (before ++ text)
          simp only [List.length_append, ← Nat.add_assoc, List.append_assoc] at kept
          cases expected with
          | false => simpa [spansFrom, renamed] using kept
          | true =>
              cases found : reference? text with
              | none => simpa [spansFrom, renamed, renamedText, of?_eq, found] using kept
              | some name =>
                  cases lookup : table name with
                  | none =>
                      simpa [spansFrom, renamed, renamedText, of?_eq, found, substituteSpans,
                        lookup] using kept
                  | some new =>
                      have split := (isReference_of_reference? found).split
                      have size := congrArg List.length split
                      rw [List.length_append] at size
                      have more := ih (inListAfter inList text)
                        (inListAfter inList text && precedesTable text)
                        (position + before.length + name.length) (text.drop name.length)
                      rw [Nat.add_assoc _ name.length, size] at more
                      have rest : (before ++ (text ++ joined pieces)).drop
                          (before.length + name.length) =
                            text.drop name.length ++ joined pieces := by
                        rw [List.drop_append, List.drop_append_of_le_length (by omega)]
                        simp
                      simp only [spansFrom, if_true, of?_eq, found, Option.map_some,
                        Option.toList_some, List.singleton_append, substituteSpans, lookup,
                        Span.stop, joined_field, renamed, renamedText]
                      rw [Nat.add_sub_cancel_left, List.take_left,
                        show position + before.length + name.length - position =
                          before.length + name.length by omega, rest, more]
                      simp

theorem replaceSpans_joined (cut : Cut pieces) (raw name : List Char) :
    replaceSpans (joined pieces) raw name =
      joined (renamed (single raw name) false false pieces) := by
  rw [replaceSpans, splice_filter, tableSpans_joined cut]
  exact substituteSpans_joined (single raw name) false false 0 [] pieces

private theorem substitute_joined (cut : Cut pieces) (table : String → Option String) :
    substitute table (String.ofList (joined pieces)) =
      String.ofList (joined (renamed (ofText table) false false pieces)) := by
  rw [substitute, String.toList_ofList, tableSpans_joined cut]
  exact congrArg String.ofList (substituteSpans_joined (ofText table) false false 0 [] pieces)

/-! ## Names between quotes keep fields apart -/

private theorem apart_renamed {inList expected : Bool} (apart : Apart pieces) :
    Apart (renamed table inList expected pieces) := by
  cases pieces with
  | nil => trivial
  | cons piece pieces =>
      cases piece with
      | gap c => trivial
      | field text =>
          have comma : text = [','] := apart
          have none : renamedText table [','] = [','] := rfl
          cases expected
          · exact comma
          · rw [comma]
            exact none

private theorem cut_field_renamed {text : List Char} {after : Option Char} {rest : List Piece}
    (named : ∀ raw new, table raw = some new → Enclosed new) (nonempty : text ≠ [])
    (read : openAfter? none text = some after) (apart : rest = [] ∨ after = none ∧ Apart rest)
    (cut : Cut rest) :
    Cut (field (renamedText table text) :: rest) := by
  cases found : reference? text with
  | none =>
      rw [renamedText_of_no_reference found]
      exact .field nonempty read apart cut
  | some name =>
      cases lookup : table name with
      | none =>
          rw [renamedText_of_no_table found lookup]
          exact .field nonempty read apart cut
      | some new =>
          have enclosed := named name new lookup
          rw [renamedText_of_table found lookup]
          have filled : new ++ text.drop name.length ≠ [] :=
            List.append_ne_nil_of_left_ne_nil enclosed.ne_nil _
          have closed : openAfter? none (new ++ text.drop name.length) = some none := by
            rw [openAfter?_append enclosed.read]
            rcases (isReference_of_reference? found).within with rfl | rfl
            · simp [openAfter?]
            · simp [openAfter?, isQuote, isBare, isSeparator, Text.isBlank]
          exact .field filled closed (apart.imp id fun apart => ⟨rfl, apart.2⟩) cut

theorem Cut.renamed (cut : Cut pieces) (named : ∀ raw new, table raw = some new → Enclosed new)
    (inList expected : Bool) : Cut (renamed table inList expected pieces) := by
  induction cut generalizing inList expected with
  | nil => exact .nil
  | gap separates _ ih => exact .gap separates (ih inList expected)
  | comma _ ih =>
      have none : renamedText table [','] = [','] := rfl
      rw [Piece.renamed, none, ite_self]
      exact .comma (ih _ _)
  | @field text after pieces nonempty read apart _ ih =>
      rw [Piece.renamed]
      have still : Piece.renamed table (inListAfter inList text)
          (inListAfter inList text && precedesTable text) pieces = [] ∨ after = none ∧
            Apart (Piece.renamed table (inListAfter inList text)
              (inListAfter inList text && precedesTable text) pieces) := by
        rcases apart with rfl | ⟨closed, apart⟩
        · exact .inl rfl
        · exact .inr ⟨closed, apart_renamed apart⟩
      cases expected with
      | false => exact .field nonempty read still (ih _ _)
      | true => exact cut_field_renamed named nonempty read still (ih _ _)

/-! ## One reference after the other -/

/-- The tables that references have when some are replaced first and others then. -/
def andThen (first second : List Char → Option (List Char)) (raw : List Char) :
    Option (List Char) :=
  match first raw with
  | some new => some ((second new).getD new)
  | none => second raw

variable {first second : List Char → Option (List Char)}

theorem renamedText_renamedText (named : ∀ raw new, first raw = some new → Enclosed new)
    (text : List Char) :
    renamedText second (renamedText first text) = renamedText (andThen first second) text := by
  cases found : reference? text with
  | none => simp only [renamedText_of_no_reference found]
  | some name =>
      cases lookup : first name with
      | none => simp only [renamedText, found, lookup, andThen]
      | some new =>
          have enclosed := named name new lookup
          have within : reference? (new ++ text.drop name.length) = some new := by
            rcases (isReference_of_reference? found).within with rfl | rfl
            · simpa using enclosed.reference?.1
            · simpa using enclosed.reference?.2
          cases again : second new <;>
            simp [renamedText, found, lookup, andThen, within, again]

private theorem neutral_renamedText
    (named : ∀ raw new, first raw = some new → Enclosed new ∧ startsList raw = false)
    (text : List Char) :
    renamedText first text = text ∨ Neutral text ∧ Neutral (renamedText first text) := by
  cases found : reference? text with
  | none => exact .inl (renamedText_of_no_reference found)
  | some name =>
      cases lookup : first name with
      | none => exact .inl (renamedText_of_no_table found lookup)
      | some new =>
          obtain ⟨enclosed, noStart⟩ := named name new lookup
          rw [renamedText_of_table found lookup]
          exact .inr ⟨(isReference_of_reference? found).neutral noStart,
            enclosed.neutral (text.drop name.length)⟩

/-- References that do not start a table list can be replaced before the others: the fields in table
position stay the same. -/
theorem renamed_renamed
    (named : ∀ raw new, first raw = some new → Enclosed new ∧ startsList raw = false)
    (inList expected : Bool) (pieces : List Piece) :
    renamed second inList expected (renamed first inList expected pieces) =
      renamed (andThen first second) inList expected pieces := by
  induction pieces generalizing inList expected with
  | nil => rfl
  | cons piece pieces ih =>
      cases piece with
      | gap c => simp only [renamed, ih]
      | field text =>
          cases expected with
          | false =>
              simp only [renamed, Bool.false_eq_true, if_false, ih]
          | true =>
              have texts : renamedText second (renamedText first text) =
                  renamedText (andThen first second) text :=
                renamedText_renamedText (fun raw new lookup => (named raw new lookup).1) text
              rcases neutral_renamedText named text with same | ⟨before, after⟩
              · simp only [renamed, if_true, same, ih]
                rw [same] at texts
                rw [texts]
              · simp only [renamed, if_true, texts, after.inListAfter, after.precedesTable,
                  before.inListAfter, before.precedesTable, ih]

theorem renamed_id (same : ∀ raw new, table raw = some new → new = raw) (inList expected : Bool)
    (pieces : List Piece) : renamed table inList expected pieces = pieces := by
  induction pieces generalizing inList expected with
  | nil => rfl
  | cons piece pieces ih =>
      cases piece with
      | gap c => simp only [renamed, ih]
      | field text =>
          have kept : renamedText table text = text := by
            cases found : reference? text with
            | none => exact renamedText_of_no_reference found
            | some name =>
                cases lookup : table name with
                | none => exact renamedText_of_no_table found lookup
                | some new =>
                    rw [renamedText_of_table found lookup, same name new lookup]
                    exact (isReference_of_reference? found).split
          simp only [renamed, kept, ite_self, ih]

end Piece

/-! ## A run of replacements -/

/-- Replace references by names, one after the other. -/
def replaceAll (tables : List (String × String)) (sql : String) : String :=
  tables.foldl (fun sql entry => replaceReference sql entry.1 entry.2) sql

/-- Whether references can be replaced one after the other: no name is a reference that is replaced
later by another name. -/
def Settled (tables : List (String × String)) : Prop :=
  tables.Pairwise fun earlier later => earlier.2 = later.1 → later.2 = later.1

theorem replaceReference_self (sql raw : String) : replaceReference sql raw raw = sql := by
  obtain ⟨pieces, cut, joined⟩ := Piece.exists_cut sql.toList
  have same : ∀ other new, single raw.toList raw.toList other = some new → new = other := by
    intro other new found
    rw [single] at found
    split at found
    · rename_i same
      rw [same]
      exact (Option.some.inj found).symm
    · cases found
  rw [replaceReference, ← joined, Piece.replaceSpans_joined cut, Piece.renamed_id same, joined,
    String.ofList_toList]

private theorem andThen_lookup {raw name : String} {tables : List (String × String)}
    (settled : ∀ later ∈ tables, name = later.1 → later.2 = later.1) :
    Piece.andThen (single raw.toList name.toList) (ofText fun other => tables.lookup other) =
      ofText fun other => ((raw, name) :: tables).lookup other := by
  funext other
  by_cases same : other = raw.toList
  · subst same
    have kept : ((ofText fun other => tables.lookup other) name.toList).getD name.toList =
        name.toList := by
      rw [ofText, String.ofList_toList]
      cases found : tables.lookup name with
      | none => rfl
      | some new =>
          obtain ⟨before, after, rfl, -⟩ := List.lookup_eq_some_iff.mp found
          have unchanged : new = name := settled (name, new) (by simp) rfl
          rw [unchanged]
          rfl
    have first : single raw.toList name.toList raw.toList = some name.toList := if_pos rfl
    simp only [Piece.andThen, first, kept]
    simp only [ofText, String.ofList_toList, List.lookup_cons_self, Option.map_some]
  · have differs : (String.ofList other == raw) = false := by
      refine beq_false_of_ne fun equal => same ?_
      rw [← equal, String.toList_ofList]
    simp [Piece.andThen, single, same, ofText, List.lookup_cons, differs]

/-- One after the other or all at once, references are replaced by the same names. -/
theorem replaceAll_eq_substitute {tables : List (String × String)} (settled : Settled tables)
    (named : ∀ entry ∈ tables, Enclosed entry.2.toList ∧ startsList entry.1.toList = false)
    (sql : String) : replaceAll tables sql = substitute (fun raw => tables.lookup raw) sql := by
  obtain ⟨pieces, cut, joined⟩ := Piece.exists_cut sql.toList
  have text : sql = String.ofList (Piece.joined pieces) := by rw [joined, String.ofList_toList]
  rw [text, Piece.substitute_joined cut]
  clear text joined
  induction tables generalizing pieces with
  | nil =>
      rw [Piece.renamed_id (by simp [ofText])]
      rfl
  | cons entry tables ih =>
      obtain ⟨raw, name⟩ := entry
      have current : ∀ other new, single raw.toList name.toList other = some new →
          Enclosed new ∧ startsList other = false := by
        intro other new found
        rw [single] at found
        split at found
        · rename_i same
          cases found
          rw [same]
          exact named _ List.mem_cons_self
        · cases found
      have still := cut.renamed (fun other new found => (current other new found).1) false false
      rw [replaceAll, List.foldl_cons, replaceReference, String.toList_ofList,
        Piece.replaceSpans_joined cut, ← replaceAll, ih (List.pairwise_cons.mp settled).2
        (fun entry member => named entry (List.mem_cons_of_mem _ member)) _ still,
        Piece.renamed_renamed current, andThen_lookup (List.pairwise_cons.mp settled).1]

/-! ## The order of replacements -/

theorem lookup_of_mem {tables : List (String × String)} (distinct : (tables.map Prod.fst).Nodup)
    {raw name : String} (member : (raw, name) ∈ tables) : tables.lookup raw = some name := by
  induction tables with
  | nil => simp at member
  | cons entry tables ih =>
      obtain ⟨absent, distinct⟩ := List.nodup_cons.mp distinct
      rcases List.mem_cons.mp member with rfl | later
      · exact List.lookup_cons_self
      · have differs : (raw == entry.1) = false := by
          refine beq_false_of_ne fun same => absent ?_
          rw [← same]
          exact List.mem_map.mpr ⟨_, later, rfl⟩
        rw [List.lookup_cons, differs]
        exact ih distinct later

/-- The order of tables does not matter when no two of them are for the same reference. -/
theorem lookup_perm {tables others : List (String × String)}
    (distinct : (tables.map Prod.fst).Nodup) (same : others.Perm tables) (raw : String) :
    others.lookup raw = tables.lookup raw := by
  have distinctToo := (same.map Prod.fst).nodup_iff.mpr distinct
  cases found : others.lookup raw with
  | some name =>
      obtain ⟨before, after, rfl, -⟩ := List.lookup_eq_some_iff.mp found
      exact (lookup_of_mem distinct (same.mem_iff.mp (by simp))).symm
  | none =>
      cases missing : tables.lookup raw with
      | none => rfl
      | some name =>
          obtain ⟨before, after, rfl, -⟩ := List.lookup_eq_some_iff.mp missing
          have there := lookup_of_mem distinctToo (same.mem_iff.mpr (by simp : (raw, name) ∈ _))
          rw [found] at there
          cases there

/-- References that can be replaced in several orders give the same query in each of them. -/
theorem replaceAll_perm {tables others : List (String × String)}
    (distinct : (tables.map Prod.fst).Nodup) (same : others.Perm tables) (settled : Settled tables)
    (settledToo : Settled others)
    (named : ∀ entry ∈ tables, Enclosed entry.2.toList ∧ startsList entry.1.toList = false)
    (sql : String) : replaceAll others sql = replaceAll tables sql := by
  have lookups : (fun raw => others.lookup raw) = fun raw => tables.lookup raw :=
    funext (lookup_perm distinct same)
  rw [replaceAll_eq_substitute settled named, ← lookups,
    replaceAll_eq_substitute settledToo fun entry member => named entry (same.mem_iff.mp member)]

end Query

end Tabular
