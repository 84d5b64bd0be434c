import Tabular.Engine.Load
import Tabular.Proofs.Query.Automaton
import Tabular.Proofs.Query.Selection
import Tabular.Sql.Token

/-!
# Names between quotes

A name between quotes is read back as it was, whatever characters it has, if what follows is not
another quote. So the names of columns can be told from the statements that make a table and insert
rows, and a name is one field wherever a field of a query may start.
-/

set_option autoImplicit false

namespace Tabular

namespace Identifier

/-! ## Reading names -/

/-- The name between quotes at the head of a text, and what follows it. A quote that is written twice
belongs to the name, and a single one ends it. -/
def read? (quote : Char) : List Char → Option (List Char × List Char)
  | [] => none
  | c :: rest => if c = quote then Sql.Token.quoted? quote rest else none

/-- What is left of a column where a comma or a parenthesis ends it. Neither does so between quotes or
within parentheses; `depth` of these are open. -/
def columnEnd (depth : Nat) (opened : Option Char) : List Char → List Char
  | [] => []
  | c :: rest =>
    match opened with
    | some quote => columnEnd depth (if c = quote then none else some quote) rest
    | none =>
      if Query.isQuote c then columnEnd depth (some c) rest
      else if c = '(' then columnEnd (depth + 1) none rest
      else if (c = ',' ∨ c = ')') ∧ depth = 0 then c :: rest
      else columnEnd (if c = ')' then depth - 1 else depth) none rest

theorem quotedFrom?_length_lt {quote : Char} {read text name after : List Char}
    (found : Sql.Token.quotedFrom? quote read text = some (name, after)) :
    after.length < text.length := by
  fun_induction Sql.Token.quotedFrom? quote read text with
  | case1 => cases found
  | case2 =>
      cases found
      exact Nat.one_pos
  | case3 => cases found
  | case4 read c d rest other ih => exact Nat.lt_succ_of_lt (ih found)
  | case5 read c d rest closes doubled ih =>
      exact Nat.lt_succ_of_lt (Nat.lt_succ_of_lt (ih found))
  | case6 =>
      cases found
      exact Nat.lt_succ_self _

theorem read?_length_lt {quote : Char} {text name after : List Char}
    (found : read? quote text = some (name, after)) : after.length < text.length := by
  cases text with
  | nil => cases found
  | cons c rest =>
      rw [read?] at found
      split at found
      · exact Nat.lt_succ_of_lt (quotedFrom?_length_lt found)
      · cases found

theorem columnEnd_length_le (depth : Nat) (opened : Option Char) (text : List Char) :
    (columnEnd depth opened text).length ≤ text.length := by
  fun_induction columnEnd depth opened text with
  | case1 => exact Nat.le_refl _
  | case5 => exact Nat.le_refl _
  | _ => exact Nat.le_succ_of_le (by assumption)

/-- The names of columns, which are between quotes, with commas between the columns. -/
def columns? (quote : Char) (text : List Char) : Option (List (List Char) × List Char) :=
  match _found : read? quote text with
  | none => none
  | some (name, after) =>
    match _left : columnEnd 0 none after with
    | ',' :: ' ' :: rest =>
      (columns? quote rest).map fun (names, behind) => (name :: names, behind)
    | behind => some ([name], behind)
termination_by text.length
decreasing_by
  have shorter := read?_length_lt _found
  have rest := columnEnd_length_le 0 none after
  rw [_left] at rest
  simp only [List.length_cons] at rest
  omega

/-- The names of columns between quotes when it is known what follows each of them in its column. -/
def told? (quote : Char) : List (List Char) → List Char → Option (List (List Char) × List Char)
  | [], text => some ([], text)
  | tail :: tails, text => do
    let (name, after) ← read? quote text
    let rest ← (tail ++ if tails = [] then [] else [',', ' ']).isPrefixOf? after
    let (names, behind) ← told? quote tails rest
    return (name :: names, behind)

/-- A text in which all quotes and parentheses are closed. A comma is within parentheses, unless the
text is. -/
inductive Balanced : Bool → List Char → Prop where
  | nil {within : Bool} : Balanced within []
  | comma {rest : List Char} (later : Balanced true rest) : Balanced true (',' :: rest)
  | plain {within : Bool} {c : Char} {rest : List Char} (noQuote : Query.isQuote c = false)
      (other : c ≠ '(' ∧ c ≠ ')' ∧ c ≠ ',') (later : Balanced within rest) :
      Balanced within (c :: rest)
  | quoted {within : Bool} {quote : Char} {inside rest : List Char}
      (isQuote : Query.isQuote quote = true) (absent : quote ∉ inside)
      (later : Balanced within rest) : Balanced within (quote :: inside ++ quote :: rest)
  | enclosed {within : Bool} {inside rest : List Char} (inner : Balanced true inside)
      (later : Balanced within rest) : Balanced within ('(' :: inside ++ ')' :: rest)

variable {quote : Char}

/-! ## One name -/

private theorem quotedFrom?_name {dialect : Dialect} {rest : List Char}
    (single : rest.head? ≠ some dialect.quote) (read name : List Char) :
    Sql.Token.quotedFrom? dialect.quote read
        (name.flatMap dialect.doubled ++ dialect.quote :: rest) =
      some (read.reverse ++ name, rest) := by
  induction name generalizing read with
  | nil =>
      cases rest with
      | nil => simp [Sql.Token.quotedFrom?]
      | cons c rest =>
          have other : c ≠ dialect.quote := by simpa using single
          simp [Sql.Token.quotedFrom?, other]
  | cons c name ih =>
      by_cases same : c = dialect.quote
      · have more := ih (dialect.quote :: read)
        simpa [Dialect.doubled, same, Sql.Token.quotedFrom?] using more
      · -- A character behind it is read next, so the text behind is taken apart.
        have more := ih (c :: read)
        obtain ⟨next, others, text⟩ := List.exists_cons_of_ne_nil
          (List.append_ne_nil_of_right_ne_nil (name.flatMap dialect.doubled)
            (List.cons_ne_nil dialect.quote rest))
        rw [List.flatMap_cons, List.append_assoc, text]
        rw [text] at more
        simpa [Dialect.doubled, same, Sql.Token.quotedFrom?] using more

/-- A name between quotes is read back, unless another quote follows. -/
theorem read?_quoteIdent {dialect : Dialect} {rest : List Char}
    (single : rest.head? ≠ some dialect.quote) (name : String) :
    read? dialect.quote ((dialect.quoteIdent name).toList ++ rest) = some (name.toList, rest) := by
  rw [Dialect.toList_quoteIdent, List.cons_append, List.append_assoc, read?, if_pos rfl,
    Sql.Token.quoted?, List.singleton_append, quotedFrom?_name single]
  rfl

/-! ## The end of a column -/

private theorem columnEnd_quoted {depth : Nat} {inside : List Char} (absent : quote ∉ inside)
    (rest : List Char) :
    columnEnd depth (some quote) (inside ++ quote :: rest) = columnEnd depth none rest := by
  induction inside with
  | nil => simp [columnEnd]
  | cons c inside ih =>
      have other : c ≠ quote := fun same => absent (same ▸ List.mem_cons_self)
      rw [List.cons_append, columnEnd, if_neg other]
      exact ih fun member => absent (List.mem_cons_of_mem c member)

/-- A balanced text does not end a column. -/
theorem Balanced.columnEnd {within : Bool} {text : List Char} (balanced : Balanced within text)
    {depth : Nat} (inside : within = true → 0 < depth) (rest : List Char) :
    Identifier.columnEnd depth none (text ++ rest) = Identifier.columnEnd depth none rest := by
  induction balanced generalizing depth rest with
  | nil => rfl
  | comma _ ih =>
      have positive := inside rfl
      have plain : Query.isQuote ',' = false := by decide
      simpa [Identifier.columnEnd, plain, Nat.ne_of_gt positive] using ih inside rest
  | plain noQuote other _ ih =>
      simpa [Identifier.columnEnd, noQuote, other] using ih inside rest
  | quoted isQuote absent _ ih =>
      rw [List.append_assoc, List.cons_append, List.cons_append, Identifier.columnEnd, isQuote,
        columnEnd_quoted absent, ih inside]
      simp
  | enclosed _ _ innerIH laterIH =>
      have plain : Query.isQuote '(' = false ∧ Query.isQuote ')' = false := by decide
      rw [List.append_assoc, List.cons_append, List.cons_append, Identifier.columnEnd, plain.1]
      simp only [Bool.false_eq_true, if_false, if_true]
      rw [innerIH (fun _ => Nat.succ_pos _), Identifier.columnEnd, plain.2]
      simpa using laterIH inside rest

/-! ## Columns -/

/-- A column of a statement: its name between quotes, and what follows it. -/
def column (dialect : Dialect) (part : String × List Char) : List Char :=
  (dialect.quoteIdent part.1).toList ++ part.2

def joined (dialect : Dialect) (parts : List (String × List Char)) : List Char :=
  [',', ' '].intercalate (parts.map (column dialect))

variable {dialect : Dialect} {parts : List (String × List Char)} {rest : List Char}

theorem joined_cons (part next : String × List Char) (parts : List (String × List Char)) :
    joined dialect (part :: next :: parts) =
      (dialect.quoteIdent part.1).toList ++ (part.2 ++ ',' :: ' ' :: joined dialect (next :: parts)) := by
  rw [joined, List.map_cons, List.map_cons, List.intercalate_cons_cons, ← List.map_cons, ← joined,
    column, List.append_assoc, List.append_assoc]
  rfl

theorem joined_singleton (part : String × List Char) :
    joined dialect [part] = (dialect.quoteIdent part.1).toList ++ part.2 := by
  simp [joined, column]

/-- Texts that do not begin with a quote, one behind the other. -/
theorem head?_append_ne {tail : List Char} (single : tail.head? ≠ some quote)
    (singleToo : rest.head? ≠ some quote) : (tail ++ rest).head? ≠ some quote := by
  cases tail with
  | nil => exact singleToo
  | cons c tail => exact single

theorem read?_joined_singleton {part : String × List Char}
    (single : part.2.head? ≠ some dialect.quote) (singleToo : rest.head? ≠ some dialect.quote) :
    read? dialect.quote (joined dialect [part] ++ rest) = some (part.1.toList, part.2 ++ rest) := by
  rw [joined_singleton, List.append_assoc]
  exact read?_quoteIdent (head?_append_ne single singleToo) part.1

theorem read?_joined_cons (other : dialect.quote ≠ ',') {part : String × List Char}
    (single : part.2.head? ≠ some dialect.quote) (next : String × List Char)
    (parts : List (String × List Char)) (rest : List Char) :
    read? dialect.quote (joined dialect (part :: next :: parts) ++ rest) =
      some (part.1.toList, part.2 ++ ',' :: ' ' :: (joined dialect (next :: parts) ++ rest)) := by
  have comma : (',' :: ' ' :: (joined dialect (next :: parts) ++ rest)).head? ≠
      some dialect.quote := fun same => other (Option.some.inj same).symm
  rw [joined_cons, List.append_assoc, List.append_assoc, List.cons_append, List.cons_append]
  exact read?_quoteIdent (head?_append_ne single comma) part.1

theorem told?_cons {tail text name after rest behind : List Char} {tails names : List (List Char)}
    (found : read? quote text = some (name, after))
    (left : tail ++ (if tails = [] then [] else [',', ' ']) ++ rest = after)
    (later : told? quote tails rest = some (names, behind)) :
    told? quote (tail :: tails) text = some (name :: names, behind) := by
  rw [told?, found, Option.bind_eq_bind, Option.bind_some]
  dsimp only
  rw [List.isPrefixOf?_eq_some_iff_append_eq.mpr left, Option.bind_eq_bind, Option.bind_some, later]
  rfl

/-- Names are read back if it is known what follows each of them. -/
theorem told?_joined (other : dialect.quote ≠ ',')
    (single : ∀ part ∈ parts, part.2.head? ≠ some dialect.quote)
    (singleToo : rest.head? ≠ some dialect.quote) (filled : parts ≠ []) :
    told? dialect.quote (parts.map Prod.snd) (joined dialect parts ++ rest) =
      some (parts.map fun part => part.1.toList, rest) := by
  induction parts with
  | nil => exact absurd rfl filled
  | cons part parts ih =>
      have here := single part List.mem_cons_self
      cases parts with
      | nil => exact told?_cons (read?_joined_singleton here singleToo) (by simp) rfl
      | cons next parts =>
          have later := ih (fun other member => single other (List.mem_cons_of_mem _ member))
            (List.cons_ne_nil _ _)
          exact told?_cons (read?_joined_cons other here next parts rest) (by simp) later

private theorem columns?_last {text name after behind : List Char}
    (found : read? quote text = some (name, after))
    (left : columnEnd 0 none after = ')' :: behind) :
    columns? quote text = some ([name], ')' :: behind) := by
  rw [columns?]
  split
  · rename_i absent
    cases found.symm.trans absent
  · rename_i here
    cases found.symm.trans here
    split
    · rename_i comma
      cases left.symm.trans comma
    · rw [left]

private theorem columns?_comma {text name after rest : List Char}
    (found : read? quote text = some (name, after))
    (left : columnEnd 0 none after = ',' :: ' ' :: rest) :
    columns? quote text =
      (columns? quote rest).map fun (names, behind) => (name :: names, behind) := by
  rw [columns?]
  split
  · rename_i absent
    cases found.symm.trans absent
  · rename_i here
    cases found.symm.trans here
    split
    · rename_i comma
      cases left.symm.trans comma
      rfl
    · rename_i other
      exact absurd left (other rest)

/-- Names are read back if what follows each of them does not end its column. -/
theorem columns?_joined (other : dialect.quote ≠ ',') {behind : List Char}
    (single : ∀ part ∈ parts, part.2.head? ≠ some dialect.quote)
    (passed : ∀ part ∈ parts, ∀ rest, columnEnd 0 none (part.2 ++ rest) = columnEnd 0 none rest)
    (singleToo : rest.head? ≠ some dialect.quote)
    (closes : columnEnd 0 none rest = ')' :: behind) (filled : parts ≠ []) :
    columns? dialect.quote (joined dialect parts ++ rest) =
      some (parts.map fun part => part.1.toList, ')' :: behind) := by
  induction parts with
  | nil => exact absurd rfl filled
  | cons part parts ih =>
      have here := single part List.mem_cons_self
      have passes := passed part List.mem_cons_self
      cases parts with
      | nil => exact columns?_last (read?_joined_singleton here singleToo) ((passes rest).trans closes)
      | cons next parts =>
          have later := ih (fun other member => single other (List.mem_cons_of_mem _ member))
            (fun other member => passed other (List.mem_cons_of_mem _ member)) (List.cons_ne_nil _ _)
          have ends : columnEnd 0 none (',' :: ' ' :: (joined dialect (next :: parts) ++ rest)) =
              ',' :: ' ' :: (joined dialect (next :: parts) ++ rest) := by
            simp [columnEnd, Query.isQuote]
          rw [columns?_comma (read?_joined_cons other here next parts rest) ((passes _).trans ends),
            later]
          rfl

/-! ## The columns of a statement -/

/-- The names of a table that is made, each with the type behind it. -/
def typed (target : Target) : List (String × List Char) :=
  target.names.zip (target.types.map fun type => ' ' :: type.toList)

theorem toList_insertText (dialect : Dialect) (target : Target) (rows : Nat) :
    (target.insertText dialect rows).toList = ("INSERT INTO " ++ target.table ++ " (").toList ++
      (joined dialect (target.names.map fun name => (name, [])) ++
        (") VALUES " ++ dialect.valuesClause target.names.length rows).toList) := by
  have list : (dialect.nameList target.names).toList =
      joined dialect (target.names.map fun name => (name, [])) := by
    rw [Dialect.nameList, String.toList_intercalate, joined, List.map_map, List.map_map]
    simp [column, Function.comp_def]
  have text : target.insertText dialect rows = "INSERT INTO " ++ target.table ++ " (" ++
      dialect.nameList target.names ++ ") VALUES " ++
      dialect.valuesClause target.names.length rows := rfl
  simp only [text, String.toList_append, list, List.append_assoc]

theorem toList_createText (dialect : Dialect) (target : Target) :
    (target.createText dialect).toList =
      ("CREATE " ++ (if target.temporary then "TEMPORARY " else "") ++ "TABLE " ++ target.table ++
        " ( ").toList ++ (joined dialect (typed target) ++ " )".toList) := by
  have list : (", ".intercalate (List.zipWith (fun name type => dialect.quoteIdent name ++ " " ++ type)
      target.names target.types)).toList = joined dialect (typed target) := by
    rw [String.toList_intercalate, joined, typed, List.map_zipWith]
    simp [List.zip, List.map_zipWith, List.zipWith_map_right, column]
  simp only [Target.createText, String.toList_append, list, List.append_assoc]

private theorem filled_of_fault?_eq_none {target : Target} (sound : target.fault? = none) :
    target.names ≠ [] ∧ target.names.length = target.types.length := by
  rw [Target.fault?] at sound
  split at sound
  · cases sound
  · rename_i filled
    split at sound
    · rename_i fit
      exact ⟨by simpa using filled, fit⟩
    · cases sound

section

variable {target : Target} (fit : target.names.length = target.types.length)

include fit

private theorem names_of_typed :
    (typed target).map (fun part => part.1.toList) = target.names.map String.toList := by
  have first : (typed target).map Prod.fst = target.names := List.map_fst_zip (by simp [fit])
  rw [← first, List.map_map]
  rfl

private theorem tails_of_typed :
    (typed target).map Prod.snd = target.types.map fun type => ' ' :: type.toList :=
  List.map_snd_zip (by simp [fit])

theorem typed_ne_nil (filled : target.names ≠ []) : typed target ≠ [] := by
  intro empty
  have names := names_of_typed fit
  rw [empty] at names
  exact filled (List.map_eq_nil_iff.mp names.symm)

end

theorem exists_type_of_mem_typed {target : Target} {part : String × List Char}
    (member : part ∈ typed target) : ∃ type ∈ target.types, part.2 = ' ' :: type.toList := by
  obtain ⟨type, inside, same⟩ := List.mem_map.mp (List.of_mem_zip member).2
  exact ⟨type, inside, same.symm⟩

section

variable {dialect : Dialect} (quotes : dialect.quote = '\x60' ∨ dialect.quote = '"') {target : Target}
  (sound : target.fault? = none)

include quotes

private theorem ne_quote {c : Char} (other : Query.isQuote c = false) : c ≠ dialect.quote := by
  rintro rfl
  rcases quotes with same | same <;> rw [same] at other <;> cases other

private theorem head?_ne_quote {c : Char} (other : Query.isQuote c = false) (rest : List Char) :
    (c :: rest).head? ≠ some dialect.quote :=
  fun same => ne_quote quotes other (Option.some.inj same)

theorem single_of_mem_typed {part : String × List Char} (member : part ∈ typed target) :
    part.2.head? ≠ some dialect.quote := by
  obtain ⟨type, -, same⟩ := exists_type_of_mem_typed member
  rw [same]
  exact head?_ne_quote quotes rfl type.toList

include sound

private theorem columns?_insertText (rows : Nat) :
    columns? dialect.quote (joined dialect (target.names.map fun name => (name, [])) ++
        (") VALUES " ++ dialect.valuesClause target.names.length rows).toList) =
      some (target.names.map String.toList,
        (") VALUES " ++ dialect.valuesClause target.names.length rows).toList) := by
  have filled := (filled_of_fault?_eq_none sound).1
  have behind : (") VALUES " ++ dialect.valuesClause target.names.length rows).toList =
      ')' :: (" VALUES " ++ dialect.valuesClause target.names.length rows).toList := by
    rw [String.toList_append, String.toList_append]
    rfl
  rw [behind, columns?_joined (ne_quote quotes rfl).symm (by simp) (by simp)
    (head?_ne_quote quotes rfl _) rfl (by simpa using filled), List.map_map]
  rfl

private theorem told?_createText :
    told? dialect.quote (target.types.map fun type => ' ' :: type.toList)
        (joined dialect (typed target) ++ " )".toList) =
      some (target.names.map String.toList, " )".toList) := by
  obtain ⟨filled, fit⟩ := filled_of_fault?_eq_none sound
  rw [← names_of_typed fit, ← tails_of_typed fit]
  exact told?_joined (ne_quote quotes rfl).symm (fun _ => single_of_mem_typed quotes)
    (head?_ne_quote quotes rfl _) (typed_ne_nil fit filled)

private theorem columns?_createText (balanced : ∀ type ∈ target.types, Balanced false type.toList) :
    columns? dialect.quote (joined dialect (typed target) ++ " )".toList) =
      some (target.names.map String.toList, [')']) := by
  obtain ⟨filled, fit⟩ := filled_of_fault?_eq_none sound
  rw [← names_of_typed fit]
  refine columns?_joined (ne_quote quotes rfl).symm (fun _ => single_of_mem_typed quotes) ?_
    (head?_ne_quote quotes rfl _) rfl (typed_ne_nil fit filled)
  intro part member rest
  obtain ⟨type, inside, same⟩ := exists_type_of_mem_typed member
  have spaced : Balanced false (' ' :: type.toList) := .plain rfl (by decide) (balanced type inside)
  rw [same]
  exact spaced.columnEnd (fun within => absurd within Bool.false_ne_true) rest

end

end Identifier

namespace Query

/-! ## Names as fields -/

namespace Automaton

/-- Whether a field may start: no quote is open and no field has begun. -/
def Idle (state : Automaton) : Prop :=
  state.active = none ∧ state.current = []

end Automaton

namespace Piece

variable {pieces more : List Piece}

/-- Whether pieces end with a character between fields, or a comma. -/
def Ended (pieces : List Piece) : Prop :=
  ∀ text, pieces.getLast? = some (.field text) → text = [',']

theorem Ended.cons {piece : Piece} (ended : Ended pieces) (filled : pieces ≠ []) :
    Ended (piece :: pieces) := by
  intro text last
  obtain ⟨next, others, rfl⟩ := List.exists_cons_of_ne_nil filled
  exact ended text last

private theorem Ended.tail {piece : Piece} (ended : Ended (piece :: pieces)) : Ended pieces := by
  intro text last
  cases pieces with
  | nil => cases last
  | cons next others => exact ended text last

/-- Where a field may start behind pieces, they do not end with one. -/
theorem ended_of_idle (cut : Cut pieces) {active : Option Char} {current : List Char}
    (ready : pieces = [] ∨ active = none ∧ (current = [] ∨ Apart pieces)) (found : List (List Char))
    (idle : ((joined pieces).foldl Automaton.step ⟨active, current, found⟩).Idle) : Ended pieces := by
  induction cut generalizing active current found with
  | nil =>
      intro text last
      cases last
  | @gap c pieces separates rest ih =>
      obtain ⟨rfl, -⟩ := ready.resolve_left (List.cons_ne_nil _ _)
      rw [joined_gap, List.foldl_cons, Automaton.step_separator separates] at idle
      have ended := ih (.inr ⟨rfl, .inl rfl⟩) _ idle
      by_cases empty : pieces = []
      · subst empty
        intro text last
        cases last
      · exact ended.cons empty
  | @comma pieces rest ih =>
      obtain ⟨rfl, -⟩ := ready.resolve_left (List.cons_ne_nil _ _)
      rw [joined_field, List.singleton_append, List.foldl_cons, Automaton.step_comma] at idle
      have ended := ih (.inr ⟨rfl, .inl rfl⟩) _ idle
      by_cases empty : pieces = []
      · subst empty
        intro text last
        cases last
        rfl
      · exact ended.cons empty
  | @field text after pieces nonempty read apart rest ih =>
      obtain ⟨rfl, empty | comma⟩ := ready.resolve_left (List.cons_ne_nil _ _)
      · subst empty
        rw [joined_field, List.foldl_append, Automaton.foldl_step_of_openAfter read,
          List.nil_append] at idle
        have ended := ih (apart.imp id fun closed => ⟨closed.1, .inr closed.2⟩) _ idle
        by_cases empty : pieces = []
        · subst empty
          exact absurd idle.2 nonempty
        · exact ended.cons empty
      · have same : text = [','] := comma
        rw [same] at read
        exact absurd rfl (starts_of_openAfter read).1

theorem Cut.append (cut : Cut pieces) (ended : Ended pieces) (cutToo : Cut more) :
    Cut (pieces ++ more) := by
  induction cut with
  | nil => exact cutToo
  | gap separates _ ih => exact .gap separates (ih ended.tail)
  | comma _ ih => exact .comma (ih ended.tail)
  | @field text after pieces nonempty read apart _ ih =>
      rcases apart with rfl | ⟨closed, apart⟩
      · rw [ended text rfl] at read
        exact absurd rfl (starts_of_openAfter read).1
      · refine .field nonempty read (.inr ⟨closed, ?_⟩) (ih ended.tail)
        cases pieces with
        | nil =>
            rw [ended text rfl] at read
            exact absurd rfl (starts_of_openAfter read).1
        | cons next others =>
            cases next with
            | gap _ => trivial
            | field _ => exact apart

/-- Pieces that begin with a character between fields, or a comma, keep apart from the field before. -/
theorem Cut.apart (cut : Cut pieces)
    (ends : ∀ c ∈ (joined pieces).head?, isSeparator c = true ∨ c = ',') : Apart pieces := by
  cases cut with
  | nil => trivial
  | gap _ _ => trivial
  | comma _ => exact rfl
  | field nonempty read _ _ =>
      obtain ⟨c, tail, rfl⟩ := List.exists_cons_of_ne_nil nonempty
      obtain ⟨other, stays⟩ := starts_of_openAfter read
      rcases ends c rfl with separates | comma
      · exact absurd (stays.symm.trans separates) Bool.false_ne_true
      · exact absurd comma other

theorem fieldsFrom_append (position : Nat) (pieces more : List Piece) :
    fieldsFrom position (pieces ++ more) =
      fieldsFrom position pieces ++ fieldsFrom (position + (joined pieces).length) more := by
  induction pieces generalizing position with
  | nil => rfl
  | cons piece pieces ih =>
      cases piece with
      | gap c =>
          rw [List.cons_append, fieldsFrom, ih, fieldsFrom, joined_gap, List.length_cons,
            Nat.add_right_comm, Nat.add_assoc]
      | field text =>
          rw [List.cons_append, fieldsFrom, ih, fieldsFrom, joined_field, List.length_append,
            Nat.add_assoc]
          rfl

private theorem map_text_fieldsFrom (first second : Nat) (pieces : List Piece) :
    (fieldsFrom first pieces).map Field.text = (fieldsFrom second pieces).map Field.text := by
  induction pieces generalizing first second with
  | nil => rfl
  | cons piece pieces ih =>
      cases piece with
      | gap c => exact ih (first + 1) (second + 1)
      | field text =>
          rw [fieldsFrom, fieldsFrom, List.map_cons, List.map_cons, ih]

end Piece

variable {before text after : List Char}

/-- A text between quotes is one field where a field may start, if a character between fields, a comma
or nothing follows. The fields before and behind it are found as if they stood alone. -/
theorem fieldsAt_append_enclosed (idle : (before.foldl Automaton.step {}).Idle)
    (enclosed : Enclosed text) (ends : ∀ c ∈ after.head?, isSeparator c = true ∨ c = ',') :
    ∃ later, fieldsAt (before ++ text ++ after) = fieldsAt before ++ ⟨before.length, text⟩ :: later ∧
      later.map Field.text = (fieldsAt after).map Field.text := by
  obtain ⟨front, cutFront, rfl⟩ := Piece.exists_cut before
  obtain ⟨back, cutBack, rfl⟩ := Piece.exists_cut after
  have ended := Piece.ended_of_idle cutFront (.inr ⟨rfl, .inl rfl⟩) [] idle
  have cut := cutFront.append ended
    (Piece.cut_field enclosed.ne_nil enclosed.read (cutBack.apart ends) cutBack)
  have whole : Piece.joined front ++ text ++ Piece.joined back =
      Piece.joined (front ++ .field text :: back) := by
    rw [Piece.joined_append, Piece.joined_field, List.append_assoc]
  refine ⟨Piece.fieldsFrom ((Piece.joined front).length + text.length) back, ?_, ?_⟩
  · rw [whole, fieldsAt, fieldsAt, Piece.fieldsFrom_joined cut, Piece.fieldsFrom_joined cutFront,
      Piece.fieldsFrom_append, Nat.zero_add]
    rfl
  · rw [fieldsAt, Piece.fieldsFrom_joined cutBack, Piece.map_text_fieldsFrom]

end Query

namespace Identifier

/-- A name between quotes is read back, whatever characters it has, if what follows is not another
quote; so it is different for different names. The names of columns are read back from the statements
of a table, and a name is one field wherever a field may start. Types are written as they are, so it
takes either the types or balanced ones to tell where a column ends. -/
theorem quoteIdent_read_back (dialect : Dialect)
    (quotes : dialect.quote = '\x60' ∨ dialect.quote = '"') :
    (∀ (name : String) (rest : List Char), rest.head? ≠ some dialect.quote →
      read? dialect.quote ((dialect.quoteIdent name).toList ++ rest) = some (name.toList, rest)) ∧
      Function.Injective dialect.quoteIdent ∧
      (∀ target : Target, target.fault? = none →
        (∀ rows, ∃ list,
          (target.insertText dialect rows).toList =
            ("INSERT INTO " ++ target.table ++ " (").toList ++ list ∧
          columns? dialect.quote list = some (target.names.map String.toList,
            (") VALUES " ++ dialect.valuesClause target.names.length rows).toList)) ∧
        ∃ list,
          (target.createText dialect).toList =
            ("CREATE " ++ (if target.temporary then "TEMPORARY " else "") ++ "TABLE " ++ target.table ++
              " ( ").toList ++ list ∧
          told? dialect.quote (target.types.map fun type => ' ' :: type.toList) list =
            some (target.names.map String.toList, " )".toList) ∧
          ((∀ type ∈ target.types, Balanced false type.toList) →
            columns? dialect.quote list = some (target.names.map String.toList, [')']))) ∧
      ∀ before name after : String, (before.toList.foldl Query.Automaton.step {}).Idle →
        (∀ c ∈ after.toList.head?, Query.isSeparator c = true ∨ c = ',') →
          Query.fields (before ++ dialect.quoteIdent name ++ after) =
              Query.fields before ++ dialect.quoteIdent name :: Query.fields after ∧
            ⟨before.toList.length, (dialect.quoteIdent name).toList⟩ ∈
              Query.fieldsAt (before ++ dialect.quoteIdent name ++ after).toList := by
  refine ⟨fun name rest single => read?_quoteIdent single name, dialect.quoteIdent_injective, ?columns,
    ?field⟩
  case columns =>
    intro target sound
    exact ⟨fun rows => ⟨_, toList_insertText dialect target rows, columns?_insertText quotes sound rows⟩,
      _, toList_createText dialect target, told?_createText quotes sound,
      columns?_createText quotes sound⟩
  case field =>
    intro before name after idle ends
    have isQuote : Query.isQuote dialect.quote = true := by
      rcases quotes with same | same <;> rw [same] <;> rfl
    obtain ⟨later, whole, texts⟩ :=
      Query.fieldsAt_append_enclosed idle (dialect.enclosed_quoteIdent isQuote name) ends
    have parts : (before ++ dialect.quoteIdent name ++ after).toList =
        before.toList ++ (dialect.quoteIdent name).toList ++ after.toList := by
      rw [String.toList_append, String.toList_append]
    have behind : later.map (fun field => String.ofList field.text) = Query.fields after := by
      rw [← Function.comp_def String.ofList, ← List.map_map, texts, List.map_map]
      rfl
    rw [Query.fields, parts, whole, List.map_append, List.map_cons, behind, String.ofList_toList]
    exact ⟨rfl, List.mem_append_right _ List.mem_cons_self⟩

/-- Names that begin and end with quotes, and one that looks like two columns; a type with a comma. -/
theorem quoteIdent_read_back_awkward :
    let dialect := Driver.postgres.dialect
    let target : Target :=
      { table := "t", names := ["\"", "a\" t, \"b"], types := ["n(1,2)", "t"] }
    dialect.quote = '"' ∧
      read? '"' ((dialect.quoteIdent "\"\"a\"").toList ++ ", \"".toList) =
        some ("\"\"a\"".toList, ", \"".toList) ∧
      target.fault? = none ∧
      (∃ list, (target.insertText dialect 1).toList =
          ("INSERT INTO " ++ target.table ++ " (").toList ++ list ∧
        columns? '"' list = some (target.names.map String.toList,
          (") VALUES " ++ dialect.valuesClause 2 1).toList)) ∧
      (∃ list, (target.createText dialect).toList =
          ("CREATE " ++ "TEMPORARY " ++ "TABLE " ++ target.table ++ " ( ").toList ++ list ∧
        columns? '"' list = some (target.names.map String.toList, [')'])) ∧
      dialect.quoteIdent "a\"b" = "\"a\"\"b\"" ∧
      Query.fields ("x," ++ dialect.quoteIdent "a\"b" ++ "; y") =
        Query.fields "x," ++ dialect.quoteIdent "a\"b" :: Query.fields "; y" ∧
      Query.fields "x," = ["x", ","] ∧ Query.fields "; y" = ["y"] := by
  intro dialect target
  obtain ⟨read, -, columns, field⟩ := quoteIdent_read_back dialect (.inr rfl)
  have sound : target.fault? = none := by decide
  obtain ⟨insert, list, create, -, names⟩ := columns target sound
  have balanced : ∀ type ∈ target.types, Balanced false type.toList := by
    have inner : Balanced true ['1', ',', '2'] :=
      .plain rfl (by decide) (.comma (.plain rfl (by decide) .nil))
    have sized : Balanced false "n(1,2)".toList :=
      .plain rfl (by decide) (.enclosed inner .nil)
    have plain : Balanced false "t".toList := .plain rfl (by decide) .nil
    intro type member
    rcases List.mem_pair.mp member with rfl | rfl
    · exact sized
    · exact plain
  have idle : ("x,".toList.foldl Query.Automaton.step {}).Idle := by
    constructor <;> decide +kernel
  have ends : ∀ c ∈ "; y".toList.head?, Query.isSeparator c = true ∨ c = ',' := by
    have first : "; y".toList.head? = some ';' := by decide +kernel
    rw [first]
    rintro _ ⟨⟩
    exact .inl (by decide)
  exact ⟨rfl, read _ _ (by decide +kernel), sound, insert 1, ⟨list, create, names balanced⟩,
    by decide +kernel, (field _ _ _ idle ends).1, by decide +kernel,
    by decide +kernel⟩

end Identifier

end Tabular
