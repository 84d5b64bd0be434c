import Tabular.Cell
import Tabular.Proofs.Engine.Dialect

/-!
# Clauses of values that are read

A clause of values can be read in one way only: as lists of parameters between parentheses, a list
for each row. A parameter stands for the cell that has its number when the rows are put one behind
the other, be the number written or counted. So the cells of a batch are taken apart into its rows.
A clause with numbers beyond thirty-two bits cannot be read: some of them are negative.
-/

set_option autoImplicit false

namespace Tabular

namespace Values

/-- A parameter as it is read in a statement. -/
inductive Param where
  /-- The parameter after those that stand before it. -/
  | next
  | numbered (number : Nat)
deriving DecidableEq, Repr

/-! ## What a clause of values is -/

/-- A question mark, or a dollar sign and a decimal number. -/
inductive Param.Spelled : Param → List Char → Prop where
  | next : Spelled .next ['?']
  | numbered {digits : List Char} (filled : digits ≠ [])
      (decimal : ∀ c ∈ digits, c.isDigit = true) :
      Spelled (.numbered (Nat.ofDigitChars 10 digits 0)) ('$' :: digits)

/-- Parts with commas between them. There is at least one. -/
inductive Listed {α : Type} (part : α → List Char → Prop) : List α → List Char → Prop where
  | last {item : α} {text : List Char} (here : part item text) : Listed part [item] text
  | more {item : α} {items : List α} {text rest : List Char} (here : part item text)
      (later : Listed part items rest) : Listed part (item :: items) (text ++ ',' :: rest)

/-- Parameters between parentheses. -/
inductive Group : List Param → List Char → Prop where
  | enclosed {params : List Param} {text : List Char} (inside : Listed Param.Spelled params text) :
      Group params ('(' :: text ++ [')'])

def Reads (groups : List (List Param)) (clause : String) : Prop :=
  Listed Group groups clause.toList

/-! ## What is bound to the parameters of a clause -/

/-- The number that a parameter stands for when `before` parameters stand before it. -/
def Param.number (before : Nat) : Param → Nat
  | next => before + 1
  | numbered number => number

/-- The cell with a number, from one. -/
def bound? (cells : List Cell) : Nat → Option Cell
  | 0 => none
  | number + 1 => cells[number]?

/-- The row that the parameters of a group stand for, in which the first one has `before` parameters
before it. -/
def row? (cells : List Cell) : Nat → List Param → Option Row
  | _, [] => some []
  | before, param :: params => do
    let cell ← bound? cells (param.number before)
    return cell :: (← row? cells (before + 1) params)

def rowsFrom? (cells : List Cell) : Nat → List (List Param) → Option (List Row)
  | _, [] => some []
  | before, group :: groups => do
    let row ← row? cells before group
    return row :: (← rowsFrom? cells (before + group.length) groups)

/-- The rows that the groups of a clause stand for. -/
def rows? (cells : List Cell) (groups : List (List Param)) : Option (List Row) :=
  rowsFrom? cells 0 groups

/-! ## One reading -/

/-- What may follow a parameter or a group. -/
def Ends (rest : List Char) : Prop :=
  ∀ c ∈ rest.head?, c = ',' ∨ c = ')'

/-- What may follow a list. -/
def Closes (rest : List Char) : Prop :=
  ∀ c ∈ rest.head?, c = ')'

/-- Parts that are told apart by their texts: a text that begins with one begins with no other, and
it is known where the part ends. -/
def Apart {α : Type} (part : α → List Char → Prop) : Prop :=
  ∀ {item other : α} {text second rest tail : List Char}, part item text → part other second →
    Ends rest → Ends tail → text ++ rest = second ++ tail → item = other ∧ rest = tail

private theorem Closes.ends {rest : List Char} (closes : Closes rest) : Ends rest :=
  fun c member => .inr (closes c member)

private theorem ends_comma (rest : List Char) : Ends (',' :: rest) := by
  rintro _ ⟨⟩
  exact .inl rfl

private theorem not_closes_comma (rest : List Char) : ¬Closes (',' :: rest) :=
  fun closes => absurd (closes ',' rfl) (by decide)

theorem closes_nil : Closes [] :=
  fun _ member => nomatch member

private theorem closes_close (rest : List Char) : Closes (')' :: rest) := by
  rintro _ ⟨⟩
  rfl

private theorem takeWhile_digits {digits rest : List Char}
    (decimal : ∀ c ∈ digits, c.isDigit = true) (ends : Ends rest) :
    (digits ++ rest).takeWhile Char.isDigit = digits := by
  rw [List.takeWhile_append_of_pos decimal, List.append_right_eq_self]
  cases rest with
  | nil => rfl
  | cons c rest => rcases ends c rfl with rfl | rfl <;> rfl

private theorem apart_spelled : Apart Param.Spelled := by
  intro param other text second rest tail first also ends endsToo same
  cases first with
  | next =>
      cases also with
      | next => exact ⟨rfl, List.append_cancel_left same⟩
      | numbered _ _ => simp at same
  | @numbered digits _ decimal =>
      cases also with
      | next => simp at same
      | @numbered others _ decimalToo =>
          have texts : digits ++ rest = others ++ tail := (List.cons.inj same).2
          have digits_eq : digits = others := by
            rw [← takeWhile_digits decimal ends, texts, takeWhile_digits decimalToo endsToo]
          subst digits_eq
          exact ⟨rfl, List.append_cancel_left texts⟩

/-- A text begins with one list at most, if no comma follows behind which the list might go on. -/
theorem Listed.apart {α : Type} {part : α → List Char → Prop} (apart : Apart part)
    {items others : List α} {text second rest tail : List Char} (first : Listed part items text)
    (also : Listed part others second) (closes : Closes rest) (closesToo : Closes tail)
    (same : text ++ rest = second ++ tail) : items = others ∧ rest = tail := by
  induction first generalizing others second with
  | last here =>
      cases also with
      | last hereToo =>
          obtain ⟨rfl, rests⟩ := apart here hereToo closes.ends closesToo.ends same
          exact ⟨rfl, rests⟩
      | more hereToo later =>
          -- The second list goes on with a comma where the first one has ended.
          rw [List.append_assoc, List.cons_append] at same
          obtain ⟨-, rfl⟩ := apart here hereToo closes.ends (ends_comma _) same
          exact absurd closes (not_closes_comma _)
  | more here later ih =>
      rw [List.append_assoc, List.cons_append] at same
      cases also with
      | last hereToo =>
          obtain ⟨-, rfl⟩ := apart here hereToo (ends_comma _) closesToo.ends same
          exact absurd closesToo (not_closes_comma _)
      | more hereToo laterToo =>
          rw [List.append_assoc, List.cons_append] at same
          obtain ⟨rfl, rests⟩ := apart here hereToo (ends_comma _) (ends_comma _) same
          obtain ⟨rfl, tails⟩ := ih laterToo (List.cons.inj rests).2
          exact ⟨rfl, tails⟩

private theorem apart_group : Apart Group := by
  rintro _ _ _ _ rest tail ⟨inside⟩ ⟨also⟩ - - same
  rw [List.append_assoc, List.append_assoc] at same
  obtain ⟨rfl, rests⟩ := inside.apart apart_spelled also (closes_close rest) (closes_close tail)
    (List.cons.inj same).2
  exact ⟨rfl, (List.cons.inj rests).2⟩

/-- A clause has at most one reading. -/
theorem Reads.unique {groups others : List (List Param)} {clause : String}
    (first : Reads groups clause) (also : Reads others clause) : groups = others :=
  (first.apart apart_group also closes_nil closes_nil rfl).1

/-! ## The reading of a clause that is written -/

private theorem listed_intercalate {α : Type} {part : α → List Char → Prop} {item : Nat → α}
    {text : Nat → String} {positions : List Nat}
    (each : ∀ position ∈ positions, part (item position) (text position).toList)
    (filled : positions ≠ []) :
    Listed part (positions.map item) (",".intercalate (positions.map text)).toList := by
  induction positions with
  | nil => exact absurd rfl filled
  | cons position positions ih =>
      obtain ⟨here, behind⟩ := List.forall_mem_cons.mp each
      cases positions with
      | nil =>
          rw [List.map_singleton, List.map_singleton, String.intercalate_singleton]
          exact .last here
      | cons next others =>
          have later := ih behind (List.cons_ne_nil _ _)
          have text_cons : (",".intercalate ((position :: next :: others).map text)).toList =
              (text position).toList ++
                ',' :: (",".intercalate ((next :: others).map text)).toList := by
            simp
          rw [text_cons]
          exact .more here later

end Values

/-- The parameter that is written for a number. A question mark does not tell it. -/
def Placeholder.param : Placeholder → Nat → Values.Param
  | question, _ => .next
  | dollar, number => .numbered number

private theorem Placeholder.spelled_text (placeholder : Placeholder) {number : Nat}
    (small : number < 2147483648) :
    (placeholder.param number).Spelled (placeholder.text (.ofNat number)).toList := by
  cases placeholder with
  | question =>
      have mark : "?".toList = ['?'] := by decide
      rw [text, mark]
      exact .next
  | dollar =>
      have shown : toString (Int32.ofNat number) = toString number :=
        congrArg toString (Int32.toInt_ofNat_of_lt small)
      have digits : (dollar.text (.ofNat number)).toList = '$' :: Nat.toDigits 10 number := by
        simp [text, shown]
      have spelled := Values.Param.Spelled.numbered (Nat.toDigits_ne_nil (n := number) (b := 10))
        fun c member => Nat.isDigit_of_mem_toDigits (by decide) (by decide) member
      rw [Nat.ofDigitChars_ten_toDigits] at spelled
      rw [digits]
      exact spelled

private theorem Placeholder.number_param (placeholder : Placeholder) (before : Nat) :
    (placeholder.param (before + 1)).number before = before + 1 := by
  cases placeholder <;> rfl

namespace Values

/-- The parameters of a row that has `before` parameters before it. -/
def group (placeholder : Placeholder) (columns before : Nat) : List Param :=
  (List.range columns).map fun column => placeholder.param (before + column + 1)

/-- The parameters of rows, the first of which has `before` parameters before it. -/
def groups (placeholder : Placeholder) (columns before rows : Nat) : List (List Param) :=
  (List.range rows).map fun row => group placeholder columns (before + row * columns)

private theorem group_rowParams (dialect : Dialect) {columns : Nat} (some_column : 1 ≤ columns)
    {position : Nat} (small : (position + 1) * columns < 2147483648) :
    Group (group dialect.placeholder columns (position * columns))
      (dialect.rowParams columns position).toList := by
  have filled : List.range columns ≠ [] := by
    rw [ne_eq, List.range_eq_nil]
    exact Nat.ne_of_gt some_column
  have spelled : ∀ column ∈ List.range columns,
      (dialect.placeholder.param (position * columns + column + 1)).Spelled
        (dialect.placeholder.text (.ofNat (position * columns + column + 1))).toList := by
    intro column member
    have inside := List.mem_range.mp member
    rw [Nat.succ_mul] at small
    exact dialect.placeholder.spelled_text (by omega)
  have enclosed := Group.enclosed (listed_intercalate spelled filled)
  rw [Dialect.rowParams, String.toList_append, String.toList_append]
  exact enclosed

private theorem reads_valuesClause (dialect : Dialect) {columns rows : Nat}
    (some_column : 1 ≤ columns) (some_row : 1 ≤ rows) (small : columns * rows < 2147483648) :
    Reads (groups dialect.placeholder columns 0 rows) (dialect.valuesClause columns rows) := by
  have filled : List.range rows ≠ [] := by
    rw [ne_eq, List.range_eq_nil]
    exact Nat.ne_of_gt some_row
  have grouped : ∀ row ∈ List.range rows, Group (group dialect.placeholder columns (row * columns))
      (dialect.rowParams columns row).toList := by
    intro row member
    have within : (row + 1) * columns ≤ rows * columns :=
      Nat.mul_le_mul_right columns (List.mem_range.mp member)
    rw [Nat.mul_comm columns] at small
    exact group_rowParams dialect some_column (Nat.lt_of_le_of_lt within small)
  rw [Reads, groups, Dialect.valuesClause_eq]
  simp only [Nat.zero_add]
  exact listed_intercalate grouped filled

/-! ## Clauses with too many numbers -/

theorem Listed.forall_mem {α : Type} {part : α → List Char → Prop} {property : Char → Prop}
    (comma : property ',') (each : ∀ item text, part item text → ∀ c ∈ text, property c)
    {items : List α} {text : List Char} (listed : Listed part items text) :
    ∀ c ∈ text, property c := by
  induction listed with
  | last here => exact each _ _ here
  | more here later ih =>
      intro c member
      rcases List.mem_append.mp member with inside | behind
      · exact each _ _ here c inside
      · rcases List.mem_cons.mp behind with rfl | inside
        · exact comma
        · exact ih c inside

private theorem Param.Spelled.no_sign {param : Param} {text : List Char}
    (spelled : param.Spelled text) :
    ∀ c ∈ text, c ≠ '-' := by
  cases spelled with
  | next => exact List.forall_mem_singleton.mpr (by decide)
  | numbered filled decimal =>
      rintro c member rfl
      rcases List.mem_cons.mp member with same | inside
      · exact absurd same (by decide)
      · exact absurd (decimal _ inside) (by decide)

private theorem Group.no_sign {params : List Param} {text : List Char} (group : Group params text) :
    ∀ c ∈ text, c ≠ '-' := by
  cases group with
  | enclosed inside =>
      have spelled := inside.forall_mem (by decide) fun _ _ => Param.Spelled.no_sign
      intro c member
      rw [List.cons_append, List.mem_cons, List.mem_append, List.mem_singleton] at member
      rcases member with rfl | within | rfl
      · decide
      · exact spelled c within
      · decide

private theorem Reads.no_sign {groups : List (List Param)} {clause : String}
    (reads : Reads groups clause) : ∀ c ∈ clause.toList, c ≠ '-' :=
  reads.forall_mem (by decide) fun _ _ => Group.no_sign

/-- Behind the largest number of thirty-two bits comes a negative one. -/
theorem sign_mem_valuesClause {dialect : Dialect} (numbered : dialect.placeholder = .dollar)
    {columns rows : Nat} (large : 2147483648 ≤ columns * rows) :
    '-' ∈ (dialect.valuesClause columns rows).toList := by
  have some_column : 0 < columns := by
    refine Nat.pos_of_ne_zero ?_
    rintro rfl
    omega
  let row := 2147483647 / columns
  let column := 2147483647 % columns
  have within : row < rows := (Nat.div_lt_iff_lt_mul some_column).mpr (by rw [Nat.mul_comm]; omega)
  have inside : column < columns := Nat.mod_lt _ some_column
  have number : row * columns + column + 1 = 2147483648 := by
    rw [Nat.mul_comm, Nat.div_add_mod]
  have negative : '-' ∈ (Placeholder.dollar.text (.ofNat 2147483648)).toList := by decide +kernel
  have written : '-' ∈ (dialect.rowParams columns row).toList := by
    rw [Dialect.rowParams, String.toList_append, String.toList_append]
    refine List.mem_append_left _ (List.mem_append_right _ ?_)
    refine (mem_intercalate (by decide)).mpr
      ⟨_, List.mem_map_of_mem (List.mem_range.mpr inside), ?_⟩
    rw [numbered, number]
    exact negative
  rw [Dialect.valuesClause_eq]
  exact (mem_intercalate (by decide)).mpr
    ⟨_, List.mem_map_of_mem (List.mem_range.mpr within), written⟩

/-- Such a clause has no reading. -/
theorem not_reads_valuesClause {dialect : Dialect} (numbered : dialect.placeholder = .dollar)
    {columns rows : Nat} (large : 2147483648 ≤ columns * rows) (groups : List (List Param)) :
    ¬Reads groups (dialect.valuesClause columns rows) :=
  fun reads => reads.no_sign '-' (sign_mem_valuesClause numbered large) rfl

/-! ## What the parameters of a batch stand for -/

variable (placeholder : Placeholder)

theorem group_succ (columns before : Nat) :
    group placeholder (columns + 1) before =
      placeholder.param (before + 1) :: group placeholder columns (before + 1) := by
  simp [group, List.range_succ_eq_map, Function.comp_def, Nat.add_assoc, Nat.add_comm 1]

theorem groups_succ (columns before rows : Nat) :
    groups placeholder columns before (rows + 1) =
      group placeholder columns before :: groups placeholder columns (before + columns) rows := by
  simp [groups, List.range_succ_eq_map, Function.comp_def, Nat.succ_mul, Nat.add_assoc,
    Nat.add_comm columns]

theorem length_group (columns before : Nat) :
    (group placeholder columns before).length = columns := by
  rw [group, List.length_map, List.length_range]

private theorem row?_group (leading row trailing : List Cell) :
    row? (leading ++ row ++ trailing) leading.length
      (group placeholder row.length leading.length) = some row := by
  induction row generalizing leading with
  | nil => rfl
  | cons cell row ih =>
      have here : bound? (leading ++ cell :: row ++ trailing) (leading.length + 1) = some cell := by
        simp [bound?]
      have later : row? (leading ++ cell :: row ++ trailing) (leading.length + 1)
          (group placeholder row.length (leading.length + 1)) = some row := by
        simpa using ih (leading ++ [cell])
      rw [List.length_cons, group_succ, row?, placeholder.number_param, here, later]
      rfl

/-- Cells that are the rows of a batch, one behind the other, are taken apart into the batch. -/
theorem rowsFrom?_groups {columns : Nat} {batch : List Row}
    (widths : ∀ row ∈ batch, row.length = columns) (leading : List Cell) :
    rowsFrom? (leading ++ batch.flatten) leading.length
      (groups placeholder columns leading.length batch.length) = some batch := by
  induction batch generalizing leading with
  | nil => rfl
  | cons row batch ih =>
      have width := widths row List.mem_cons_self
      have here : row? (leading ++ (row :: batch).flatten) leading.length
          (group placeholder columns leading.length) = some row := by
        rw [← width, List.flatten_cons, ← List.append_assoc]
        exact row?_group placeholder leading row batch.flatten
      have later : rowsFrom? (leading ++ (row :: batch).flatten) (leading.length + columns)
          (groups placeholder columns (leading.length + columns) batch.length) = some batch := by
        have rest := ih (fun other member => widths other (List.mem_cons_of_mem row member))
          (leading ++ row)
        rwa [List.length_append, width, List.append_assoc, ← List.flatten_cons] at rest
      rw [List.length_cons, groups_succ, rowsFrom?, here, length_group, later]
      rfl

private theorem rows?_groups {columns : Nat} {batch : List Row}
    (widths : ∀ row ∈ batch, row.length = columns) :
    rows? batch.flatten (groups placeholder columns 0 batch.length) = some batch :=
  rowsFrom?_groups placeholder widths []

/-- A cell has the number of the parameter that is written for it. -/
theorem bound?_flatten {columns : Nat} {batch : List Row}
    (widths : ∀ row ∈ batch, row.length = columns) {row column : Nat} {cells : Row} {cell : Cell}
    (here : batch[row]? = some cells) (there : cells[column]? = some cell) :
    bound? batch.flatten (row * columns + column + 1) = some cell := by
  induction batch generalizing row with
  | nil => simp at here
  | cons first batch ih =>
      have width := widths first List.mem_cons_self
      cases row with
      | zero =>
          obtain rfl : first = cells := by simpa using here
          obtain ⟨inside, -⟩ := List.getElem?_eq_some_iff.mp there
          rw [bound?, Nat.zero_mul, Nat.zero_add, List.flatten_cons,
            List.getElem?_append_left inside]
          exact there
      | succ row =>
          have later := ih (fun other member => widths other (List.mem_cons_of_mem first member))
            (by simpa using here)
          have behind : (row + 1) * columns + column = first.length + (row * columns + column) := by
            rw [width, Nat.succ_mul]
            omega
          rw [bound?, behind, List.flatten_cons, List.getElem?_append_right (Nat.le_add_right _ _),
            Nat.add_sub_cancel_left]
          exact later

theorem getElem?_groups {columns rows row column : Nat} (within : row < rows)
    (inside : column < columns) :
    (groups placeholder columns 0 rows)[row]?.bind (·[column]?) =
      some (placeholder.param (row * columns + column + 1)) := by
  simp [groups, group, within, inside]

end Values

/-- A clause of values lines up with its rows as long as its parameters can be counted. It has one
reading, which has a group for each row and in it a parameter for each column; where these are
numbered, each has the number of its cell among the cells of all rows. So the cells, row by row, are
taken apart into the rows they come from. -/
theorem Dialect.valuesClause_aligned (dialect : Dialect) (columns rows : Nat)
    (some_column : 1 ≤ columns) (some_row : 1 ≤ rows) (small : columns * rows < 2147483648) :
    ∃ groups : List (List Values.Param),
      (∀ read, Values.Reads read (dialect.valuesClause columns rows) ↔ read = groups) ∧
      groups.length = rows ∧ (∀ group ∈ groups, group.length = columns) ∧
      (∀ row < rows, ∀ column < columns, groups[row]?.bind (·[column]?) =
        some (match dialect.placeholder with
          | .question => .next
          | .dollar => .numbered (row * columns + column + 1))) ∧
      ∀ batch : List Row, batch.length = rows → (∀ row ∈ batch, row.length = columns) →
        (∀ (row column : Nat) (cells : Row) (cell : Cell), batch[row]? = some cells →
          cells[column]? = some cell →
            Values.bound? batch.flatten (row * columns + column + 1) = some cell) ∧
          Values.rows? batch.flatten groups = some batch := by
  have reads := Values.reads_valuesClause dialect some_column some_row small
  refine ⟨Values.groups dialect.placeholder columns 0 rows, fun read => ⟨?only, ?read⟩, ?several,
    ?widths, fun row within column inside => ?numbered, fun batch several widths => ⟨?bound, ?rows⟩⟩
  case only =>
    intro also
    exact also.unique reads
  case read =>
    rintro rfl
    exact reads
  case several => rw [Values.groups, List.length_map, List.length_range]
  case widths =>
    intro group member
    obtain ⟨row, -, rfl⟩ := List.mem_map.mp member
    exact Values.length_group _ _ _
  case numbered =>
    rw [Values.getElem?_groups _ within inside]
    cases dialect.placeholder <;> rfl
  case bound =>
    intro row column cells cell here there
    exact Values.bound?_flatten widths here there
  case rows =>
    rw [← several]
    exact Values.rows?_groups dialect.placeholder widths

/-- Three rows of four cells, so that the numbers get a second digit within a row. -/
theorem Dialect.valuesClause_aligned_postgres :
    let dialect := Driver.postgres.dialect
    let clause := "($1,$2,$3,$4),($5,$6,$7,$8),($9,$10,$11,$12)"
    let batch : List Row := (List.range 3).map fun row =>
      [.int (10 * row + 1), .null, .text (toString row), .bool true]
    1 ≤ 4 ∧ 1 ≤ 3 ∧ 4 * 3 < 2147483648 ∧ batch.length = 3 ∧ (∀ row ∈ batch, row.length = 4) ∧
      dialect.valuesClause 4 3 = clause ∧
      ∃ groups : List (List Values.Param),
        (∀ read, Values.Reads read clause ↔ read = groups) ∧
        groups[2]?.bind (·[1]?) = some (.numbered 10) ∧
        Values.bound? batch.flatten 10 = some .null ∧
        Values.rows? batch.flatten groups = some batch := by
  intro dialect clause batch
  have written : dialect.valuesClause 4 3 = clause := by decide +kernel
  have widths : ∀ row ∈ batch, row.length = 4 := by decide
  obtain ⟨groups, reads, -, -, numbers, bound⟩ :=
    dialect.valuesClause_aligned 4 3 (by decide) (by decide) (by decide)
  obtain ⟨cells, rows⟩ := bound batch rfl widths
  rw [written] at reads
  exact ⟨by decide, by decide, by decide, rfl, widths, written, groups, reads,
    numbers 2 (by decide) 1 (by decide), cells 2 1 _ _ rfl rfl, rows⟩

/-- With one parameter more than there are numbers, rows of one column have no reading. -/
theorem Dialect.valuesClause_overflow :
    ¬∃ groups, Values.Reads groups (Driver.postgres.dialect.valuesClause 1 2147483648) := by
  rintro ⟨groups, reads⟩
  exact Values.not_reads_valuesClause rfl (by decide) groups reads

end Tabular
