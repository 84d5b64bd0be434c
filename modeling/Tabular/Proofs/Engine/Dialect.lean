import Mathlib.Algebra.BigOperators.Group.List.Basic
import Tabular.Engine.Dialect

/-!
# The parameters of a statement

A clause of values is written parameter by parameter, and the number of the last one is carried
from row to row. Before a row as many parameters are written as the rows before it have, so the
clause is the texts of its rows with commas between them. Every parameter has one mark, and nothing
else between the parentheses has it. So the marks count the parameters.
-/

set_option autoImplicit false

namespace Tabular

private theorem count_intercalate {c : Char} {separator : String} (absent : c ∉ separator.toList)
    (parts : List String) :
    (separator.intercalate parts).toList.count c = (parts.flatMap String.toList).count c := by
  induction parts with
  | nil => rfl
  | cons part parts ih =>
      cases parts with
      | nil => simp
      | cons next rest =>
          rw [String.intercalate_cons_cons, String.toList_append, String.toList_append,
            List.count_append, List.count_append, List.count_eq_zero_of_not_mem absent, ih]
          simp

theorem mem_intercalate {c : Char} {separator : String} (absent : c ∉ separator.toList)
    {parts : List String} :
    c ∈ (separator.intercalate parts).toList ↔ ∃ part ∈ parts, c ∈ part.toList := by
  rw [← List.count_pos_iff, count_intercalate absent, List.count_pos_iff, List.mem_flatMap]

namespace Placeholder

/-- The character that a parameter begins with. -/
def mark : Placeholder → Char
  | question => '?'
  | dollar => '$'

end Placeholder

/-! ## Row after row -/

namespace Values

/-- A list with one more part. -/
theorem intercalate_range_succ (part : Nat → String) (count : Nat) :
    ",".intercalate ((List.range (count + 1)).map part) =
      ",".intercalate ((List.range count).map part) ++ separator count ++ part count := by
  cases count with
  | zero => simp [separator]
  | succ count =>
      have filled : (List.range (count + 1)).map part ≠ [] := by simp
      rw [List.range_succ, List.map_append, List.map_singleton,
        String.intercalate_append_of_ne_nil filled (List.cons_ne_nil _ _),
        String.intercalate_singleton, separator, if_pos (Nat.succ_pos count)]

/-- Parameters are written behind what there is, with the numbers after the last one. -/
theorem fold_addParam (placeholder : Placeholder) (values : Values) (columns : Nat) :
    columns.fold (fun column _ => addParam placeholder column) values =
      { text := values.text ++ ",".intercalate ((List.range columns).map fun column =>
          placeholder.text (values.last + .ofNat (column + 1)))
        last := values.last + .ofNat columns } := by
  induction columns with
  | zero => simp
  | succ columns ih =>
      have next : values.last + .ofNat (columns + 1) = values.last + .ofNat columns + 1 := by
        rw [Int32.ofNat_add, ← Int32.add_assoc]
        rfl
      rw [intercalate_range_succ, Nat.fold_succ, ih, addParam, next]
      simp only [String.append_assoc]

end Values

namespace Dialect

variable (dialect : Dialect)

/-- The parameters of the row at a position, between parentheses. -/
def rowParams (columns position : Nat) : String :=
  "(" ++ ",".intercalate ((List.range columns).map fun column =>
    dialect.placeholder.text (.ofNat (position * columns + column + 1))) ++ ")"

/-- A row is written with its own numbers if the rows before it have all numbers before them. -/
theorem addRow_eq {columns position : Nat} {values : Values}
    (before : values.last = .ofNat (position * columns)) :
    values.addRow dialect.placeholder columns position =
      { text := values.text ++ Values.separator position ++ dialect.rowParams columns position
        last := .ofNat ((position + 1) * columns) } := by
  rw [Values.addRow]
  simp only [Values.fold_addParam, before, ← Int32.ofNat_add, rowParams, String.append_assoc,
    Nat.add_assoc, Nat.succ_mul]

private theorem fold_addRow (columns rows : Nat) :
    rows.fold (fun position _ => Values.addRow dialect.placeholder columns position) {} =
      { text := ",".intercalate ((List.range rows).map (dialect.rowParams columns))
        last := .ofNat (rows * columns) } := by
  induction rows with
  | zero => simp
  | succ rows ih =>
      rw [Values.intercalate_range_succ, Nat.fold_succ, ih]
      exact dialect.addRow_eq rfl

theorem valuesClause_eq (columns rows : Nat) :
    dialect.valuesClause columns rows =
      ",".intercalate ((List.range rows).map (dialect.rowParams columns)) := by
  rw [valuesClause, fold_addRow]

example : Driver.sqlite.dialect.valuesClause 2 3 = "(?,?),(?,?),(?,?)" := by decide +kernel

/-! ## The marks of a clause -/

/-- A character of a name between quotes: a quote is written twice. -/
def doubled (c : Char) : List Char :=
  if c == dialect.quote then [c, c] else [c]

theorem toList_quoteIdent (name : String) :
    (dialect.quoteIdent name).toList =
      dialect.quote :: (name.toList.flatMap dialect.doubled ++ [dialect.quote]) := by
  rw [quoteIdent, String.toList_ofList]
  rfl

theorem flatMap_doubled_injective : Function.Injective (List.flatMap dialect.doubled) := by
  intro first second same
  induction first generalizing second with
  | nil =>
      cases second with
      | nil => rfl
      | cons c rest => by_cases quote : c = dialect.quote <;> simp [doubled, quote] at same
  | cons c rest ih =>
      cases second with
      | nil => by_cases quote : c = dialect.quote <;> simp [doubled, quote] at same
      | cons other others =>
          rw [List.flatMap_cons, List.flatMap_cons] at same
          by_cases quote : c = dialect.quote <;> by_cases quoteToo : other = dialect.quote
          · simp only [doubled, quote, quoteToo, List.append_cancel_left_eq] at same
            rw [quote, quoteToo, ih same]
          · simp [doubled, quote, quoteToo, Ne.symm quoteToo] at same
          · simp [doubled, quote, quoteToo] at same
          · simp only [doubled, beq_false_of_ne quote, beq_false_of_ne quoteToo,
              Bool.false_eq_true, if_false, List.singleton_append, List.cons.injEq] at same
            rw [same.1, ih same.2]

/-- Different names are different between quotes. -/
theorem quoteIdent_injective : Function.Injective dialect.quoteIdent := by
  intro first second same
  have letters := congrArg String.toList same
  rw [toList_quoteIdent, toList_quoteIdent, List.cons.injEq] at letters
  exact String.toList_inj.mp
    (dialect.flatMap_doubled_injective (List.append_cancel_right letters.2))

end Dialect

end Tabular
