import Tabular.Text.Blank

/-!
# Fields of a query

A query is cut into fields at blanks, semicolons and equals signs; a comma is a field of its own. A
field is made of runs: bare characters, or everything from a quote to the next quote of its kind.
Nothing separates inside quotes, and quotes may stand anywhere in a field.
-/

set_option autoImplicit false

namespace Tabular.Query

def isQuote (c : Char) : Bool :=
  c == '\'' || c == '"' || c == '\x60'

/-- Whether a character separates fields and belongs to none. -/
def isSeparator (c : Char) : Bool :=
  Text.isBlank c || c == ';' || c == '='

def isBare (c : Char) : Bool :=
  !isSeparator c && c != ',' && !isQuote c

/-- The run at the head of a text and what follows it. A quote that is not closed runs to the end. -/
def run? : List Char → Option (List Char × List Char)
  | [] => none
  | c :: rest =>
    if isQuote c then
      let inside := rest.takeWhile (· != c)
      let after := rest.dropWhile (· != c)
      some (c :: inside ++ after.take 1, after.drop 1)
    else if isBare c then some (c :: rest.takeWhile isBare, rest.dropWhile isBare)
    else none

theorem run?_append {text run after : List Char} (found : run? text = some (run, after)) :
    run ++ after = text := by
  cases text with
  | nil => simp [run?] at found
  | cons c rest =>
    simp only [run?] at found
    split at found
    · obtain ⟨rfl, rfl⟩ := Prod.mk.inj (Option.some.inj found)
      rw [List.append_assoc, List.take_append_drop, List.cons_append, List.takeWhile_append_dropWhile]
    · split at found
      · obtain ⟨rfl, rfl⟩ := Prod.mk.inj (Option.some.inj found)
        rw [List.cons_append, List.takeWhile_append_dropWhile]
      · simp at found

/-- A run is not empty. -/
theorem run?_length_pos {text run after : List Char} (found : run? text = some (run, after)) :
    0 < run.length := by
  cases text with
  | nil => simp [run?] at found
  | cons c rest =>
    simp only [run?] at found
    split at found
    · obtain ⟨rfl, rfl⟩ := Prod.mk.inj (Option.some.inj found)
      simp
    · split at found
      · obtain ⟨rfl, rfl⟩ := Prod.mk.inj (Option.some.inj found)
        simp
      · simp at found

theorem run?_length_lt {text run after : List Char} (found : run? text = some (run, after)) :
    after.length < text.length := by
  have whole := congrArg List.length (run?_append found)
  have nonempty := run?_length_pos found
  rw [List.length_append] at whole
  omega

def field (text : List Char) : List Char × List Char :=
  match _found : run? text with
  | none => ([], text)
  | some (run, after) =>
    let more := field after
    (run ++ more.1, more.2)
termination_by text.length
decreasing_by exact run?_length_lt _found

theorem field_append (text : List Char) : (field text).1 ++ (field text).2 = text := by
  induction size : text.length using Nat.strongRecOn generalizing text with
  | ind n ih =>
    rw [field]
    split
    · simp
    · rename_i run after found
      have shorter := run?_length_lt found
      have whole := ih after.length (by omega) after rfl
      simp [whole, run?_append found]

structure Field where
  start : Nat
  text : List Char
deriving DecidableEq, Repr, Inhabited

def fieldsFrom (position : Nat) (rest : List Char) : List Field :=
  match rest with
  | [] => []
  | c :: tail =>
    if c == ',' then ⟨position, [',']⟩ :: fieldsFrom (position + 1) tail
    else if isSeparator c then fieldsFrom (position + 1) tail
    else
      let found := field (c :: tail)
      if found.1.isEmpty then []
      else ⟨position, found.1⟩ :: fieldsFrom (position + found.1.length) found.2
termination_by rest.length
decreasing_by
  · simp
  · simp
  · rename_i nonempty
    have whole := congrArg List.length (field_append (c :: tail))
    have positive : 0 < (field (c :: tail)).1.length :=
      List.length_pos_iff.mpr (by simpa [found] using nonempty)
    rw [List.length_append] at whole
    omega

def fieldsAt (sql : List Char) : List Field :=
  fieldsFrom 0 sql

def fields (sql : String) : List String :=
  (fieldsAt sql.toList).map fun field => String.ofList field.text

end Tabular.Query
