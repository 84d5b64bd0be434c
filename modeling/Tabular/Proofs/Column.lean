import Mathlib.Data.List.Nodup
import Mathlib.Data.List.Perm.Subperm
import Tabular.Column

/-!
# Distinct column names

The names of a table stay distinct, without regard to ASCII case, whenever a name is added that was
made unique. Of keyed columns there is one for every key that was seen, in the order of first
appearance, and the keys determine their names.
-/

set_option autoImplicit false

namespace Tabular

/-- Whether names can be used together in one table. -/
def Distinct (names : List String) : Prop :=
  (names.map Ascii.lower).Nodup

instance (names : List String) : Decidable (Distinct names) :=
  inferInstanceAs (Decidable (List.Nodup _))

theorem distinct_nil : Distinct [] :=
  List.nodup_nil

/-! ## Numbered names -/

private theorem toLower_of_isDigit {c : Char} (digit : c.isDigit = true) : c.toLower = c := by
  have small : ¬('A'.val ≤ c.val ∧ c.val ≤ 'Z'.val) := by
    simp only [Char.isDigit, Bool.and_eq_true, decide_eq_true_eq] at digit
    intro upper
    exact absurd (UInt32.le_trans upper.1 digit.2) (by decide)
  exact dif_neg fun upper => small ⟨upper.1, upper.2⟩

theorem lower_append (first second : String) :
    Ascii.lower (first ++ second) = Ascii.lower first ++ Ascii.lower second := by
  simp [Ascii.lower]

private theorem lower_toString (n : Nat) : Ascii.lower (toString n) = toString n := by
  have digits : (toString n).toList.map Char.toLower = (toString n).toList := by
    refine (List.map_congr_left fun c member => ?_).trans (List.map_id' _)
    have digit : c ∈ Nat.toDigits 10 n := by simpa using member
    exact toLower_of_isDigit (Nat.isDigit_of_mem_toDigits (by decide) (by decide) digit)
  rw [Ascii.lower, digits, String.ofList_toList]

theorem toString_nat_injective : Function.Injective fun n : Nat => toString n := by
  intro first second same
  have digits : Nat.toDigits 10 first = Nat.toDigits 10 second := by
    simpa using congrArg String.toList same
  simpa using congrArg (fun digits => Nat.ofDigitChars 10 digits 0) digits

theorem lower_numbered_injective (base : String) :
    Function.Injective fun n : Nat => Ascii.lower (base ++ toString n) := by
  intro first second same
  simp only [lower_append, lower_toString] at same
  have letters := congrArg String.toList same
  rw [String.toList_append, String.toList_append] at letters
  exact toString_nat_injective (String.toList_inj.mp (List.append_cancel_left letters))

/-! ## Unique names -/

/-- One of the numbers that are tried is free, because there are more of them than names. -/
theorem exists_free (base : String) (existing : List String) :
    ∃ n ∈ List.range (existing.length + 1), isTaken existing (base ++ toString n) = false := by
  by_contra none
  have taken : ∀ n ∈ List.range (existing.length + 1),
      Ascii.lower (base ++ toString n) ∈ existing.map Ascii.lower := by
    intro n member
    have found : isTaken existing (base ++ toString n) = true :=
      Bool.not_eq_false _ ▸ fun free => none ⟨n, member, free⟩
    obtain ⟨other, inside, same⟩ := isTaken_iff.mp found
    exact List.mem_map.mpr ⟨other, inside, same⟩
  have distinct : ((List.range (existing.length + 1)).map fun n =>
      Ascii.lower (base ++ toString n)).Nodup :=
    (List.nodup_map_iff (lower_numbered_injective base)).mpr List.nodup_range
  have inside : ((List.range (existing.length + 1)).map fun n =>
      Ascii.lower (base ++ toString n)) ⊆ existing.map Ascii.lower := by
    intro name member
    obtain ⟨n, found, rfl⟩ := List.mem_map.mp member
    exact taken n found
  have size := (List.subperm_of_subset distinct inside).length_le
  simp only [List.length_map, List.length_range] at size
  omega

private theorem uniqueName_of_free {base : String} {existing : List String}
    (free : isTaken existing base = false) : uniqueName base existing = base := by
  rw [isTaken] at free
  simp only [uniqueName, free, Bool.not_false, if_true]

/-- A name that is taken gets the least number that makes it free, at most the number of names. -/
theorem uniqueName_of_taken {base : String} {existing : List String}
    (taken : isTaken existing base = true) :
    ∃ n ≤ existing.length, uniqueName base existing = base ++ toString n ∧
      isTaken existing (base ++ toString n) = false ∧
      ∀ m < n, isTaken existing (base ++ toString m) = true := by
  have searched : uniqueName base existing =
      (((List.range (existing.length + 1)).find? fun n =>
        !isTaken existing (base ++ toString n)).map fun n => base ++ toString n).getD base := by
    rw [isTaken] at taken
    simp only [uniqueName, taken, Bool.not_true, Bool.false_eq_true, if_false, List.find?_map]
    rfl
  cases found : (List.range (existing.length + 1)).find? fun n =>
      !isTaken existing (base ++ toString n) with
  | none =>
      obtain ⟨n, member, free⟩ := exists_free base existing
      have refused := List.find?_eq_none.mp found n member
      exact absurd (by rw [free]; rfl) refused
  | some n =>
      obtain ⟨free, member, least⟩ := List.find?_range_eq_some.mp found
      refine ⟨n, Nat.le_of_lt_succ (List.mem_range.mp member), ?_, by simpa using free, ?_⟩
      · rw [searched, found]
        rfl
      · intro m less
        simpa using least m less

/-- The name that is made unique is free. It is the given one, or that with a number behind it. -/
theorem uniqueName_spec (base : String) (existing : List String) :
    isTaken existing (uniqueName base existing) = false ∧
      (uniqueName base existing = base ∨
        ∃ n : Nat, uniqueName base existing = base ++ toString n) := by
  cases taken : isTaken existing base with
  | false =>
      rw [uniqueName_of_free taken]
      exact ⟨taken, .inl rfl⟩
  | true =>
      obtain ⟨n, -, name, free, -⟩ := uniqueName_of_taken taken
      rw [name]
      exact ⟨free, .inr ⟨n, rfl⟩⟩

/-- A search without an end for a free name, from a number on: it stops at the first number that
makes the name free. -/
inductive Searched (base : String) (existing : List String) : Nat → String → Prop where
  | found {n : Nat} (free : isTaken existing (base ++ toString n) = false) :
      Searched base existing n (base ++ toString n)
  | next {n : Nat} {name : String} (taken : isTaken existing (base ++ toString n) = true)
      (later : Searched base existing (n + 1) name) : Searched base existing n name

theorem Searched.unique {base name other : String} {existing : List String} {n : Nat}
    (searched : Searched base existing n name) (also : Searched base existing n other) :
    name = other := by
  induction searched with
  | found free =>
      cases also with
      | found => rfl
      | next taken =>
          rw [free] at taken
          cases taken
  | next taken later ih =>
      cases also with
      | found free =>
          rw [taken] at free
          cases free
      | next _ later => exact ih later

/-- The search passes the numbers that do not make the name free. -/
theorem Searched.of_least {base : String} {existing : List String} {first : Nat} (count : Nat)
    (free : isTaken existing (base ++ toString (first + count)) = false)
    (least : ∀ m, first ≤ m → m < first + count → isTaken existing (base ++ toString m) = true) :
    Searched base existing first (base ++ toString (first + count)) := by
  induction count generalizing first with
  | zero => exact .found free
  | succ count ih =>
      rw [← Nat.succ_add_eq_add_succ] at free least ⊢
      refine .next (least first (Nat.le_refl first) (by omega)) (ih free fun m after => ?_)
      exact least m (Nat.le_of_succ_le after)

/-- A name is made unique as it is where it is free, and otherwise with the least number behind it
that makes it free. A search that tries all numbers finds it after as many of them as there are
names. -/
theorem uniqueName_least (base : String) (existing : List String) :
    (∀ other ∈ existing, Ascii.lower other ≠ Ascii.lower (uniqueName base existing)) ∧
      (uniqueName base existing = base ↔ isTaken existing base = false) ∧
      (isTaken existing base = false ∨
        (∀ name, Searched base existing 0 name ↔ name = uniqueName base existing) ∧
          ∃ n ≤ existing.length, uniqueName base existing = base ++ toString n ∧
            ∀ m < n, isTaken existing (base ++ toString m) = true) := by
  have free := (uniqueName_spec base existing).1
  refine ⟨fun other member same => ?_, ⟨fun same => same ▸ free, uniqueName_of_free⟩, ?_⟩
  · rw [isTaken_iff.mpr ⟨other, member, same⟩] at free
    cases free
  · cases taken : isTaken existing base with
    | false => exact .inl rfl
    | true =>
        obtain ⟨n, few, name, free, least⟩ := uniqueName_of_taken taken
        have found : Searched base existing 0 (uniqueName base existing) := by
          rw [← Nat.zero_add n] at name free least
          exact name ▸ .of_least n free fun m _ less => least m less
        refine .inr ⟨fun other => ⟨fun searched => searched.unique found, ?_⟩, n, few, name, least⟩
        rintro rfl
        exact found

theorem Distinct.cons {names : List String} (distinct : Distinct names) (base : String) :
    Distinct (uniqueName base names :: names) := by
  have free := (uniqueName_spec base names).1
  refine List.nodup_cons.mpr ⟨fun member => ?_, distinct⟩
  obtain ⟨other, inside, same⟩ := List.mem_map.mp member
  rw [isTaken_iff.mpr ⟨other, inside, same⟩] at free
  cases free

theorem Distinct.concat {names : List String} (distinct : Distinct names) (base : String) :
    Distinct (names ++ [uniqueName base names]) := by
  have perm : (names ++ [uniqueName base names]).Perm (uniqueName base names :: names) :=
    List.perm_append_singleton _ _
  exact ((perm.map Ascii.lower).nodup_iff).mpr (distinct.cons base)

theorem Distinct.isTaken_append {names more : List String} {name : String}
    (distinct : Distinct (names ++ name :: more)) : isTaken names name = false := by
  rw [Distinct, List.map_append] at distinct
  cases taken : isTaken names name with
  | false => rfl
  | true =>
      obtain ⟨other, member, same⟩ := isTaken_iff.mp taken
      have apart := List.disjoint_of_nodup_append distinct (List.mem_map_of_mem member)
      rw [same] at apart
      exact absurd (List.mem_map_of_mem List.mem_cons_self) apart

/-! ## Names by position -/

theorem distinct_positional (count : Nat) : Distinct ((List.range count).map positionalName) := by
  rw [Distinct, List.map_map]
  refine (List.nodup_map_iff ?_).mpr List.nodup_range
  intro first second same
  have numbers : first + 1 = second + 1 := lower_numbered_injective "c" same
  omega

theorem nameOrPositional_empty (position : Nat) :
    nameOrPositional position "" = positionalName position :=
  if_pos (by decide)

theorem headerNames_cons (named cells : List String) (cell : String) :
    headerNames named (cell :: cells) =
      headerNames (named ++ [uniqueName (nameOrPositional named.length cell) named]) cells :=
  rfl

theorem Distinct.headerNames {named : List String} (distinct : Distinct named)
    (cells : List String) : Distinct (headerNames named cells) := by
  induction cells generalizing named with
  | nil => exact distinct
  | cons cell cells ih => exact ih (distinct.concat _)

theorem headerNames_of_distinct {named cells : List String} (distinct : Distinct (named ++ cells))
    (filled : ∀ cell ∈ cells, cell ≠ "") : headerNames named cells = named ++ cells := by
  induction cells generalizing named with
  | nil => exact (List.append_nil named).symm
  | cons cell cells ih =>
      obtain ⟨first, others⟩ := List.forall_mem_cons.mp filled
      have name : nameOrPositional named.length cell = cell :=
        if_neg fun empty => first (String.isEmpty_iff.mp empty)
      have free := distinct.isTaken_append
      rw [List.append_cons] at distinct
      rw [headerNames_cons, name, uniqueName_of_free free, ih distinct others,
        ← List.append_cons]

theorem exists_headerNames (named cells : List String) :
    ∃ added, headerNames named cells = named ++ added ∧ added.length = cells.length := by
  induction cells generalizing named with
  | nil => exact ⟨[], (List.append_nil _).symm, rfl⟩
  | cons cell cells ih =>
      obtain ⟨added, names, size⟩ :=
        ih (named ++ [uniqueName (nameOrPositional named.length cell) named])
      refine ⟨uniqueName (nameOrPositional named.length cell) named :: added, ?_,
        congrArg (· + 1) size⟩
      rw [headerNames_cons, names, List.append_assoc, List.singleton_append]

theorem length_headerNames (named cells : List String) :
    (headerNames named cells).length = named.length + cells.length := by
  obtain ⟨added, names, size⟩ := exists_headerNames named cells
  rw [names, List.length_append, size]

/-- The name of a header cell is the cell, or the positional name if it is blank, made unique among
the names to its left. -/
theorem getElem?_headerNames {cells : List String} {position : Nat} {cell : String}
    (found : cells[position]? = some cell) (named : List String) :
    (headerNames named cells)[named.length + position]? =
      some (uniqueName (nameOrPositional (named.length + position) cell)
        ((headerNames named cells).take (named.length + position))) := by
  induction cells generalizing named position with
  | nil => simp at found
  | cons first cells ih =>
      rw [headerNames_cons]
      cases position with
      | zero =>
          have same : first = cell := by simpa using found
          obtain ⟨added, names, -⟩ := exists_headerNames
            (named ++ [uniqueName (nameOrPositional named.length first) named]) cells
          rw [names, same]
          simp
      | succ position =>
          have later := ih (by simpa using found)
            (named ++ [uniqueName (nameOrPositional named.length first) named])
          rw [List.length_append, List.length_singleton, Nat.add_assoc, Nat.add_comm 1] at later
          exact later

/-! ## Keyed columns -/

namespace KeyedColumns

/-- Columns with one name for each key. -/
structure WellFormed (columns : KeyedColumns) : Prop where
  keys : columns.keys.Nodup
  length : columns.names.length = columns.keys.length
  names : Distinct columns.names

theorem wellFormed_empty : WellFormed empty :=
  ⟨List.nodup_nil, rfl, distinct_nil⟩

variable {columns : KeyedColumns}

theorem position?_eq_none_iff {key : String} :
    columns.position? key = none ↔ key ∉ columns.keys := by
  rw [position?, List.idxOf?_eq_none_iff]

theorem getElem?_of_position? {key : String} {position : Nat}
    (found : columns.position? key = some position) : columns.keys[position]? = some key := by
  obtain ⟨inside, same, -⟩ := List.idxOf?_eq_some_iff.mp found
  rw [List.getElem?_eq_getElem inside, same]

theorem exists_position? {key : String} (member : key ∈ columns.keys) :
    ∃ position, columns.position? key = some position := by
  cases found : columns.position? key with
  | none => exact absurd member (position?_eq_none_iff.mp found)
  | some position => exact ⟨position, rfl⟩

theorem add_of_mem {key : String} (member : key ∈ columns.keys) : columns.add key = columns := by
  obtain ⟨position, found⟩ := exists_position? member
  rw [add, found]

theorem add_of_not_mem {key : String} (fresh : key ∉ columns.keys) :
    columns.add key = ⟨columns.keys ++ [key], columns.names ++ [uniqueName key columns.names]⟩ := by
  rw [add, position?_eq_none_iff.mpr fresh]

private theorem WellFormed.add (wellFormed : WellFormed columns) (key : String) :
    WellFormed (columns.add key) := by
  by_cases member : key ∈ columns.keys
  · rwa [add_of_mem member]
  · rw [add_of_not_mem member]
    refine ⟨?_, ?_, wellFormed.names.concat key⟩
    · exact ((List.perm_append_singleton key columns.keys).nodup_iff).mpr
        (List.nodup_cons.mpr ⟨member, wellFormed.keys⟩)
    · simp only [List.length_append, wellFormed.length, List.length_singleton]

theorem ofRecords_eq (records : List (List String)) :
    ofRecords records = records.flatten.foldl add empty :=
  List.foldl_flatten.symm

/-- What holds without a column and is kept by every key holds of the columns for records. -/
theorem ofRecords_induction {motive : KeyedColumns → Prop} (start : motive empty)
    (step : ∀ columns key, motive columns → motive (columns.add key))
    (records : List (List String)) : motive (ofRecords records) := by
  have kept (keys : List String) : ∀ columns, motive columns → motive (keys.foldl add columns) := by
    induction keys with
    | nil => exact fun _ holds => holds
    | cons key keys ih => exact fun columns holds => ih _ (step columns key holds)
  rw [ofRecords_eq]
  exact kept _ _ start

theorem wellFormed_ofRecords (records : List (List String)) : WellFormed (ofRecords records) :=
  ofRecords_induction wellFormed_empty (fun _ key wellFormed => wellFormed.add key) records

/-- What is seen once more changes nothing in the order of first appearance. -/
theorem eraseDups_concat (seen : List String) (key : String) :
    (seen ++ [key]).eraseDups = if key ∈ seen then seen.eraseDups else seen.eraseDups ++ [key] := by
  rw [List.eraseDups_append]
  split
  · next known => simp [List.removeAll, known]
  · next fresh => simp [List.removeAll, fresh, List.eraseDups_cons]

private theorem keys_foldl_add {seen : List String} (kept : columns.keys = seen.eraseDups)
    (keys : List String) : (keys.foldl add columns).keys = (seen ++ keys).eraseDups := by
  induction keys generalizing columns seen with
  | nil => rw [List.append_nil]; exact kept
  | cons key keys ih =>
      have known : key ∈ columns.keys ↔ key ∈ seen := by rw [kept, List.mem_eraseDups]
      rw [List.foldl_cons, List.append_cons]
      refine ih ?_
      rw [eraseDups_concat]
      split
      · next before => rw [add_of_mem (known.mpr before), kept]
      · next fresh => rw [add_of_not_mem (mt known.mp fresh), kept]

/-- The columns stand in the order in which their keys first appear. -/
theorem keys_ofRecords (records : List (List String)) :
    (ofRecords records).keys = records.flatten.eraseDups := by
  have none_seen : empty.keys = ([] : List String).eraseDups := rfl
  rw [ofRecords_eq, keys_foldl_add none_seen, List.nil_append]

/-- The keys with a column are those that were seen. -/
theorem mem_keys_ofRecords {records : List (List String)} {key : String} :
    key ∈ (ofRecords records).keys ↔ ∃ keys ∈ records, key ∈ keys := by
  rw [keys_ofRecords, List.mem_eraseDups, List.mem_flatten]

/-! ## Names and their keys -/

/-- Every column is named by its key, made unique among the names to its left. -/
def Named (columns : KeyedColumns) : Prop :=
  ∀ (position : Nat) (key : String), columns.keys[position]? = some key →
    columns.names[position]? = some (uniqueName key (columns.names.take position))

theorem named_empty : Named empty :=
  fun _ _ found => nomatch found

private theorem Named.add (named : Named columns)
    (length : columns.names.length = columns.keys.length) (key : String) :
    Named (columns.add key) := by
  by_cases member : key ∈ columns.keys
  · rwa [add_of_mem member]
  · rw [add_of_not_mem member]
    intro position other found
    rcases Nat.lt_or_ge position columns.keys.length with inside | beyond
    · rw [List.getElem?_append_left inside] at found
      rw [List.getElem?_append_left (by omega), List.take_append_of_le_length (by omega)]
      exact named position other found
    · obtain rfl : position = columns.keys.length := by
        obtain ⟨within, -⟩ := List.getElem?_eq_some_iff.mp found
        rw [List.length_append, List.length_singleton] at within
        omega
      obtain rfl : key = other := by simpa using found
      rw [← length]
      simp

theorem named_ofRecords (records : List (List String)) : Named (ofRecords records) :=
  (ofRecords_induction (motive := fun columns => WellFormed columns ∧ Named columns)
    ⟨wellFormed_empty, named_empty⟩
    (fun _ key holds => ⟨holds.1.add key, holds.2.add holds.1.length key⟩) records).2

/-- The keys of columns leave no choice for their names. -/
theorem Named.names_eq {other : KeyedColumns} (named : Named columns) (namedToo : Named other)
    (length : columns.names.length = columns.keys.length)
    (lengthToo : other.names.length = other.keys.length) (keys : columns.keys = other.keys) :
    columns.names = other.names := by
  have lengths : columns.names.length = other.names.length := by rw [length, lengthToo, keys]
  -- A name depends on the names to its left, so they are compared from the left.
  have alike : ∀ count, columns.names.take count = other.names.take count := by
    intro count
    induction count with
    | zero => simp
    | succ count ih =>
        rw [List.take_add_one, List.take_add_one, ih]
        congr 2
        cases found : columns.keys[count]? with
        | some key => rw [named count key found, namedToo count key (keys ▸ found), ih]
        | none =>
            have beyond := List.getElem?_eq_none_iff.mp found
            rw [List.getElem?_eq_none (by omega), List.getElem?_eq_none (by omega)]
  have whole := alike columns.names.length
  rwa [List.take_length, lengths, List.take_length] at whole

/-! ## Names that need no change -/

theorem addAll_of_mem {keys : List String} (known : ∀ key ∈ keys, key ∈ columns.keys) :
    columns.addAll keys = columns := by
  induction keys with
  | nil => rfl
  | cons key keys ih =>
      obtain ⟨first, others⟩ := List.forall_mem_cons.mp known
      have step : columns.addAll (key :: keys) = (columns.add key).addAll keys := rfl
      rw [step, add_of_mem first, ih others]

private theorem addAll_of_distinct {known keys : List String}
    (distinct : Distinct (known ++ keys)) :
    addAll ⟨known, known⟩ keys = ⟨known ++ keys, known ++ keys⟩ := by
  induction keys generalizing known with
  | nil => rw [List.append_nil]; rfl
  | cons key keys ih =>
      have free := distinct.isTaken_append
      have fresh : key ∉ known := by
        intro member
        rw [isTaken_iff.mpr ⟨key, member, rfl⟩] at free
        cases free
      have step : addAll ⟨known, known⟩ (key :: keys) = (add ⟨known, known⟩ key).addAll keys := rfl
      rw [List.append_cons] at distinct
      rw [step, add_of_not_mem fresh, uniqueName_of_free free, ih distinct,
        ← List.append_cons]

/-- Records with the same distinct keys have these keys as their columns. -/
theorem ofRecords_replicate {keys : List String} (distinct : Distinct keys) (count : Nat) :
    ofRecords (List.replicate (count + 1) keys) = ⟨keys, keys⟩ := by
  have first : addAll empty keys = ⟨keys, keys⟩ := addAll_of_distinct distinct
  rw [ofRecords, List.replicate_succ, List.foldl_cons, first]
  induction count with
  | zero => rfl
  | succ count ih =>
      rw [List.replicate_succ, List.foldl_cons, addAll_of_mem fun key member => member, ih]

end KeyedColumns

end Tabular
