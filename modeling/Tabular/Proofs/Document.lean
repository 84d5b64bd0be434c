import Mathlib.Data.List.Induction
import Tabular.Document

/-!
# Equality of documents, fields of records

Documents are compared constructor by constructor, so equations between them can be decided. Fields
that are written one after the other stand in the order in which they were written first, and have
the values that were written last.
-/

set_option autoImplicit false

namespace Tabular.Document

/-! ## Equality -/

mutual

def same : Document → Document → Bool
  | .null, .null => true
  | .bool one, .bool other => one == other
  | .number one, .number other => one == other
  | .text one, .text other => one == other
  | .list one, .list other => sameItems one other
  | .record one, .record other => sameFields one other
  | _, _ => false

def sameItems : List Document → List Document → Bool
  | [], [] => true
  | one :: rest, other :: more => same one other && sameItems rest more
  | _, _ => false

def sameFields : List (String × Document) → List (String × Document) → Bool
  | [], [] => true
  | (key, one) :: rest, (name, other) :: more =>
    key == name && same one other && sameFields rest more
  | _, _ => false

end

mutual

theorem same_iff (one other : Document) : same one other = true ↔ one = other := by
  cases one with
  | list items =>
      cases other with
      | list more => simp [same, sameItems_iff items more]
      | null | bool | number | text | record => simp [same]
  | record fields =>
      cases other with
      | record more => simp [same, sameFields_iff fields more]
      | null | bool | number | text | list => simp [same]
  | null | bool | number | text => cases other <;> simp [same]

theorem sameItems_iff (one other : List Document) : sameItems one other = true ↔ one = other := by
  cases one with
  | nil => cases other <;> simp [sameItems]
  | cons item rest =>
      cases other with
      | nil => simp [sameItems]
      | cons first more => simp [sameItems, same_iff item first, sameItems_iff rest more]

theorem sameFields_iff (one other : List (String × Document)) :
    sameFields one other = true ↔ one = other := by
  cases one with
  | nil => cases other <;> simp [sameFields]
  | cons field rest =>
      cases other with
      | nil => simp [sameFields]
      | cons first more =>
          obtain ⟨key, value⟩ := field
          obtain ⟨name, found⟩ := first
          simp [sameFields, same_iff value found, sameFields_iff rest more, and_assoc]

end

instance : DecidableEq Document := fun one other =>
  decidable_of_iff (same one other = true) (same_iff one other)

/-! ## Fields of records -/

variable {fields : List (String × Document)} {key other : String}

theorem field?_cons (entry : String × Document) (fields : List (String × Document))
    (key : String) :
    field? (entry :: fields) key = if entry.1 = key then some entry.2 else field? fields key := by
  by_cases same : entry.1 = key
  · simp [field?, same]
  · simp [field?, same]

theorem field?_append (fields more : List (String × Document)) (key : String) :
    field? (fields ++ more) key = (field? fields key).or (field? more key) := by
  simp [field?, List.find?_append, Option.map_or]

theorem field?_eq_none_iff : field? fields key = none ↔ key ∉ fields.map Prod.fst := by
  induction fields with
  | nil => simp [field?]
  | cons entry fields ih =>
      rw [field?_cons, List.map_cons, List.mem_cons, not_or, ← ih, eq_comm (a := key)]
      by_cases same : entry.1 = key
      · simp [same]
      · simp [same]

/-- The value at the last place of a key. -/
theorem field?_reverse_of_last {list : List (String × Document)} {position : Nat}
    {key : String} {value : Document} (here : list[position]? = some (key, value))
    (last : ∀ later, position < later → (list.map Prod.fst)[later]? ≠ some key) :
    field? list.reverse key = some value := by
  obtain ⟨inside, same⟩ := List.getElem?_eq_some_iff.mp here
  have parted : list = list.take position ++ (key, value) :: list.drop (position + 1) := by
    rw [← same, List.getElem_cons_drop, List.take_append_drop]
  have behind : field? (list.drop (position + 1)).reverse key = none := by
    rw [field?_eq_none_iff, List.map_reverse, List.mem_reverse, List.map_drop]
    intro member
    obtain ⟨offset, found⟩ := List.mem_iff_getElem?.mp member
    rw [List.getElem?_drop] at found
    exact last _ (by omega) found
  rw [parted, List.reverse_append, List.reverse_cons, field?_append, field?_append, behind,
    Option.none_or, field?_cons, if_pos rfl, Option.some_or]

/-! ## Fields that are written one after the other -/

theorem setField_of_mem (member : key ∈ fields.map Prod.fst) (value : Document) :
    setField fields key value =
      fields.map fun entry => if entry.1 = key then (key, value) else entry := by
  have present : (fields.any fun entry => entry.1 == key) = true := by simpa using member
  simp only [setField, present, if_true, beq_iff_eq]

theorem setField_of_not_mem (absent : key ∉ fields.map Prod.fst) (value : Document) :
    setField fields key value = fields ++ [(key, value)] := by
  have missing : ¬(fields.any fun entry => entry.1 == key) = true := by simpa using absent
  simp only [setField, missing, if_false, Bool.false_eq_true]

private theorem keys_setField (fields : List (String × Document)) (key : String)
    (value : Document) :
    (setField fields key value).map Prod.fst =
      if key ∈ fields.map Prod.fst then fields.map Prod.fst else fields.map Prod.fst ++ [key] := by
  split
  · next member =>
      rw [setField_of_mem member, List.map_map]
      apply List.map_congr_left
      intro entry _
      by_cases same : entry.1 = key
      · simp [same]
      · simp [same]
  · next absent =>
      rw [setField_of_not_mem absent, List.map_append]
      rfl

private theorem field?_replaced (fields : List (String × Document)) (key other : String)
    (value : Document) :
    field? (fields.map fun entry => if entry.1 = key then (key, value) else entry) other =
      if key = other then (field? fields other).map fun _ => value else field? fields other := by
  induction fields with
  | nil => simp [field?]
  | cons entry fields ih =>
      rw [List.map_cons, field?_cons, field?_cons, ih]
      grind

/-- A field that is written has its value, and any other field the value it had. -/
theorem field?_setField (fields : List (String × Document)) (key other : String)
    (value : Document) :
    field? (setField fields key value) other =
      if key = other then some value else field? fields other := by
  by_cases member : key ∈ fields.map Prod.fst
  · obtain ⟨former, found⟩ :=
      Option.ne_none_iff_exists'.mp fun none => field?_eq_none_iff.mp none member
    rw [setField_of_mem member, field?_replaced]
    split
    · next same =>
        subst same
        rw [found, Option.map_some]
    · rfl
  · rw [setField_of_not_mem member, field?_append, field?_cons]
    split
    · next same =>
        subst same
        rw [field?_eq_none_iff.mpr member, Option.none_or]
    · exact Option.or_none

theorem fieldsOf_append (entries : List (String × Document)) (entry : String × Document) :
    fieldsOf (entries ++ [entry]) = setField (fieldsOf entries) entry.1 entry.2 := by
  rw [fieldsOf, List.foldl_append]
  rfl

/-- A field has the value that was written last. -/
theorem field?_fieldsOf (entries : List (String × Document)) (key : String) :
    field? (fieldsOf entries) key = field? entries.reverse key := by
  induction entries using List.reverseRecOn with
  | nil => rfl
  | append_singleton entries entry ih =>
      rw [fieldsOf_append, field?_setField, ih, List.reverse_append, List.reverse_singleton,
        List.singleton_append, field?_cons]

/-- The fields stand in the order in which they were written first. -/
theorem keys_fieldsOf (entries : List (String × Document)) :
    (fieldsOf entries).map Prod.fst = (entries.map Prod.fst).eraseDups := by
  induction entries using List.reverseRecOn with
  | nil => rfl
  | append_singleton entries entry ih =>
      rw [fieldsOf_append, keys_setField, ih, List.map_append, List.map_singleton,
        List.eraseDups_append]
      split
      · next member =>
          rw [List.mem_eraseDups] at member
          simp [List.removeAll, member]
      · next absent =>
          rw [List.mem_eraseDups] at absent
          simp [List.removeAll, absent, List.eraseDups_cons]

theorem fieldsOf_of_nodup {entries : List (String × Document)}
    (distinct : (entries.map Prod.fst).Nodup) : fieldsOf entries = entries := by
  induction entries using List.reverseRecOn with
  | nil => rfl
  | append_singleton entries entry ih =>
      rw [List.map_append, List.nodup_append] at distinct
      obtain ⟨before, -, apart⟩ := distinct
      have absent : entry.1 ∉ entries.map Prod.fst := by
        intro member
        exact apart _ member _ List.mem_cons_self rfl
      rw [fieldsOf_append, ih before, setField_of_not_mem absent]

private theorem nodup_keys_fieldsOf (entries : List (String × Document)) :
    ((fieldsOf entries).map Prod.fst).Nodup := by
  induction entries using List.reverseRecOn with
  | nil => exact List.nodup_nil
  | append_singleton entries entry ih =>
      rw [fieldsOf_append, keys_setField]
      split
      · exact ih
      · next absent =>
          rw [(List.perm_append_singleton _ _).nodup_iff]
          exact List.nodup_cons.mpr ⟨absent, ih⟩

private theorem keys_fieldsOf_sublist (entries : List (String × Document)) :
    List.Sublist ((fieldsOf entries).map Prod.fst) (entries.map Prod.fst) := by
  induction entries using List.reverseRecOn with
  | nil => exact .slnil
  | append_singleton entries entry ih =>
      rw [fieldsOf_append, keys_setField, List.map_append]
      split
      · exact ih.trans (List.sublist_append_left _ _)
      · exact ih.append (List.Sublist.refl _)

/-- Entries with a key in common leave fewer fields. -/
theorem length_fieldsOf_lt {entries : List (String × Document)}
    (repeated : ¬(entries.map Prod.fst).Nodup) : (fieldsOf entries).length < entries.length := by
  have part := keys_fieldsOf_sublist entries
  have fewer := part.length_le
  rw [List.length_map, List.length_map] at fewer
  refine Nat.lt_of_le_of_ne fewer ?_
  intro same
  have whole := part.eq_of_length (by rw [List.length_map, List.length_map, same])
  exact repeated (whole ▸ nodup_keys_fieldsOf entries)

end Tabular.Document
