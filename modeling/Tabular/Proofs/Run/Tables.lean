import Mathlib.Data.List.Nodup
import Tabular.Proofs.Files.Reference
import Tabular.Proofs.Load.Executed
import Tabular.Proofs.Run.Gather

/-!
# The tables that a query makes

One table is made for every reference that leads to an input. Two references make the same table if
they have the same name without their quotes, however they are written: references are told apart by
their text, tables by their names.
-/

set_option autoImplicit false

namespace Tabular

namespace Reference

/-- The names that the table of a reference can have. -/
inductive Names (reference : String) : String → Prop where
  | whole : Names reference (unquoted reference)
  | part {file path : List Char} (split : splitPath? reference.toList = some (file, path)) :
      Names reference (unquoted (String.ofList file) ++ "::" ++ String.ofList path)

/-- A reference without back quotes and double quotes. -/
def Bare (reference : String) : Prop :=
  '\x60' ∉ reference.toList ∧ '"' ∉ reference.toList

private theorem names_of_resolve {reference : String} {around : Surroundings} {opened : Opened}
    (resolved : (resolve reference around).1 = .ok (some opened)) :
    Names reference (Run.tableName opened) := by
  rw [resolve] at resolved
  split at resolved
  · cases resolved
  · cases resolved
    exact .whole
  · split at resolved
    · cases resolved
    · rename_i later _ _ file path split
      cases found : open? (String.ofList file) later with
      | mk outcome after =>
          rw [found] at resolved
          rcases outcome with error | content?
          · cases resolved
          rcases content? with none_found | content
          · cases resolved
          cases resolved
          exact .part split

theorem unquotedBy_of_not_mem {quote : Char} {text : List Char} (absent : quote ∉ text) :
    unquotedBy quote text = text := by
  cases text with
  | nil => rfl
  | cons first rest =>
      have other : first ≠ quote := fun same => absent (same ▸ List.mem_cons_self)
      simp [unquotedBy, other]

private theorem unquoted_of_bare {name : String} (bare : Bare name) : unquoted name = name := by
  rw [unquoted, unquotedBy_of_not_mem bare.1, unquotedBy_of_not_mem bare.2, String.ofList_toList]

/-- Without quotes a reference is the name of its table. -/
theorem Names.eq_of_bare {reference name : String} (names : Names reference name)
    (bare : Bare reference) : name = reference := by
  cases names with
  | whole => exact unquoted_of_bare bare
  | @part file path split =>
      have whole := append_of_splitPath? split
      have bareFile : Bare (String.ofList file) := by
        constructor <;> intro member <;> rw [String.toList_ofList] at member
        · exact bare.1 (whole ▸ List.mem_append_left _ member)
        · exact bare.2 (whole ▸ List.mem_append_left _ member)
      rw [unquoted_of_bare bareFile]
      refine String.toList_inj.mp ?_
      rw [← whole]
      simp

end Reference

namespace Run

variable {dialect : Dialect} {options : ReadOptions}

private theorem executed_gatherOne {reference : String} {world after : World Recorder}
    {found : Option String}
    (gathered : gatherOne (Recorder.engine dialect) options reference world = (.ok found, after)) :
    ∃ targets : List Target, targets.map Target.table = found.toList ∧
      after.2.executed =
        world.2.executed ++ targets.map fun target => target.createText dialect := by
  rcases gatherOne_cases gathered with ⟨rfl, same⟩ | ⟨opened, source, count, -, rfl, loaded, later⟩
  · exact ⟨[], rfl, by rw [same, List.map_nil, List.append_nil]⟩
  · obtain ⟨target, named, executed⟩ := Load.executed_source dialect loaded
    exact ⟨[target], congrArg (fun name => [name]) named, by rw [later, executed]; rfl⟩

private theorem executed_gatherAll {references : List String} {sql out : String}
    {rewriter : Query.Rewriter} {world after : World Recorder}
    (gathered : gatherAll (Recorder.engine dialect) options sql rewriter references world =
      (.ok out, after)) :
    ∃ targets : List Target,
      targets.map Target.table =
        (tablesOf (Recorder.engine dialect) options references world).map Prod.snd ∧
      after.2.executed =
        world.2.executed ++ targets.map fun target => target.createText dialect := by
  induction references generalizing sql rewriter world with
  | nil =>
      rw [gatherAll] at gathered
      cases gathered
      exact ⟨[], rfl, (List.append_nil _).symm⟩
  | cons reference rest ih =>
      rcases gatherAll_cases gathered with ⟨middle, one, onward⟩ | ⟨table, middle, one, onward⟩
      · obtain ⟨none, nothing, executed⟩ := executed_gatherOne one
        obtain ⟨targets, tables, later⟩ := ih onward
        refine ⟨targets, by rw [tables, tablesOf_of_none one], ?_⟩
        rw [later, executed, List.map_eq_nil_iff.mp nothing, List.map_nil, List.append_nil]
      · obtain ⟨made, named, executed⟩ := executed_gatherOne one
        obtain ⟨targets, tables, later⟩ := ih onward
        refine ⟨made ++ targets, ?_, ?_⟩
        · rw [List.map_append, named, tables, tablesOf_of_some one]
          rfl
        · rw [later, executed, List.map_append, List.append_assoc]

/-- Every table has a name that its reference can have. -/
theorem exists_names {engineState : Type} {engine : Engine engineState} (references : List String)
    (world : World engineState) :
    ∃ names : List String,
      List.Forall₂ Reference.Names ((tablesOf engine options references world).map Prod.fst) names ∧
      (tablesOf engine options references world).map Prod.snd =
        names.map engine.dialect.quoteIdent := by
  induction references generalizing world with
  | nil => exact ⟨[], .nil, rfl⟩
  | cons reference rest ih =>
      rw [tablesOf]
      split
      · exact ⟨[], .nil, rfl⟩
      · exact ih _
      · rename_i table after one
        obtain ⟨opened, resolved, named⟩ := exists_opened_of_gatherOne one
        obtain ⟨names, each, tables⟩ := ih after
        refine ⟨tableName opened :: names, .cons (Reference.names_of_resolve resolved) each, ?_⟩
        rw [List.map_cons, List.map_cons, named, tables]

private theorem eq_of_bare {references names : List String}
    (each : List.Forall₂ Reference.Names references names)
    (bare : ∀ reference ∈ references, Reference.Bare reference) : names = references := by
  induction each with
  | nil => rfl
  | cons named _ ih =>
      rw [named.eq_of_bare (bare _ List.mem_cons_self),
        ih fun reference member => bare reference (List.mem_cons_of_mem _ member)]

/-- A query makes one table for each reference that leads to an input, by a statement of its own,
and executes nothing else. No table is made twice exactly when the names behind the references are
pairwise different; so it is when the references are written without quotes. -/
theorem gather_creates {sql out : String} {world after : World Recorder}
    (gathered : gather (Recorder.engine dialect) options sql world = (.ok out, after)) :
    let tables := tablesOf (Recorder.engine dialect) options (Query.tableRefs sql) world
    ∃ (targets : List Target) (names : List String),
      after.2.executed =
        world.2.executed ++ targets.map (fun target => target.createText dialect) ∧
      targets.map Target.table = tables.map Prod.snd ∧
      tables.map Prod.snd = names.map dialect.quoteIdent ∧
      List.Forall₂ Reference.Names (tables.map Prod.fst) names ∧
      ((targets.map Target.table).Nodup ↔ names.Nodup) ∧
      ((∀ entry ∈ tables, Reference.Bare entry.1) → (targets.map Target.table).Nodup) := by
  intro tables
  obtain ⟨targets, made, executed⟩ := executed_gatherAll gathered
  obtain ⟨names, each, named⟩ : ∃ names : List String,
      List.Forall₂ Reference.Names (tables.map Prod.fst) names ∧
        tables.map Prod.snd = names.map dialect.quoteIdent :=
    exists_names (Query.tableRefs sql) world
  have quoted : targets.map Target.table = names.map dialect.quoteIdent := made.trans named
  have distinct : (targets.map Target.table).Nodup ↔ names.Nodup := by
    rw [quoted]
    exact List.nodup_map_iff dialect.quoteIdent_injective
  refine ⟨targets, names, executed, made, named, each, distinct, fun bare => distinct.mpr ?_⟩
  have bareToo : ∀ reference ∈ tables.map Prod.fst, Reference.Bare reference := by
    intro reference member
    obtain ⟨entry, inside, rfl⟩ := List.mem_map.mp member
    exact bare entry inside
  rw [eq_of_bare each bareToo]
  exact (tablesOf_sublist (Query.tableRefs sql) world).nodup (Query.tableRefs_nodup sql)

/-- The references are a file, a part of it and a file of another folder. -/
theorem gather_creates_three :
    let dialect := Driver.sqlite.dialect
    let json := "\x7b\"b\":[1]\x7d".toUTF8.toList
    let world : World Recorder :=
      ({ tree := .folder [("a.json", .file json), ("sub", .folder [("a.json", .file json)])] }, {})
    let sql := "SELECT * FROM a.json, a.json::b, sub/a.json, a.json"
    let tables := tablesOf (Recorder.engine dialect) {} (Query.tableRefs sql) world
    ∃ out after, gather (Recorder.engine dialect) {} sql world = (.ok out, after) ∧
      tables.map Prod.snd = ["\x60a.json\x60", "\x60a.json::b\x60", "\x60sub/a.json\x60"] ∧
      (∀ entry ∈ tables, '\x60' ∉ entry.1.toList ∧ '"' ∉ entry.1.toList) ∧
      ∃ targets : List Target,
        after.2.executed = targets.map (fun target => target.createText dialect) ∧
        targets.map Target.table = tables.map Prod.snd ∧ (targets.map Target.table).Nodup := by
  intro dialect json world sql tables
  have bare : ∀ entry ∈ tables, '\x60' ∉ entry.1.toList ∧ '"' ∉ entry.1.toList := by
    decide +kernel
  have found : (gather (Recorder.engine dialect) {} sql world).1 =
      .ok ("SELECT * FROM " ++
        "\x60a.json\x60, \x60a.json::b\x60, \x60sub/a.json\x60, \x60a.json\x60") := by
    decide +kernel
  have gathered : gather (Recorder.engine dialect) {} sql world =
      (.ok _, (gather (Recorder.engine dialect) {} sql world).2) :=
    Prod.ext found rfl
  obtain ⟨targets, -, executed, made, -, -, -, distinct⟩ := gather_creates gathered
  exact ⟨_, _, gathered, by decide +kernel, bare, targets, executed, made, distinct bare⟩

/-- A file that is written without quotes and with quotes is loaded twice, into the same table. -/
theorem gather_creates_same_table :
    let dialect := Driver.sqlite.dialect
    let world : World Recorder := ({ tree := .folder [("a.csv", .file [0x31])] }, {})
    let sql := "SELECT * FROM a.csv, \x60a.csv\x60"
    (gather (Recorder.engine dialect) {} sql world).1 =
        .ok "SELECT * FROM \x60a.csv\x60, \x60a.csv\x60" ∧
      (gather (Recorder.engine dialect) {} sql world).2.2.executed =
        ["CREATE TEMPORARY TABLE \x60a.csv\x60 ( \x60c1\x60 text )",
          "CREATE TEMPORARY TABLE \x60a.csv\x60 ( \x60c1\x60 text )"] := by
  intro dialect world sql
  exact ⟨by decide +kernel, by decide +kernel⟩

end Run

end Tabular
