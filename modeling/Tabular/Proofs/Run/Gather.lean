import Tabular.Engine.Recorder
import Tabular.Proofs.Query.Position
import Tabular.Run.Gather

/-!
# The tables of a query

References are gathered one after the other, and the query is rewritten for each. From what one
reference does it follows for all of them which tables they lead to and which query is run.
-/

set_option autoImplicit false

namespace Tabular

/-! ## References and names -/

namespace Query

theorem ne_empty_of_mem_tableRefs {sql reference : String} (member : reference ∈ tableRefs sql) :
    reference ≠ "" := by
  rintro rfl
  obtain ⟨span, found, empty⟩ := mem_tableRefs.mp member
  obtain ⟨_, _, _, -, -, holds, -⟩ := mem_tableSpans.mp found
  exact holds.nonempty empty

private theorem rewrite_eq {rewriter : Rewriter} {raw : String} (sql name : String)
    (nonempty : raw ≠ "") (fresh : raw ∉ rewriter.done) :
    ∃ later, rewriter.rewrite sql raw name = (replaceReference sql raw name, later) ∧
      ∀ other ∈ later.done, other = raw ∨ other ∈ rewriter.done := by
  by_cases same : raw = name
  · subst same
    exact ⟨rewriter, by simp [Rewriter.rewrite, replaceReference_self],
      fun _ member => .inr member⟩
  · exact ⟨⟨raw :: rewriter.done⟩, by simp [Rewriter.rewrite, fresh, nonempty, same],
      fun _ member => List.mem_cons.mp member⟩

end Query

namespace Run

section

variable {engineState : Type} (engine : Engine engineState) (options : ReadOptions)

/-- The references that lead to an input when they are gathered one after the other, each with the
name of the table that is made for it. -/
def tablesOf : List String → World engineState → List (String × String)
  | [], _ => []
  | reference :: rest, world =>
    match gatherOne engine options reference world with
    | (.error _, _) => []
    | (.ok none, world) => tablesOf rest world
    | (.ok (some table), world) => (reference, table) :: tablesOf rest world

variable {engine options}

/-- What happens to a reference unless there is a failure: it leads to nothing and the engine is left
as it is, or the source that it leads to is loaded into a table of its name. -/
theorem gatherOne_cases {reference : String} {world after : World engineState}
    {found : Option String}
    (gathered : gatherOne engine options reference world = (.ok found, after)) :
    (found = none ∧ after.2 = world.2) ∨
    ∃ opened source count, (Reference.resolve reference world.1).1 = .ok (some opened) ∧
      found = some (engine.dialect.quoteIdent (tableName opened)) ∧
      let loaded := Load.source engine (engine.dialect.quoteIdent (tableName opened))
        options.temporary source world.2
      loaded.1 = .ok count ∧ after.2 = loaded.2.2 := by
  obtain ⟨around, now⟩ := world
  rw [gatherOne] at gathered
  rcases resolved : Reference.resolve reference around with ⟨_ | _ | opened, later⟩
  · rw [resolved] at gathered
    cases gathered
  · rw [resolved] at gathered
    cases gathered
    exact .inl ⟨rfl, rfl⟩
  · rw [resolved] at gathered
    rcases read : Source.read (optionsFor options opened) opened.input with _ | source
    · simp [read] at gathered
    · simp only [read] at gathered
      obtain ⟨outcome, rfl⟩ := Prod.mk.inj gathered
      rcases loaded : (Load.source engine (engine.dialect.quoteIdent (tableName opened))
        options.temporary source now).1 with _ | count
      · rw [loaded] at outcome
        cases outcome
      · rw [loaded] at outcome
        exact .inr ⟨opened, source, count, rfl, (Except.ok.inj outcome).symm, loaded, rfl⟩

/-- A table is named after what its reference leads to. -/
theorem exists_opened_of_gatherOne {reference table : String} {world after : World engineState}
    (gathered : gatherOne engine options reference world = (.ok (some table), after)) :
    ∃ opened, (Reference.resolve reference world.1).1 = .ok (some opened) ∧
      table = engine.dialect.quoteIdent (tableName opened) := by
  rcases gatherOne_cases gathered with ⟨none, -⟩ | ⟨opened, _, _, resolved, named, -⟩
  · cases none
  · exact ⟨opened, resolved, Option.some.inj named⟩

theorem exists_opened_of_mem_tablesOf {references : List String} {world : World engineState}
    {entry : String × String} (member : entry ∈ tablesOf engine options references world) :
    ∃ around opened, (Reference.resolve entry.1 around).1 = .ok (some opened) ∧
      entry.2 = engine.dialect.quoteIdent (tableName opened) := by
  induction references generalizing world with
  | nil => simp [tablesOf] at member
  | cons reference rest ih =>
      rw [tablesOf] at member
      split at member
      · simp at member
      · exact ih member
      · rename_i table after gathered
        rcases List.mem_cons.mp member with rfl | later
        · exact ⟨world.1, exists_opened_of_gatherOne gathered⟩
        · exact ih later

/-- Tables are made for the references in their order. -/
theorem tablesOf_sublist (references : List String) (world : World engineState) :
    ((tablesOf engine options references world).map Prod.fst).Sublist references := by
  induction references generalizing world with
  | nil => exact .slnil
  | cons reference rest ih =>
      rw [tablesOf]
      split
      · simp
      · exact (ih _).cons _
      · exact (ih _).cons_cons _

theorem tablesOf_of_none {reference : String} {world after : World engineState}
    (one : gatherOne engine options reference world = (.ok none, after)) (rest : List String) :
    tablesOf engine options (reference :: rest) world = tablesOf engine options rest after := by
  rw [tablesOf, one]

theorem tablesOf_of_some {reference table : String} {world after : World engineState}
    (one : gatherOne engine options reference world = (.ok (some table), after))
    (rest : List String) :
    tablesOf engine options (reference :: rest) world =
      (reference, table) :: tablesOf engine options rest after := by
  rw [tablesOf, one]

/-- What a successful run does with its first reference: it leads to nothing, or to a table that the
query is rewritten for. -/
theorem gatherAll_cases {reference sql out : String} {rest : List String}
    {rewriter : Query.Rewriter} {world after : World engineState}
    (gathered : gatherAll engine options sql rewriter (reference :: rest) world =
      (.ok out, after)) :
    (∃ middle, gatherOne engine options reference world = (.ok none, middle) ∧
      gatherAll engine options sql rewriter rest middle = (.ok out, after)) ∨
    ∃ table middle, gatherOne engine options reference world = (.ok (some table), middle) ∧
      gatherAll engine options (rewriter.rewrite sql reference table).1
        (rewriter.rewrite sql reference table).2 rest middle = (.ok out, after) := by
  rw [gatherAll] at gathered
  rcases one : gatherOne engine options reference world with ⟨_ | _ | table, middle⟩
  · rw [one] at gathered
    cases gathered
  · rw [one] at gathered
    exact .inl ⟨middle, rfl, gathered⟩
  · rw [one] at gathered
    exact .inr ⟨table, middle, rfl, gathered⟩

/-- The query is rewritten for one table after the other. -/
theorem gatherAll_eq {references : List String} {sql out : String} {rewriter : Query.Rewriter}
    {world after : World engineState} (distinct : references.Nodup)
    (fresh : ∀ reference ∈ references, reference ≠ "" ∧ reference ∉ rewriter.done)
    (gathered : gatherAll engine options sql rewriter references world = (.ok out, after)) :
    out = Query.replaceAll (tablesOf engine options references world) sql := by
  induction references generalizing sql rewriter world with
  | nil =>
      rw [gatherAll] at gathered
      cases gathered
      rfl
  | cons reference rest ih =>
      obtain ⟨absent, distinct⟩ := List.nodup_cons.mp distinct
      obtain ⟨nonempty, unseen⟩ := fresh reference List.mem_cons_self
      have later := fun other member => fresh other (List.mem_cons_of_mem reference member)
      rcases gatherAll_cases gathered with ⟨middle, one, onward⟩ | ⟨table, middle, one, onward⟩
      · rw [tablesOf_of_none one]
        exact ih distinct later onward
      · obtain ⟨next, rewritten, done⟩ := Query.rewrite_eq sql table nonempty unseen
        have fresh : ∀ other ∈ rest, other ≠ "" ∧ other ∉ next.done := by
          refine fun other member => ⟨(later other member).1, fun seen => ?_⟩
          rcases done other seen with rfl | seen
          · exact absent member
          · exact (later other member).2 seen
        rw [rewritten] at onward
        rw [tablesOf_of_some one]
        exact ih distinct fresh onward

end

/-- Every reference that leads to an input is replaced by the name of its own table and nothing else
changes, in whatever order they are replaced, unless a reference that leads to an input is itself a
word that starts a table list, or the name of a table is a reference to another table. -/
theorem gather_eq_substitute {engineState : Type} {engine : Engine engineState}
    {options : ReadOptions} {sql out : String} {world : World engineState}
    (quotes : Query.isQuote engine.dialect.quote = true)
    (gathered : (gather engine options sql world).1 = .ok out)
    (noStart : ∀ entry ∈ tablesOf engine options (Query.tableRefs sql) world,
      Query.startsList entry.1.toList = false)
    (settled : Query.Settled (tablesOf engine options (Query.tableRefs sql) world)) :
    let tables := tablesOf engine options (Query.tableRefs sql) world
    out = Query.substitute (fun raw => tables.lookup raw) sql ∧
      (∀ entry ∈ tables, ∃ around opened, (Reference.resolve entry.1 around).1 = .ok (some opened) ∧
        entry.2 = engine.dialect.quoteIdent (tableName opened)) ∧
      ∀ others, others.Perm tables → Query.Settled others → Query.replaceAll others sql = out := by
  intro tables
  have named : ∀ entry ∈ tables, Query.Enclosed entry.2.toList ∧
      Query.startsList entry.1.toList = false := by
    intro entry member
    obtain ⟨_, opened, -, name⟩ := exists_opened_of_mem_tablesOf member
    refine ⟨?_, noStart entry member⟩
    rw [name]
    exact engine.dialect.enclosed_quoteIdent quotes _
  have run : out = Query.replaceAll tables sql :=
    gatherAll_eq (Query.tableRefs_nodup sql)
      (fun _ member => ⟨Query.ne_empty_of_mem_tableRefs member, List.not_mem_nil⟩)
      (Prod.ext gathered rfl)
  have distinct : (tables.map Prod.fst).Nodup :=
    (tablesOf_sublist (Query.tableRefs sql) world).nodup (Query.tableRefs_nodup sql)
  refine ⟨run.trans (Query.replaceAll_eq_substitute settled named sql),
    fun _ member => exists_opened_of_mem_tablesOf member, fun others same settledToo => ?_⟩
  rw [Query.replaceAll_perm distinct same settled settledToo named, run]

/-- The third reference is the name of the table of the first one; it leads to the same file, and is
not replaced by another name. The last reference leads to nothing. -/
theorem gather_eq_substitute_again :
    let engine := Recorder.engine Driver.sqlite.dialect
    let world : World Recorder :=
      ({ tree := .folder [("sub", .folder [("x.csv", .file [0x32])]), ("x.csv", .file [0x31])] },
        {})
    let sql := "SELECT 'x.csv' FROM x.csv a, sub/x.csv b JOIN \x60x.csv\x60, y.csv"
    let tables := tablesOf engine {} (Query.tableRefs sql) world
    let out := "SELECT 'x.csv' FROM \x60x.csv\x60 a, \x60sub/x.csv\x60 b JOIN \x60x.csv\x60, y.csv"
    Query.isQuote engine.dialect.quote = true ∧ (gather engine {} sql world).1 = .ok out ∧
      (∀ entry ∈ tables, Query.startsList entry.1.toList = false) ∧ Query.Settled tables ∧
      out = Query.substitute (fun raw => tables.lookup raw) sql ∧
      Query.replaceAll tables.reverse sql = out := by
  intro engine world sql tables out
  have gathered : (gather engine {} sql world).1 = .ok out := by decide +kernel
  have noStart : ∀ entry ∈ tables, Query.startsList entry.1.toList = false := by decide +kernel
  have settled : Query.Settled tables := by
    unfold Query.Settled
    decide +kernel
  have settledToo : Query.Settled tables.reverse := by
    unfold Query.Settled
    decide +kernel
  have quotes : Query.isQuote engine.dialect.quote = true := Driver.sqlite.isQuote_quote
  obtain ⟨whole, -, anyOrder⟩ := gather_eq_substitute quotes gathered noStart settled
  exact ⟨quotes, gathered, noStart, settled, whole, anyOrder _ tables.reverse_perm settledToo⟩

/-- The name of the table of one file can be a reference to another file, which then takes both
places. -/
theorem gather_ne_substitute :
    let engine := Recorder.engine Driver.postgres.dialect
    let world : World Recorder :=
      ({ tree := .folder [("a\"\"b", .file [0x32]), ("a\"b", .file [0x31])] }, {})
    let sql := "SELECT * FROM \x60a\"b\x60, \"a\"\"b\""
    let tables := tablesOf engine {} (Query.tableRefs sql) world
    (gather engine {} sql world).1 = .ok "SELECT * FROM \"a\"\"\"\"b\", \"a\"\"\"\"b\"" ∧
      Query.substitute (fun raw => tables.lookup raw) sql =
        "SELECT * FROM \"a\"\"b\", \"a\"\"\"\"b\"" ∧
      (gather engine {} sql world).1 ≠
        .ok (Query.substitute (fun raw => tables.lookup raw) sql) := by
  intro engine world sql tables
  have gathered : (gather engine {} sql world).1 =
      .ok "SELECT * FROM \"a\"\"\"\"b\", \"a\"\"\"\"b\"" := by
    decide +kernel
  have substituted : Query.substitute (fun raw => tables.lookup raw) sql =
      "SELECT * FROM \"a\"\"b\", \"a\"\"\"\"b\"" := by decide +kernel
  refine ⟨gathered, substituted, fun same => ?_⟩
  rw [gathered, substituted] at same
  exact absurd (Except.ok.inj same) (by decide)

/-- A file whose name starts a table list. Once it is replaced, no table is expected after it. -/
example :
    (gather (Recorder.engine Driver.sqlite.dialect) {} "SELECT * FROM join b.csv"
      ({ tree := .folder [("b.csv", .file [0x32]), ("join", .file [0x31])] }, {})).1 =
        .ok "SELECT * FROM \x60join\x60 b.csv" := by
  decide +kernel

end Run

end Tabular
