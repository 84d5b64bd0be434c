import Tabular.Proofs.Run.Importers
import Tabular.Proofs.Source.Feed
import Tabular.Proofs.Sql.Session
import Tabular.Run.Transaction

/-!
# All or nothing

A run that fails at any step leaves the database as it was, and its receiver with the first part of
what a whole result would have given it. A run that succeeds commits once, and last.
-/

set_option autoImplicit false

namespace Tabular

inductive WriterCall where
  | start (columns types : List String)
  | row (row : Row)
  | finish
deriving DecidableEq, Repr

def Writer.watched {receiver : Type} (writer : Writer receiver) :
    Writer (Watched WriterCall receiver) where
  start := fun columns types => watch (.start columns types) (writer.start columns types)
  row := fun row columns => watch (.row row) (writer.row row columns)
  finish := watch .finish writer.finish

namespace ResultSet

/-- The rows up to the first failure. -/
def leading : Feed Row → List Row
  | .ok row :: rest => row :: leading rest
  | _ => []

/-- What a whole result gives to a receiver, in order. -/
def deliveries (result : ResultSet) : List WriterCall :=
  .start result.columns result.types :: (leading result.rows).map .row ++ [.finish]

/-- How the rows of a result are given to a receiver: all of them, or up to one that cannot be had or
is refused. -/
inductive Given (rows : Feed Row) : Result Unit → List (Made WriterCall) → Prop where
  | whole (given : List Row) (all : rows = Feed.ofList given) :
      Given rows (.ok ()) (succeeded (given.map .row))
  | broken (given : List Row) {error : Error} {rest : Feed Row}
      (reached : rows = Feed.ofList given ++ .error error :: rest) :
      Given rows (.error error) (succeeded (given.map .row))
  | refused (given : List Row) {row : Row} {rest : Feed Row} (error : Error)
      (reached : rows = Feed.ofList given ++ .ok row :: rest) :
      Given rows (.error error) (succeeded (given.map .row) ++ [⟨.row row, some error⟩])

/-- How a result is given to a receiver. -/
inductive Written (result : ResultSet) : Result Unit → List (Made WriterCall) → Prop where
  | unannounced (error : Error) :
      Written result (.error error) [⟨.start result.columns result.types, some error⟩]
  | interrupted {error : Error} {given : List (Made WriterCall)}
      (rows : Given result.rows (.error error) given) :
      Written result (.error error) (⟨.start result.columns result.types, none⟩ :: given)
  | finished {given : List (Made WriterCall)} (outcome : Result Unit)
      (rows : Given result.rows (.ok ()) given) :
      Written result outcome
        (⟨.start result.columns result.types, none⟩ :: given ++ [⟨.finish, reason? outcome⟩])

theorem leading_ofList_append (rows : List Row) (feed : Feed Row) :
    leading (Feed.ofList rows ++ feed) = rows ++ leading feed := by
  induction rows with
  | nil => rfl
  | cons row rows ih => exact congrArg (List.cons row) ih

private theorem leading_ofList (rows : List Row) : leading (Feed.ofList rows) = rows := by
  induction rows with
  | nil => rfl
  | cons row rows ih => exact congrArg (List.cons row) ih

variable {rows : Feed Row} {result : ResultSet} {outcome : Result Unit}
  {given : List (Made WriterCall)}

theorem Given.cons (row : Row) (rest : Given rows outcome given) :
    Given (.ok row :: rows) outcome (⟨.row row, none⟩ :: given) := by
  cases rest with
  | whole given all => exact .whole (row :: given) (congrArg (List.cons (.ok row)) all)
  | broken given reached => exact .broken (row :: given) (congrArg (List.cons (.ok row)) reached)
  | refused given error reached =>
      exact .refused (row :: given) error (congrArg (List.cons (.ok row)) reached)

private theorem Given.begins (rows : Given result.rows outcome given) :
    given.map Made.call <+: (leading result.rows).map .row := by
  cases rows with
  | whole given all =>
      refine ⟨[], ?_⟩
      rw [List.append_nil, map_call_succeeded, all, leading_ofList]
  | broken given reached =>
      rw [map_call_succeeded, reached, leading_ofList_append, List.map_append]
      exact List.prefix_append _ _
  | @refused given row rest error reached =>
      rw [List.map_append, map_call_succeeded, reached, leading_ofList_append, List.map_append]
      exact (List.prefix_append_right_inj _).mpr ⟨(leading rest).map .row, rfl⟩

private theorem Written.begins (written : Written result outcome given) :
    given.map Made.call <+: result.deliveries := by
  cases written with
  | unannounced error => exact ⟨_, rfl⟩
  | interrupted rows =>
      have started := (List.prefix_cons_inj (.start result.columns result.types)).mpr rows.begins
      exact started.trans (List.prefix_append _ _)
  | finished outcome rows =>
      cases rows with
      | whole given all =>
          refine ⟨[], ?_⟩
          rw [List.append_nil, List.map_append, List.map_cons, map_call_succeeded, deliveries, all,
            leading_ofList]
          rfl

end ResultSet

namespace Run

section

variable {state receiver : Type} (engine : Engine state) (writer : Writer receiver)

private theorem given_writeRows (columns : List String) (rows : Feed Row) (output : receiver)
    (log : List (Made WriterCall)) :
    ∃ given after, ResultSet.Given rows
        (writeRows writer.watched columns rows (output, log)).1 given ∧
      (writeRows writer.watched columns rows (output, log)).2 = (after, log ++ given) := by
  induction rows generalizing output log with
  | nil => exact ⟨[], output, .whole [] rfl, by rw [List.append_nil]; rfl⟩
  | cons piece rows ih =>
      rcases piece with error | row
      · exact ⟨[], output, .broken [] rfl, by rw [List.append_nil]; rfl⟩
      · rcases taken : writer.row row columns output with ⟨error | ⟨⟩, after⟩
        · refine ⟨[⟨.row row, some error⟩], after, ?_⟩
          simp only [writeRows, Writer.watched, watch, taken, reason?, and_true]
          exact .refused [] error rfl
        · obtain ⟨given, last, rest, same⟩ := ih after (log ++ [⟨.row row, none⟩])
          have step : writeRows writer.watched columns (.ok row :: rows) (output, log) =
              writeRows writer.watched columns rows (after, log ++ [⟨.row row, none⟩]) := by
            rw [writeRows]
            simp only [Writer.watched, watch, taken, reason?]
          refine ⟨⟨.row row, none⟩ :: given, last, ?_, ?_⟩
          · rw [step]
            exact rest.cons row
          · rw [step, same, List.append_assoc]
            rfl

private theorem written_writeResult (result : ResultSet) (output : receiver)
    (log : List (Made WriterCall)) :
    ∃ written after, result.Written (writeResult writer.watched result (output, log)).1 written ∧
      (writeResult writer.watched result (output, log)).2 = (after, log ++ written) := by
  rcases started : writer.start result.columns result.types output with ⟨error | ⟨⟩, after⟩
  · refine ⟨[⟨.start result.columns result.types, some error⟩], after, ?_⟩
    simp only [writeResult, Writer.watched, watch, started, reason?, and_true]
    exact .unannounced error
  · obtain ⟨given, later, rows, same⟩ := given_writeRows writer result.columns result.rows after
      (log ++ [⟨.start result.columns result.types, none⟩])
    have announced : writer.watched.start result.columns result.types (output, log) =
        (.ok (), after, log ++ [⟨.start result.columns result.types, none⟩]) := by
      simp only [Writer.watched, watch, started, reason?]
    rw [writeResult, announced]
    rcases called : writeRows writer.watched result.columns result.rows
      (after, log ++ [⟨.start result.columns result.types, none⟩]) with ⟨error | ⟨⟩, now⟩
    · rw [called] at rows same
      subst same
      simp only [called]
      exact ⟨_, later, .interrupted rows, by rw [List.append_assoc]; rfl⟩
    · rw [called] at rows same
      subst same
      simp only [called]
      refine ⟨_, (writer.finish later).2, .finished (writer.finish later).1 rows, ?_⟩
      simp only [Writer.watched, watch, List.append_assoc, List.cons_append, List.nil_append]

/-! ## Answers -/

/-- How a statement is answered: the calls made to the engine and to the receiver. -/
inductive Answered (statement : String) :
    Result Unit → List (Made EngineCall) → List (Made WriterCall) → Prop where
  | blank (nothing : statement = "") : Answered statement (.error .noStatement) [] []
  | undescribed (error : Error) :
      Answered statement (.error error) [⟨.describe statement, some error⟩] []
  | executed (now : state) (described : (engine.describe statement now).1 = .ok [])
      (outcome : Result Unit) :
      Answered statement outcome
        [⟨.describe statement, none⟩, ⟨.execute statement, reason? outcome⟩] []
  | unasked (now : state) {column : String × String} {columns : List (String × String)}
      (described : (engine.describe statement now).1 = .ok (column :: columns)) (error : Error) :
      Answered statement (.error error)
        [⟨.describe statement, none⟩, ⟨.query statement, some error⟩] []
  | asked (now later : state) {column : String × String} {columns : List (String × String)}
      {result : ResultSet} {outcome : Result Unit} {written : List (Made WriterCall)}
      (described : (engine.describe statement now).1 = .ok (column :: columns))
      (found : (engine.query statement later).1 = .ok result)
      (given : result.Written outcome written) :
      Answered statement outcome [⟨.describe statement, none⟩, ⟨.query statement, none⟩] written

variable {engine} {statement : String} {outcome : Result Unit}
  {calls : List (Made EngineCall)} {written : List (Made WriterCall)}

private theorem Answered.uncommitted (answered : Answered engine statement outcome calls written) :
    ∀ made ∈ calls, made.call ≠ .commit := by
  intro made member
  cases answered with
  | blank nothing => cases member
  | undescribed error =>
      obtain rfl := List.mem_singleton.mp member
      exact nofun
  | executed | unasked | asked =>
      rw [List.mem_cons, List.mem_singleton] at member
      rcases member with rfl | rfl
      · exact nofun
      · exact nofun

/-- The receiver has the first part of a whole result, if it has anything. -/
theorem Answered.begins (answered : Answered engine statement outcome calls written) :
    written = [] ∨ ∃ now result, (engine.query statement now).1 = .ok result ∧
      written.map Made.call <+: result.deliveries := by
  cases answered with
  | blank | undescribed | executed | unasked => exact .inl rfl
  | asked now later described found given => exact .inr ⟨later, _, found, given.begins⟩

private theorem Answered.of_watched
    (answered : Answered engine.watched statement outcome calls written) :
    Answered engine statement outcome calls written := by
  cases answered with
  | blank nothing => exact .blank nothing
  | undescribed error => exact .undescribed error
  | executed now described outcome => exact .executed now.1 described outcome
  | unasked now described error => exact .unasked now.1 described error
  | asked now later described found given => exact .asked now.1 later.1 described found given

variable (engine)

private theorem answered_answer (sql : String) (now : state) (output : receiver)
    (seen : List (Made WriterCall)) :
    let ended := answer engine writer.watched sql now (output, seen)
    ∃ calls written, engine.Trace now calls ended.2.1 ∧ ended.2.2.2 = seen ++ written ∧
      Answered engine (String.ofList (Text.trim sql.toList)) ended.1 calls written := by
  generalize trimmed : String.ofList (Text.trim sql.toList) = statement
  by_cases empty : statement = ""
  · refine ⟨[], [], ?_⟩
    simp only [answer, trimmed, empty, List.append_nil]
    exact ⟨.done, rfl, .blank rfl⟩
  have filled : ¬statement.isEmpty = true := fun nothing => empty (String.isEmpty_iff.mp nothing)
  have described : engine.Ran now _ _ := .describe statement
  rcases first : engine.describe statement now with ⟨error | _ | ⟨column, columns⟩, later⟩
  · rw [first] at described
    refine ⟨[⟨.describe statement, some error⟩], [], ?_⟩
    simp only [answer, trimmed, if_neg filled, first, List.append_nil, true_and]
    exact ⟨described.single, .undescribed error⟩
  · rw [first] at described
    have executed : engine.Ran later _ _ := .execute statement
    have answers : (engine.describe statement now).1 = .ok [] := by rw [first]
    refine ⟨[⟨.describe statement, none⟩,
      ⟨.execute statement, reason? (engine.execute statement later).1⟩], [], ?_⟩
    simp only [answer, trimmed, if_neg filled, first, List.append_nil, true_and]
    refine ⟨.step described executed.single, ?_⟩
    rw [← reason?_map fun _ => ()]
    exact .executed now answers _
  · rw [first] at described
    have queried : engine.Ran later _ _ := .query statement
    have answers : (engine.describe statement now).1 = .ok (column :: columns) := by rw [first]
    rcases asked : engine.query statement later with ⟨error | result, last⟩
    · rw [asked] at queried
      refine ⟨[⟨.describe statement, none⟩, ⟨.query statement, some error⟩], [], ?_⟩
      simp only [answer, trimmed, if_neg filled, first, asked, List.append_nil, true_and]
      exact ⟨.step described queried.single, .unasked now answers error⟩
    · rw [asked] at queried
      have found : (engine.query statement later).1 = .ok result := by rw [asked]
      obtain ⟨written, after, given, same⟩ := written_writeResult writer result output seen
      refine ⟨[⟨.describe statement, none⟩, ⟨.query statement, none⟩], written, ?_⟩
      simp only [answer, trimmed, if_neg filled, first, asked, same, true_and]
      exact ⟨.step described queried.single, .asked now later answers found given⟩

end

/-! ## Runs -/

section

variable {content state world receiver : Type} (storage : Storage content state)
  (known : String → world → List (Made EngineCall) → Result String → Prop)

/-- How a run ends that does not come to commit: the first failure of one of its steps, the calls made
to the engine, and those made to the receiver. -/
inductive Interrupted (sql : String) (before : content) (around : world) :
    Error → List (Made EngineCall) → List (Made WriterCall) → Prop where
  | unreached {error : Error} (refused : storage.connect before = .error error) :
      Interrupted sql before around error [] []
  | unimported {error : Error} {imported : List (Made EngineCall)}
      (stopped : known sql around imported (.error error)) :
      Interrupted sql before around error imported []
  | unanswered {error : Error} {imported answered : List (Made EngineCall)}
      {written : List (Made WriterCall)} {rewritten : String}
      (imports : known sql around imported (.ok rewritten))
      (answers : Answered storage.engine (String.ofList (Text.trim rewritten.toList))
        (.error error) answered written) :
      Interrupted sql before around error (imported ++ answered) written

/-- Whatever importer brings in the tables by calls that do not commit, a run of it that fails before
it commits reports the failure of its first step to fail, calls for no commit, leaves the content as
it was, and has given the receiver the first part of the result. Any other run commits once, as its
last call, when the import and the answer have succeeded; the commit decides how it ends. The files
of a query and a provided table are brought in in this way, up to the first failure. -/
theorem transaction_all_or_nothing (rollsBack : storage.RollsBack)
    (streams : storage.engine.Streams) :
    (∀ options, Conducts storage.watched.engine (gather storage.watched.engine options)
      fun sql around =>
        Stopped (gatherFaults storage.engine.dialect options (Query.tableRefs sql) around)) ∧
    Conducts storage.watched.engine (provide storage.watched.engine) (fun _ provided =>
      Stopped (provided.source.faults (storage.engine.dialect.quoteIdent provided.name)
        provided.temporary)) ∧
    ∀ {world receiver : Type}
      (importer : String → Call (world × Watched EngineCall state) String)
      (known : String → world → List (Made EngineCall) → Result String → Prop),
      Conducts storage.watched.engine importer known →
    ∀ (writer : Writer receiver) (sql : String) (before : content) (around : world)
      (output : receiver),
      let run := transaction storage.watched importer writer.watched sql (before, []) around
        (output, [])
      let calls := run.content.2
      let written := run.output.2
      (∃ error, run.outcome = .error error ∧
        Interrupted storage known sql before around error calls written ∧
        (∀ made ∈ calls, made.call ≠ .commit) ∧
        run.content.1 = before ∧
        (written = [] ∨ ∃ statement now result,
          (storage.engine.query statement now).1 = .ok result ∧
          written.map Made.call <+: result.deliveries)) ∨
      (∃ imported rewritten answered,
        known sql around imported (.ok rewritten) ∧
        Answered storage.engine (String.ofList (Text.trim rewritten.toList)) (.ok ()) answered
          written ∧
        (∀ made ∈ imported ++ answered, made.call ≠ .commit) ∧
        calls = imported ++ answered ++ [⟨.commit, reason? run.outcome⟩]) := by
  refine ⟨fun options => conducts_gather streams.watched options, conducts_provide streams.watched,
    ?_⟩
  intro world receiver importer known conducts writer sql before around output run calls written
  cases connected : storage.connect before with
  | error error =>
      have ended : run = ⟨.error error, (before, []), around, (output, [])⟩ := by
        simp only [run, transaction, Storage.watched, connected]
        rfl
      left
      refine ⟨error, ?_⟩
      simp only [calls, written, ended, true_and]
      exact ⟨.unreached connected, List.forall_mem_nil _, .inl trivial⟩
  | ok start =>
      have fresh : storage.watched.connect (before, []) = .ok (start, []) := by
        simp only [Storage.watched, connected]
        rfl
      have kept := rollsBack.connect connected
      obtain ⟨imported, trace, uncommitted, met⟩ := conducts sql around (start, [])
      rcases imports : importer sql (around, start, []) with ⟨error | rewritten, around', now⟩
      · rw [imports] at trace met
        obtain ⟨after, rfl, ran⟩ := trace.of_watched
        have ended : run = ⟨.error error, (storage.left after, imported), around', (output, [])⟩ := by
          simp only [run, transaction, fresh, imports]
          rfl
        left
        refine ⟨error, ?_⟩
        simp only [calls, written, ended, true_and]
        exact ⟨.unimported met, uncommitted, (rollsBack.trace ran uncommitted).trans kept,
          .inl trivial⟩
      · rw [imports] at trace met
        obtain ⟨answered, given, more, seen, answers⟩ :=
          answered_answer storage.watched.engine writer rewritten now output []
        -- The list of the watched engine has the calls of the import and behind them those of the
        -- answer, and none of them is to commit.
        have statements := answers.of_watched.uncommitted
        have none_commits : ∀ made ∈ imported ++ answered, made.call ≠ .commit :=
          List.forall_mem_append.mpr ⟨uncommitted, statements⟩
        rcases asked : answer storage.watched.engine writer.watched rewritten now (output, []) with
          ⟨error | ⟨⟩, last, filled, received⟩ <;> rw [asked] at more seen answers <;>
          obtain ⟨after, rfl, ran⟩ := (trace.append more).of_watched <;> subst seen
        · have ended : run = ⟨.error error, (storage.left after, imported ++ answered), around',
              (filled, received)⟩ := by
            simp only [run, transaction, fresh, imports, asked]
            rfl
          left
          refine ⟨error, ?_⟩
          simp only [calls, written, ended, true_and]
          refine ⟨.unanswered met answers.of_watched, none_commits,
            (rollsBack.trace ran none_commits).trans kept, ?_⟩
          obtain nothing | ⟨now, result, found, first⟩ := answers.of_watched.begins
          · exact .inl nothing
          · exact .inr ⟨_, now, result, found, first⟩
        · have ended : run = ⟨(storage.engine.commit after).1,
              (storage.left (storage.engine.commit after).2, imported ++ answered ++
                [⟨.commit, reason? (storage.engine.commit after).1⟩]), around',
              (filled, received)⟩ := by
            simp only [run, transaction, fresh, imports, asked]
            rfl
          right
          refine ⟨imported, rewritten, answered, met, ?_, none_commits, ?_⟩
          · simp only [written, ended]
            exact answers.of_watched
          · simp only [calls, ended]

/-- A row is put into a table of a database, a file is read, and the second row of the result is
refused: neither is to be seen in the database. -/
theorem transaction_all_or_nothing_refused :
    let reached : Sql.Reached := { location := some (.file "db" true), tree := .empty }
    let storage := reached.storage Driver.sqlite.dialect
    let importer := gather storage.watched.engine {}
    let writer : Writer Nat :=
      { start := fun _ _ given => (.ok (), given)
        row := fun _ _ given => (if given = 0 then .ok () else .error .io, given + 1)
        finish := fun given => (.ok (), given) }
    let around : Surroundings := { tree := .folder [("a.csv", .file "1\n2\n".toUTF8.toList)] }
    let before : Sql.Content := .tables [{ name := "kept", columns := [("c", none)] }]
    let run := transaction storage.watched importer writer.watched
      "INSERT INTO kept VALUES (7); SELECT * FROM a.csv" (before, []) around (0, [])
    storage.RollsBack ∧ storage.engine.Streams ∧
      Conducts storage.watched.engine importer (fun sql around =>
        Stopped (gatherFaults storage.engine.dialect {} (Query.tableRefs sql) around)) ∧
      run.outcome = .error .io ∧
      run.content.1 = before ∧
      (∀ made ∈ run.content.2, made.call ≠ .commit) ∧
      run.output.2 = [⟨.start ["c1"] ["TEXT"], none⟩, ⟨.row [.text "1"], none⟩,
        ⟨.row [.text "2"], some .io⟩] := by
  intro reached storage importer writer around before run
  have rollsBack : storage.RollsBack := reached.rollsBack_storage Driver.sqlite.dialect
  have streams : storage.engine.Streams := Sql.Session.streams_engine Driver.sqlite.dialect
  -- Rewriting with this keeps the run from being evaluated wherever it meets its own definition.
  have named : transaction storage.watched importer writer.watched
      "INSERT INTO kept VALUES (7); SELECT * FROM a.csv" (before, []) around (0, []) = run := rfl
  have ended : (reason? run.outcome, run.content.2.getLast?.map Made.call, run.output.2) =
      (some .io, some (.query "INSERT INTO kept VALUES (7); SELECT * FROM \x60a.csv\x60"),
        [⟨.start ["c1"] ["TEXT"], none⟩, ⟨.row [.text "1"], none⟩,
          ⟨.row [.text "2"], some .io⟩]) := by
    rw [← named]
    decide +kernel
  obtain ⟨failed, asked, received⟩ := (Prod.mk.injEq ..).mp ended |>.imp_right (Prod.mk.injEq ..).mp
  obtain ⟨gathers, -, runs⟩ := transaction_all_or_nothing storage rollsBack streams
  refine ⟨rollsBack, streams, gathers {}, ?_⟩
  have ends := runs importer _ (gathers {}) writer
    "INSERT INTO kept VALUES (7); SELECT * FROM a.csv" before around 0
  rw [named] at ends
  obtain ⟨error, stopped, -, uncommitted, kept, -⟩ | ⟨imported, rewritten, answered, -, -, -, calls⟩ :=
    ends
  · rw [stopped, reason?, Option.some.injEq] at failed
    subst failed
    exact ⟨stopped, kept, uncommitted, received⟩
  · rw [calls, List.getLast?_concat] at asked
    cases asked

end

end Run

end Tabular
