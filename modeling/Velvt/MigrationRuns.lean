import Velvt.MigrationRunner

/-!
# What a migration run leaves behind

A refused run leaves the database as it was.  A run that succeeds keeps every recorded row,
appends a row for each pending file in the order of the build, and fills in missing checksums.
The next run finds nothing to do.
-/

namespace Velvt

open List

namespace SchemaMigrationTable

variable {table : SchemaMigrationTable}

theorem ext_rows {first second : SchemaMigrationTable}
    (columns : first.hasChecksum = second.hasChecksum) (rows : first.rows = second.rows) :
    first = second := by
  cases first
  cases second
  cases columns
  cases rows
  rfl

theorem recorded_of_mem {row : SchemaMigrationRow} (member : row ∈ table.rows) :
    table.recorded row.version = some (row.name, row.checksum) := by
  rw [recorded, TableRows.find?_key_of_mem table.distinct member]
  rfl

theorem exists_of_recorded {version : Int} {name : String} {checksum : Option String}
    (found : table.recorded version = some (name, checksum)) :
    ∃ row ∈ table.rows, row.version = version ∧ row.name = name ∧ row.checksum = checksum := by
  obtain ⟨row, isFound, same⟩ := Option.map_eq_some_iff.mp found
  obtain ⟨rfl, rfl⟩ := Prod.mk.inj same
  exact ⟨row, mem_of_find?_eq_some isFound,
    by simpa using List.find?_some isFound, rfl, rfl⟩

theorem insert_rows {migration : Migration} {inserted : SchemaMigrationTable}
    (added : table.insert migration = some inserted) :
    inserted.rows = table.rows ++
      [{ version := migration.version, name := migration.name, checksum := none }] := by
  rw [insert] at added
  split at added
  case isTrue => exact absurd added (by simp)
  case isFalse => rw [← Option.some.inj added]

end SchemaMigrationTable

open SchemaMigrationTable

def Migration.row (migration : Migration) : SchemaMigrationRow where
  version := migration.version
  name := migration.name
  checksum := none

section Runner

variable {Schema : Type*} (engine : MigrationEngine Schema)

def mismatchOf (table : SchemaMigrationTable) (migration : Migration) :
    Option MigrationChecksumMismatch :=
  ((table.recorded migration.version).bind (·.2)).bind fun recorded =>
    if recorded = engine.migrationChecksum migration.sql then none
    else some
      { version := migration.version
        name := migration.name
        recorded := recorded
        embedded := engine.migrationChecksum migration.sql }

def pendingMigrations (table : SchemaMigrationTable) (embedded : List Migration) :
    List Migration :=
  embedded.filter fun migration => (table.recorded migration.version).isNone

/-- Every recorded file has the name it was recorded under. -/
def NamesMatch (table : SchemaMigrationTable) (embedded : List Migration) : Prop :=
  ∀ migration ∈ embedded, ∀ name checksum,
    table.recorded migration.version = some (name, checksum) → name = migration.name

variable {table : SchemaMigrationTable}

variable {embedded : List Migration}

theorem checkRecorded_of_names (names : NamesMatch table embedded) :
    checkRecorded engine table embedded =
      .ok (pendingMigrations table embedded, embedded.filterMap (mismatchOf engine table)) := by
  induction embedded with
  | nil => rfl
  | cons migration rest ih =>
    obtain ⟨own, others⟩ := forall_mem_cons.mp names
    rw [checkRecorded, ih others]
    cases stored : table.recorded migration.version with
    | none => simp [pendingMigrations, mismatchOf, stored]
    | some row =>
      obtain ⟨name, checksum⟩ := row
      rw [stored] at own
      simp only [own name checksum rfl, ne_eq, not_true_eq_false, if_false]
      cases checksum with
      | none => simp [pendingMigrations, mismatchOf, stored]
      | some recorded =>
        by_cases same : recorded = engine.migrationChecksum migration.sql
        · simp [pendingMigrations, mismatchOf, stored, same]
        · simp [pendingMigrations, mismatchOf, stored, same]

theorem names_of_checkRecorded {found : List Migration × List MigrationChecksumMismatch}
    (checked : checkRecorded engine table embedded = .ok found) : NamesMatch table embedded := by
  induction embedded generalizing found with
  | nil => exact fun _ member => absurd member not_mem_nil
  | cons migration rest ih =>
    rw [checkRecorded] at checked
    cases others : checkRecorded engine table rest with
    | error error =>
      simp only [others] at checked
      repeat' split at checked
      all_goals exact absurd checked (by simp)
    | ok tail =>
      refine forall_mem_cons.mpr ⟨?_, ih others⟩
      intro name checksum stored
      by_contra different
      simp only [stored, ne_eq, different, not_false_eq_true, if_true] at checked
      exact absurd checked (by simp)

/-- What the runner relies on: the statements of a file leave the rows of `schema_migration`
alone. -/
def KeepsMigrationRows (embedded : List Migration) : Prop :=
  ∀ migration ∈ embedded, ∀ database executed table,
    engine.executeBatch migration.sql database = some executed →
      database.schemaMigration = some table →
        ∃ after, executed.schemaMigration = some after ∧ after.rows = table.rows

theorem applyMigration_rows {migration : Migration} {database applied : Database Schema}
    (keeps : KeepsMigrationRows engine [migration])
    (stored : database.schemaMigration = some table)
    (ran : applyMigration engine migration database = some applied) :
    ∃ after, applied.schemaMigration = some after ∧
      after.rows = table.rows ++ [migration.row] := by
  obtain ⟨executed, batch, ran⟩ := Option.bind_eq_some_iff.mp ran
  obtain ⟨schema, _, ran⟩ := Option.bind_eq_some_iff.mp ran
  obtain ⟨middle, isMiddle, ran⟩ := Option.bind_eq_some_iff.mp ran
  obtain ⟨inserted, added, rfl⟩ := Option.map_eq_some_iff.mp ran
  obtain ⟨after, isAfter, rows⟩ := keeps migration (by simp) _ _ _ batch stored
  rw [isAfter] at isMiddle
  obtain rfl := Option.some.inj isMiddle
  exact ⟨inserted, rfl, by rw [insert_rows added, rows]; rfl⟩

theorem applyPending_rows {pending : List Migration} {database applied : Database Schema}
    (keeps : KeepsMigrationRows engine pending)
    (stored : database.schemaMigration = some table)
    (ran : applyPending engine pending database = some applied) :
    ∃ after, applied.schemaMigration = some after ∧
      after.rows = table.rows ++ pending.map Migration.row := by
  induction pending generalizing database table with
  | nil =>
    obtain rfl := Option.some.inj ran
    exact ⟨table, stored, by simp⟩
  | cons migration rest ih =>
    obtain ⟨next, first, others⟩ := Option.bind_eq_some_iff.mp ran
    obtain ⟨middle, isMiddle, rows⟩ := applyMigration_rows engine
      (fun one member => keeps one (by simp [mem_singleton.mp member])) stored first
    obtain ⟨after, isAfter, rows'⟩ := ih
      (fun one member => keeps one (mem_cons_of_mem _ member)) isMiddle others
    exact ⟨after, isAfter, by rw [rows', rows]; simp⟩

def backfilled (embedded : List Migration) (row : SchemaMigrationRow) : SchemaMigrationRow :=
  embedded.foldl (fun row migration =>
    recordChecksum migration.version (engine.migrationChecksum migration.sql) row) row

theorem recordChecksums_rows (present : table.hasChecksum = true) (embedded : List Migration) :
    (recordChecksums engine table present embedded).2.rows =
      table.rows.map (backfilled engine embedded) ∧
    (recordChecksums engine table present embedded).2.hasChecksum = true := by
  induction embedded generalizing table with
  | nil => exact ⟨(map_id' table.rows).symm, present⟩
  | cons migration rest ih =>
    have others := @ih (table.record present migration.version
      (engine.migrationChecksum migration.sql)).2 present
    refine ⟨?_, others.2⟩
    rw [recordChecksums, others.1]
    simp [record, backfilled, Function.comp_def]

variable {row : SchemaMigrationRow}

theorem backfilled_of_some (embedded : List Migration)
    {checksum : String} (has : row.checksum = some checksum) :
    backfilled engine embedded row = row := by
  induction embedded with
  | nil => rfl
  | cons migration rest ih =>
    have same : recordChecksum migration.version (engine.migrationChecksum migration.sql) row =
        row := by
      simp [recordChecksum, has]
    rw [backfilled, foldl_cons, same]
    exact ih

theorem recordChecksum_name (version : Int) (checksum : String) (row : SchemaMigrationRow) :
    (recordChecksum version checksum row).name = row.name := by
  rw [recordChecksum]
  split <;> rfl

theorem backfilled_version_name (embedded : List Migration) (row : SchemaMigrationRow) :
    (backfilled engine embedded row).version = row.version ∧
      (backfilled engine embedded row).name = row.name := by
  induction embedded generalizing row with
  | nil => exact ⟨rfl, rfl⟩
  | cons migration rest ih =>
    have others := ih (recordChecksum migration.version
      (engine.migrationChecksum migration.sql) row)
    rw [recordChecksum_version, recordChecksum_name] at others
    exact others

theorem backfilled_of_none
    (ascending : embedded.Pairwise fun first second => first.version < second.version)
    {migration : Migration} (member : migration ∈ embedded)
    (same : row.version = migration.version) (without : row.checksum = none) :
    (backfilled engine embedded row).checksum =
      some (engine.migrationChecksum migration.sql) := by
  induction embedded with
  | nil => exact absurd member not_mem_nil
  | cons first rest ih =>
    obtain ⟨later, others⟩ := pairwise_cons.mp ascending
    rcases mem_cons.mp member with rfl | inRest
    · have filled : (recordChecksum migration.version
          (engine.migrationChecksum migration.sql) row).checksum =
          some (engine.migrationChecksum migration.sql) := by
        rw [recordChecksum, if_pos ⟨same, without⟩]
      rw [backfilled, foldl_cons]
      exact (congrArg SchemaMigrationRow.checksum
        (backfilled_of_some engine rest filled)).trans filled
    · have untouched : recordChecksum first.version
          (engine.migrationChecksum first.sql) row = row := by
        have apart := later migration inRest
        rw [recordChecksum, if_neg (by omega)]
      rw [backfilled, foldl_cons, untouched]
      exact ih others inRest

theorem recordChecksums_of_complete (present : table.hasChecksum = true)
    (complete : ∀ migration ∈ embedded, ∀ row ∈ table.rows,
      row.version = migration.version → row.checksum ≠ none) :
    recordChecksums engine table present embedded = (0, table) := by
  induction embedded with
  | nil => rfl
  | cons migration rest ih =>
    obtain ⟨own, others⟩ := forall_mem_cons.mp complete
    have none : (table.rows.countP fun row =>
        decide (row.version = migration.version ∧ row.checksum = none)) = 0 := by
      refine countP_eq_zero.mpr fun row member => ?_
      simpa using own row member
    have unchanged : (table.record present migration.version
        (engine.migrationChecksum migration.sql)).2 = table := by
      refine ext_rows rfl (TableRows.map_eq_self_iff.mpr fun row member => ?_)
      rw [recordChecksum, if_neg fun selected => own row member selected.1 selected.2]
    have one : table.record present migration.version
        (engine.migrationChecksum migration.sql) = (0, table) :=
      Prod.ext none unchanged
    rw [recordChecksums]
    simp only [one, ih others]

def Database.recordedTable (database : Database Schema) : SchemaMigrationTable :=
  database.schemaMigration.getD SchemaMigrationTable.created

/-- What the last loop does to a row: nothing without the checksum column. -/
def filled (hasChecksum : Bool) (embedded : List Migration) (row : SchemaMigrationRow) :
    SchemaMigrationRow :=
  if hasChecksum then backfilled engine embedded row else row

theorem filled_version_name (hasChecksum : Bool) (embedded : List Migration)
    (row : SchemaMigrationRow) :
    (filled engine hasChecksum embedded row).version = row.version ∧
      (filled engine hasChecksum embedded row).name = row.name := by
  rw [filled]
  split
  · exact backfilled_version_name engine embedded row
  · exact ⟨rfl, rfl⟩

theorem filled_of_some (hasChecksum : Bool) (embedded : List Migration) {checksum : String}
    (has : row.checksum = some checksum) :
    filled engine hasChecksum embedded row = row := by
  rw [filled]
  split
  · exact backfilled_of_some engine embedded has
  · rfl

/-- A run that succeeds, said once: the recorded names match, and the table holds the old rows
and one for each pending file, with the missing checksums filled in. -/
structure Migrated (embedded : List Migration) (policy : MigrationChecksumPolicy)
    (database : Database Schema) (report : MigrationReport) (after : Database Schema)
    (table : SchemaMigrationTable) : Prop where
  names : NamesMatch database.recordedTable embedded
  accepted : checksumRefusal policy
    (embedded.filterMap (mismatchOf engine database.recordedTable)) = none
  mismatches : report.checksumMismatches =
    embedded.filterMap (mismatchOf engine database.recordedTable)
  stored : after.schemaMigration = some table
  rows : table.rows = (database.recordedTable.rows ++
    (pendingMigrations database.recordedTable embedded).map Migration.row).map
      (filled engine table.hasChecksum embedded)

/-- A run that succeeds has recorded every migration. -/
theorem migrated_of_ok (keeps : KeepsMigrationRows engine embedded)
    {policy : MigrationChecksumPolicy} {database after : Database Schema} {report : MigrationReport}
    (ran : applyEmbeddedMigrations engine embedded policy database = .ok (report, after)) :
    ∃ table, Migrated engine embedded policy database report after table := by
  have recordedTable : database.schemaMigration.getD created = database.recordedTable := rfl
  simp only [applyEmbeddedMigrations, recordedTable] at ran
  cases checked : checkRecorded engine database.recordedTable embedded with
  | error error =>
    rw [checked] at ran
    exact absurd ran (by simp)
  | ok found =>
    have names := names_of_checkRecorded engine checked
    rw [checkRecorded_of_names engine names] at ran
    simp only at ran
    cases accepted : checksumRefusal policy
        (embedded.filterMap (mismatchOf engine database.recordedTable)) with
    | some error =>
      rw [accepted] at ran
      exact absurd ran (by simp)
    | none =>
      rw [accepted] at ran
      cases executed : applyPending engine (pendingMigrations database.recordedTable embedded)
          { database with schemaMigration := some database.recordedTable } with
      | none =>
        rw [executed] at ran
        exact absurd ran (by simp)
      | some applied =>
        rw [executed] at ran
        have finished := Except.ok.inj ran
        obtain ⟨table, isTable, rows⟩ := applyPending_rows engine
          (fun migration member => keeps migration (mem_of_mem_filter member))
          rfl executed
        rw [finishRun, isTable] at finished
        by_cases present : table.hasChecksum = true
        · obtain ⟨filledRows, column⟩ := recordChecksums_rows engine present embedded
          simp only [present, dite_true] at finished
          obtain ⟨rfl, rfl⟩ := Prod.mk.inj finished
          refine ⟨_, names, accepted, rfl, rfl, ?_⟩
          rw [filledRows, column, rows]
          rfl
        · simp only [present] at finished
          obtain ⟨rfl, rfl⟩ := Prod.mk.inj finished
          refine ⟨table, names, accepted, rfl, isTable, ?_⟩
          rw [rows, Bool.eq_false_of_not_eq_true present]
          exact (map_id' _).symm

variable {engine}

section Migrated

variable {embedded : List Migration} {policy : MigrationChecksumPolicy}
  {database after : Database Schema} {report : MigrationReport} {table : SchemaMigrationTable}

theorem Migrated.exists_row (run : Migrated engine embedded policy database report after table)
    {migration : Migration} (member : migration ∈ embedded) :
    ∃ row ∈ table.rows, row.version = migration.version ∧ row.name = migration.name ∧
      ∃ old, row = filled engine table.hasChecksum embedded old ∧ old.version = migration.version ∧
        old.checksum = (database.recordedTable.recorded migration.version).bind (·.2) := by
  have fill := fun old : SchemaMigrationRow =>
    filled_version_name engine table.hasChecksum embedded old
  cases stored : database.recordedTable.recorded migration.version with
  | none =>
    refine ⟨filled engine table.hasChecksum embedded migration.row, ?_, (fill _).1, (fill _).2,
      migration.row, rfl, rfl, rfl⟩
    rw [run.rows]
    refine mem_map_of_mem (mem_append_right _ (mem_map_of_mem ?_))
    exact mem_filter.mpr ⟨member, by rw [stored]; rfl⟩
  | some found =>
    obtain ⟨name, checksum⟩ := found
    obtain ⟨old, isOld, version, sameName, sameChecksum⟩ := exists_of_recorded stored
    refine ⟨filled engine table.hasChecksum embedded old, ?_, (fill old).1.trans version,
      ((fill old).2.trans sameName).trans (run.names migration member name checksum stored),
      old, rfl, version, sameChecksum⟩
    rw [run.rows]
    exact mem_map_of_mem (mem_append_left _ isOld)

section

variable (run : Migrated engine embedded policy database report after table)
  (ascending : embedded.Pairwise fun first second => first.version < second.version)

include run ascending

theorem Migrated.complete (present : table.hasChecksum = true) :
    ∀ migration ∈ embedded, ∀ row ∈ table.rows,
      row.version = migration.version → row.checksum ≠ none := by
  intro migration member row isRow version
  rw [run.rows] at isRow
  obtain ⟨old, _, rfl⟩ := mem_map.mp isRow
  rw [(filled_version_name engine table.hasChecksum embedded old).1] at version
  rw [present, filled, if_pos rfl]
  cases without : old.checksum with
  | none =>
    rw [backfilled_of_none engine ascending member version without]
    exact Option.some_ne_none _
  | some checksum =>
    rw [backfilled_of_some engine embedded without, without]
    exact Option.some_ne_none _

theorem Migrated.mismatchOf_eq {migration : Migration} (member : migration ∈ embedded) :
    mismatchOf engine table migration = mismatchOf engine database.recordedTable migration := by
  obtain ⟨row, isRow, version, _, old, rfl, oldVersion, oldChecksum⟩ := run.exists_row member
  have now := recorded_of_mem isRow
  rw [version] at now
  simp only [mismatchOf, now, Option.bind_some, ← oldChecksum]
  cases without : old.checksum with
  | some checksum => rw [filled_of_some engine _ embedded without, without]
  | none =>
    cases present : table.hasChecksum with
    | false =>
      rw [filled, if_neg (by simp), without]
    | true =>
      rw [filled, if_pos rfl, backfilled_of_none engine ascending member oldVersion without]
      simp

/-- The second run finds nothing to do. -/
theorem Migrated.run_again : runMigrations engine embedded policy after =
      (.ok { report with checksumsRecorded := 0 }, after) := by
  have recordedTable : after.recordedTable = table := by
    rw [Database.recordedTable, run.stored, Option.getD_some]
  have names : NamesMatch table embedded := by
    intro migration member name checksum stored
    obtain ⟨row, isRow, version, sameName, _⟩ := run.exists_row member
    have now := recorded_of_mem isRow
    rw [version, stored] at now
    rw [← sameName]
    exact congrArg Prod.fst (Option.some.inj now)
  have nonePending : pendingMigrations table embedded = [] := by
    refine filter_eq_nil_iff.mpr fun migration member => ?_
    obtain ⟨row, isRow, version, _⟩ := run.exists_row member
    rw [← version, recorded_of_mem isRow]
    simp
  have sameMismatches : embedded.filterMap (mismatchOf engine table) =
      embedded.filterMap (mismatchOf engine database.recordedTable) :=
    filterMap_congr fun migration member => run.mismatchOf_eq ascending member
  have unchanged : ({ after with schemaMigration := some table } : Database Schema) = after := by
    rw [← run.stored]
  have getD : after.schemaMigration.getD created = table := recordedTable
  have checked : checkRecorded engine table embedded = .ok ([], report.checksumMismatches) := by
    rw [checkRecorded_of_names engine names, nonePending, sameMismatches, run.mismatches]
  have accepted : checksumRefusal policy report.checksumMismatches = none := by
    rw [run.mismatches, run.accepted]
  have finished : finishRun engine embedded report.checksumMismatches after =
      ({ report with checksumsRecorded := 0 }, after) := by
    simp only [finishRun, run.stored]
    by_cases present : table.hasChecksum = true
    · rw [dif_pos present]
      simp only [recordChecksums_of_complete engine present (run.complete ascending present),
        unchanged]
    · rw [dif_neg present]
  have applied : applyEmbeddedMigrations engine embedded policy after =
      .ok ({ report with checksumsRecorded := 0 }, after) := by
    rw [applyEmbeddedMigrations]
    simp only [getD, checked, accepted, applyPending, unchanged, finished]
  rw [runMigrations, applied]

end

end Migrated

def SchemaMigrationRow.file (row : SchemaMigrationRow) : Int × String :=
  (row.version, row.name)

def Migration.file (migration : Migration) : Int × String :=
  (migration.version, migration.name)

/-- A refused run leaves the database as it was.  After any other the table holds the rows it
held, then the pending files in increasing order; each file of the build is there once, no
recorded checksum has changed, and the next run succeeds and does nothing. -/
theorem migrations_applied_once (engine : MigrationEngine Schema) (embedded : List Migration)
    (ascending : embedded.Pairwise fun first second => first.version < second.version)
    (keeps : KeepsMigrationRows engine embedded) (policy : MigrationChecksumPolicy)
    (database : Database Schema) :
    (∀ error after, runMigrations engine embedded policy database = (.error error, after) →
      after = database) ∧
    ∀ report after, runMigrations engine embedded policy database = (.ok report, after) →
      ∃ table, after.schemaMigration = some table ∧
        table.rows.map (·.file) = database.recordedTable.rows.map (·.file) ++
          (pendingMigrations database.recordedTable embedded).map (·.file) ∧
        (∀ migration ∈ embedded, (table.rows.map (·.file)).count migration.file = 1) ∧
        (∀ row ∈ database.recordedTable.rows, row.checksum ≠ none → row ∈ table.rows) ∧
        runMigrations engine embedded policy after =
          (.ok { report with checksumsRecorded := 0 }, after) := by
  constructor
  · intro error after ran
    rw [runMigrations] at ran
    split at ran
    · exact (Prod.mk.inj ran).2.symm
    · exact absurd (Prod.mk.inj ran).1 (by simp)
  · intro report after ran
    rw [runMigrations] at ran
    split at ran
    · exact absurd (Prod.mk.inj ran).1 (by simp)
    · rename_i found migrated applied
      obtain ⟨same, rfl⟩ := Prod.mk.inj ran
      obtain rfl := Except.ok.inj same
      obtain ⟨table, run⟩ := migrated_of_ok engine keeps applied
      have files : ∀ row, (filled engine table.hasChecksum embedded row).file = row.file :=
        fun row => Prod.ext (filled_version_name engine _ embedded row).1
          (filled_version_name engine _ embedded row).2
      refine ⟨table, run.stored, ?_, ?_, ?_, run.run_again ascending⟩
      · rw [run.rows, map_map, map_append, map_map]
        refine congrArg₂ _ (map_congr_left fun row _ => files row)
          (map_congr_left fun migration _ => files migration.row)
      · intro migration member
        obtain ⟨row, isRow, version, name, _⟩ := run.exists_row member
        have distinct : (table.rows.map (·.file)).Nodup := by
          have versions : ((table.rows.map (·.file)).map Prod.fst).Nodup := by
            rw [map_map]
            exact table.distinct
          exact List.Nodup.of_map _ versions
        refine count_eq_one_of_mem distinct (mem_map.mpr ⟨row, isRow, ?_⟩)
        exact Prod.ext version name
      · intro row isRow has
        obtain ⟨checksum, isChecksum⟩ := Option.ne_none_iff_exists'.mp has
        rw [run.rows]
        exact mem_map.mpr ⟨row, mem_append_left _ isRow,
          filled_of_some engine _ embedded isChecksum⟩

end Runner

/-- An engine over a schema that lists the statements executed so far.  A statement of one byte
zero adds the checksum column. -/
def listingEngine : MigrationEngine (List (List UInt8)) where
  executeBatch sql database :=
    some
      { schema := database.schema ++ [sql]
        schemaMigration := database.schemaMigration.map fun table =>
          if sql = [0] then { table with hasChecksum := true, unchecked := by simp } else table }
  rekeyStoredDigests schema := some (schema ++ [[37]])
  sha256 bytes := toString bytes.length

def twoFiles : List Migration :=
  [{ version := 1, name := "0001_initial_persistence.sql", sql := [1] },
    { version := 39, name := "0039_schema_migration_checksum.sql", sql := [0] }]

theorem keepsMigrationRows_listingEngine (embedded : List Migration) :
    KeepsMigrationRows listingEngine embedded := by
  intro migration _ database executed table ran stored
  obtain rfl := Option.some.inj ran
  refine ⟨if migration.sql = [0] then { table with hasChecksum := true, unchecked := by simp }
    else table, by simp [stored], ?_⟩
  split <;> rfl

def freshDatabase : Database (List (List UInt8)) where
  schema := []
  schemaMigration := none

def laterDatabase : Database (List (List UInt8)) where
  schema := []
  schemaMigration := some
    { hasChecksum := true
      rows := [{ version := 99, name := "0099_later.sql", checksum := some "1" }]
      distinct := by decide
      unchecked := by simp }

/-- A new database gets both files in their order. -/
theorem migrations_applied_once_fresh :
    ∃ table, (runMigrations listingEngine twoFiles .refuse freshDatabase).2.schemaMigration =
        some table ∧
      table.rows.map (·.file) =
        [(1, "0001_initial_persistence.sql"), (39, "0039_schema_migration_checksum.sql")] := by
  obtain ⟨table, stored, files, _⟩ := (migrations_applied_once listingEngine twoFiles (by decide)
    (keepsMigrationRows_listingEngine twoFiles) .refuse freshDatabase).2
      { checksumMismatches := [], checksumsRecorded := 2 } _ rfl
  exact ⟨table, stored, files⟩

/-- The version of the later build stays recorded, and the ones applied now come after it. -/
theorem later_version_stays_recorded :
    (runMigrations listingEngine twoFiles .refuse laterDatabase).1 =
        .ok { checksumMismatches := [], checksumsRecorded := 2 } ∧
      (runMigrations listingEngine twoFiles .refuse laterDatabase).2.schemaMigration.map
        (fun table => table.rows.map (·.version)) = some [99, 1, 39] := by
  decide +kernel

end Velvt
