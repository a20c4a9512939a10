import Velvt.TableRows

/-!
# The migration runner

`apply_embedded_migrations` over the table `schema_migration` and a schema that only the engine
and the re-keying of stored digests change.  The whole run is one transaction.
-/

namespace Velvt

open List

def stableKeySaltMigration : Int := 37

/-- One file of the build: its number, its name and the bytes of its text. -/
structure Migration where
  version : Int
  name : String
  sql : List UInt8

/-- Where the tokenizer of `normalized_sql` is. -/
inductive SqlMode
  | text
  | lineComment
  | blockComment
  | quoted (close : UInt8)

/-- The characters between tokens: space, tab, line feed, carriage return and form feed. -/
def isSqlSpace (byte : UInt8) : Bool :=
  [32, 9, 10, 13, 12].contains byte

/-- The byte that closes a quoted token which `byte` opens. -/
def sqlClose (byte : UInt8) : Option UInt8 :=
  if [39, 34, 96].contains byte then some byte
  else if byte = 91 then some 93
  else none

/-- The loop of `normalized_sql`.  `separated` says that space or a comment was skipped, and
`started` that a token was written. -/
def normalizedSqlFrom : SqlMode → Bool → Bool → List UInt8 → List UInt8
  | _, _, _, [] => []
  | .lineComment, separated, started, byte :: rest =>
    normalizedSqlFrom (if byte = 10 then .text else .lineComment) separated started rest
  | .blockComment, separated, started, [_] => normalizedSqlFrom .blockComment separated started []
  | .blockComment, separated, started, byte :: next :: rest =>
    if byte = 42 ∧ next = 47 then normalizedSqlFrom .text separated started rest
    else normalizedSqlFrom .blockComment separated started (next :: rest)
  | .quoted close, separated, started, [byte] =>
    byte :: normalizedSqlFrom (if byte = close then .text else .quoted close) separated started []
  | .quoted close, separated, started, byte :: next :: rest =>
    if byte ≠ close then
      byte :: normalizedSqlFrom (.quoted close) separated started (next :: rest)
    -- A doubled quote is one escaped quote; `]` has no escape.
    else if close ≠ 93 ∧ next = close then
      byte :: next :: normalizedSqlFrom (.quoted close) separated started rest
    else
      byte :: normalizedSqlFrom .text separated started (next :: rest)
  | .text, separated, started, byte :: rest =>
    if byte = 45 ∧ rest.head? = some 45 then
      normalizedSqlFrom .lineComment true started rest
    else if byte = 47 ∧ rest.head? = some 42 then
      normalizedSqlFrom .blockComment true started rest.tail
    else if isSqlSpace byte then
      normalizedSqlFrom .text true started rest
    else
      (if separated && started then [32, byte] else [byte]) ++
        normalizedSqlFrom
          (match sqlClose byte with
            | some close => .quoted close
            | none => .text)
          false true rest
termination_by _ _ _ bytes => bytes.length
decreasing_by all_goals (simp only [length_cons, length_tail]; omega)

def normalizedSql (sql : List UInt8) : List UInt8 :=
  normalizedSqlFrom .text false false sql

/-- One row of `schema_migration`. -/
structure SchemaMigrationRow where
  version : Int
  name : String
  checksum : Option String

/-- The table, with its rows in the order of their ids.  The version is unique, and without the
checksum column no row has a checksum. -/
structure SchemaMigrationTable where
  hasChecksum : Bool
  rows : List SchemaMigrationRow
  distinct : (rows.map (·.version)).Nodup
  unchecked : hasChecksum = false → ∀ row ∈ rows, row.checksum = none

/-- The database: everything but `schema_migration` is its schema. -/
structure Database (Schema : Type*) where
  schema : Schema
  schemaMigration : Option SchemaMigrationTable

inductive MigrationChecksumPolicy
  | refuse
  | report
  deriving DecidableEq

structure MigrationChecksumMismatch where
  version : Int
  name : String
  recorded : String
  embedded : String
  deriving DecidableEq

structure MigrationReport where
  checksumMismatches : List MigrationChecksumMismatch
  checksumsRecorded : Nat
  deriving DecidableEq

/-- Why a run is refused.  Every other failure of a statement is `sqlite`. -/
inductive MigrationError
  | nameMismatch (version : Int) (recorded embedded : String)
  | checksumMismatch (mismatch : MigrationChecksumMismatch)
  | sqlite
  deriving DecidableEq

/-- What the runner calls: the SQL engine, the re-keying of the stored digests, and SHA-256 as
64 hex digits. -/
structure MigrationEngine (Schema : Type*) where
  executeBatch : List UInt8 → Database Schema → Option (Database Schema)
  rekeyStoredDigests : Schema → Option Schema
  sha256 : List UInt8 → String

namespace SchemaMigrationTable

/-- `CREATE TABLE IF NOT EXISTS schema_migration`. -/
def created : SchemaMigrationTable where
  hasChecksum := false
  rows := []
  distinct := nodup_nil
  unchecked := by simp

variable (table : SchemaMigrationTable)

def recorded (version : Int) : Option (String × Option String) :=
  (table.rows.find? fun row => row.version == version).map fun row => (row.name, row.checksum)

/-- `INSERT INTO schema_migration(version, name)`. -/
def insert (migration : Migration) : Option SchemaMigrationTable :=
  if fresh : migration.version ∈ table.rows.map (·.version) then
    none
  else
    some
      { hasChecksum := table.hasChecksum
        rows := table.rows ++
          [{ version := migration.version, name := migration.name, checksum := none }]
        distinct := by
          rw [map_append]
          refine nodup_append.mpr ⟨table.distinct, nodup_singleton _, ?_⟩
          rintro version member other isNew rfl
          rw [mem_singleton.mp isNew] at member
          exact fresh member
        unchecked := by
          intro without row member
          rcases mem_append.mp member with old | isNew
          · exact table.unchecked without row old
          · rw [mem_singleton.mp isNew] }

def recordChecksum (version : Int) (checksum : String) (row : SchemaMigrationRow) :
    SchemaMigrationRow :=
  if row.version = version ∧ row.checksum = none then { row with checksum := some checksum }
  else row

@[simp]
theorem recordChecksum_version (version : Int) (checksum : String) (row : SchemaMigrationRow) :
    (recordChecksum version checksum row).version = row.version := by
  rw [recordChecksum]
  split <;> rfl

/-- `UPDATE schema_migration SET checksum … WHERE version = … AND checksum IS NULL`, with the
number of rows it changes. -/
def record (present : table.hasChecksum = true) (version : Int) (checksum : String) :
    Nat × SchemaMigrationTable :=
  (table.rows.countP fun row => decide (row.version = version ∧ row.checksum = none),
    { hasChecksum := table.hasChecksum
      rows := table.rows.map (recordChecksum version checksum)
      distinct := by
        have versions : (table.rows.map (recordChecksum version checksum)).map (·.version) =
            table.rows.map (·.version) := by
          simp [Function.comp_def]
        rw [versions]
        exact table.distinct
      unchecked := by simp [present] })

end SchemaMigrationTable

section Runner

variable {Schema : Type*} (engine : MigrationEngine Schema)

def MigrationEngine.migrationChecksum (sql : List UInt8) : String :=
  engine.sha256 (normalizedSql sql)

/-- The first loop: what is pending, and which recorded checksums differ.  A file recorded under
another name is refused. -/
def checkRecorded (table : SchemaMigrationTable) :
    List Migration → Except MigrationError (List Migration × List MigrationChecksumMismatch)
  | [] => .ok ([], [])
  | migration :: rest =>
    match table.recorded migration.version with
    | none =>
      match checkRecorded table rest with
      | .error error => .error error
      | .ok (pending, mismatches) => .ok (migration :: pending, mismatches)
    | some (name, checksum) =>
      if name ≠ migration.name then
        .error (.nameMismatch migration.version name migration.name)
      else
        match checkRecorded table rest with
        | .error error => .error error
        | .ok (pending, mismatches) =>
          match checksum with
          | none => .ok (pending, mismatches)
          | some recorded =>
            if recorded = engine.migrationChecksum migration.sql then
              .ok (pending, mismatches)
            else
              .ok (pending,
                { version := migration.version
                  name := migration.name
                  recorded := recorded
                  embedded := engine.migrationChecksum migration.sql } :: mismatches)

/-- One pending file: its statements, the re-keying if it is the one that mints the salt, and
its row. -/
def applyMigration (migration : Migration) (database : Database Schema) :
    Option (Database Schema) :=
  (engine.executeBatch migration.sql database).bind fun executed =>
    (if migration.version = stableKeySaltMigration then
        engine.rekeyStoredDigests executed.schema
      else some executed.schema).bind fun schema =>
        executed.schemaMigration.bind fun table =>
          (table.insert migration).map fun inserted =>
            { schema := schema, schemaMigration := some inserted }

def applyPending : List Migration → Database Schema → Option (Database Schema)
  | [], database => some database
  | migration :: rest, database =>
    (applyMigration engine migration database).bind (applyPending rest)

/-- The last loop: every row without a checksum gets the one of its file. -/
def recordChecksums : (table : SchemaMigrationTable) → table.hasChecksum = true →
    List Migration → Nat × SchemaMigrationTable
  | table, _, [] => (0, table)
  | table, present, migration :: rest =>
    let one := table.record present migration.version (engine.migrationChecksum migration.sql)
    let others := recordChecksums one.2 present rest
    (one.1 + others.1, others.2)

def checksumRefusal (policy : MigrationChecksumPolicy)
    (mismatches : List MigrationChecksumMismatch) : Option MigrationError :=
  if policy = .refuse then mismatches.head?.map .checksumMismatch else none

/-- The end of the run: missing checksums are recorded where there is a column for them. -/
def finishRun (embedded : List Migration) (mismatches : List MigrationChecksumMismatch)
    (applied : Database Schema) : MigrationReport × Database Schema :=
  match applied.schemaMigration with
  | none => ({ checksumMismatches := mismatches, checksumsRecorded := 0 }, applied)
  | some table =>
    if present : table.hasChecksum = true then
      let recorded := recordChecksums engine table present embedded
      ({ checksumMismatches := mismatches, checksumsRecorded := recorded.1 },
        { applied with schemaMigration := some recorded.2 })
    else
      ({ checksumMismatches := mismatches, checksumsRecorded := 0 }, applied)

def applyEmbeddedMigrations (embedded : List Migration) (policy : MigrationChecksumPolicy)
    (database : Database Schema) : Except MigrationError (MigrationReport × Database Schema) :=
  let table := database.schemaMigration.getD SchemaMigrationTable.created
  match checkRecorded engine table embedded with
  | .error error => .error error
  | .ok (pending, mismatches) =>
    match checksumRefusal policy mismatches with
    | some error => .error error
    | none =>
      match applyPending engine pending { database with schemaMigration := some table } with
      | none => .error .sqlite
      | some applied => .ok (finishRun engine embedded mismatches applied)

def runMigrations (embedded : List Migration) (policy : MigrationChecksumPolicy)
    (database : Database Schema) : Except MigrationError MigrationReport × Database Schema :=
  match applyEmbeddedMigrations engine embedded policy database with
  | .error error => (.error error, database)
  | .ok (report, migrated) => (.ok report, migrated)

end Runner

end Velvt
