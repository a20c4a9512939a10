import Velvt.TableRows
import Velvt.WindowKeys

/-!
# The digests that a store held before they were salted

Migration 0037 mints a salt and puts every stored digest under it.  The database is seen as SQL
sees it: tables of rows under their rowids, each with a value in every column.  An update that
would break a uniqueness constraint is refused, and with it the migration.  SQL does not say in
which order a query returns its rows, so the order is a parameter.
-/

namespace Velvt.Rekeying

open Velvt.Rules (utf8Bytes encodeHex saltedKey saltedKeyDomain hmacSha256 windowDigest appDigest
  bundleDigest)

section Digests

def nibble (character : UInt8) : Option UInt8 :=
  if 48 ≤ character ∧ character ≤ 57 then
    some (character - 48)
  else if 97 ≤ character ∧ character ≤ 102 then
    some (character - 97 + 10)
  else
    none

/-- The bytes of `chunks_exact(2)`. -/
def decodePairs : List UInt8 → Option (List UInt8)
  | high :: low :: rest => do
      let high ← nibble high
      let low ← nibble low
      let bytes ← decodePairs rest
      some ((high <<< 4 ||| low) :: bytes)
  | _ => some []

/-- The inverse of `encodeHex`, and only of it. -/
def decodeDigest (encoded : String) : Option (List UInt8) :=
  if (utf8Bytes encoded).length ≠ 64 then none else decodePairs (utf8Bytes encoded)

/-- 32 bytes that only this install holds. -/
structure StableKeySalt where
  bytes : List UInt8
  length_eq : bytes.length = 32

variable (sha256 : List UInt8 → List UInt8)

def rekeyStoredDigest (salt : StableKeySalt) (stored : String) : Option String :=
  (decodeDigest stored).map (saltedKey sha256 salt.bytes)

/-- The raw inputs that a key stands for. -/
inductive RawInput
  | window (appName stableContext : String)
  | application (appName : String)
  | bundle (bundleId : String)

def RawInput.digest : RawInput → List UInt8
  | .window appName stableContext => windowDigest sha256 appName stableContext
  | .application appName => appDigest sha256 appName
  | .bundle bundleId => bundleDigest sha256 bundleId

def RawInput.unsaltedKey (input : RawInput) : String := encodeHex (input.digest sha256)

/-- `stable_key_for`, `app_stable_key_for` and `app_bundle_key_for`. -/
def RawInput.stableKey (salt : StableKeySalt) (input : RawInput) : String :=
  saltedKey sha256 salt.bytes (input.digest sha256)

end Digests

/-- `rusqlite::types::Value`; a real number by its bits. -/
inductive SqlValue
  | null
  | integer (value : Int)
  | real (bits : UInt64)
  | text (value : String)
  | blob (value : List UInt8)
  deriving DecidableEq

structure SqlRow where
  rowid : Int
  cell : String → SqlValue

def SqlRow.set (row : SqlRow) (column : String) (value : SqlValue) : SqlRow where
  rowid := row.rowid
  cell := Function.update row.cell column value

theorem SqlRow.rowids_update {selected : SqlRow → Bool} {column : String} {value : SqlValue}
    (rows : List SqlRow) :
    (TableRows.update selected (fun row => row.set column value) rows).map (·.rowid) =
      rows.map (·.rowid) :=
  TableRows.map_update fun _ => rfl

def comparedValues (column : String) (rows : List SqlRow) : List SqlValue :=
  (rows.map fun row => row.cell column).filter fun value => value ≠ .null

/-- The primary keys and unique columns of the tables that hold keys. -/
def uniqueColumns : List (String × String) :=
  [("abstraction_map", "key_hash"),
    ("abstraction_map", "stable_id"),
    ("personal_override", "key_hash"),
    ("personal_app_override", "app_key_hash"),
    ("personal_app_override", "bundle_key_hash"),
    ("raw_event_buffer", "event_id"),
    ("semantic_embedding_cache", "key_hash"),
    ("personal_semantic_prototype", "key_hash")]

def UniquenessHolds (rows : String → List SqlRow) : Prop :=
  ∀ place ∈ uniqueColumns, (comparedValues place.2 (rows place.1)).Nodup
  deriving Decidable

/-- The tables by their names. -/
structure SqlStore where
  rows : String → List SqlRow
  distinct : ∀ table, ((rows table).map (·.rowid)).Nodup
  unique : UniquenessHolds rows

inductive PersistenceError
  | sqlite
  | invalidStableKeySalt

namespace SqlStore

variable (store : SqlStore)

theorem distinct_update {table : String} {rows : List SqlRow}
    (kept : (rows.map (·.rowid)).Sublist ((store.rows table).map (·.rowid))) (name : String) :
    ((Function.update store.rows table rows name).map (·.rowid)).Nodup := by
  by_cases same : name = table
  · subst same
    rw [Function.update_self]
    exact kept.nodup (store.distinct name)
  · rw [Function.update_of_ne same]
    exact store.distinct name

/-- `UPDATE table SET column = ?2 WHERE rowid = ?1`. -/
def updateCell (table column : String) (rowid : Int) (value : SqlValue) :
    Except PersistenceError SqlStore :=
  let rows := Function.update store.rows table
    (TableRows.update (fun row => row.rowid == rowid) (fun row => row.set column value)
      (store.rows table))
  if unique : UniquenessHolds rows then
    .ok {
      rows := rows
      distinct := store.distinct_update (by rw [SqlRow.rowids_update])
      unique := unique }
  else
    .error .sqlite

theorem comparedValues_sublist {column : String} {fewer rows : List SqlRow}
    (kept : fewer.Sublist rows) :
    (comparedValues column fewer).Sublist (comparedValues column rows) :=
  (kept.map _).filter _

/-- `DELETE FROM table WHERE rowid = ?1`. -/
def deleteRow (table : String) (rowid : Int) : SqlStore where
  rows := Function.update store.rows table ((store.rows table).filter fun row => row.rowid != rowid)
  distinct := store.distinct_update (List.filter_sublist.map _)
  unique := by
    intro place isPlace
    by_cases same : place.1 = table
    · rw [same, Function.update_self]
      rw [← same]
      exact (comparedValues_sublist List.filter_sublist).nodup (store.unique place isPlace)
    · rw [Function.update_of_ne same]
      exact store.unique place isPlace

def mintSalt (salt : StableKeySalt) (createdAt : Int) : SqlStore where
  rows := Function.update store.rows "stable_key_salt" [{
    rowid := 1
    cell := fun column =>
      if column = "id" then .integer 1
      else if column = "salt" then .blob salt.bytes
      else if column = "created_at" then .integer createdAt
      else .null }]
  distinct := by
    intro name
    by_cases same : name = "stable_key_salt"
    · rw [same, Function.update_self]
      exact List.nodup_singleton _
    · rw [Function.update_of_ne same]
      exact store.distinct name
  unique := by
    intro place isPlace
    have other : place.1 ≠ "stable_key_salt" := by
      revert place
      decide
    rw [Function.update_of_ne other]
    exact store.unique place isPlace

/-- `SELECT salt FROM stable_key_salt WHERE id = 1`. -/
def stableKeySalt : Except PersistenceError StableKeySalt :=
  match (store.rows "stable_key_salt").find? fun row => row.cell "id" = .integer 1 with
  | some row =>
    match row.cell "salt" with
    | .blob bytes =>
      if length_eq : bytes.length = 32 then .ok ⟨bytes, length_eq⟩
      else .error .invalidStableKeySalt
    | _ => .error .sqlite
  | none => .error .sqlite

end SqlStore

section Rekeying

/-- A column that holds digests; an optional one can be empty. -/
structure KeyedColumn where
  table : String
  column : String
  optional : Bool
  deriving DecidableEq

def keyedColumns : List KeyedColumn :=
  [⟨"abstraction_map", "key_hash", false⟩,
    ⟨"personal_override", "key_hash", false⟩,
    ⟨"personal_override", "app_key_hash", true⟩,
    ⟨"personal_app_override", "app_key_hash", false⟩,
    ⟨"personal_app_override", "bundle_key_hash", true⟩,
    ⟨"raw_event_buffer", "app_stable_id", true⟩,
    ⟨"raw_event_buffer", "app_bundle_stable_id", true⟩,
    ⟨"semantic_embedding_cache", "key_hash", false⟩,
    ⟨"personal_semantic_prototype", "key_hash", false⟩]

/-- A rowid with the value of a column. -/
abbrev StoredCell := Int × SqlValue

/-- In which order the rows of a query arrive. -/
abbrev ScanOrder := KeyedColumn → List StoredCell → List StoredCell

variable (sha256 : List UInt8 → List UInt8) (salt : StableKeySalt)

def keyedValue : SqlValue → Option String
  | .text digest => rekeyStoredDigest sha256 salt digest
  | _ => none

/-- `SELECT rowid, column FROM table WHERE column IS NOT NULL`. -/
def storedCells (column : KeyedColumn) (store : SqlStore) : List StoredCell :=
  (store.rows column.table).filterMap fun row =>
    if row.cell column.column = .null then none else some (row.rowid, row.cell column.column)

def rekeyCell (column : KeyedColumn) (store : SqlStore) (cell : StoredCell) :
    Except PersistenceError SqlStore :=
  match keyedValue sha256 salt cell.2 with
  | some keyed => store.updateCell column.table column.column cell.1 (.text keyed)
  | none =>
    if column.optional then
      store.updateCell column.table column.column cell.1 .null
    else
      .ok (store.deleteRow column.table cell.1)

def rekeyCells (column : KeyedColumn) (cells : List StoredCell) (store : SqlStore) :
    Except PersistenceError SqlStore :=
  cells.foldlM (rekeyCell sha256 salt column) store

variable (scan : ScanOrder)

def rekeyColumns (columns : List KeyedColumn) (store : SqlStore) :
    Except PersistenceError SqlStore :=
  columns.foldlM (fun store column =>
    rekeyCells sha256 salt column (scan column (storedCells column store)) store) store

def rekeyStoredDigests (store : SqlStore) : Except PersistenceError SqlStore := do
  let salt ← store.stableKeySalt
  rekeyColumns sha256 salt scan keyedColumns store

def saltStableKeys (salt : StableKeySalt) (createdAt : Int) (store : SqlStore) :
    Except PersistenceError SqlStore :=
  rekeyStoredDigests sha256 scan (store.mintSalt salt createdAt)

end Rekeying

end Velvt.Rekeying
