import Mathlib.Data.List.DropRight
import Velvt.DigestRekeying
import Velvt.Sha256

/-!
# When the salted keys go in, and what they find

A column whose values are unique can refuse a salted key, if another row holds that very key as its
digest.
-/

namespace Velvt.Rekeying

open List

open Velvt.Rules (encodeHex saltedKey saltedKeyDomain hmacSha256)

variable (sha256 : List UInt8 → List UInt8) (salt : StableKeySalt)

/-- Of the rows that stay, none holds in a unique column the salted key of another's digest. -/
def NoClash (columns : List KeyedColumn) (rows : String → List SqlRow) : Prop :=
  ∀ column ∈ columns, (column.table, column.column) ∈ uniqueColumns →
    ∀ first ∈ rows column.table, ∀ second ∈ rows column.table,
      Stays columns column.table first → Stays columns column.table second →
      first.rowid ≠ second.rowid → ∀ keyed,
        keyedValue sha256 salt (first.cell column.column) = some keyed →
          second.cell column.column ≠ .text keyed

/-- The column that a row lives by comes before the table's optional ones. -/
def IdentityFirst (columns : List KeyedColumn) : Prop :=
  columns.Pairwise fun earlier later => later.table = earlier.table → later.optional = true

theorem listedOnce_keyedColumns : ListedOnce keyedColumns := by
  unfold ListedOnce
  decide

theorem identityFirst_keyedColumns : IdentityFirst keyedColumns := by
  unfold IdentityFirst
  decide

variable {sha256 salt} {scan : ScanOrder} {store after : SqlStore} {column : KeyedColumn}
  {columns : List KeyedColumn}

variable {keyed : String}

theorem isDigest_of_keyedValue {value : SqlValue}
    (isKeyed : keyedValue sha256 salt value = some keyed) : IsDigest value := by
  by_contra other
  rw [keyedValue_eq_none.mpr other] at isKeyed
  cases isKeyed

theorem isDigest_keyed (digestLength : ∀ message, (sha256 message).length = 32) {value : SqlValue}
    (isKeyed : keyedValue sha256 salt value = some keyed) :
    IsDigest (.text keyed) := by
  obtain ⟨digest, -, -, rfl⟩ := keyedValue_eq_some.mp isKeyed
  exact isDigest_iff.mpr ⟨_, digestLength _, rfl⟩

theorem NoClash.apart (digestLength : ∀ message, (sha256 message).length = 32)
    (first : IdentityFirst (column :: columns))
    (noClash : NoClash sha256 salt (column :: columns) store.rows)
    (isUnique : (column.table, column.column) ∈ uniqueColumns) :
    Apart sha256 salt column.column (store.rows column.table) := by
  have stays {row : SqlRow} (digest : IsDigest (row.cell column.column)) :
      Stays (column :: columns) column.table row := by
    intro other member inTable required
    rcases mem_cons.mp member with rfl | isLater
    · exact .inr digest
    · have optional := (pairwise_cons.mp first).1 other isLater inTable
      rw [optional] at required
      cases required
  intro row isRow other isOther differs keyed isKeyed same
  have digest : IsDigest (other.cell column.column) := same ▸ isDigest_keyed digestLength isKeyed
  exact noClash column mem_cons_self isUnique row isRow other isOther
    (stays (isDigest_of_keyedValue isKeyed)) (stays digest) differs keyed isKeyed same

theorem NoClash.tail (once : ListedOnce (column :: columns))
    (noClash : NoClash sha256 salt (column :: columns) store.rows) :
    NoClash sha256 salt columns (Function.update store.rows column.table
      ((store.rows column.table).filterMap (rekeyedRow sha256 salt column))) := by
  intro later isLater isUnique row isRow other isOther rowStays otherStays differs keyed isKeyed
  have apart := (pairwise_cons.mp once).1 later isLater
  by_cases here : later.table = column.table
  · rw [here, Function.update_self] at isRow isOther
    obtain ⟨oldRow, isOld, kept⟩ := mem_filterMap.mp isRow
    obtain ⟨oldOther, isOldOther, keptOther⟩ := mem_filterMap.mp isOther
    rw [rekeyedRow_frame kept (apart here)] at isKeyed
    rw [rekeyedRow_frame keptOther (apart here)]
    rw [rekeyedRow_rowid kept, rekeyedRow_rowid keptOther] at differs
    rw [here] at rowStays otherStays
    refine noClash later (mem_cons_of_mem _ isLater) isUnique oldRow (here ▸ isOld) oldOther
      (here ▸ isOldOther) ?_ ?_ differs keyed isKeyed
    · exact here ▸ (stays_cons once rfl kept).mp rowStays
    · exact here ▸ (stays_cons once rfl keptOther).mp otherStays
  · rw [Function.update_of_ne here] at isRow isOther
    have stays {row : SqlRow} (rowStays : Stays columns later.table row) :
        Stays (column :: columns) later.table row := by
      intro other member inTable
      rcases mem_cons.mp member with rfl | isMember
      · exact absurd inTable.symm here
      · exact rowStays other isMember inTable
    exact noClash later (mem_cons_of_mem _ isLater) isUnique row isRow other isOther
      (stays rowStays) (stays otherStays) differs keyed isKeyed

theorem rekeyColumns_succeed (digestLength : ∀ message, (sha256 message).length = 32)
    (collisionFree : CollisionFree sha256 salt) (reorders : Reorders scan)
    (once : ListedOnce columns) (first : IdentityFirst columns)
    (noClash : NoClash sha256 salt columns store.rows) :
    ∃ after, rekeyColumns sha256 salt scan columns store = .ok after := by
  induction columns generalizing store with
  | nil => exact ⟨store, rfl⟩
  | cons column columns ih =>
    have start : Passed sha256 salt column store [] store := by
      simp [Passed, passedRows]
    obtain ⟨next, isNext⟩ := rekeyCells_succeed collisionFree
      (fun isUnique => noClash.apart digestLength first isUnique) start
      (cellsOf_storedCells store (reorders column _))
    have nextRows := rekeyCells_rows (reorders column _) isNext
    obtain ⟨after, isAfter⟩ := ih (pairwise_cons.mp once).2 (pairwise_cons.mp first).2
      (nextRows ▸ noClash.tail once)
    exact ⟨after, by rw [rekeyColumns, foldlM_cons, isNext]; exact isAfter⟩

/-- The rows come as the query found them, but for one that comes first. -/
def leading (chosen : KeyedColumn) (rowid : Int) : ScanOrder := fun column cells =>
  if column = chosen then
    (cells.filter fun cell => cell.1 == rowid) ++ cells.filter fun cell => !(cell.1 == rowid)
  else
    cells

theorem leading_reorders (chosen : KeyedColumn) (rowid : Int) :
    Reorders (leading chosen rowid) := by
  intro column cells
  rw [leading]
  split
  · exact filter_append_perm _ _
  · exact .refl _

/-- A keyed value that is already in another row refuses the update. -/
theorem rekeyCells_refused {first second : SqlRow}
    (isUnique : (column.table, column.column) ∈ uniqueColumns)
    (isFirst : first ∈ store.rows column.table) (isSecond : second ∈ store.rows column.table)
    (differs : first.rowid ≠ second.rowid)
    (isKeyed : keyedValue sha256 salt (first.cell column.column) = some keyed)
    (clashes : second.cell column.column = .text keyed) :
    rekeyCells sha256 salt column
      (leading column first.rowid column (storedCells column store)) store ≠ .ok after := by
  intro rekeyed
  have full : first.cell column.column ≠ .null := by
    intro empty
    rw [empty] at isKeyed
    cases isKeyed
  have stored : (first.rowid, first.cell column.column) ∈ storedCells column store :=
    mem_filterMap.mpr ⟨first, isFirst, by rw [if_neg full]⟩
  rw [leading, if_pos rfl] at rekeyed
  cases chosen : (storedCells column store).filter fun cell => cell.1 == first.rowid with
  | nil =>
    have none := filter_eq_nil_iff.mp chosen _ stored
    simp at none
  | cons cell cells =>
    have isChosen : cell ∈ (storedCells column store).filter fun cell => cell.1 == first.rowid := by
      rw [chosen]
      exact mem_cons_self
    obtain ⟨isStored, same⟩ := mem_filter.mp isChosen
    obtain ⟨row, isRow, read⟩ := mem_filterMap.mp isStored
    rw [Option.ite_none_left_eq_some] at read
    obtain rfl := Option.some.inj read.2
    obtain rfl : row = first := eq_of_rowid (store.distinct _) isRow isFirst (by simpa using same)
    rw [chosen, cons_append, rekeyCells, foldlM_cons, rekeyCell] at rekeyed
    simp only [isKeyed] at rekeyed
    cases updated : store.updateCell column.table column.column row.rowid (.text keyed) with
    | error error =>
      rw [updated] at rekeyed
      cases rekeyed
    | ok next =>
      have rows : next.rows column.table = TableRows.update (fun other => other.rowid == row.rowid)
          (fun other => other.set column.column (.text keyed)) (store.rows column.table) := by
        rw [updateCell_rows updated, Function.update_self]
      have isWritten : row.set column.column (.text keyed) ∈ next.rows column.table := by
        rw [rows]
        exact TableRows.mem_update.mpr (.inr ⟨row, isFirst, by simp, rfl⟩)
      have isThere : second ∈ next.rows column.table := by
        rw [rows]
        exact TableRows.mem_update.mpr (.inl ⟨isSecond, by simpa using differs.symm⟩)
      have one := next.eq_of_cell isUnique isWritten isThere (by simp) (by simp [clashes])
      exact differs (by rw [← one, SqlRow.set_rowid])

theorem rekeyColumns_append {f back : List KeyedColumn}
    (rekeyed : rekeyColumns sha256 salt scan (f ++ back) store = .ok after) :
    ∃ mid, rekeyColumns sha256 salt scan f store = .ok mid ∧
      rekeyColumns sha256 salt scan back mid = .ok after := by
  rw [rekeyColumns, foldlM_append] at rekeyed
  cases passed : rekeyColumns sha256 salt scan f store with
  | error error =>
    rw [rekeyColumns] at passed
    rw [passed] at rekeyed
    cases rekeyed
  | ok mid =>
    rw [rekeyColumns] at passed
    rw [passed] at rekeyed
    exact ⟨mid, rfl, rekeyed⟩

theorem rekeyColumns_singleton : rekeyColumns sha256 salt scan [column] store =
    rekeyCells sha256 salt column (scan column (storedCells column store)) store := by
  rw [rekeyColumns, foldlM_cons]
  exact bind_pure _

theorem rekeyColumns_refused (column : KeyedColumn) (first second : SqlRow)
    (once : ListedOnce columns) (isColumn : column ∈ columns)
    (isUnique : (column.table, column.column) ∈ uniqueColumns)
    (isFirst : first ∈ store.rows column.table) (isSecond : second ∈ store.rows column.table)
    (firstStays : Stays columns column.table first)
    (secondStays : Stays columns column.table second) (differs : first.rowid ≠ second.rowid)
    (isKeyed : keyedValue sha256 salt (first.cell column.column) = some keyed)
    (clashes : second.cell column.column = .text keyed) :
    rekeyColumns sha256 salt (leading column first.rowid) columns store ≠ .ok after := by
  intro rekeyed
  obtain ⟨front, back, rfl⟩ := append_of_mem isColumn
  have frontOnce : ListedOnce front := (pairwise_append.mp once).1
  have apart : ∀ other ∈ front, other.table = column.table → other.column ≠ column.column := by
    intro other isOther inTable same
    exact (pairwise_append.mp once).2.2 other isOther column mem_cons_self inTable.symm same.symm
  obtain ⟨mid, passed, rekeyed⟩ := rekeyColumns_append rekeyed
  have rows := rekeyColumns_rows (leading_reorders column first.rowid) passed column.table
  have survives {row : SqlRow} (isRow : row ∈ store.rows column.table)
      (stays : Stays (front ++ column :: back) column.table row) :
      ∃ left ∈ mid.rows column.table, left.rowid = row.rowid ∧
        left.cell column.column = row.cell column.column := by
    obtain ⟨left, kept⟩ := (rekeyedThrough_isSome frontOnce).mpr
      fun other isOther => stays other (mem_append_left _ isOther)
    have leftOf := leftOf_rekeyedThrough frontOnce kept
    exact ⟨left, rows ▸ mem_filterMap.mpr ⟨row, isRow, kept⟩, leftOf.rowid, leftOf.others _ apart⟩
  obtain ⟨firstLeft, isLeft, sameRow, sameCell⟩ := survives isFirst firstStays
  obtain ⟨secondLeft, isLeftToo, sameRowToo, sameCellToo⟩ := survives isSecond secondStays
  obtain ⟨next, outcome, -⟩ := rekeyColumns_append (f := [column]) rekeyed
  rw [rekeyColumns_singleton, ← sameRow] at outcome
  refine rekeyCells_refused isUnique isLeft isLeftToo ?_ (sameCell ▸ isKeyed)
    (sameCellToo.trans clashes) outcome
  rw [sameRow, sameRowToo]
  exact differs

section Migration

theorem mintSalt_rows (salt : StableKeySalt) (createdAt : Int) (store : SqlStore) {table : String}
    (other : table ≠ "stable_key_salt") : (store.mintSalt salt createdAt).rows table = store.rows table :=
  Function.update_of_ne other _ _

theorem stableKeySalt_mintSalt (salt : StableKeySalt) (createdAt : Int) (store : SqlStore) :
    (store.mintSalt salt createdAt).stableKeySalt = .ok salt := by
  simp [SqlStore.stableKeySalt, SqlStore.mintSalt, salt.length_eq]

theorem saltStableKeys_eq (sha256 : List UInt8 → List UInt8) (scan : ScanOrder)
    (salt : StableKeySalt) (createdAt : Int) (store : SqlStore) :
    saltStableKeys sha256 scan salt createdAt store =
      rekeyColumns sha256 salt scan keyedColumns (store.mintSalt salt createdAt) := by
  rw [saltStableKeys, rekeyStoredDigests, stableKeySalt_mintSalt]
  rfl

/-- `SELECT … WHERE column = key`. -/
def SqlStore.lookup (store : SqlStore) (column : KeyedColumn) (key : String) : List SqlRow :=
  (store.rows column.table).filter fun row => row.cell column.column = .text key

/-- A row of the table before the migration, and what it is afterwards. -/
structure Remains (before after : SqlStore) (table : String) (old new : SqlRow) : Prop where
  wasThere : old ∈ before.rows table
  isThere : new ∈ after.rows table
  sameRow : new.rowid = old.rowid

/-- What the migration does to a store. -/
structure Rekeyed (sha256 : List UInt8 → List UInt8) (salt : StableKeySalt)
    (before after : SqlStore) : Prop where
  /-- No row is new, and they stand in the same order. -/
  noneNew : ∀ table, table ≠ "stable_key_salt" →
    ((after.rows table).map (·.rowid)).Sublist ((before.rows table).map (·.rowid))
  /-- A row is gone only if a key that it lives by was no digest. -/
  remains_iff : ∀ table, table ≠ "stable_key_salt" → ∀ old ∈ before.rows table,
    (∃ new, Remains before after table old new) ↔ Stays keyedColumns table old
  /-- A salted key finds what the unsalted one found. -/
  finds : ∀ column ∈ keyedColumns, ∀ input : RawInput, ∀ old new,
    Remains before after column.table old new →
      (new ∈ after.lookup column (input.stableKey sha256 salt) ↔
        old ∈ before.lookup column (input.unsaltedKey sha256))
  /-- Keys agree where their digests did. -/
  joins : ∀ first ∈ keyedColumns, ∀ second ∈ keyedColumns, ∀ old new other otherNew,
    Remains before after first.table old new →
      Remains before after second.table other otherNew →
        new.cell first.column ≠ .null → otherNew.cell second.column ≠ .null →
          (new.cell first.column = otherNew.cell second.column ↔
            old.cell first.column = other.cell second.column)
  /-- A value is gone only if it was no digest. -/
  empties_iff : ∀ column ∈ keyedColumns, ∀ old new, Remains before after column.table old new →
    (new.cell column.column = .null ↔ ¬IsDigest (old.cell column.column))
  /-- Everything else is as it was. -/
  others : ∀ table, table ≠ "stable_key_salt" → ∀ old new, Remains before after table old new →
    ∀ name, (∀ column ∈ keyedColumns, column.table = table → column.column ≠ name) →
      new.cell name = old.cell name

/-- A store that the migration goes through: some passes are over, and some rows of the next. -/
def PassesThrough (sha256 : List UInt8 → List UInt8) (scan : ScanOrder) (salt : StableKeySalt)
    (createdAt : Int) (store between : SqlStore) : Prop :=
  ∃ front column back reached done rest, keyedColumns = front ++ column :: back ∧
    rekeyColumns sha256 salt scan front (store.mintSalt salt createdAt) = .ok reached ∧
    scan column (storedCells column reached) = done ++ rest ∧
    rekeyCells sha256 salt column done reached = .ok between

variable {createdAt : Int}

theorem map_filterMap_sublist {Row Key : Type*} {key : Row → Key} {change : Row → Option Row}
    (keeps : ∀ old new, change old = some new → key new = key old) (rows : List Row) :
    ((rows.filterMap change).map key).Sublist (rows.map key) := by
  induction rows with
  | nil => exact .slnil
  | cons row rows ih =>
    cases kept : change row with
    | none =>
      rw [filterMap_cons_none kept]
      exact ih.cons _
    | some new =>
      rw [filterMap_cons_some kept, map_cons, map_cons, keeps row new kept]
      exact ih.cons_cons _

theorem exists_leftOf (reorders : Reorders scan)
    (salted : saltStableKeys sha256 scan salt createdAt store = .ok after) {table : String}
    (other : table ≠ "stable_key_salt") {old new : SqlRow}
    (remains : Remains store after table old new) :
    LeftOf sha256 salt keyedColumns table old new := by
  rw [saltStableKeys_eq] at salted
  have rows := rekeyColumns_rows reorders salted table
  rw [mintSalt_rows salt createdAt store other] at rows
  have isThere := remains.isThere
  rw [rows] at isThere
  obtain ⟨source, isSource, kept⟩ := mem_filterMap.mp isThere
  have leftOf := leftOf_rekeyedThrough listedOnce_keyedColumns kept
  obtain rfl := eq_of_rowid (store.distinct table) isSource remains.wasThere
    (leftOf.rowid.symm.trans remains.sameRow)
  exact leftOf

theorem keyed_elsewhere {column : KeyedColumn} (isKeyed : column ∈ keyedColumns) :
    column.table ≠ "stable_key_salt" := by
  revert column
  decide

theorem rekeyedValue_eq_iff (collisionFree : CollisionFree sha256 salt) {first second : SqlValue}
    (full : rekeyedValue sha256 salt first ≠ .null)
    (fullToo : rekeyedValue sha256 salt second ≠ .null) :
    rekeyedValue sha256 salt first = rekeyedValue sha256 salt second ↔ first = second := by
  refine ⟨fun same => ?_, congrArg _⟩
  rw [rekeyedValue] at full fullToo same
  rw [rekeyedValue] at same
  cases isFirst : keyedValue sha256 salt first with
  | none => simp [isFirst] at full
  | some keyed =>
    cases isSecond : keyedValue sha256 salt second with
    | none => simp [isSecond] at fullToo
    | some other =>
      simp only [isFirst, isSecond, SqlValue.text.injEq] at same
      subst same
      exact eq_of_keyedValue collisionFree isFirst isSecond

theorem rekeyedValue_eq_null {value : SqlValue} :
    rekeyedValue sha256 salt value = .null ↔ ¬IsDigest value := by
  have isNone : keyedValue sha256 salt value = none ↔ ¬IsDigest value := keyedValue_eq_none
  rw [rekeyedValue, ← isNone]
  cases keyedValue sha256 salt value <;> simp

theorem rekeyedValue_eq_stableKey (digestLength : ∀ message, (sha256 message).length = 32)
    (collisionFree : CollisionFree sha256 salt) {value : SqlValue} (input : RawInput) :
    rekeyedValue sha256 salt value = .text (input.stableKey sha256 salt) ↔
      value = .text (input.unsaltedKey sha256) := by
  have length : (input.digest sha256).length = 32 := by
    cases input <;> exact digestLength _
  have isKeyed : keyedValue sha256 salt (.text (input.unsaltedKey sha256)) =
      some (input.stableKey sha256 salt) :=
    keyedValue_eq_some.mpr ⟨_, length, rfl, rfl⟩
  have written : rekeyedValue sha256 salt (.text (input.unsaltedKey sha256)) =
      .text (input.stableKey sha256 salt) := by
    rw [rekeyedValue, isKeyed]
  constructor
  · intro same
    refine (rekeyedValue_eq_iff collisionFree ?_ ?_).mp (same.trans written.symm)
    · rw [same]
      exact SqlValue.noConfusion
    · rw [written]
      exact SqlValue.noConfusion
  · rintro rfl
    exact written

/-- A rekeying that goes through is one of every cell. -/
theorem rekeyed_of_ok (digestLength : ∀ message, (sha256 message).length = 32)
    (collisionFree : CollisionFree sha256 salt) (reorders : Reorders scan)
    (salted : saltStableKeys sha256 scan salt createdAt store = .ok after) :
    Rekeyed sha256 salt store after := by
  have rows {table : String} (other : table ≠ "stable_key_salt") : after.rows table =
      (store.rows table).filterMap fun row =>
        rekeyedThrough sha256 salt table row keyedColumns := by
    rw [saltStableKeys_eq] at salted
    rw [rekeyColumns_rows reorders salted, mintSalt_rows salt createdAt store other]
  have leftOf {table : String} (other : table ≠ "stable_key_salt") {old new : SqlRow}
      (remains : Remains store after table old new) :=
    exists_leftOf reorders salted other remains
  constructor
  case noneNew =>
    intro table other
    rw [rows other]
    refine map_filterMap_sublist (fun old new kept => ?_) _
    exact (leftOf_rekeyedThrough listedOnce_keyedColumns kept).rowid
  case remains_iff =>
    intro table other old isOld
    have isSome : (∃ new, rekeyedThrough sha256 salt table old keyedColumns = some new) ↔
        Stays keyedColumns table old := rekeyedThrough_isSome listedOnce_keyedColumns
    rw [← isSome]
    constructor
    · rintro ⟨new, remains⟩
      have isThere := remains.isThere
      rw [rows other] at isThere
      obtain ⟨source, isSource, kept⟩ := mem_filterMap.mp isThere
      have sameRow := (leftOf_rekeyedThrough listedOnce_keyedColumns kept).rowid
      obtain rfl := eq_of_rowid (store.distinct table) isSource isOld
        (sameRow.symm.trans remains.sameRow)
      exact ⟨new, kept⟩
    · rintro ⟨new, kept⟩
      refine ⟨new, isOld, ?_, (leftOf_rekeyedThrough listedOnce_keyedColumns kept).rowid⟩
      rw [rows other]
      exact mem_filterMap.mpr ⟨old, isOld, kept⟩
  case finds =>
    intro column isColumn input old new remains
    have value := (leftOf (keyed_elsewhere isColumn) remains).keyed column isColumn rfl
    simp only [SqlStore.lookup, mem_filter, remains.isThere, remains.wasThere, true_and,
      decide_eq_true_eq, value]
    exact rekeyedValue_eq_stableKey digestLength collisionFree input
  case joins =>
    intro first isFirst second isSecond old new other otherNew remains remainsToo full fullToo
    have value := (leftOf (keyed_elsewhere isFirst) remains).keyed first isFirst rfl
    have valueToo := (leftOf (keyed_elsewhere isSecond) remainsToo).keyed second isSecond rfl
    rw [value] at full ⊢
    rw [valueToo] at fullToo ⊢
    exact rekeyedValue_eq_iff collisionFree full fullToo
  case empties_iff =>
    intro column isColumn old new remains
    rw [(leftOf (keyed_elsewhere isColumn) remains).keyed column isColumn rfl]
    exact rekeyedValue_eq_null
  case others =>
    intro table other old new remains name isOther
    exact (leftOf other remains).others name isOther

theorem noClash_mintSalt_iff (createdAt : Int) :
    NoClash sha256 salt keyedColumns (store.mintSalt salt createdAt).rows ↔
      NoClash sha256 salt keyedColumns store.rows := by
  have same {column : KeyedColumn} (isKeyed : column ∈ keyedColumns) :
      (store.mintSalt salt createdAt).rows column.table = store.rows column.table :=
    mintSalt_rows salt createdAt store (keyed_elsewhere isKeyed)
  constructor
  · intro noClash column isKeyed
    rw [← same isKeyed]
    exact noClash column isKeyed
  · intro noClash column isKeyed
    rw [same isKeyed]
    exact noClash column isKeyed

theorem succeeds_iff_noClash (digestLength : ∀ message, (sha256 message).length = 32)
    (collisionFree : CollisionFree sha256 salt) :
    (∀ scan, Reorders scan → ∃ after, saltStableKeys sha256 scan salt createdAt store = .ok after) ↔
      NoClash sha256 salt keyedColumns store.rows := by
  rw [← noClash_mintSalt_iff createdAt]
  constructor
  · intro succeeds column isKeyed isUnique first isFirst second isSecond firstStays secondStays
      differs keyed salted clashes
    obtain ⟨after, isAfter⟩ :=
      succeeds (leading column first.rowid) (leading_reorders column first.rowid)
    rw [saltStableKeys_eq] at isAfter
    exact rekeyColumns_refused column first second listedOnce_keyedColumns isKeyed isUnique isFirst
      isSecond firstStays secondStays differs salted clashes isAfter
  · intro noClash scan reorders
    rw [saltStableKeys_eq]
    exact rekeyColumns_succeed digestLength collisionFree reorders listedOnce_keyedColumns
      identityFirst_keyedColumns noClash

/-- Salting the stored digests keeps every rule matching.  It goes through, whatever the order of
the rows, exactly where no row that stays holds the salted key of another's digest in a unique
column. -/
theorem stored_keys_keep_matching (sha256 : List UInt8 → List UInt8)
    (digestLength : ∀ message, (sha256 message).length = 32) (salt : StableKeySalt)
    (collisionFree : CollisionFree sha256 salt) (createdAt : Int) (store : SqlStore) :
    ((∀ scan, Reorders scan →
        ∃ after, saltStableKeys sha256 scan salt createdAt store = .ok after) ↔
      NoClash sha256 salt keyedColumns store.rows) ∧
    ∀ scan, Reorders scan →
      (∀ between, PassesThrough sha256 scan salt createdAt store between →
        UniquenessHolds between.rows) ∧
      ∀ after, saltStableKeys sha256 scan salt createdAt store = .ok after →
        Rekeyed sha256 salt store after :=
  ⟨succeeds_iff_noClash digestLength collisionFree, fun _ reorders =>
    ⟨fun between _ => between.unique, fun _ salted =>
      rekeyed_of_ok digestLength collisionFree reorders salted⟩⟩

end Migration

def turned (message : List UInt8) : List UInt8 :=
  ((List.replicate 32 0 ++ message).rtake 32).map (· + 1)

theorem turned_length (message : List UInt8) : (turned message).length = 32 := by
  rw [turned, length_map, List.rtake, length_drop, length_append, length_replicate]
  omega

theorem turned_append (front : List UInt8) {digest : List UInt8} (length : digest.length = 32) :
    turned (front ++ digest) = digest.map (· + 1) := by
  rw [turned, ← append_assoc, List.rtake, length_append, length, Nat.add_sub_cancel, drop_left]

def sevens : StableKeySalt where
  bytes := List.replicate 32 7
  length_eq := length_replicate

theorem hmacSha256_turned {digest : List UInt8} (length : digest.length = 32) :
    hmacSha256 turned sevens.bytes (saltedKeyDomain ++ digest) = digest.map (· + 2) := by
  simp only [hmacSha256]
  rw [← append_assoc, turned_append _ length, turned_append _ (by rw [length_map, length]), map_map]
  refine map_congr_left fun byte _ => ?_
  exact UInt8.add_assoc byte 1 1

theorem collisionFree_turned : CollisionFree turned sevens := by
  intro first second length otherLength same
  rw [hmacSha256_turned length, hmacSha256_turned otherLength] at same
  refine map_injective_iff.mpr (fun byte other same => ?_) same
  have back := congrArg (fun value => value - 2) same
  simpa using back

def windowRow (rowid : Int) (digest : List UInt8) : SqlRow where
  rowid := rowid
  cell := fun column => if column = "key_hash" then .text (encodeHex digest) else .null

/-- What SHA-256 makes of the digest of zeros under the salt. -/
def saltedZeros : List UInt8 :=
  hmacSha256 Sha256.sha256 sevens.bytes (saltedKeyDomain ++ List.replicate 32 0)

def clashing : SqlStore where
  rows := fun table =>
    if table = "abstraction_map" then
      [windowRow 1 (List.replicate 32 0), windowRow 2 saltedZeros]
    else []
  distinct := by
    intro table
    split <;> decide
  unique := by decide +kernel

def noDigest : String := String.ofList (List.replicate 64 'Z')

def eventRow : SqlRow where
  rowid := 1
  cell := fun column => if column = "app_stable_id" then .text noDigest else .null

def ruleRow : SqlRow where
  rowid := 1
  cell := fun column =>
    if column = "app_key_hash" then .text noDigest
    else if column = "key_hash" then .text (encodeHex (List.replicate 32 0))
    else .null

/-- An event and a rule with one application key, which is no digest. -/
def unkeyed : SqlStore where
  rows := fun table =>
    if table = "raw_event_buffer" then [eventRow]
    else if table = "personal_override" then [ruleRow]
    else []
  distinct := by
    intro table
    split
    · decide
    · split <;> decide
  unique := by decide +kernel

theorem noClash_unkeyed : NoClash turned sevens keyedColumns unkeyed.rows := by
  intro column isKeyed isUnique first isFirst second isSecond _ _ differs
  have alone : ∀ column ∈ keyedColumns, (unkeyed.rows column.table).length ≤ 1 := by
    decide
  have one : first = second := by
    have short := alone column isKeyed
    cases rows : unkeyed.rows column.table with
    | nil =>
      rw [rows] at isFirst
      cases isFirst
    | cons row others =>
      rw [rows, length_cons] at short
      obtain rfl := length_eq_zero_iff.mp (by omega : others.length = 0)
      rw [rows, mem_singleton] at isFirst isSecond
      rw [isFirst, isSecond]
  exact absurd (congrArg SqlRow.rowid one) differs

/-- One digest can be the salted key of another, and then the migration is refused; and a value
that is no digest is gone from both sides of a join. -/
theorem clash_is_refused_and_join_is_lost :
    (∀ message, (turned message).length = 32) ∧ CollisionFree turned sevens ∧
    (∀ after, saltStableKeys Sha256.sha256 (leading ⟨"abstraction_map", "key_hash", false⟩ 1)
      sevens 0 clashing ≠ .ok after) ∧
    ∃ after, saltStableKeys turned (fun _ cells => cells) sevens 0 unkeyed = .ok after ∧
      ∃ event newEvent rule newRule,
        Remains unkeyed after "raw_event_buffer" event newEvent ∧
        Remains unkeyed after "personal_override" rule newRule ∧
        event.cell "app_stable_id" = rule.cell "app_key_hash" ∧
        event.cell "app_stable_id" ≠ .null ∧
        newEvent.cell "app_stable_id" = .null ∧ newRule.cell "app_key_hash" = .null := by
  refine ⟨turned_length, collisionFree_turned, fun after salted => ?_, ?_⟩
  · have keys (rowid : Int) (digest : List UInt8) : (windowRow rowid digest).cell "key_hash" =
        .text (encodeHex digest) := rfl
    have stays (rowid : Int) {digest : List UInt8} (length : digest.length = 32) :
        Stays keyedColumns "abstraction_map" (windowRow rowid digest) := by
      intro column isKeyed inTable _
      have one : column.column = "key_hash" := by
        revert column
        decide
      rw [one, keys]
      exact .inr (isDigest_iff.mpr ⟨_, length, rfl⟩)
    have isKeyed : keyedValue Sha256.sha256 sevens
        ((windowRow 1 (List.replicate 32 0)).cell "key_hash") = some (encodeHex saltedZeros) :=
      keyedValue_eq_some.mpr ⟨_, length_replicate, keys 1 _, rfl⟩
    have length : saltedZeros.length = 32 := by
      rw [saltedZeros, hmacSha256]
      exact Sha256.sha256_length _
    have zeros : windowRow 1 (List.replicate 32 0) ∈
        (clashing.mintSalt sevens 0).rows "abstraction_map" := mem_cons_self
    have salts : windowRow 2 saltedZeros ∈ (clashing.mintSalt sevens 0).rows "abstraction_map" :=
      mem_cons_of_mem _ mem_cons_self
    rw [saltStableKeys_eq] at salted
    exact rekeyColumns_refused ⟨"abstraction_map", "key_hash", false⟩ _ _ listedOnce_keyedColumns
      (by decide) (by decide) zeros salts (stays 1 length_replicate) (stays 2 length)
      (show (1 : Int) ≠ 2 by decide) isKeyed (keys 2 saltedZeros) salted
  · obtain ⟨after, salted⟩ := (succeeds_iff_noClash turned_length collisionFree_turned).mpr
      noClash_unkeyed (fun _ cells => cells) fun _ _ => .refl _
    have rekeyed := rekeyed_of_ok turned_length collisionFree_turned (fun _ _ => .refl _) salted
    have noKey : ¬IsDigest (.text noDigest) := by
      have isNone : keyedValue turned sevens (.text noDigest) = none := by decide +kernel
      exact keyedValue_eq_none.mp isNone
    have eventStays : Stays keyedColumns "raw_event_buffer" eventRow := by
      intro column isKeyed inTable required
      have optional : column.optional = true := by
        clear required
        revert column
        decide
      rw [optional] at required
      cases required
    have ruleStays : Stays keyedColumns "personal_override" ruleRow := by
      intro column isKeyed inTable required
      have one : column.column = "key_hash" := by
        revert column
        decide
      have key : ruleRow.cell "key_hash" = .text (encodeHex (List.replicate 32 0)) := rfl
      rw [one, key]
      exact .inr (isDigest_iff.mpr ⟨_, length_replicate, rfl⟩)
    obtain ⟨newEvent, event⟩ := (rekeyed.remains_iff "raw_event_buffer" (by decide) eventRow
      mem_cons_self).mpr eventStays
    obtain ⟨newRule, rule⟩ := (rekeyed.remains_iff "personal_override" (by decide) ruleRow
      mem_cons_self).mpr ruleStays
    refine ⟨after, salted, eventRow, newEvent, ruleRow, newRule, event, rule, rfl,
      SqlValue.noConfusion, ?_, ?_⟩
    · exact (rekeyed.empties_iff ⟨"raw_event_buffer", "app_stable_id", true⟩ (by decide) eventRow
        newEvent event).mpr noKey
    · exact (rekeyed.empties_iff ⟨"personal_override", "app_key_hash", true⟩ (by decide) ruleRow
        newRule rule).mpr noKey

/-- An event and a rule whose common key is no digest. -/
theorem unkeyed_keeps_matching :
    ((∀ scan, Reorders scan →
        ∃ after, saltStableKeys turned scan sevens 0 unkeyed = .ok after) ↔
      NoClash turned sevens keyedColumns unkeyed.rows) ∧
    ∀ scan, Reorders scan →
      (∀ between, PassesThrough turned scan sevens 0 unkeyed between →
        UniquenessHolds between.rows) ∧
      ∀ after, saltStableKeys turned scan sevens 0 unkeyed = .ok after →
        Rekeyed turned sevens unkeyed after :=
  stored_keys_keep_matching turned turned_length sevens collisionFree_turned 0 unkeyed

end Velvt.Rekeying
