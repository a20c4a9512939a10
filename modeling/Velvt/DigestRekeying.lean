import Velvt.StoredDigests

/-!
# Salting the stored digests keeps every rule matching

A pass over a column puts each digest under the salt and drops every other value.
-/

namespace Velvt.Rekeying

open List Option

open Velvt.Rules (utf8Bytes utf8Bytes_injective encodeHex encodeHex_length digitChar_lowerHex
  saltedKey saltedKeyDomain hmacSha256)

section Digests

def hexByte (value : Nat) : UInt8 := UInt8.ofNat (if value < 10 then value + 48 else value + 87)

def hexBytes (bytes : List UInt8) : List UInt8 :=
  bytes.flatMap fun byte => [hexByte (byte.toNat / 16), hexByte (byte.toNat % 16)]

theorem utf8EncodeChar_digitChar {value : Nat} (small : value < 16) :
    String.utf8EncodeChar (Nat.digitChar value) = [hexByte value] := by
  decide +revert

theorem nibble_hexByte {value : Nat} (small : value < 16) :
    nibble (hexByte value) = some (UInt8.ofNat value) := by
  decide +revert

theorem eq_hexByte_of_nibble {character value : UInt8} (read : nibble character = some value) :
    value.toNat < 16 ∧ character = hexByte value.toNat := by
  have every : ∀ code : Fin 256, (nibble (UInt8.ofNat code)).all (fun value =>
      decide (value.toNat < 16) && UInt8.ofNat code == hexByte value.toNat) = true := by
    decide +kernel
  have one := every ⟨character.toNat, character.toNat_lt⟩
  simpa [read] using one

theorem halves_join (byte : UInt8) :
    UInt8.ofNat (byte.toNat / 16) <<< 4 ||| UInt8.ofNat (byte.toNat % 16) = byte := by
  have every : ∀ code : Fin 256,
      UInt8.ofNat (code.val / 16) <<< 4 ||| UInt8.ofNat (code.val % 16) = UInt8.ofNat code := by
    decide +kernel
  simpa using every ⟨byte.toNat, byte.toNat_lt⟩

theorem toNat_join {high low : UInt8} (highSmall : high.toNat < 16) (lowSmall : low.toNat < 16) :
    (high <<< 4 ||| low).toNat = 16 * high.toNat + low.toNat := by
  have every : ∀ high low : Fin 16,
      (UInt8.ofNat high.val <<< 4 ||| UInt8.ofNat low.val).toNat = 16 * high.val + low.val := by
    decide +kernel
  simpa using every ⟨high.toNat, highSmall⟩ ⟨low.toNat, lowSmall⟩

theorem utf8Bytes_encodeHex (bytes : List UInt8) : utf8Bytes (encodeHex bytes) = hexBytes bytes := by
  rw [utf8Bytes, encodeHex, String.toList_ofList, hexBytes, flatMap_assoc]
  refine flatMap_congr fun byte _ => ?_
  have small := byte.toNat_lt
  rw [flatMap_cons, flatMap_cons, flatMap_nil, utf8EncodeChar_digitChar (by omega),
    utf8EncodeChar_digitChar (by omega)]
  rfl

theorem hexBytes_length (bytes : List UInt8) : (hexBytes bytes).length = 2 * bytes.length := by
  induction bytes with
  | nil => rfl
  | cons byte bytes ih =>
    rw [hexBytes, flatMap_cons, length_append, ← hexBytes, ih]
    simp only [length_cons, length_nil]
    omega

theorem decodePairs_hexBytes (bytes : List UInt8) : decodePairs (hexBytes bytes) = some bytes := by
  induction bytes with
  | nil => rfl
  | cons byte bytes ih =>
    have small := byte.toNat_lt
    change decodePairs (hexByte (byte.toNat / 16) :: hexByte (byte.toNat % 16) :: hexBytes bytes) = _
    rw [decodePairs, nibble_hexByte (by omega), nibble_hexByte (by omega), ih]
    simp [halves_join]

theorem hexBytes_of_decodePairs {encoded bytes : List UInt8}
    (read : decodePairs encoded = some bytes) (even : encoded.length % 2 = 0) :
    encoded = hexBytes bytes := by
  induction encoded using decodePairs.induct generalizing bytes with
  | case1 high low rest ih =>
    simp only [decodePairs, bind_eq_bind, bind_eq_some_iff] at read
    obtain ⟨first, isFirst, second, isSecond, others, areOthers, joined⟩ := read
    cases joined
    obtain ⟨firstSmall, rfl⟩ := eq_hexByte_of_nibble isFirst
    obtain ⟨secondSmall, rfl⟩ := eq_hexByte_of_nibble isSecond
    have others : rest = hexBytes others := ih areOthers (by
      simp only [length_cons] at even
      omega)
    rw [others, hexBytes, hexBytes, flatMap_cons, toNat_join firstSmall secondSmall]
    have front : (16 * first.toNat + second.toNat) / 16 = first.toNat := by omega
    have back : (16 * first.toNat + second.toNat) % 16 = second.toNat := by omega
    rw [front, back]
    rfl
  | case2 encoded short =>
    rcases encoded with _ | ⟨high, _ | ⟨low, rest⟩⟩
    · cases read
      rfl
    · cases even
    · exact absurd rfl (short high low rest)

theorem decodeDigest_eq_some {encoded : String} {digest : List UInt8} :
    decodeDigest encoded = some digest ↔ encoded = encodeHex digest ∧ digest.length = 32 := by
  rw [decodeDigest]
  constructor
  · intro read
    split at read
    · cases read
    · rename_i long
      have length : (utf8Bytes encoded).length = 64 := not_not.mp long
      have written := hexBytes_of_decodePairs read (by rw [length])
      refine ⟨utf8Bytes_injective (by rw [written, utf8Bytes_encodeHex]), ?_⟩
      rw [written, hexBytes_length] at length
      omega
  · rintro ⟨rfl, length⟩
    rw [utf8Bytes_encodeHex, hexBytes_length, length, if_neg (by simp), decodePairs_hexBytes]

theorem encodeHex_injective : Function.Injective encodeHex := by
  intro first second same
  have bytes : hexBytes first = hexBytes second := by
    rw [← utf8Bytes_encodeHex, ← utf8Bytes_encodeHex, same]
  have read := decodePairs_hexBytes second
  rw [← bytes, decodePairs_hexBytes] at read
  exact Option.some.inj read

/-- A letter of a digest. -/
def IsHexLetter (letter : Char) : Prop :=
  letter.isDigit = true ∨ 'a' ≤ letter ∧ letter ≤ 'f'

/-- A text of 64 lowercase hexadecimal letters. -/
def IsDigest (value : SqlValue) : Prop :=
  ∃ text : String, value = .text text ∧ text.length = 64 ∧ ∀ letter ∈ text.toList, IsHexLetter letter

theorem exists_digitChar {letter : Char} (hex : IsHexLetter letter) :
    ∃ value, value < 16 ∧ Nat.digitChar value = letter := by
  have small : letter.toNat < 128 := by
    rcases hex with digit | ⟨-, last⟩
    · simp only [Char.isDigit, Bool.and_eq_true, decide_eq_true_eq] at digit
      have last : letter.toNat ≤ 57 := digit.2
      omega
    · have last : letter.toNat ≤ 102 := last
      omega
  have every : ∀ code : Fin 128, IsHexLetter (Char.ofNat code) →
      ∃ value, value < 16 ∧ Nat.digitChar value = Char.ofNat code := by
    unfold IsHexLetter
    decide +kernel
  simpa using every ⟨letter.toNat, small⟩ (by simpa using hex)

theorem exists_encodeHex {count : Nat} {letters : List Char} (length : letters.length = 2 * count)
    (hex : ∀ letter ∈ letters, IsHexLetter letter) :
    ∃ bytes : List UInt8, bytes.length = count ∧ encodeHex bytes = String.ofList letters := by
  induction count generalizing letters with
  | zero => exact ⟨[], rfl, by rw [length_eq_zero_iff.mp length]; rfl⟩
  | succ count ih =>
    rcases letters with _ | ⟨high, _ | ⟨low, rest⟩⟩
    · simp at length
    · simp only [length_cons, length_nil] at length
      omega
    · obtain ⟨bytes, isLength, written⟩ := @ih rest (by
          simp only [length_cons] at length
          omega) fun letter member =>
        hex letter (mem_cons_of_mem _ (mem_cons_of_mem _ member))
      obtain ⟨first, firstSmall, rfl⟩ := exists_digitChar (hex high (by simp))
      obtain ⟨second, secondSmall, rfl⟩ := exists_digitChar (hex low (by simp))
      refine ⟨UInt8.ofNat (16 * first + second) :: bytes, by simp [isLength], ?_⟩
      have byte : (UInt8.ofNat (16 * first + second)).toNat = 16 * first + second := by
        rw [UInt8.toNat_ofNat']
        omega
      rw [encodeHex, flatMap_cons, byte] at *
      have front : (16 * first + second) / 16 = first := by omega
      have back : (16 * first + second) % 16 = second := by omega
      rw [front, back]
      exact congrArg (fun letters => String.ofList (Nat.digitChar first :: Nat.digitChar second :: letters))
        (String.ofList_injective written)

theorem isDigest_iff {value : SqlValue} :
    IsDigest value ↔ ∃ digest : List UInt8, digest.length = 32 ∧ value = .text (encodeHex digest) := by
  constructor
  · rintro ⟨text, rfl, length, hex⟩
    have letters : text.toList.length = 2 * 32 := by rw [String.length_toList, length]
    obtain ⟨digest, isLength, written⟩ := exists_encodeHex letters hex
    exact ⟨digest, isLength, by rw [written, String.ofList_toList]⟩
  · rintro ⟨digest, length, rfl⟩
    refine ⟨_, rfl, by rw [encodeHex_length, length], fun letter member => ?_⟩
    rw [encodeHex, String.toList_ofList] at member
    obtain ⟨byte, -, digit⟩ := mem_flatMap.mp member
    have small := byte.toNat_lt
    simp only [mem_cons, not_mem_nil, or_false] at digit
    rcases digit with rfl | rfl
    · exact digitChar_lowerHex (by omega)
    · exact digitChar_lowerHex (by omega)

variable {sha256 : List UInt8 → List UInt8} {salt : StableKeySalt}

theorem keyedValue_eq_some {value : SqlValue} {keyed : String} :
    keyedValue sha256 salt value = some keyed ↔
      ∃ digest : List UInt8, digest.length = 32 ∧ value = .text (encodeHex digest) ∧
        keyed = saltedKey sha256 salt.bytes digest := by
  cases value with
  | text stored =>
    simp only [keyedValue, rekeyStoredDigest, map_eq_some_iff, decodeDigest_eq_some]
    constructor
    · rintro ⟨digest, ⟨rfl, length⟩, rfl⟩
      exact ⟨digest, length, rfl, rfl⟩
    · rintro ⟨digest, length, same, rfl⟩
      cases same
      exact ⟨digest, ⟨rfl, length⟩, rfl⟩
  | _ => simp [keyedValue]

theorem keyedValue_eq_none {value : SqlValue} :
    keyedValue sha256 salt value = none ↔ ¬IsDigest value := by
  rw [isDigest_iff, eq_none_iff_forall_ne_some]
  constructor
  · rintro none ⟨digest, length, same⟩
    exact none _ (keyedValue_eq_some.mpr ⟨digest, length, same, rfl⟩)
  · intro other keyed isKeyed
    obtain ⟨digest, length, same, -⟩ := keyedValue_eq_some.mp isKeyed
    exact other ⟨digest, length, same⟩

/-- The HMAC under the salt is free of collisions on digests. -/
def CollisionFree (sha256 : List UInt8 → List UInt8) (salt : StableKeySalt) : Prop :=
  ∀ first second : List UInt8, first.length = 32 → second.length = 32 →
    hmacSha256 sha256 salt.bytes (saltedKeyDomain ++ first) =
      hmacSha256 sha256 salt.bytes (saltedKeyDomain ++ second) → first = second

theorem eq_of_keyedValue (collisionFree : CollisionFree sha256 salt) {first second : SqlValue}
    {keyed : String} (isFirst : keyedValue sha256 salt first = some keyed)
    (isSecond : keyedValue sha256 salt second = some keyed) : first = second := by
  obtain ⟨digest, length, rfl, rfl⟩ := keyedValue_eq_some.mp isFirst
  obtain ⟨other, otherLength, rfl, same⟩ := keyedValue_eq_some.mp isSecond
  rw [collisionFree digest other length otherLength (encodeHex_injective same)]

end Digests

section Passes

variable (sha256 : List UInt8 → List UInt8) (salt : StableKeySalt)

def rekeyedRow (column : KeyedColumn) (row : SqlRow) : Option SqlRow :=
  if row.cell column.column = .null then
    some row
  else
    match keyedValue sha256 salt (row.cell column.column) with
    | some keyed => some (row.set column.column (.text keyed))
    | none => if column.optional then some (row.set column.column .null) else none

/-- The rows of the column's table once the rows in `done` are through. -/
def passedRows (column : KeyedColumn) (done : List Int) (rows : List SqlRow) : List SqlRow :=
  rows.filterMap fun row => if row.rowid ∈ done then rekeyedRow sha256 salt column row else some row

variable {sha256 salt} {column : KeyedColumn} {row left : SqlRow}

variable {name : String}

theorem SqlRow.set_of_ne {value : SqlValue} (row : SqlRow) {other : String}
    (differs : other ≠ name) : (row.set name value).cell other = row.cell other :=
  Function.update_of_ne differs _ _

@[simp] theorem SqlRow.set_self {value : SqlValue} (row : SqlRow) :
    (row.set name value).cell name = value :=
  Function.update_self _ _ _

@[simp] theorem SqlRow.set_rowid {value : SqlValue} (row : SqlRow) :
    (row.set name value).rowid = row.rowid := rfl

theorem rekeyedRow_cases (kept : rekeyedRow sha256 salt column row = some left) :
    (left = row ∧ row.cell column.column = .null) ∨
      (∃ keyed, keyedValue sha256 salt (row.cell column.column) = some keyed ∧
        left = row.set column.column (.text keyed)) ∨
      ¬IsDigest (row.cell column.column) ∧ column.optional = true ∧
        left = row.set column.column .null := by
  rw [rekeyedRow] at kept
  split at kept
  · rename_i empty
    exact .inl ⟨(Option.some.inj kept).symm, empty⟩
  · split at kept
    · rename_i keyed isKeyed
      exact .inr (.inl ⟨keyed, isKeyed, (Option.some.inj kept).symm⟩)
    · rename_i isNone
      rw [ite_none_right_eq_some] at kept
      exact .inr (.inr ⟨keyedValue_eq_none.mp isNone, kept.1, (Option.some.inj kept.2).symm⟩)

theorem rekeyedRow_rowid (kept : rekeyedRow sha256 salt column row = some left) :
    left.rowid = row.rowid := by
  rcases rekeyedRow_cases kept with ⟨rfl, -⟩ | ⟨keyed, -, rfl⟩ | ⟨-, -, rfl⟩ <;> rfl

theorem rekeyedRow_frame (kept : rekeyedRow sha256 salt column row = some left) {other : String}
    (differs : other ≠ column.column) : left.cell other = row.cell other := by
  rcases rekeyedRow_cases kept with ⟨rfl, -⟩ | ⟨keyed, -, rfl⟩ | ⟨-, -, rfl⟩
  · rfl
  · exact row.set_of_ne differs
  · exact row.set_of_ne differs

variable {done : List Int} {rows : List SqlRow} {value : SqlValue}

theorem eq_of_rowid (distinct : (rows.map (·.rowid)).Nodup) {first second : SqlRow}
    (isFirst : first ∈ rows) (isSecond : second ∈ rows) (same : first.rowid = second.rowid) :
    first = second :=
  inj_on_of_nodup_map distinct isFirst isSecond same

theorem update_passedRows (distinct : (rows.map (·.rowid)).Nodup) (isRow : row ∈ rows)
    (fresh : row.rowid ∉ done)
    (result : rekeyedRow sha256 salt column row = some (row.set column.column value)) :
    TableRows.update (fun other => other.rowid == row.rowid)
        (fun other => other.set column.column value) (passedRows sha256 salt column done rows) =
      passedRows sha256 salt column (row.rowid :: done) rows := by
  rw [passedRows, passedRows, TableRows.update, map_filterMap]
  refine filterMap_congr fun other isOther => ?_
  by_cases same : other.rowid = row.rowid
  · obtain rfl := eq_of_rowid distinct isOther isRow same
    simp [fresh, result]
  · by_cases isDone : other.rowid ∈ done
    · cases outcome : rekeyedRow sha256 salt column other with
      | none => simp [isDone]
      | some left => simp [isDone, rekeyedRow_rowid outcome, same]
    · simp [isDone, same]

theorem filter_passedRows (distinct : (rows.map (·.rowid)).Nodup) (isRow : row ∈ rows)
    (fresh : row.rowid ∉ done) (result : rekeyedRow sha256 salt column row = none) :
    (passedRows sha256 salt column done rows).filter (fun other => other.rowid != row.rowid) =
      passedRows sha256 salt column (row.rowid :: done) rows := by
  rw [passedRows, passedRows, filter_filterMap]
  refine filterMap_congr fun other isOther => ?_
  by_cases same : other.rowid = row.rowid
  · obtain rfl := eq_of_rowid distinct isOther isRow same
    simp [fresh, result]
  · by_cases isDone : other.rowid ∈ done
    · cases outcome : rekeyedRow sha256 salt column other with
      | none => simp [isDone]
      | some left => simp [isDone, rekeyedRow_rowid outcome, same]
    · simp [isDone, same]

theorem passedRows_all (every : ∀ row ∈ rows, row.cell column.column ≠ .null → row.rowid ∈ done) :
    passedRows sha256 salt column done rows = rows.filterMap (rekeyedRow sha256 salt column) := by
  refine filterMap_congr fun row isRow => ?_
  split
  · rfl
  · rename_i notDone
    have empty : row.cell column.column = .null := by
      by_contra full
      exact notDone (every row isRow full)
    rw [rekeyedRow, if_pos empty]

end Passes

section Cells

variable {sha256 : List UInt8 → List UInt8} {salt : StableKeySalt} {column : KeyedColumn}
  {done : List Int} {original store after : SqlStore} {row : SqlRow}

theorem SqlStore.rows_apart (store : SqlStore) (table : String) :
    (store.rows table).Pairwise fun first second => first.rowid ≠ second.rowid :=
  pairwise_map.mp (store.distinct table)

/-- The store is the original one with the rows in `done` through the pass. -/
def Passed (sha256 : List UInt8 → List UInt8) (salt : StableKeySalt) (column : KeyedColumn)
    (original : SqlStore) (done : List Int) (store : SqlStore) : Prop :=
  store.rows = Function.update original.rows column.table
    (passedRows sha256 salt column done (original.rows column.table))

theorem updateCell_rows {table name : String} {rowid : Int} {value : SqlValue}
    (updated : store.updateCell table name rowid value = .ok after) :
    after.rows = Function.update store.rows table
      (TableRows.update (fun row => row.rowid == rowid) (fun row => row.set name value)
        (store.rows table)) := by
  rw [SqlStore.updateCell] at updated
  split at updated
  · cases updated
    rfl
  · cases updated

theorem Passed.updateCell (passed : Passed sha256 salt column original done store)
    (isRow : row ∈ original.rows column.table) (fresh : row.rowid ∉ done) {value : SqlValue}
    (result : rekeyedRow sha256 salt column row = some (row.set column.column value)) :
    Function.update store.rows column.table
        (TableRows.update (fun other => other.rowid == row.rowid)
          (fun other => other.set column.column value) (store.rows column.table)) =
      Function.update original.rows column.table
        (passedRows sha256 salt column (row.rowid :: done) (original.rows column.table)) := by
  rw [passed, Function.update_self, Function.update_idem,
    update_passedRows (original.distinct _) isRow fresh result]

theorem Passed.rekeyCell (passed : Passed sha256 salt column original done store)
    (isRow : row ∈ original.rows column.table) (fresh : row.rowid ∉ done)
    (full : row.cell column.column ≠ .null)
    (rekeyed : rekeyCell sha256 salt column store (row.rowid, row.cell column.column) = .ok after) :
    Passed sha256 salt column original (row.rowid :: done) after := by
  rw [Rekeying.rekeyCell] at rekeyed
  cases isKeyed : keyedValue sha256 salt (row.cell column.column) with
  | some keyed =>
    simp only [isKeyed] at rekeyed
    rw [Passed, updateCell_rows rekeyed]
    exact passed.updateCell isRow fresh (by simp [rekeyedRow, full, isKeyed])
  | none =>
    simp only [isKeyed] at rekeyed
    split at rekeyed
    · rename_i isOptional
      rw [Passed, updateCell_rows rekeyed]
      exact passed.updateCell isRow fresh (by simp [rekeyedRow, full, isKeyed, isOptional])
    · rename_i required
      cases rekeyed
      change Function.update store.rows column.table
        ((store.rows column.table).filter fun other => other.rowid != row.rowid) = _
      rw [passed, Function.update_self, Function.update_idem,
        filter_passedRows (original.distinct _) isRow fresh
          (by simp [rekeyedRow, full, isKeyed, required])]

/-- The cells are those of rows that are not through yet. -/
def CellsOf (column : KeyedColumn) (rows : List SqlRow) (done : List Int)
    (cells : List StoredCell) : Prop :=
  (cells.map (·.1)).Nodup ∧ ∀ cell ∈ cells, cell.1 ∉ done ∧
    ∃ row ∈ rows, row.cell column.column ≠ .null ∧ cell = (row.rowid, row.cell column.column)

variable {cells : List StoredCell}

theorem CellsOf.tail {rows : List SqlRow} {cell : StoredCell}
    (are : CellsOf column rows done (cell :: cells)) : CellsOf column rows (cell.1 :: done) cells := by
  obtain ⟨apart, each⟩ := are
  rw [map_cons, nodup_cons] at apart
  refine ⟨apart.2, fun other member => ?_⟩
  obtain ⟨fresh, isRow⟩ := each other (mem_cons_of_mem _ member)
  refine ⟨?_, isRow⟩
  simp only [mem_cons, not_or]
  exact ⟨fun same => apart.1 (same ▸ mem_map_of_mem member), fresh⟩

theorem cellsOf_storedCells (store : SqlStore) (reordered : cells.Perm (storedCells column store)) :
    CellsOf column (store.rows column.table) [] cells := by
  constructor
  · refine (reordered.map _).nodup_iff.mpr (pairwise_map.mpr (pairwise_filterMap.mpr ?_))
    refine (store.rows_apart column.table).imp fun {first second} apart cell isFirst other isOther => ?_
    rw [ite_none_left_eq_some] at isFirst isOther
    rw [← Option.some.inj isFirst.2, ← Option.some.inj isOther.2]
    exact apart
  · intro cell member
    refine ⟨not_mem_nil, ?_⟩
    obtain ⟨row, isRow, read⟩ := mem_filterMap.mp (reordered.mem_iff.mp member)
    rw [ite_none_left_eq_some] at read
    exact ⟨row, isRow, read.1, (Option.some.inj read.2).symm⟩

theorem rekeyCells_passed (passed : Passed sha256 salt column original done store)
    (are : CellsOf column (original.rows column.table) done cells)
    (rekeyed : rekeyCells sha256 salt column cells store = .ok after) :
    ∃ through, (∀ rowid, rowid ∈ through ↔ rowid ∈ done ∨ rowid ∈ cells.map (·.1)) ∧
      Passed sha256 salt column original through after := by
  induction cells generalizing done store with
  | nil =>
    cases rekeyed
    exact ⟨done, by simp, passed⟩
  | cons cell cells ih =>
    rw [rekeyCells, foldlM_cons] at rekeyed
    cases first : rekeyCell sha256 salt column store cell with
    | error error =>
      rw [first] at rekeyed
      cases rekeyed
    | ok next =>
      rw [first] at rekeyed
      obtain ⟨fresh, row, isRow, full, rfl⟩ := are.2 cell mem_cons_self
      obtain ⟨through, all, reached⟩ :=
        ih (passed.rekeyCell isRow fresh full first) are.tail rekeyed
      refine ⟨through, fun rowid => ?_, reached⟩
      rw [all]
      simp only [mem_cons, map_cons]
      tauto

theorem rekeyCells_rows (reordered : cells.Perm (storedCells column store))
    (rekeyed : rekeyCells sha256 salt column cells store = .ok after) :
    after.rows = Function.update store.rows column.table
      ((store.rows column.table).filterMap (rekeyedRow sha256 salt column)) := by
  have start : Passed sha256 salt column store [] store := by
    simp [Passed, passedRows]
  obtain ⟨through, all, reached⟩ :=
    rekeyCells_passed start (cellsOf_storedCells store reordered) rekeyed
  rw [reached, passedRows_all]
  intro row isRow full
  refine (all _).mpr (.inr (mem_map.mpr ⟨(row.rowid, row.cell column.column), ?_, rfl⟩))
  refine reordered.mem_iff.mpr (mem_filterMap.mpr ⟨row, isRow, ?_⟩)
  rw [if_neg full]

end Cells

section Uniqueness

variable {sha256 : List UInt8 → List UInt8} {salt : StableKeySalt} {column : KeyedColumn}
  {done : List Int} {original store : SqlStore} {row left : SqlRow}

theorem comparedValues_nodup_iff {name : String} {rows : List SqlRow} :
    (comparedValues name rows).Nodup ↔ rows.Pairwise fun first second =>
        first.cell name ≠ .null → first.cell name ≠ second.cell name := by
  rw [comparedValues, List.Nodup, pairwise_filter, pairwise_map]
  refine List.Pairwise.iff fun first second => ?_
  simp only [decide_eq_true_eq]
  constructor
  · intro apart full same
    exact apart full (same ▸ full) same
  · intro apart full _
    exact apart full

theorem SqlStore.eq_of_cell (store : SqlStore) {table name : String}
    (isUnique : (table, name) ∈ uniqueColumns) {first second : SqlRow}
    (isFirst : first ∈ store.rows table) (isSecond : second ∈ store.rows table)
    (full : first.cell name ≠ .null) (same : first.cell name = second.cell name) :
    first = second := by
  have pairs := comparedValues_nodup_iff.mp (store.unique _ isUnique)
  have agree := List.Pairwise.forall_of_forall_of_flip (l := store.rows table)
    (R := fun first second =>
      first.cell name ≠ .null → first.cell name = second.cell name → first = second)
    (fun _ _ _ _ => rfl) (pairs.imp fun apart full same => absurd same (apart full))
    (pairs.imp fun {first second} apart => by
      intro full same
      rw [same] at full
      exact absurd same.symm (apart full))
  exact agree isFirst isSecond full same

/-- No row holds the salted key of another row's digest. -/
def Apart (sha256 : List UInt8 → List UInt8) (salt : StableKeySalt) (name : String)
    (rows : List SqlRow) : Prop :=
  ∀ first ∈ rows, ∀ second ∈ rows, first.rowid ≠ second.rowid → ∀ keyed,
    keyedValue sha256 salt (first.cell name) = some keyed → second.cell name ≠ .text keyed

theorem passing_cell
    (passing : (if row.rowid ∈ done then rekeyedRow sha256 salt column row else some row) = some left)
    (full : left.cell column.column ≠ .null) :
    left.cell column.column = row.cell column.column ∨
      ∃ keyed, keyedValue sha256 salt (row.cell column.column) = some keyed ∧
        left.cell column.column = .text keyed := by
  split at passing
  · rcases rekeyedRow_cases passing with ⟨rfl, -⟩ | ⟨keyed, isKeyed, rfl⟩ | ⟨-, -, rfl⟩
    · exact .inl rfl
    · exact .inr ⟨keyed, isKeyed, row.set_self⟩
    · exact absurd row.set_self full
  · cases passing
    exact .inl rfl

theorem passing_frame
    (passing : (if row.rowid ∈ done then rekeyedRow sha256 salt column row else some row) = some left)
    {other : String} (differs : other ≠ column.column) : left.cell other = row.cell other := by
  split at passing
  · exact rekeyedRow_frame passing differs
  · cases passing
    rfl

theorem uniquenessHolds_passed (collisionFree : CollisionFree sha256 salt) (original : SqlStore)
    (apart : (column.table, column.column) ∈ uniqueColumns →
      Apart sha256 salt column.column (original.rows column.table)) (done : List Int) :
    UniquenessHolds (Function.update original.rows column.table
      (passedRows sha256 salt column done (original.rows column.table))) := by
  rintro ⟨table, name⟩ isUnique
  by_cases here : table = column.table
  swap
  · rw [Function.update_of_ne here]
    exact original.unique _ isUnique
  subst here
  rw [Function.update_self, comparedValues_nodup_iff, passedRows, pairwise_filterMap]
  refine (original.rows_apart column.table).imp_of_mem
    fun {first second} isFirst isSecond differs left fromFirst right fromSecond full same => ?_
  by_cases own : name = column.column
  · subst own
    have settled := apart isUnique
    have rightFull : right.cell column.column ≠ .null := same ▸ full
    rcases passing_cell fromFirst full with kept | ⟨keyed, isKeyed, rewritten⟩ <;>
      rcases passing_cell fromSecond rightFull with keptToo | ⟨other, isOther, rewrittenToo⟩
    · rw [kept] at full same
      rw [keptToo] at same
      exact differs (congrArg SqlRow.rowid
        (original.eq_of_cell isUnique isFirst isSecond full same))
    · refine settled second isSecond first isFirst differs.symm other isOther ?_
      rw [← kept, same, rewrittenToo]
    · refine settled first isFirst second isSecond differs keyed isKeyed ?_
      rw [← keptToo, ← same, rewritten]
    · rw [rewritten, rewrittenToo] at same
      cases same
      have stored := eq_of_keyedValue collisionFree isKeyed isOther
      have filled : first.cell column.column ≠ .null := by
        obtain ⟨digest, -, written, -⟩ := keyedValue_eq_some.mp isKeyed
        rw [written]
        exact SqlValue.noConfusion
      exact differs (congrArg SqlRow.rowid
        (original.eq_of_cell isUnique isFirst isSecond filled stored))
  · rw [passing_frame fromFirst own] at full same
    rw [passing_frame fromSecond own] at same
    exact differs (congrArg SqlRow.rowid (original.eq_of_cell isUnique isFirst isSecond full same))

theorem updateCell_succeeds {table name : String} {rowid : Int} {value : SqlValue}
    (unique : UniquenessHolds (Function.update store.rows table
      (TableRows.update (fun row => row.rowid == rowid) (fun row => row.set name value)
        (store.rows table)))) :
    ∃ after, store.updateCell table name rowid value = .ok after := by
  rw [SqlStore.updateCell]
  exact ⟨_, dif_pos unique⟩

theorem rekeyCells_succeed (collisionFree : CollisionFree sha256 salt)
    (apart : (column.table, column.column) ∈ uniqueColumns →
      Apart sha256 salt column.column (original.rows column.table)) {cells : List StoredCell}
    (passed : Passed sha256 salt column original done store)
    (are : CellsOf column (original.rows column.table) done cells) :
    ∃ after, rekeyCells sha256 salt column cells store = .ok after := by
  induction cells generalizing done store with
  | nil => exact ⟨store, rfl⟩
  | cons cell cells ih =>
    obtain ⟨fresh, row, isRow, full, rfl⟩ := are.2 cell mem_cons_self
    have update {value : SqlValue}
        (result : rekeyedRow sha256 salt column row = some (row.set column.column value)) :
        ∃ next, store.updateCell column.table column.column row.rowid value = .ok next := by
      refine updateCell_succeeds ?_
      rw [passed.updateCell isRow fresh result]
      exact uniquenessHolds_passed collisionFree original apart _
    have first : ∃ next,
        rekeyCell sha256 salt column store (row.rowid, row.cell column.column) = .ok next := by
      rw [rekeyCell]
      cases isKeyed : keyedValue sha256 salt (row.cell column.column) with
      | some keyed => exact update (by simp [rekeyedRow, full, isKeyed])
      | none =>
        cases isOptional : column.optional with
        | true => exact update (by simp [rekeyedRow, full, isKeyed, isOptional])
        | false => exact ⟨_, rfl⟩
    obtain ⟨next, isNext⟩ := first
    obtain ⟨after, isAfter⟩ := ih (passed.rekeyCell isRow fresh full isNext) are.tail
    exact ⟨after, by rw [rekeyCells, foldlM_cons, isNext]; exact isAfter⟩

end Uniqueness

section Columns

variable (sha256 : List UInt8 → List UInt8) (salt : StableKeySalt)

def rekeyedThrough (table : String) (row : SqlRow) : List KeyedColumn → Option SqlRow
  | [] => some row
  | column :: columns =>
    if column.table = table then
      (rekeyedRow sha256 salt column row).bind fun left => rekeyedThrough table left columns
    else
      rekeyedThrough table row columns

/-- The queries may return the rows in any order. -/
def Reorders (scan : ScanOrder) : Prop := ∀ column cells, (scan column cells).Perm cells

variable {sha256 salt} {scan : ScanOrder} {store after : SqlStore} {columns : List KeyedColumn}

theorem rekeyColumns_rows (reorders : Reorders scan)
    (rekeyed : rekeyColumns sha256 salt scan columns store = .ok after) (table : String) :
    after.rows table =
      (store.rows table).filterMap fun row => rekeyedThrough sha256 salt table row columns := by
  induction columns generalizing store with
  | nil =>
    cases rekeyed
    simp [rekeyedThrough]
  | cons column columns ih =>
    rw [rekeyColumns, foldlM_cons] at rekeyed
    cases first : rekeyCells sha256 salt column (scan column (storedCells column store)) store with
    | error error =>
      rw [first] at rekeyed
      cases rekeyed
    | ok next =>
      rw [first] at rekeyed
      rw [ih rekeyed, rekeyCells_rows (reorders column _) first]
      by_cases here : table = column.table
      · subst here
        rw [Function.update_self, filterMap_filterMap]
        refine filterMap_congr fun row _ => ?_
        rw [rekeyedThrough, if_pos rfl]
      · rw [Function.update_of_ne here]
        refine filterMap_congr fun row _ => ?_
        rw [rekeyedThrough, if_neg (Ne.symm here)]

def rekeyedValue (sha256 : List UInt8 → List UInt8) (salt : StableKeySalt) (value : SqlValue) :
    SqlValue :=
  match keyedValue sha256 salt value with
  | some keyed => .text keyed
  | none => .null

/-- No key that a row of the table lives by is anything but a digest. -/
def Stays (columns : List KeyedColumn) (table : String) (row : SqlRow) : Prop :=
  ∀ column ∈ columns, column.table = table → column.optional = false →
    row.cell column.column = .null ∨ IsDigest (row.cell column.column)

/-- The columns are listed once each. -/
def ListedOnce (columns : List KeyedColumn) : Prop :=
  columns.Pairwise fun first second => second.table = first.table → second.column ≠ first.column

variable {column : KeyedColumn}

variable {row left : SqlRow}

theorem rekeyedRow_cell (kept : rekeyedRow sha256 salt column row = some left) :
    left.cell column.column = rekeyedValue sha256 salt (row.cell column.column) := by
  rw [rekeyedValue]
  rcases rekeyedRow_cases kept with ⟨rfl, empty⟩ | ⟨keyed, isKeyed, rfl⟩ | ⟨other, -, rfl⟩
  · rw [empty]
    rfl
  · rw [isKeyed, SqlRow.set_self]
  · rw [keyedValue_eq_none.mpr other, SqlRow.set_self]

theorem rekeyedRow_isSome {row : SqlRow} : (∃ left, rekeyedRow sha256 salt column row = some left) ↔
      (column.optional = false →
        row.cell column.column = .null ∨ IsDigest (row.cell column.column)) := by
  rw [rekeyedRow]
  by_cases empty : row.cell column.column = .null
  · simp [empty]
  · rw [if_neg empty]
    cases isKeyed : keyedValue sha256 salt (row.cell column.column) with
    | some keyed =>
      have digest : IsDigest (row.cell column.column) := by
        by_contra other
        rw [keyedValue_eq_none.mpr other] at isKeyed
        cases isKeyed
      simp [digest]
    | none =>
      have other := keyedValue_eq_none.mp isKeyed
      cases column.optional <;> simp [empty, other]

/-- What is left of a row, value by value. -/
structure LeftOf (sha256 : List UInt8 → List UInt8) (salt : StableKeySalt)
    (columns : List KeyedColumn) (table : String) (row left : SqlRow) : Prop where
  rowid : left.rowid = row.rowid
  keyed : ∀ column ∈ columns, column.table = table →
    left.cell column.column = rekeyedValue sha256 salt (row.cell column.column)
  others : ∀ name, (∀ column ∈ columns, column.table = table → column.column ≠ name) →
    left.cell name = row.cell name

theorem leftOf_rekeyedThrough {table : String} (once : ListedOnce columns)
    (kept : rekeyedThrough sha256 salt table row columns = some left) :
    LeftOf sha256 salt columns table row left := by
  induction columns generalizing row with
  | nil =>
    cases kept
    exact ⟨rfl, fun _ member => absurd member not_mem_nil, fun _ _ => rfl⟩
  | cons column columns ih =>
    obtain ⟨apart, once⟩ := pairwise_cons.mp once
    rw [rekeyedThrough] at kept
    split at kept
    · rename_i here
      obtain ⟨between, first, later⟩ := bind_eq_some_iff.mp kept
      have left := ih once later
      refine ⟨left.rowid.trans (rekeyedRow_rowid first), fun other member isTable => ?_,
        fun name absent => ?_⟩
      · rcases mem_cons.mp member with rfl | isLater
        · rw [← rekeyedRow_cell first]
          exact left.others _ fun later isLater inTable =>
            apart later isLater (inTable.trans here.symm)
        · rw [left.keyed other isLater isTable,
            rekeyedRow_frame first (apart other isLater (isTable.trans here.symm))]
      · rw [left.others name fun later isLater => absent later (mem_cons_of_mem _ isLater),
          rekeyedRow_frame first (Ne.symm (absent column mem_cons_self here))]
    · rename_i elsewhere
      have left := ih once kept
      refine ⟨left.rowid, fun other member isTable => ?_, fun name absent =>
        left.others name fun later isLater => absent later (mem_cons_of_mem _ isLater)⟩
      rcases mem_cons.mp member with rfl | isLater
      · exact absurd isTable elsewhere
      · exact left.keyed other isLater isTable

theorem stays_cons {table : String}
    (once : ListedOnce (column :: columns)) (here : column.table = table)
    (kept : rekeyedRow sha256 salt column row = some left) :
    Stays columns table left ↔ Stays (column :: columns) table row := by
  obtain ⟨apart, -⟩ := pairwise_cons.mp once
  have same (other : KeyedColumn) (isLater : other ∈ columns) (inTable : other.table = table) :
      left.cell other.column = row.cell other.column :=
    rekeyedRow_frame kept (apart other isLater (inTable.trans here.symm))
  constructor
  · intro stays other member inTable required
    rcases mem_cons.mp member with rfl | isLater
    · exact rekeyedRow_isSome.mp ⟨left, kept⟩ required
    · exact same other isLater inTable ▸ stays other isLater inTable required
  · intro stays other isLater inTable required
    rw [same other isLater inTable]
    exact stays other (mem_cons_of_mem _ isLater) inTable required

theorem rekeyedThrough_isSome {table : String} {row : SqlRow} (once : ListedOnce columns) :
    (∃ left, rekeyedThrough sha256 salt table row columns = some left) ↔
      Stays columns table row := by
  induction columns generalizing row with
  | nil => simp [rekeyedThrough, Stays]
  | cons column columns ih =>
    rw [rekeyedThrough]
    split
    · rename_i here
      cases first : rekeyedRow sha256 salt column row with
      | none =>
        refine iff_of_false (by simp) fun stays => ?_
        obtain ⟨left, kept⟩ := rekeyedRow_isSome.mpr (stays column mem_cons_self here)
        rw [first] at kept
        cases kept
      | some left =>
        rw [bind_some, ih (pairwise_cons.mp once).2, stays_cons once here first]
    · rename_i elsewhere
      rw [ih (pairwise_cons.mp once).2]
      constructor
      · intro stays other member inTable
        rcases mem_cons.mp member with rfl | isLater
        · exact absurd inTable elsewhere
        · exact stays other isLater inTable
      · intro stays other isLater
        exact stays other (mem_cons_of_mem _ isLater)

end Columns

end Velvt.Rekeying
