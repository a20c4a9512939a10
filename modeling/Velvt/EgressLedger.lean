import Mathlib.Data.List.Sort
import Velvt.EgressChain
import Velvt.Instants
import Velvt.StepMachine

/-!
# The egress ledger

The two tables of the egress ledger with their constraints and triggers, and the
statements of `append` and `prune` over them.  Every statement of the source runs in one
transaction, so an error leaves the tables as they were.
-/

namespace Velvt

open StepMachine

/-- `i64::MAX`. -/
def i64Max : Int := 9223372036854775807

/-- An `i64` addition, which wraps around at the ends. -/
def i64Add (first second : Int) : Int := (first + second).bmod (2 ^ 64)

/-- `i64::try_from(count).unwrap_or(i64::MAX)`. -/
def i64TryFrom (count : Nat) : Int := min count i64Max

/-- One row of `egress_ledger_checkpoint`. -/
structure EgressCheckpointRow where
  throughSeq : Int
  throughHash : String
  createdAt : Int

/-- Why a statement on the ledger fails: a trigger refuses it, a constraint does, or a
row it reads is missing. -/
inductive EgressLedgerError
  /-- "egress_ledger: an entry must extend the chain head" -/
  | mustExtendHead
  /-- "egress_ledger: only entries behind a checkpoint may be pruned" -/
  | onlyBehindCheckpoint
  /-- "egress_ledger_checkpoint must name a live entry past the last checkpoint" -/
  | mustNameLiveEntry
  /-- "egress_ledger_checkpoint: the newest checkpoint is the chain anchor" -/
  | newestIsAnchor
  | constraint
  | notFound

/-- The `CHECK` constraints of `egress_ledger`. -/
def EgressLedgerEntry.Admissible (entry : EgressLedgerEntry) : Prop :=
  1 ≤ entry.seq ∧
    entry.method ∈ ["GET", "POST", "PATCH", "DELETE"] ∧
    (0 < entry.endpoint.length ∧ '|' ∉ entry.endpoint.toList ∧
      '\n' ∉ entry.endpoint.toList ∧ '\r' ∉ entry.endpoint.toList) ∧
    0 ≤ entry.bodyBytes ∧ entry.bodySha256.length = 64 ∧
    entry.prevHash.length = 64 ∧ entry.entryHash.length = 64
  deriving Decidable

/-- The two tables, each in the order of its primary key. -/
structure EgressLedger where
  entries : List EgressLedgerEntry
  checkpoints : List EgressCheckpointRow

namespace EgressLedger

def empty : EgressLedger where
  entries := []
  checkpoints := []

variable (ledger : EgressLedger)

/-- `SELECT MIN(seq)`. -/
def firstSeq : Option Int := (ledger.entries.map (·.seq)).min?

/-- `SELECT MAX(seq)`. -/
def lastSeq : Option Int := (ledger.entries.map (·.seq)).max?

/-- `SELECT MAX(through_seq)`. -/
def maxThroughSeq : Option Int := (ledger.checkpoints.map (·.throughSeq)).max?

/-- `ORDER BY through_seq DESC LIMIT 1`. -/
def newestCheckpoint : Option EgressCheckpoint :=
  ledger.checkpoints.getLast?.map fun row =>
    { throughSeq := row.throughSeq, throughHash := row.throughHash }

/-- The seq and hash a new entry links to: the newest entry, else the newest checkpoint,
else the genesis. -/
def head : Int × String :=
  match ledger.entries.getLast? with
  | some newest => (newest.seq, newest.entryHash)
  | none =>
    match ledger.newestCheckpoint with
    | some checkpoint => (checkpoint.throughSeq, checkpoint.throughHash)
    | none => (0, genesisHash)

/-- The `WHEN` clause of `trg_egress_ledger_insert_extends_head` does not hold. -/
def ExtendsHead (entry : EgressLedgerEntry) : Prop :=
  entry.seq = 1 + (ledger.lastSeq.or ledger.maxThroughSeq).getD 0 ∧
    entry.prevHash = ((ledger.entries.getLast?.map (·.entryHash)).or
      (ledger.checkpoints.getLast?.map (·.throughHash))).getD genesisHash
  deriving Decidable

/-- `INSERT INTO egress_ledger`.  The trigger admits an entry after all others only. -/
def insertEntry (entry : EgressLedgerEntry) : Except EgressLedgerError EgressLedger :=
  if ¬ ledger.ExtendsHead entry then
    .error .mustExtendHead
  else if ¬ entry.Admissible ∨ entry.entryHash ∈ ledger.entries.map (·.entryHash) then
    .error .constraint
  else
    .ok { ledger with entries := ledger.entries ++ [entry] }

/-- The `WHEN` clause of `trg_egress_ledger_checkpoint_names_live_entry` does not hold. -/
def NamesLiveEntry (row : EgressCheckpointRow) : Prop :=
  (∃ entry ∈ ledger.entries, entry.seq = row.throughSeq ∧ entry.entryHash = row.throughHash) ∧
    ledger.maxThroughSeq.getD 0 < row.throughSeq
  deriving Decidable

/-- `INSERT INTO egress_ledger_checkpoint`. -/
def insertCheckpoint (row : EgressCheckpointRow) : Except EgressLedgerError EgressLedger :=
  if ¬ ledger.NamesLiveEntry row then
    .error .mustNameLiveEntry
  else if ¬ (1 ≤ row.throughSeq ∧ row.throughHash.length = 64) then
    .error .constraint
  else
    .ok { ledger with checkpoints := ledger.checkpoints ++ [row] }

/-- `DELETE FROM egress_ledger WHERE seq <= ?`, with the number of rows deleted. -/
def deleteEntries (through : Int) : Except EgressLedgerError (Nat × EgressLedger) :=
  let behind := ledger.entries.filter fun entry => decide (entry.seq ≤ through)
  if behind.any fun entry => decide (ledger.maxThroughSeq.getD 0 < entry.seq) then
    .error .onlyBehindCheckpoint
  else
    .ok (behind.length,
      { ledger with
        entries := ledger.entries.filter fun entry => !decide (entry.seq ≤ through) })

/-- `DELETE FROM egress_ledger_checkpoint WHERE through_seq < ?`. -/
def deleteCheckpoints (through : Int) : Except EgressLedgerError EgressLedger :=
  let older := ledger.checkpoints.filter fun row => decide (row.throughSeq < through)
  if older.any fun row => ledger.maxThroughSeq.any fun newest =>
      decide (newest ≤ row.throughSeq) then
    .error .newestIsAnchor
  else
    .ok { ledger with
      checkpoints := ledger.checkpoints.filter fun row => !decide (row.throughSeq < through) }

/-- Appends a record at the head of the chain and answers with the stored entry. -/
def append (sha256Hex : String → String) (record : EgressRecord) (recordedAt : Int) :
    Except EgressLedgerError (EgressLedgerEntry × EgressLedger) := do
  let (headSeq, headHash) := ledger.head
  let entry : EgressLedgerEntry :=
    { seq := i64Add headSeq 1
      recordedAt := timestamp recordedAt
      method := record.method
      endpoint := record.endpoint
      bodyBytes := i64TryFrom record.bodyBytes
      bodySha256 := record.bodySha256
      bodyRedacted := record.bodyRedacted
      bearer := record.bearer
      prevHash := headHash
      entryHash := "" }
  let entry := { entry with entryHash := entry.computedHash sha256Hex }
  let stored ← ledger.insertEntry entry
  return (entry, stored)

/-- `SELECT COALESCE(MAX(seq), 0) … WHERE recorded_at < ?`. -/
def throughByAge (cutoff : Int) : Int :=
  ((ledger.entries.filter fun entry => decide (entry.recordedAt < timestamp cutoff)).map
    (·.seq)).max?.getD 0

/-- Removes up to `batchSize` of the oldest entries, recording a checkpoint for the last
one first.  Answers how many were removed. -/
def prune (cutoff : Int) (maxEntries batchSize : Nat) (now : Int) :
    Except EgressLedgerError (Nat × EgressLedger) :=
  match ledger.firstSeq, ledger.lastSeq with
  | some first, some last =>
    let throughByCount := i64Add last (-i64TryFrom maxEntries)
    let batchLimit := i64Add (i64Add first (-1)) (i64TryFrom batchSize)
    let through := min (max (ledger.throughByAge cutoff) throughByCount) batchLimit
    if through < first then
      .ok (0, ledger)
    else
      match ledger.entries.find? fun entry => entry.seq == through with
      | none => .error .notFound
      | some entry => do
          let checkpointed ← ledger.insertCheckpoint
            { throughSeq := through
              throughHash := entry.entryHash
              createdAt := timestamp now }
          let (deleted, pruned) ← checkpointed.deleteEntries through
          let anchored ← pruned.deleteCheckpoints through
          return (deleted, anchored)
  | _, _ => .ok (0, ledger)

end EgressLedger

inductive EgressOperation
  | append (record : EgressRecord) (recordedAt : Int)
  | prune (cutoff : Int) (maxEntries batchSize : Nat) (now : Int)

inductive EgressAnswer
  | appended (entry : EgressLedgerEntry)
  | pruned (count : Nat)
  | refused (error : EgressLedgerError)

/-- The ledger as a step machine.  A refused operation is rolled back. -/
def egressMachine (sha256Hex : String → String) :
    Machine EgressLedger EgressOperation EgressAnswer where
  step ledger
    | .append record recordedAt =>
      match ledger.append sha256Hex record recordedAt with
      | .ok (entry, stored) => (.appended entry, stored)
      | .error error => (.refused error, ledger)
    | .prune cutoff maxEntries batchSize now =>
      match ledger.prune cutoff maxEntries batchSize now with
      | .ok (count, pruned) => (.pruned count, pruned)
      | .error error => (.refused error, ledger)

end Velvt
