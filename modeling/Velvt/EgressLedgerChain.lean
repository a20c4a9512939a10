import Velvt.EgressLedger

/-!
# The chain of the egress ledger

Every ledger that appends and prunes reach is one chain behind its newest checkpoint:
its numbers are contiguous, pruning takes a prefix of it and leaves its head where it
was, and no trigger ever refuses a prune.
-/

namespace Velvt

open StepMachine List

section Numbering

variable {first : Int} {entries : List EgressLedgerEntry}

theorem Numbered.bounds (numbered : Numbered first entries) {entry : EgressLedgerEntry}
    (member : entry ∈ entries) : first ≤ entry.seq ∧ entry.seq < first + entries.length := by
  induction entries generalizing first with
  | nil => cases member
  | cons oldest entries ih =>
    rw [length_cons, Nat.cast_add, Nat.cast_one]
    rcases mem_cons.mp member with rfl | later
    · have isFirst := numbered.1
      omega
    · have bounds := ih numbered.2 later
      omega

theorem Numbered.filter_le (numbered : Numbered first entries) (through : Int) :
    entries.filter (fun entry => decide (entry.seq ≤ through)) =
        entries.take (through + 1 - first).toNat ∧
      entries.filter (fun entry => !decide (entry.seq ≤ through)) =
        entries.drop (through + 1 - first).toNat := by
  induction entries generalizing first with
  | nil => simp
  | cons entry entries ih =>
    obtain ⟨older, newer⟩ := ih numbered.2
    by_cases behind : first ≤ through
    · have next : (through + 1 - first).toNat = (through + 1 - (first + 1)).toNat + 1 := by
        omega
      rw [next, take_succ_cons, drop_succ_cons, ← older, ← newer]
      constructor
      · rw [filter_cons_of_pos]
        simpa [numbered.1] using behind
      · rw [filter_cons_of_neg]
        simpa [numbered.1] using behind
    · have none : (through + 1 - first).toNat = 0 := by omega
      have all (other : EgressLedgerEntry) (member : other ∈ entry :: entries) :
          ¬ other.seq ≤ through := by
        have bounds := Numbered.bounds numbered member
        omega
      rw [none, take_zero, drop_zero]
      constructor
      · rw [filter_eq_nil_iff]
        intro other member
        simpa using all other member
      · rw [filter_eq_self]
        intro other member
        simpa using all other member

theorem Numbered.getElem_seq (numbered : Numbered first entries) {index : Nat}
    (inRange : index < entries.length) : entries[index].seq = first + index := by
  induction entries generalizing first index with
  | nil => simp at inRange
  | cons entry entries ih =>
    cases index with
    | zero => simpa using numbered.1
    | succ index =>
      rw [getElem_cons_succ, ih numbered.2 (by simpa using inRange), Nat.cast_add, Nat.cast_one]
      omega

theorem Numbered.min?_seq (numbered : Numbered first entries) (some : entries ≠ []) :
    (entries.map (·.seq)).min? = .some first := by
  rw [List.min?_eq_some_iff]
  constructor
  · cases entries with
    | nil => exact absurd rfl some
    | cons entry entries => simp [numbered.1]
  · intro seq member
    obtain ⟨entry, isEntry, rfl⟩ := mem_map.mp member
    exact (numbered.bounds isEntry).1

theorem Numbered.max?_seq (numbered : Numbered first entries) (some : entries ≠ []) :
    (entries.map (·.seq)).max? = .some (first + entries.length - 1) := by
  have positive := length_pos_iff.mpr some
  have last := numbered.getElem_seq (Nat.sub_one_lt_of_lt positive)
  rw [List.max?_eq_some_iff]
  constructor
  · refine mem_map.mpr ⟨entries[entries.length - 1], getElem_mem _, ?_⟩
    rw [last]
    omega
  · intro seq member
    obtain ⟨entry, isEntry, rfl⟩ := mem_map.mp member
    have bounds := numbered.bounds isEntry
    omega

theorem Numbered.find? (numbered : Numbered first entries) {index : Nat}
    (inRange : index < entries.length) :
    entries.find? (fun entry => entry.seq == first + index) = some entries[index] := by
  have isEntry := numbered.getElem_seq inRange
  rw [List.find?_eq_some_iff_getElem]
  refine ⟨by simpa using isEntry, index, inRange, rfl, fun earlier isEarlier => ?_⟩
  have other := numbered.getElem_seq (isEarlier.trans inRange)
  simp only [Bool.not_eq_eq_eq_not, Bool.not_true, beq_eq_false_iff_ne]
  omega

end Numbering

theorem i64Add_eq {first second : Int} (low : -i64Max - 1 ≤ first + second)
    (high : first + second ≤ i64Max) : i64Add first second = first + second := by
  unfold i64Add i64Max at *
  rw [Int.bmod_eq_of_le] <;> omega

theorem i64Add_le (first second : Int) : i64Add first second ≤ i64Max := by
  unfold i64Add i64Max
  have bound := @Int.bmod_lt (first + second) (2 ^ 64) (by decide)
  omega

theorem i64Add_neg {first second : Int} (firstFits : first ≤ i64Max)
    (secondFits : second ≤ i64Max) (overflows : i64Max < first + second) :
    i64Add first second < 0 := by
  unfold i64Add i64Max at *
  rw [Int.bmod_def]
  split <;> omega

namespace EgressLedger

variable {sha256Hex : String → String} {ledger : EgressLedger}

def anchorSeq (ledger : EgressLedger) : Int :=
  (ledger.newestCheckpoint.map (·.throughSeq)).getD 0

def anchorHash (ledger : EgressLedger) : String :=
  (ledger.newestCheckpoint.map (·.throughHash)).getD genesisHash

/-- The entries are one chain behind the newest checkpoint, which is the only one. -/
structure Sound (sha256Hex : String → String) (ledger : EgressLedger) : Prop where
  chained : Chained sha256Hex ledger.anchorSeq ledger.anchorHash ledger.entries
  newest : ledger.checkpoints.length ≤ 1
  anchored : 0 ≤ ledger.anchorSeq
  fits : ledger.anchorSeq + ledger.entries.length ≤ i64Max
  hashes : ∀ entry ∈ ledger.entries, entry.entryHash.length = 64

theorem sound_empty : empty.Sound sha256Hex := by
  constructor
  · exact ⟨trivial, trivial, by simp [empty]⟩
  · exact Nat.zero_le _
  · exact le_rfl
  · decide
  · simp [empty]

theorem Sound.head_eq (sound : ledger.Sound sha256Hex) :
    ledger.head = (ledger.anchorSeq + ledger.entries.length,
      HashChain.head EgressLedgerEntry.entryHash ledger.anchorHash ledger.entries) := by
  rw [HashChain.head_eq_getLast]
  unfold head
  rcases eq_nil_or_concat' ledger.entries with none | ⟨older, newest, isEntries⟩
  · rw [none]
    cases isNewest : ledger.newestCheckpoint with
    | none => simp [anchorSeq, anchorHash, isNewest]
    | some checkpoint => simp [anchorSeq, anchorHash, isNewest]
  · have numbered := sound.chained.numbered
    rw [isEntries, numbered_append] at numbered
    rw [isEntries, List.getLast?_concat, Option.map_some, Option.getD_some]
    simp only [Prod.mk.injEq, and_true, numbered.2.1, length_append, length_singleton]
    push_cast
    omega

theorem Sound.maxThroughSeq_getD (sound : ledger.Sound sha256Hex) :
    ledger.maxThroughSeq.getD 0 = ledger.anchorSeq := by
  have newest := sound.newest
  unfold maxThroughSeq anchorSeq newestCheckpoint
  match isCheckpoints : ledger.checkpoints with
  | [] => rfl
  | [row] => rfl
  | first :: second :: rest => simp [isCheckpoints] at newest

theorem Sound.extendsHead_iff (sound : ledger.Sound sha256Hex) (entry : EgressLedgerEntry) :
    ledger.ExtendsHead entry ↔
      entry.seq = ledger.head.1 + 1 ∧ entry.prevHash = ledger.head.2 := by
  have newest := sound.maxThroughSeq_getD
  have isHead := sound.head_eq
  rw [HashChain.head_eq_getLast] at isHead
  rw [isHead]
  unfold ExtendsHead lastSeq
  rcases eq_nil_or_concat' ledger.entries with none | ⟨older, last, isEntries⟩
  · have hash : (ledger.checkpoints.getLast?.map (·.throughHash)).getD genesisHash =
        ledger.anchorHash := by
      unfold anchorHash newestCheckpoint
      rw [Option.map_map]
      rfl
    rw [none]
    simp only [map_nil, List.max?_nil, Option.none_or, List.getLast?_nil,
      Option.map_none, Option.getD_none, newest, hash, length_nil, Nat.cast_zero, add_zero]
    rw [add_comm]
  · have some : ledger.entries ≠ [] := by simp [isEntries]
    rw [sound.chained.numbered.max?_seq some]
    rw [isEntries]
    simp only [Option.some_or, Option.getD_some, List.getLast?_concat, Option.map_some]
    constructor
    · rintro ⟨seq, prev⟩
      exact ⟨by omega, prev⟩
    · rintro ⟨seq, prev⟩
      exact ⟨by omega, prev⟩

/-- An entry that is appended follows the head, and the ledger stays sound. -/
theorem Sound.append_spec (sound : ledger.Sound sha256Hex) {record : EgressRecord}
    {recordedAt : Int} {entry : EgressLedgerEntry} {stored : EgressLedger}
    (appended : ledger.append sha256Hex record recordedAt = .ok (entry, stored)) :
    entry.seq = ledger.head.1 + 1 ∧ entry.recordedAt = timestamp recordedAt ∧
      stored = { ledger with entries := ledger.entries ++ [entry] } ∧
      stored.Sound sha256Hex := by
  simp only [append, insertEntry] at appended
  split at appended
  · cases appended
  next extends_ =>
    split at appended
    · cases appended
    next admitted =>
      cases appended
      simp only [not_not] at extends_
      simp only [not_or, not_not] at admitted
      obtain ⟨admissible, -⟩ := admitted
      have isHead := sound.head_eq
      obtain ⟨seq, -⟩ := (sound.extendsHead_iff _).mp extends_
      refine ⟨seq, rfl, rfl, ?_⟩
      have bound := i64Add_le ledger.head.1 1
      constructor
      · constructor
        · refine (numbered_append _ _ _).mpr ⟨sound.chained.numbered, ?_, trivial⟩
          refine seq.trans ?_
          rw [isHead]
          change _ = ledger.anchorSeq + 1 + _
          omega
        · refine (HashChain.linked_append _ _ _ _ _).mpr ⟨sound.chained.linked, ?_, trivial⟩
          exact congrArg Prod.snd isHead
        · intro other member
          rcases mem_append.mp member with before | isLast
          · exact sound.chained.hashed other before
          · rw [mem_singleton.mp isLast]
            rfl
      · exact sound.newest
      · exact sound.anchored
      · change ledger.anchorSeq + ((ledger.entries ++ [_]).length : Nat) ≤ i64Max
        rw [length_append, length_singleton]
        simp only at seq
        rw [isHead] at seq bound
        push_cast
        simp only at seq bound
        omega
      · intro other member
        rcases mem_append.mp member with before | isLast
        · exact sound.hashes other before
        · rw [mem_singleton.mp isLast]
          exact admissible.2.2.2.2.2.2

def pruneCount (ledger : EgressLedger) (cutoff : Int) (maxEntries batchSize : Nat) : Nat :=
  (min (max (ledger.throughByAge cutoff)
      (ledger.anchorSeq + ledger.entries.length - i64TryFrom maxEntries))
    (i64Add ledger.anchorSeq (i64TryFrom batchSize)) - ledger.anchorSeq).toNat

def prunedBy (ledger : EgressLedger) (count : Nat) (now : Int) : EgressLedger :=
  match (ledger.entries.take count).getLast? with
  | none => ledger
  | some last =>
    { entries := ledger.entries.drop count
      checkpoints := [⟨last.seq, last.entryHash, timestamp now⟩] }

theorem Sound.throughByAge_le (sound : ledger.Sound sha256Hex) (cutoff : Int) :
    ledger.throughByAge cutoff ≤ ledger.anchorSeq + ledger.entries.length := by
  have anchored := sound.anchored
  unfold throughByAge
  cases isMax : ((ledger.entries.filter fun entry =>
      decide (entry.recordedAt < timestamp cutoff)).map (·.seq)).max? with
  | none =>
    rw [Option.getD_none]
    omega
  | some seq =>
    obtain ⟨entry, member, rfl⟩ := mem_map.mp (List.max?_mem isMax)
    have bounds := sound.chained.numbered.bounds (mem_filter.mp member).1
    rw [Option.getD_some]
    omega

theorem Sound.pruneCount_le (sound : ledger.Sound sha256Hex) (cutoff : Int)
    (maxEntries batchSize : Nat) :
    ledger.pruneCount cutoff maxEntries batchSize ≤ ledger.entries.length := by
  have byAge := sound.throughByAge_le cutoff
  have nonneg : 0 ≤ i64TryFrom maxEntries := by
    unfold i64TryFrom i64Max
    omega
  unfold pruneCount
  omega

theorem prunedBy_zero (ledger : EgressLedger) (now : Int) : ledger.prunedBy 0 now = ledger :=
  rfl

theorem prunedBy_succ {index : Nat} (inRange : index < ledger.entries.length) (now : Int) :
    ledger.prunedBy (index + 1) now =
      { entries := ledger.entries.drop (index + 1)
        checkpoints :=
          [⟨ledger.entries[index].seq, ledger.entries[index].entryHash, timestamp now⟩] } := by
  have isLast : (ledger.entries.take (index + 1)).getLast? = some ledger.entries[index] := by
    rw [take_succ_eq_append_getElem inRange, List.getLast?_concat]
  simp only [prunedBy, isLast]

/-- No statement of a prune is refused, and together they leave `prunedBy`. -/
theorem Sound.prune_through (sound : ledger.Sound sha256Hex) {index : Nat}
    (inRange : index < ledger.entries.length) (now : Int) :
    (do
      let checkpointed ← ledger.insertCheckpoint
        ⟨ledger.anchorSeq + 1 + index, ledger.entries[index].entryHash, timestamp now⟩
      let (deleted, pruned) ← checkpointed.deleteEntries (ledger.anchorSeq + 1 + index)
      let anchored ← pruned.deleteCheckpoints (ledger.anchorSeq + 1 + index)
      return (deleted, anchored)) =
      Except.ok (index + 1, ledger.prunedBy (index + 1) now) := by
  set through := ledger.anchorSeq + 1 + index with isThrough
  have numbered := sound.chained.numbered
  have isSeq : ledger.entries[index].seq = through := numbered.getElem_seq inRange
  have newest := sound.maxThroughSeq_getD
  have anchored := sound.anchored
  have names : ledger.NamesLiveEntry ⟨through, ledger.entries[index].entryHash, timestamp now⟩ := by
    refine ⟨⟨ledger.entries[index], getElem_mem _, isSeq, rfl⟩, ?_⟩
    rw [newest]
    change ledger.anchorSeq < through
    omega
  have bounds : 1 ≤ through ∧ ledger.entries[index].entryHash.length = 64 :=
    ⟨by omega, sound.hashes _ (getElem_mem _)⟩
  set row : EgressCheckpointRow := ⟨through, ledger.entries[index].entryHash, timestamp now⟩
  have inserted : ledger.insertCheckpoint row =
      .ok { ledger with checkpoints := ledger.checkpoints ++ [row] } := by
    unfold insertCheckpoint
    rw [if_neg (not_not.mpr names), if_neg (not_not.mpr bounds)]
  set checkpointed : EgressLedger := { ledger with checkpoints := ledger.checkpoints ++ [row] }
  -- the new checkpoint is past the one there was
  have isOlder (older : EgressCheckpointRow) (member : older ∈ ledger.checkpoints) :
      older.throughSeq < through := by
    have few := sound.newest
    have isMax : ledger.maxThroughSeq.getD 0 = older.throughSeq := by
      match isCheckpoints : ledger.checkpoints with
      | [] => simp [isCheckpoints] at member
      | [single] =>
        rw [isCheckpoints, mem_singleton] at member
        simp [maxThroughSeq, isCheckpoints, member]
      | first :: second :: rest => simp [isCheckpoints] at few
    rw [newest] at isMax
    omega
  have isNewest : checkpointed.maxThroughSeq = some through := by
    unfold maxThroughSeq
    rw [List.max?_eq_some_iff]
    constructor
    · simp [checkpointed, row]
    · intro seq member
      obtain ⟨older, isRow, rfl⟩ := mem_map.mp member
      rcases mem_append.mp isRow with before | isLast
      · exact (isOlder older before).le
      · rw [mem_singleton.mp isLast]
  obtain ⟨older, newer⟩ := numbered.filter_le through
  have count : (through + 1 - (ledger.anchorSeq + 1)).toNat = index + 1 := by omega
  rw [count] at older newer
  have deleted : checkpointed.deleteEntries through =
      .ok (index + 1, { checkpointed with entries := ledger.entries.drop (index + 1) }) := by
    have admitted : (ledger.entries.filter fun entry => decide (entry.seq ≤ through)).any
        (fun entry => decide (checkpointed.maxThroughSeq.getD 0 < entry.seq)) = false := by
      rw [any_eq_false]
      intro entry member
      have behind := of_decide_eq_true (mem_filter.mp member).2
      rw [isNewest, Option.getD_some, decide_eq_true_eq]
      omega
    simp only [deleteEntries, checkpointed] at admitted ⊢
    rw [if_neg (by simp [admitted]), older, newer, length_take]
    rw [min_eq_left (by omega)]
  have dropped : EgressLedger.deleteCheckpoints
      { checkpointed with entries := ledger.entries.drop (index + 1) } through =
        .ok (ledger.prunedBy (index + 1) now) := by
    have onlyNewest : (ledger.checkpoints ++ [row]).filter
        (fun other => !decide (other.throughSeq < through)) = [row] := by
      rw [filter_append, filter_eq_nil_iff.mpr, nil_append]
      · simp [row]
      · intro other member
        simpa using isOlder other member
    have admitted : ((ledger.checkpoints ++ [row]).filter
        fun other => decide (other.throughSeq < through)).any (fun other =>
          checkpointed.maxThroughSeq.any fun newest => decide (newest ≤ other.throughSeq)) =
            false := by
      rw [any_eq_false]
      intro other member
      have behind := of_decide_eq_true (mem_filter.mp member).2
      rw [isNewest, Option.any_some, decide_eq_true_eq]
      omega
    rw [prunedBy_succ inRange, isSeq]
    simp only [maxThroughSeq, checkpointed] at admitted
    simp only [deleteCheckpoints, maxThroughSeq, checkpointed, admitted, Bool.false_eq_true,
      if_false, onlyNewest]
    rfl
  rw [inserted]
  simp only [bind, Except.bind, deleted, dropped, pure, Except.pure]

/-- A prune of a sound ledger drops as many entries as `pruneCount` says. -/
theorem Sound.prune_spec (sound : ledger.Sound sha256Hex) (cutoff : Int)
    (maxEntries batchSize : Nat) (now : Int) :
    ledger.prune cutoff maxEntries batchSize now =
      .ok (ledger.pruneCount cutoff maxEntries batchSize,
        ledger.prunedBy (ledger.pruneCount cutoff maxEntries batchSize) now) := by
  have anchored := sound.anchored
  have fits := sound.fits
  have atMost := sound.pruneCount_le cutoff maxEntries batchSize
  have nonneg : 0 ≤ i64TryFrom maxEntries ∧ i64TryFrom maxEntries ≤ i64Max := by
    unfold i64TryFrom i64Max
    omega
  by_cases none : ledger.entries = []
  · have zero : ledger.pruneCount cutoff maxEntries batchSize = 0 := by
      simpa [none] using atMost
    simp only [prune, firstSeq, lastSeq, none, map_nil, List.min?_nil, List.max?_nil, zero,
      prunedBy_zero]
  · have positive := length_pos_iff.mpr none
    have isFirst : ledger.firstSeq = some (ledger.anchorSeq + 1) :=
      sound.chained.numbered.min?_seq none
    have isLast : ledger.lastSeq = some (ledger.anchorSeq + ledger.entries.length) := by
      refine (sound.chained.numbered.max?_seq none).trans (congrArg some ?_)
      omega
    have byCount : i64Add (ledger.anchorSeq + ledger.entries.length) (-i64TryFrom maxEntries) =
        ledger.anchorSeq + ledger.entries.length - i64TryFrom maxEntries := by
      rw [i64Add_eq] <;> omega
    have before : i64Add (ledger.anchorSeq + 1) (-1) = ledger.anchorSeq := by
      rw [i64Add_eq] <;> omega
    simp only [prune, isFirst, isLast, byCount, before]
    set through := min (max (ledger.throughByAge cutoff)
      (ledger.anchorSeq + ledger.entries.length - i64TryFrom maxEntries))
      (i64Add ledger.anchorSeq (i64TryFrom batchSize)) with isThrough
    have isCount : ledger.pruneCount cutoff maxEntries batchSize =
        (through - ledger.anchorSeq).toNat := rfl
    split
    next nothing =>
      have zero : ledger.pruneCount cutoff maxEntries batchSize = 0 := by omega
      rw [zero, prunedBy_zero]
    next something =>
      obtain ⟨index, isIndex⟩ : ∃ index : Nat, through = ledger.anchorSeq + 1 + index :=
        ⟨(through - (ledger.anchorSeq + 1)).toNat, by omega⟩
      have succ : ledger.pruneCount cutoff maxEntries batchSize = index + 1 := by omega
      have inRange : index < ledger.entries.length := by omega
      rw [succ, isIndex, sound.chained.numbered.find? inRange]
      exact sound.prune_through inRange now

end EgressLedger

end Velvt
