import Velvt.EgressLedgerChain

/-!
# Runs of the egress ledger

What appends and prunes do to the ledger in any order: the chain verifies from the newest
checkpoint, numbers are never used twice and the head never goes back, and retention brings the
ledger within its bounds.
-/

namespace Velvt

open StepMachine List

namespace EgressLedger

variable {sha256Hex : String → String} {ledger : EgressLedger}

section

variable (sound : ledger.Sound sha256Hex)

include sound

/-- A pruned ledger keeps its head and stays sound. -/
theorem Sound.prunedBy {count : Nat}
    (atMost : count ≤ ledger.entries.length) (now : Int) :
    (ledger.prunedBy count now).entries = ledger.entries.drop count ∧
      (ledger.prunedBy count now).anchorSeq = ledger.anchorSeq + count ∧
      (ledger.prunedBy count now).Sound sha256Hex ∧
      (ledger.prunedBy count now).head = ledger.head := by
  cases count with
  | zero =>
    rw [prunedBy_zero]
    exact ⟨rfl, by simp, sound, rfl⟩
  | succ index =>
    have inRange : index < ledger.entries.length := atMost
    have isSeq := sound.chained.numbered.getElem_seq inRange
    have isEntries := take_append_drop (index + 1) ledger.entries
    have lastHash : HashChain.head EgressLedgerEntry.entryHash ledger.anchorHash
        (ledger.entries.take (index + 1)) = ledger.entries[index].entryHash := by
      rw [take_succ_eq_append_getElem inRange, HashChain.head_append]
      rfl
    rw [prunedBy_succ inRange]
    set pruned : EgressLedger :=
      { entries := ledger.entries.drop (index + 1)
        checkpoints :=
          [⟨ledger.entries[index].seq, ledger.entries[index].entryHash, timestamp now⟩] }
    have anchorSeq : pruned.anchorSeq = ledger.anchorSeq + (index + 1 : Nat) := by
      change ledger.entries[index].seq = _
      push_cast
      omega
    have anchorHash : pruned.anchorHash = ledger.entries[index].entryHash := rfl
    have pruned_sound : pruned.Sound sha256Hex := by
      have numbered := sound.chained.numbered
      have linked := sound.chained.linked
      rw [← isEntries, numbered_append, length_take, min_eq_left atMost] at numbered
      rw [← isEntries, HashChain.linked_append, lastHash] at linked
      constructor
      · constructor
        · rw [anchorSeq, add_right_comm]
          exact numbered.2
        · exact linked.2
        · intro entry member
          exact sound.chained.hashed entry (mem_of_mem_drop member)
      · exact le_rfl
      · have anchored := sound.anchored
        omega
      · have fits := sound.fits
        change pruned.anchorSeq + ((ledger.entries.drop (index + 1)).length : Nat) ≤ i64Max
        rw [anchorSeq, length_drop]
        omega
      · intro entry member
        exact sound.hashes entry (mem_of_mem_drop member)
    refine ⟨rfl, anchorSeq, pruned_sound, ?_⟩
    rw [pruned_sound.head_eq, sound.head_eq, anchorSeq, anchorHash]
    have lengths : (ledger.anchorSeq + (index + 1 : Nat) : Int) + pruned.entries.length =
        ledger.anchorSeq + ledger.entries.length := by
      change _ + ((ledger.entries.drop (index + 1)).length : Int) = _
      rw [length_drop]
      omega
    have hashes : HashChain.head EgressLedgerEntry.entryHash ledger.entries[index].entryHash
        pruned.entries =
          HashChain.head EgressLedgerEntry.entryHash ledger.anchorHash ledger.entries := by
      conv_rhs => rw [← isEntries, HashChain.head_append, lastHash]
    rw [lengths, hashes]

theorem Sound.prune_step (cutoff : Int)
    (maxEntries batchSize : Nat) (now : Int) :
    (egressMachine sha256Hex).step ledger (.prune cutoff maxEntries batchSize now) =
      (.pruned (ledger.pruneCount cutoff maxEntries batchSize),
        ledger.prunedBy (ledger.pruneCount cutoff maxEntries batchSize) now) := by
  simp only [egressMachine, sound.prune_spec]

theorem Sound.next (operation : EgressOperation) :
    ((egressMachine sha256Hex).next ledger operation).Sound sha256Hex ∧
      (((egressMachine sha256Hex).next ledger operation).head = ledger.head ∨
        ledger.head.1 < ((egressMachine sha256Hex).next ledger operation).head.1) := by
  cases operation with
  | append record recordedAt =>
    unfold Machine.next
    simp only [egressMachine]
    cases appended : ledger.append sha256Hex record recordedAt with
    | error error => exact ⟨sound, Or.inl rfl⟩
    | ok stored =>
      obtain ⟨entry, stored⟩ := stored
      obtain ⟨seq, -, isStored, stored_sound⟩ := sound.append_spec appended
      refine ⟨stored_sound, Or.inr ?_⟩
      simp only
      have newHead : stored.head = (entry.seq, entry.entryHash) := by
        simp [isStored, head]
      rw [newHead]
      simp only
      omega
  | prune cutoff maxEntries batchSize now =>
    unfold Machine.next
    rw [sound.prune_step]
    obtain ⟨-, -, pruned_sound, sameHead⟩ :=
      sound.prunedBy (sound.pruneCount_le cutoff maxEntries batchSize) now
    exact ⟨pruned_sound, Or.inl sameHead⟩

theorem Sound.run (operations : List EgressOperation) :
    ((egressMachine sha256Hex).run ledger operations).Sound sha256Hex :=
  (egressMachine sha256Hex).invariant_run_of_forall
    (fun _ operation holds => (holds.next operation).1) operations sound

theorem Sound.head_run (operations : List EgressOperation) :
    ((egressMachine sha256Hex).run ledger operations).head = ledger.head ∨
      ledger.head.1 < ((egressMachine sha256Hex).run ledger operations).head.1 := by
  induction operations generalizing ledger with
  | nil => exact Or.inl rfl
  | cons operation operations ih =>
    obtain ⟨next_sound, step⟩ := sound.next operation
    rw [Machine.run_cons]
    rcases ih next_sound with same | further
    · rw [same]
      exact step
    · rcases step with same | moved
      · rw [same] at further
        exact Or.inr further
      · exact Or.inr (moved.trans further)

end

def appendedSeqs (sha256Hex : String → String) (ledger : EgressLedger)
    (operation : EgressOperation) : List Int :=
  match (egressMachine sha256Hex).answer ledger operation with
  | .appended entry => [entry.seq]
  | _ => []

/-- The numbers that are given out are consecutive, prunes in between or not. -/
theorem Sound.history_seqs (sound : ledger.Sound sha256Hex) (operations : List EgressOperation) :
    ∃ count : Nat, (egressMachine sha256Hex).history (appendedSeqs sha256Hex) ledger operations =
          (List.range count).map (fun index : Nat => ledger.head.1 + 1 + index) ∧
        ((egressMachine sha256Hex).run ledger operations).head.1 = ledger.head.1 + count := by
  induction operations generalizing ledger with
  | nil => exact ⟨0, rfl, by simp⟩
  | cons operation operations ih =>
    have next_sound := (sound.next operation).1
    obtain ⟨count, seqs, lastHead⟩ := ih next_sound
    rw [Machine.history_cons, Machine.run_cons, seqs, lastHead]
    have steps : (appendedSeqs sha256Hex ledger operation = [] ∧
          ((egressMachine sha256Hex).next ledger operation).head.1 = ledger.head.1) ∨
        (appendedSeqs sha256Hex ledger operation = [ledger.head.1 + 1] ∧
          ((egressMachine sha256Hex).next ledger operation).head.1 = ledger.head.1 + 1) := by
      unfold appendedSeqs Machine.answer Machine.next
      cases operation with
      | append record recordedAt =>
        simp only [egressMachine]
        cases appended : ledger.append sha256Hex record recordedAt with
        | error error => exact Or.inl ⟨rfl, rfl⟩
        | ok stored =>
          obtain ⟨entry, stored⟩ := stored
          obtain ⟨seq, -, isStored, -⟩ := sound.append_spec appended
          right
          simp [isStored, head, seq]
      | prune cutoff maxEntries batchSize now =>
        rw [sound.prune_step]
        obtain ⟨-, -, -, sameHead⟩ :=
          sound.prunedBy (sound.pruneCount_le cutoff maxEntries batchSize) now
        exact Or.inl ⟨rfl, congrArg Prod.fst sameHead⟩
    rcases steps with ⟨nothing, sameHead⟩ | ⟨one, nextHead⟩
    · rw [nothing, sameHead]
      exact ⟨count, rfl, rfl⟩
    · rw [one, nextHead]
      refine ⟨count + 1, ?_, by push_cast; omega⟩
      rw [range_succ_eq_map, map_cons, map_map, singleton_append]
      simp only [Nat.cast_zero, add_zero, List.cons.injEq, true_and]
      apply map_congr_left
      intro index _
      simp only [Function.comp_apply, Nat.cast_succ]
      omega

theorem Sound.batchLimit_eq (sound : ledger.Sound sha256Hex) {batchSize : Nat}
    (inRange : ledger.anchorSeq + i64TryFrom batchSize ≤ i64Max) :
    i64Add ledger.anchorSeq (i64TryFrom batchSize) =
      ledger.anchorSeq + i64TryFrom batchSize := by
  have anchored := sound.anchored
  apply i64Add_eq
  · unfold i64TryFrom i64Max
    omega
  · exact inRange

theorem Sound.pruneCount_of_overflow (sound : ledger.Sound sha256Hex) {batchSize : Nat}
    (overflows : i64Max < ledger.anchorSeq + i64TryFrom batchSize) (cutoff : Int)
    (maxEntries : Nat) : ledger.pruneCount cutoff maxEntries batchSize = 0 := by
  have anchored := sound.anchored
  have fits := sound.fits
  have wrapped : i64Add ledger.anchorSeq (i64TryFrom batchSize) < 0 := by
    apply i64Add_neg
    · omega
    · unfold i64TryFrom
      omega
    · exact overflows
  unfold pruneCount
  omega

theorem Sound.pruneCount_le_batch (sound : ledger.Sound sha256Hex) (cutoff : Int)
    (maxEntries batchSize : Nat) :
    ledger.pruneCount cutoff maxEntries batchSize ≤ batchSize := by
  by_cases inRange : ledger.anchorSeq + i64TryFrom batchSize ≤ i64Max
  · have limit := sound.batchLimit_eq inRange
    have atMost : i64TryFrom batchSize ≤ batchSize := by
      unfold i64TryFrom
      omega
    unfold pruneCount
    omega
  · rw [sound.pruneCount_of_overflow (by omega)]
    exact Nat.zero_le _

variable {entry : EgressLedgerEntry}

theorem seq_le_throughByAge (member : entry ∈ ledger.entries)
    {cutoff : Int} (old : entry.recordedAt < timestamp cutoff) :
    entry.seq ≤ ledger.throughByAge cutoff := by
  have isOld : entry.seq ∈ (ledger.entries.filter fun other =>
      decide (other.recordedAt < timestamp cutoff)).map (·.seq) :=
    mem_map_of_mem (mem_filter.mpr ⟨member, decide_eq_true old⟩)
  unfold throughByAge
  cases isMax : ((ledger.entries.filter fun other =>
      decide (other.recordedAt < timestamp cutoff)).map (·.seq)).max? with
  | none => simp [List.max?_eq_none_iff.mp isMax] at isOld
  | some newest => exact (List.max?_eq_some_iff.mp isMax).2 _ isOld

theorem throughByAge_mem {cutoff : Int} (some : 0 < ledger.throughByAge cutoff) :
    ∃ old ∈ ledger.entries,
      old.recordedAt < timestamp cutoff ∧ old.seq = ledger.throughByAge cutoff := by
  unfold throughByAge at some ⊢
  cases isMax : ((ledger.entries.filter fun other =>
      decide (other.recordedAt < timestamp cutoff)).map (·.seq)).max? with
  | none => simp [isMax] at some
  | some newest =>
    obtain ⟨old, member, isSeq⟩ := mem_map.mp (List.max?_mem isMax)
    obtain ⟨isEntry, isOld⟩ := mem_filter.mp member
    exact ⟨old, isEntry, of_decide_eq_true isOld, isSeq⟩

theorem Sound.within_bounds (sound : ledger.Sound sha256Hex) {cutoff : Int}
    {maxEntries batchSize : Nat} (some : 1 ≤ batchSize)
    (inRange : ledger.anchorSeq + i64TryFrom batchSize ≤ i64Max)
    (nothing : ledger.pruneCount cutoff maxEntries batchSize = 0) :
    ledger.entries.length ≤ maxEntries ∧
      ∀ entry ∈ ledger.entries, timestamp cutoff ≤ entry.recordedAt := by
  have limit := sound.batchLimit_eq inRange
  have positive : 1 ≤ i64TryFrom batchSize := by
    unfold i64TryFrom i64Max
    omega
  have capped : i64TryFrom maxEntries ≤ maxEntries := by
    unfold i64TryFrom
    omega
  unfold pruneCount at nothing
  constructor
  · omega
  · intro entry member
    by_contra old
    have byAge := seq_le_throughByAge member (Int.not_le.mp old)
    have bounds := sound.chained.numbered.bounds member
    omega

theorem Sound.prune_repeated (sound : ledger.Sound sha256Hex) (cutoff : Int)
    (maxEntries batchSize : Nat) {nows : List Int} (often : ledger.entries.length ≤ nows.length) :
    ((egressMachine sha256Hex).run ledger
      (nows.map (.prune cutoff maxEntries batchSize))).pruneCount cutoff maxEntries batchSize =
        0 := by
  induction nows generalizing ledger with
  | nil =>
    have atMost := sound.pruneCount_le cutoff maxEntries batchSize
    rw [length_nil] at often
    rw [map_nil, Machine.run_nil]
    omega
  | cons now nows ih =>
    rw [map_cons, Machine.run_cons]
    have atMost := sound.pruneCount_le cutoff maxEntries batchSize
    have step := congrArg Prod.snd (sound.prune_step cutoff maxEntries batchSize now)
    change (egressMachine sha256Hex).next _ _ = _ at step
    rw [step]
    obtain ⟨isRest, -, pruned_sound, -⟩ := sound.prunedBy atMost now
    by_cases nothing : ledger.pruneCount cutoff maxEntries batchSize = 0
    · -- the ledger is as it was, and stays so
      rw [nothing, prunedBy_zero]
      have stays : (egressMachine sha256Hex).run ledger
          (nows.map (.prune cutoff maxEntries batchSize)) = ledger := by
        clear ih often step
        induction nows with
        | nil => rfl
        | cons later nows ih =>
          have again := congrArg Prod.snd (sound.prune_step cutoff maxEntries batchSize later)
          change (egressMachine sha256Hex).next _ _ = _ at again
          rw [map_cons, Machine.run_cons, again, nothing, prunedBy_zero, ih]
      rw [stays, nothing]
    · apply ih pruned_sound
      rw [isRest, length_drop]
      rw [length_cons] at often
      omega

/-- What holds of a ledger whatever is done with it next. -/
structure Kept (sha256Hex : String → String) (ledger : EgressLedger) : Prop where
  /-- The chain verifies from the newest checkpoint, up to the head. -/
  verifies : verifyChain sha256Hex ledger.newestCheckpoint ledger.entries = .ok
    { entries := ledger.entries.length
      anchorSeq := ledger.anchorSeq
      headSeq := ledger.head.1
      headHash := ledger.head.2 }
  /-- The numbers are contiguous. -/
  contiguous : Numbered (ledger.anchorSeq + 1) ledger.entries
  /-- The head never goes back. -/
  advances : ∀ later,
    ((egressMachine sha256Hex).run ledger later).head = ledger.head ∨
      ledger.head.1 < ((egressMachine sha256Hex).run ledger later).head.1
  /-- A prune removes a prefix of at most a batch, is never refused and leaves the head. -/
  prunes : ∀ cutoff maxEntries batchSize now, ∃ count next,
    (egressMachine sha256Hex).step ledger (.prune cutoff maxEntries batchSize now) =
        (.pruned count, next) ∧
      next.entries = ledger.entries.drop count ∧ count ≤ batchSize ∧
      count ≤ ledger.entries.length ∧ next.head = ledger.head
  /-- Repeated pruning comes to an end. -/
  ends : ∀ cutoff maxEntries batchSize (nows : List Int) now,
    ledger.entries.length ≤ nows.length →
      (egressMachine sha256Hex).answer
        ((egressMachine sha256Hex).run ledger (nows.map (.prune cutoff maxEntries batchSize)))
        (.prune cutoff maxEntries batchSize now) = .pruned 0
  /-- Where pruning ends, the ledger is within its bounds. -/
  bounded : ∀ cutoff maxEntries batchSize now,
    1 ≤ batchSize → ledger.anchorSeq + i64TryFrom batchSize ≤ i64Max →
    (egressMachine sha256Hex).answer ledger (.prune cutoff maxEntries batchSize now) = .pruned 0 →
    ledger.entries.length ≤ maxEntries ∧
      ∀ entry ∈ ledger.entries, timestamp cutoff ≤ entry.recordedAt

theorem Sound.kept (sound : ledger.Sound sha256Hex) : ledger.Kept sha256Hex := by
  constructor
  · rw [verifyChain_eq_ok]
    refine ⟨sound.chained, ?_⟩
    rw [sound.head_eq]
    rfl
  · exact sound.chained.numbered
  · exact sound.head_run
  · intro cutoff maxEntries batchSize now
    have atMost := sound.pruneCount_le cutoff maxEntries batchSize
    obtain ⟨isRest, -, -, sameHead⟩ := sound.prunedBy atMost now
    exact ⟨_, _, sound.prune_step cutoff maxEntries batchSize now, isRest,
      sound.pruneCount_le_batch cutoff maxEntries batchSize, atMost, sameHead⟩
  · intro cutoff maxEntries batchSize nows now often
    have nothing := sound.prune_repeated cutoff maxEntries batchSize often
    have reached := sound.run (nows.map (.prune cutoff maxEntries batchSize))
    unfold Machine.answer
    rw [reached.prune_step, nothing]
  · intro cutoff maxEntries batchSize now some inRange answered
    unfold Machine.answer at answered
    rw [sound.prune_step] at answered
    exact sound.within_bounds some inRange (EgressAnswer.pruned.inj answered)

def newestEntries (ledger : EgressLedger) (maxEntries : Nat) : List EgressLedgerEntry :=
  ledger.entries.drop (ledger.entries.length - maxEntries)

/-- A young entry among the newest ones is within reach of a batch, and an old entry
follows it. -/
def YoungBeforeOld (ledger : EgressLedger) (cutoff : Int) (maxEntries batchSize : Nat) : Prop :=
  ledger.anchorSeq + i64TryFrom batchSize ≤ i64Max ∧
    ∃ young ∈ ledger.newestEntries maxEntries, young ∈ ledger.entries.take batchSize ∧
      timestamp cutoff ≤ young.recordedAt ∧
      ∃ old ∈ ledger.entries, young.seq < old.seq ∧ old.recordedAt < timestamp cutoff

theorem Sound.removed_iff (sound : ledger.Sound sha256Hex) {count index : Nat}
    (inRange : index < ledger.entries.length) :
    ledger.entries[index] ∉ ledger.entries.drop count ↔ index < count := by
  have isSeq := sound.chained.numbered.getElem_seq inRange
  rw [mem_drop_iff_getElem]
  constructor
  · intro removed
    by_contra later
    apply removed
    refine ⟨index - count, by omega, ?_⟩
    congr 1
    omega
  · rintro behind ⟨other, otherRange, same⟩
    have inBounds : count + other < ledger.entries.length := by omega
    have otherSeq := sound.chained.numbered.getElem_seq inBounds
    rw [same] at otherSeq
    omega

/-- A prune spares the young entries unless one of them stands before an old one. -/
theorem Sound.spares_young_iff (sound : ledger.Sound sha256Hex) (cutoff : Int)
    (maxEntries batchSize : Nat) (now : Int) :
    (∀ entry ∈ ledger.entries, entry ∉ ((egressMachine sha256Hex).next ledger
          (.prune cutoff maxEntries batchSize now)).entries →
        entry.recordedAt < timestamp cutoff ∨ entry ∉ ledger.newestEntries maxEntries) ↔
      ¬ ledger.YoungBeforeOld cutoff maxEntries batchSize := by
  have atMost := sound.pruneCount_le cutoff maxEntries batchSize
  have isRest := (sound.prunedBy atMost now).1
  have step := congrArg Prod.snd (sound.prune_step cutoff maxEntries batchSize now)
  change (egressMachine sha256Hex).next _ _ = _ at step
  rw [step, isRest]
  have anchored := sound.anchored
  have fits := sound.fits
  have isCap : i64TryFrom maxEntries = min (maxEntries : Int) i64Max := rfl
  have isBatch : i64TryFrom batchSize = min (batchSize : Int) i64Max := rfl
  constructor
  · rintro spares ⟨inRange, young, isNewest, inBatch, isYoung, old, isEntry, later, isOld⟩
    have limit := sound.batchLimit_eq inRange
    obtain ⟨index, indexRange, rfl⟩ := mem_take_iff_getElem.mp inBatch
    have isSeq := sound.chained.numbered.getElem_seq (lt_of_lt_of_le indexRange (min_le_right _ _))
    have byAge := seq_le_throughByAge isEntry isOld
    have bounds := sound.chained.numbered.bounds isEntry
    -- age prunes up to the old entry, and so past the young one
    have removed : index < ledger.pruneCount cutoff maxEntries batchSize := by
      unfold pruneCount
      omega
    rcases spares _ (getElem_mem _) ((sound.removed_iff _).mpr removed) with isOlder | beyond
    · omega
    · exact beyond isNewest
  · intro noneFollows entry member removed
    by_contra kept
    rw [not_or, not_not] at kept
    obtain ⟨isYoung, isNewest⟩ := kept
    obtain ⟨index, indexRange, rfl⟩ := getElem_of_mem member
    have isSeq := sound.chained.numbered.getElem_seq indexRange
    have behind := (sound.removed_iff indexRange).mp removed
    have inRange : ledger.anchorSeq + i64TryFrom batchSize ≤ i64Max := by
      by_contra overflows
      rw [sound.pruneCount_of_overflow (by omega)] at behind
      exact Nat.not_lt_zero _ behind
    have limit := sound.batchLimit_eq inRange
    have position : ledger.entries.length - maxEntries ≤ index := by
      by_contra before
      exact (sound.removed_iff indexRange).mpr (by omega) isNewest
    unfold pruneCount at behind
    rw [Int.lt_toNat, lt_sub_iff_add_lt, lt_min_iff, lt_max_iff] at behind
    obtain ⟨byAgeOrCount, byBatch⟩ := behind
    have inBatch : index < batchSize := by omega
    have byAge : ledger.entries[index].seq ≤ ledger.throughByAge cutoff := by
      rcases byAgeOrCount with byAge | byCount
      · omega
      · omega
    -- age prunes up to an old entry, which is not this one
    obtain ⟨old, isEntry, isOld, isLast⟩ := throughByAge_mem
      (by omega : 0 < ledger.throughByAge cutoff)
    have follows : ledger.entries[index].seq < old.seq := by
      obtain ⟨place, placeRange, rfl⟩ := getElem_of_mem isEntry
      have placeSeq := sound.chained.numbered.getElem_seq placeRange
      rcases Nat.eq_or_lt_of_le (by omega : index ≤ place) with same | later
      · subst same
        exact absurd isOld isYoung
      · omega
    apply noneFollows
    refine ⟨inRange, _, isNewest, ?_, Int.not_lt.mp isYoung, old, isEntry, follows, isOld⟩
    exact mem_take_iff_getElem.mpr ⟨index, by omega, rfl⟩

theorem append_eq_ok {record : EgressRecord} {recordedAt : Int} (isEntry : entry =
      { seq := i64Add ledger.head.1 1
        recordedAt := timestamp recordedAt
        method := record.method
        endpoint := record.endpoint
        bodyBytes := i64TryFrom record.bodyBytes
        bodySha256 := record.bodySha256
        bodyRedacted := record.bodyRedacted
        bearer := record.bearer
        prevHash := ledger.head.2
        entryHash := entry.entryHash })
    (hashed : sha256Hex entry.line = entry.entryHash) (extends_ : ledger.ExtendsHead entry)
    (admissible : entry.Admissible) (fresh : entry.entryHash ∉ ledger.entries.map (·.entryHash)) :
    ledger.append sha256Hex record recordedAt =
      .ok (entry, { ledger with entries := ledger.entries ++ [entry] }) := by
  have stored : ledger.insertEntry entry =
      .ok { ledger with entries := ledger.entries ++ [entry] } := by
    unfold insertEntry
    rw [if_neg (not_not_intro extends_), if_neg (not_or.mpr ⟨not_not_intro admissible, fresh⟩)]
  have isHashed : EgressLedgerEntry.computedHash sha256Hex { entry with entryHash := "" } =
      entry.entryHash :=
    hashed
  rw [isEntry] at isHashed
  simp only [append, isHashed]
  rw [← isEntry, stored]
  rfl

theorem next_append {record : EgressRecord} {recordedAt : Int} {stored : EgressLedger}
    (appended : ledger.append sha256Hex record recordedAt = .ok (entry, stored)) :
    (egressMachine sha256Hex).next ledger (.append record recordedAt) = stored := by
  unfold Machine.next
  simp only [egressMachine, appended]

end EgressLedger

/-- SHA-256 on the lines of two requests: the first at 100 s, and the second at 0 s, after
the clock was set back. -/
def sampleSha256Hex (line : String) : String :=
  if line = "velvt-egress-v1|1|100|GET|http://localhost/v1/time|0|e3b0c44298fc1c149afbf4c8996fb92427ae41e4649b934ca495991b7852b855|0|0|0000000000000000000000000000000000000000000000000000000000000000" then
    "7c11962f6eaf6acadaa7e47c35a97b39fe0ddbb0965ed6bb61401ea7b3eb890f"
  else
    "13d26b0929779155dec8a8ac582ef7bbff2eaec157524d3e91404d073b19651b"

def sampleRecord : EgressRecord where
  method := "GET"
  endpoint := "http://localhost/v1/time"
  bodyBytes := 0
  bodySha256 := "e3b0c44298fc1c149afbf4c8996fb92427ae41e4649b934ca495991b7852b855"
  bodyRedacted := false
  bearer := false

def sampleEntries : List EgressLedgerEntry :=
  [{ seq := 1
     recordedAt := 100
     method := sampleRecord.method
     endpoint := sampleRecord.endpoint
     bodyBytes := 0
     bodySha256 := sampleRecord.bodySha256
     bodyRedacted := false
     bearer := false
     prevHash := genesisHash
     entryHash := "7c11962f6eaf6acadaa7e47c35a97b39fe0ddbb0965ed6bb61401ea7b3eb890f" },
   { seq := 2
     recordedAt := 0
     method := sampleRecord.method
     endpoint := sampleRecord.endpoint
     bodyBytes := 0
     bodySha256 := sampleRecord.bodySha256
     bodyRedacted := false
     bearer := false
     prevHash := "7c11962f6eaf6acadaa7e47c35a97b39fe0ddbb0965ed6bb61401ea7b3eb890f"
     entryHash := "13d26b0929779155dec8a8ac582ef7bbff2eaec157524d3e91404d073b19651b" }]

theorem sampleSha256Hex_line :
    ∀ entry ∈ sampleEntries, sampleSha256Hex entry.line = entry.entryHash := by
  have first : sampleEntries[0].line = "velvt-egress-v1|1|100|GET|http://localhost/v1/time|0|e3b0c44298fc1c149afbf4c8996fb92427ae41e4649b934ca495991b7852b855|0|0|0000000000000000000000000000000000000000000000000000000000000000" := by
    decide +kernel
  have second : sampleEntries[1].line = "velvt-egress-v1|2|0|GET|http://localhost/v1/time|0|e3b0c44298fc1c149afbf4c8996fb92427ae41e4649b934ca495991b7852b855|0|0|7c11962f6eaf6acadaa7e47c35a97b39fe0ddbb0965ed6bb61401ea7b3eb890f" := by
    decide +kernel
  intro entry member
  simp only [sampleEntries, mem_cons, not_mem_nil, or_false] at member
  rcases member with rfl | rfl
  · exact if_pos first
  · exact if_neg fun same => absurd (second.symm.trans same) (by simp)

theorem sampleEntries_admissible : ∀ entry ∈ sampleEntries, entry.Admissible := by
  have endpoint : sampleRecord.endpoint.toList =
      ['h', 't', 't', 'p', ':', '/', '/', 'l', 'o', 'c', 'a', 'l', 'h', 'o', 's', 't', '/', 'v',
        '1', '/', 't', 'i', 'm', 'e'] :=
    String.toList_ofList
  have isEndpoint : 0 < sampleRecord.endpoint.length ∧ '|' ∉ sampleRecord.endpoint.toList ∧
      '\n' ∉ sampleRecord.endpoint.toList ∧ '\r' ∉ sampleRecord.endpoint.toList := by
    rw [← String.length_toList, endpoint]
    decide
  have method : sampleRecord.method ∈ ["GET", "POST", "PATCH", "DELETE"] := mem_cons_self
  intro entry member
  simp only [sampleEntries, mem_cons, not_mem_nil, or_false] at member
  rcases member with rfl | rfl
  · exact ⟨le_rfl, method, isEndpoint, le_rfl, String.length_ofList, String.length_ofList,
      String.length_ofList⟩
  · exact ⟨by decide, method, isEndpoint, le_rfl, String.length_ofList, String.length_ofList,
      String.length_ofList⟩

theorem run_append_sampleRecord : (egressMachine sampleSha256Hex).run EgressLedger.empty
      [.append sampleRecord 100000000000] = { entries := [sampleEntries[0]], checkpoints := [] } := by
  have member : sampleEntries[0] ∈ sampleEntries := getElem_mem _
  have appended : EgressLedger.empty.append sampleSha256Hex sampleRecord 100000000000 =
      .ok (sampleEntries[0], { entries := [sampleEntries[0]], checkpoints := [] }) :=
    EgressLedger.append_eq_ok rfl (sampleSha256Hex_line _ member) ⟨rfl, rfl⟩
      (sampleEntries_admissible _ member) not_mem_nil
  rw [Machine.run_cons, Machine.run_nil]
  exact EgressLedger.next_append appended

theorem run_append_sampleRecord_twice : (egressMachine sampleSha256Hex).run EgressLedger.empty
        [.append sampleRecord 100000000000, .append sampleRecord 0] =
      { entries := sampleEntries, checkpoints := [] } := by
  have member : sampleEntries[1] ∈ sampleEntries := getElem_mem _
  have fresh : sampleEntries[1].entryHash ∉ [sampleEntries[0]].map (·.entryHash) := by
    simp [sampleEntries]
  have appended : (EgressLedger.mk [sampleEntries[0]] []).append sampleSha256Hex sampleRecord 0 =
      .ok (sampleEntries[1], { entries := sampleEntries, checkpoints := [] }) :=
    EgressLedger.append_eq_ok rfl (sampleSha256Hex_line _ member) ⟨rfl, rfl⟩
      (sampleEntries_admissible _ member) fresh
  have first := run_append_sampleRecord
  rw [Machine.run_cons, Machine.run_nil] at first
  rw [Machine.run_cons, first, Machine.run_cons, Machine.run_nil]
  exact EgressLedger.next_append appended

theorem sampleEntries_sound : (EgressLedger.mk sampleEntries []).Sound sampleSha256Hex := by
  rw [← run_append_sampleRecord_twice]
  exact EgressLedger.sound_empty.run _

/-- In every run the chain verifies, numbers are given out once and in order, and
retention works as far as it goes. -/
theorem egress_ledger_holds (sha256Hex : String → String) (operations : List EgressOperation) :
    ((egressMachine sha256Hex).run EgressLedger.empty operations).Kept sha256Hex ∧
      ∃ count : Nat,
        (egressMachine sha256Hex).history (EgressLedger.appendedSeqs sha256Hex)
            EgressLedger.empty operations =
          (List.range count).map (fun index : Nat => 1 + (index : Int)) ∧
        ((egressMachine sha256Hex).run EgressLedger.empty operations).head.1 = count := by
  have opened : EgressLedger.empty.Sound sha256Hex := EgressLedger.sound_empty
  obtain ⟨count, seqs, lastHead⟩ := opened.history_seqs operations
  refine ⟨(opened.run operations).kept, count, seqs, ?_⟩
  rw [lastHead]
  exact zero_add _

/-- The ledger after its first entry. -/
theorem egress_ledger_holds_after_append :
    ∃ ledger, ledger = (egressMachine sampleSha256Hex).run EgressLedger.empty
        [.append sampleRecord 100000000000] ∧
      ledger.entries.length = 1 ∧ ledger.Kept sampleSha256Hex := by
  refine ⟨_, rfl, ?_, (egress_ledger_holds sampleSha256Hex _).1⟩
  rw [run_append_sampleRecord]
  rfl

/-- A batch of no entries removes nothing, however many entries there are. -/
theorem empty_batches_keep_everything :
    (egressMachine sampleSha256Hex).answer
        ((egressMachine sampleSha256Hex).run EgressLedger.empty
          [.append sampleRecord 100000000000])
        (.prune 200000000000 0 0 200000000000) = .pruned 0 ∧
      ¬ ((egressMachine sampleSha256Hex).run EgressLedger.empty
        [.append sampleRecord 100000000000]).entries.length ≤ 0 := by
  rw [run_append_sampleRecord]
  exact ⟨rfl, by decide⟩

/-- A prune keeps to its cutoff exactly if no young entry it may reach has an old one
after it. -/
theorem prune_spares_young_iff (sha256Hex : String → String)
    (operations : List EgressOperation) (cutoff : Int) (maxEntries batchSize : Nat) (now : Int) :
    let ledger := (egressMachine sha256Hex).run EgressLedger.empty operations
    let pruned := (egressMachine sha256Hex).next ledger
      (.prune cutoff maxEntries batchSize now)
    (∀ entry ∈ ledger.entries, entry ∉ pruned.entries →
        entry.recordedAt < timestamp cutoff ∨ entry ∉ ledger.newestEntries maxEntries) ↔
      ¬ ledger.YoungBeforeOld cutoff maxEntries batchSize := by
  intro ledger pruned
  have sound : ledger.Sound sha256Hex := EgressLedger.sound_empty.run operations
  exact sound.spares_young_iff cutoff maxEntries batchSize now

/-- The clock is set back between two requests: the first, which is young, goes with the
second. -/
theorem clock_set_back_prunes_young :
    ∃ ledger pruned : EgressLedger,
      (egressMachine sampleSha256Hex).run EgressLedger.empty
          [.append sampleRecord 100000000000, .append sampleRecord 0] = ledger ∧
        (egressMachine sampleSha256Hex).next ledger (.prune 50000000000 10 2 100000000000) =
          pruned ∧
        ¬ ∀ entry ∈ ledger.entries, entry ∉ pruned.entries →
          entry.recordedAt < timestamp 50000000000 ∨ entry ∉ ledger.newestEntries 10 := by
  have reached := run_append_sampleRecord_twice
  have sound := sampleEntries_sound
  refine ⟨⟨sampleEntries, []⟩, _, reached, rfl, fun spares => ?_⟩
  unfold Machine.next at spares
  rw [sound.prune_step] at spares
  rcases spares _ mem_cons_self not_mem_nil with isOld | isOlder
  · exact absurd isOld (by decide)
  · exact isOlder mem_cons_self

end Velvt
