import Mathlib.Data.List.Induction
import Velvt.AntecedentFindings

/-!
# Findings on held-out evidence

What each call may do to the rows of `antecedent_finding`, and which calls keep the rule that a
finding is surfaced only from `confirmed`, on evidence later than its discovery window, and never
again after it was taken back.
-/

namespace Velvt

open StepMachine List

namespace AntecedentFinding

/-- The finding was taken back, by the service or by the user. -/
def Retired (finding : AntecedentFinding) : Prop :=
  finding.state = .retracted ∨ finding.state = .disputed
  deriving Decidable

/-- The confirmation is no earlier than the midnight of the discovery window's end. -/
def HeldOut (finding : AntecedentFinding) : Prop :=
  ∀ confirmedAt ∈ finding.confirmedAt, ∀ midnight ∈ midnightSeconds finding.discoveryWindowEnd,
    midnight ≤ confirmedAt

variable {finding : AntecedentFinding}

theorem confirmationIsHeldOut_eq_none_iff :
    finding.confirmationIsHeldOut = none ↔ finding.HeldOut := by
  unfold confirmationIsHeldOut HeldOut
  cases finding.confirmedAt with
  | none => simp
  | some confirmedAt =>
    cases midnightSeconds finding.discoveryWindowEnd with
    | none => simp
    | some midnight => simp

theorem refusal_eq_none_iff {trigger : AntecedentFinding → Option AntecedentFindingError} :
    finding.refusal trigger = none ↔ trigger finding = none ∧ finding.Admissible := by
  rw [refusal, Option.or_eq_none_iff]
  refine and_congr_right fun _ => ?_
  split
  · simp [*]
  · simp [*]

theorem Admissible.requiresConfirmation (admissible : finding.Admissible) :
    finding.requiresConfirmation = none := by
  rw [AntecedentFinding.requiresConfirmation, if_neg]
  rintro ⟨surfaced, unconfirmed⟩
  rcases admissible.stateConfirmed with other | confirmed
  · exact other surfaced
  · rw [unconfirmed] at confirmed
    cases confirmed

theorem refusal_requiresConfirmation :
    finding.refusal AntecedentFinding.requiresConfirmation = none ↔ finding.Admissible := by
  rw [refusal_eq_none_iff]
  exact ⟨And.right, fun admissible => ⟨admissible.requiresConfirmation, admissible⟩⟩

end AntecedentFinding

/-- The rows of the table: no two under one identifier, and each within the checks. -/
structure Tabled (rows : List AntecedentFinding) : Prop where
  ids : (rows.map (·.findingId)).Nodup
  admissible : ∀ row ∈ rows, row.Admissible

section Statements

variable {rows : List AntecedentFinding} {findingId : String}
  {trigger : AntecedentFinding → Option AntecedentFindingError}
  {change : AntecedentFinding → AntecedentFinding}

theorem Tabled.eq_of_id (tabled : Tabled rows) {first second : AntecedentFinding}
    (firstMem : first ∈ rows) (secondMem : second ∈ rows)
    (same : first.findingId = second.findingId) : first = second :=
  inj_on_of_nodup_map tabled.ids firstMem secondMem same

/-- A finding that the store takes in. -/
def Insertable (rows : List AntecedentFinding) (finding : AntecedentFinding) : Prop :=
  finding.Admissible ∧ ∀ row ∈ rows, row.findingId ≠ finding.findingId ∧ ¬ row.SameLook finding

theorem insertFinding_eq_ok {finding : AntecedentFinding} {inserted : List AntecedentFinding} :
    insertFinding rows finding = .ok inserted ↔
      Insertable rows finding ∧ inserted = rows ++ [finding] := by
  have fresh : (rows.any fun row => decide (row.findingId = finding.findingId) ||
        decide (row.SameLook finding)) = false ↔
      ∀ row ∈ rows, row.findingId ≠ finding.findingId ∧ ¬ row.SameLook finding := by
    simp
  unfold insertFinding Insertable
  cases refused : finding.refusal AntecedentFinding.requiresConfirmation with
  | some error =>
    have inadmissible : ¬ finding.Admissible := by
      rw [← AntecedentFinding.refusal_requiresConfirmation, refused]
      exact Option.some_ne_none error
    simp [inadmissible]
  | none =>
    have admissible := AntecedentFinding.refusal_requiresConfirmation.mp refused
    rw [← fresh]
    cases rows.any fun row => decide (row.findingId = finding.findingId) ||
        decide (row.SameLook finding) with
    | true => simp
    | false => simp [admissible, eq_comm]

theorem updateFinding_eq_ok {result : Nat × List AntecedentFinding} :
    updateFinding rows findingId trigger change = .ok result ↔
      (∀ row ∈ rows, row.findingId = findingId →
        trigger (change row) = none ∧ (change row).Admissible) ∧
      result = ((rows.filter fun row => decide (row.findingId = findingId)).length,
        TableRows.update (fun row => decide (row.findingId = findingId)) change rows) := by
  have accepted : ((rows.filter fun row => decide (row.findingId = findingId)).findSome?
        fun row => (change row).refusal trigger) = none ↔
      ∀ row ∈ rows, row.findingId = findingId →
        trigger (change row) = none ∧ (change row).Admissible := by
    simp only [List.findSome?_eq_none_iff, mem_filter, decide_eq_true_eq, and_imp,
      AntecedentFinding.refusal_eq_none_iff]
  unfold updateFinding
  rw [← accepted]
  dsimp only
  split
  next error refused => simp [refused]
  next refused =>
    rw [refused, Except.ok.injEq]
    simp only [true_and]
    exact eq_comm

end Statements

section Outcomes

def AntecedentFinding.applied (fails : Bool)
    (trigger : AntecedentFinding → Option AntecedentFindingError)
    (change : AntecedentFinding → AntecedentFinding) (finding : AntecedentFinding) :
    AntecedentFinding :=
  if fails = false ∧ (change finding).refusal trigger = none then change finding else finding

def FindingCall.target : FindingCall → Option String
  | .record _ => none
  | .confirm findingId _ _ _ _ _ => some findingId
  | .markSurfaced findingId _ _ => some findingId
  | .retract findingId _ _ _ => some findingId
  | .dispute findingId _ _ => some findingId

def FindingCall.outcome : FindingCall → AntecedentFinding → AntecedentFinding
  | .record _, finding => finding
  | .confirm _ confirmedAt supportEpisodes effectSize failsEvidence failsState, finding =>
    if failsEvidence = false ∧
        (finding.confirming confirmedAt supportEpisodes effectSize).refusal
          AntecedentFinding.confirmationIsHeldOut = none then
      (finding.confirming confirmedAt supportEpisodes effectSize).applied failsState
        AntecedentFinding.requiresConfirmation (AntecedentFinding.movingTo .confirmed)
    else
      finding
  | .markSurfaced _ surfacedAt fails, finding =>
    finding.applied fails AntecedentFinding.requiresConfirmation
      (AntecedentFinding.surfacing surfacedAt)
  | .retract _ retractedAt reason fails, finding =>
    finding.applied fails AntecedentFinding.requiresConfirmation
      (AntecedentFinding.retracting retractedAt reason)
  | .dispute _ disputedAt fails, finding =>
    finding.applied fails AntecedentFinding.requiresConfirmation
      (AntecedentFinding.disputing disputedAt)

/-- The rows of a table with the row under one identifier changed. -/
def changeRow (findingId : String) (change : AntecedentFinding → AntecedentFinding)
    (rows : List AntecedentFinding) : List AntecedentFinding :=
  TableRows.update (fun row => decide (row.findingId = findingId)) change rows

variable {rows : List AntecedentFinding} {findingId : String}
  {trigger : AntecedentFinding → Option AntecedentFindingError}
  {change other : AntecedentFinding → AntecedentFinding}

theorem mem_changeRow {row : AntecedentFinding} : row ∈ changeRow findingId change rows ↔
      (row ∈ rows ∧ row.findingId ≠ findingId) ∨
        ∃ old ∈ rows, old.findingId = findingId ∧ row = change old := by
  rw [changeRow, TableRows.mem_update]
  simp only [decide_eq_false_iff_not, decide_eq_true_eq]

theorem changeRow_congr (agree : ∀ row ∈ rows, row.findingId = findingId → change row = other row) :
    changeRow findingId change rows = changeRow findingId other rows := by
  refine map_congr_left fun row member => ?_
  by_cases chosen : row.findingId = findingId
  · simp [chosen, agree row member chosen]
  · simp [chosen]

theorem changeRow_self (same : ∀ row ∈ rows, row.findingId = findingId → change row = row) :
    changeRow findingId change rows = rows := by
  refine TableRows.update_eq_self_iff.mpr fun row member chosen => ?_
  exact same row member (of_decide_eq_true chosen)

theorem changeRow_changeRow (keeps : ∀ row, (change row).findingId = row.findingId) :
    changeRow findingId other (changeRow findingId change rows) =
      changeRow findingId (other ∘ change) rows := by
  simp only [changeRow, TableRows.update, map_map]
  refine map_congr_left fun row _ => ?_
  by_cases chosen : row.findingId = findingId
  · simp [chosen, keeps row]
  · simp [chosen]

theorem Tabled.changeRow (tabled : Tabled rows)
    (keeps : ∀ row, (change row).findingId = row.findingId)
    (checked : ∀ row ∈ rows, row.findingId = findingId → (change row).Admissible) :
    Tabled (changeRow findingId change rows) := by
  refine ⟨?_, fun row member => ?_⟩
  · rw [Velvt.changeRow, TableRows.map_update keeps]
    exact tabled.ids
  · rcases mem_changeRow.mp member with ⟨held, -⟩ | ⟨old, oldMem, chosen, rfl⟩
    · exact tabled.admissible row held
    · exact checked old oldMem chosen

theorem AntecedentFinding.Admissible.applied {finding : AntecedentFinding}
    (admissible : finding.Admissible) (fails : Bool) :
    (finding.applied fails trigger change).Admissible := by
  rw [AntecedentFinding.applied]
  split
  next accepted => exact (refusal_eq_none_iff.mp accepted.2).2
  next => exact admissible

theorem Tabled.updateOne_rows (tabled : Tabled rows) (fails : Bool) :
    (updateOne rows findingId trigger change fails).2 =
      Velvt.changeRow findingId (AntecedentFinding.applied fails trigger change) rows := by
  cases fails with
  | true =>
    refine (changeRow_self fun row _ _ => ?_).symm
    simp [AntecedentFinding.applied]
  | false =>
    cases updated : updateFinding rows findingId trigger change with
    | ok result =>
      obtain ⟨accepted, rfl⟩ := updateFinding_eq_ok.mp updated
      simp only [updateOne, updated, Bool.false_eq_true, if_false]
      refine changeRow_congr fun row member chosen => ?_
      rw [AntecedentFinding.applied, if_pos]
      exact ⟨rfl, AntecedentFinding.refusal_eq_none_iff.mpr (accepted row member chosen)⟩
    | error error =>
      simp only [updateOne, updated, Bool.false_eq_true, if_false]
      refine (changeRow_self fun row member chosen => ?_).symm
      rw [AntecedentFinding.applied, if_neg]
      rintro ⟨-, accepted⟩
      have passes : ∀ row ∈ rows, row.findingId = findingId →
          trigger (change row) = none ∧ (change row).Admissible := by
        intro another anotherMem alike
        rw [tabled.eq_of_id anotherMem member (alike.trans chosen.symm)]
        exact AntecedentFinding.refusal_eq_none_iff.mp accepted
      have done := updateFinding_eq_ok.mpr ⟨passes, rfl⟩
      rw [updated] at done
      cases done

theorem updateOne_answer {fails : Bool} :
    (updateOne rows findingId trigger change fails).1 = .updated true ↔
      fails = false ∧ (∃ row ∈ rows, row.findingId = findingId) ∧
        ∀ row ∈ rows, row.findingId = findingId → (change row).refusal trigger = none := by
  cases fails with
  | true => simp [updateOne]
  | false =>
    simp only [AntecedentFinding.refusal_eq_none_iff]
    cases updated : updateFinding rows findingId trigger change with
    | ok result =>
      obtain ⟨accepted, rfl⟩ := updateFinding_eq_ok.mp updated
      simp only [updateOne, updated, Bool.false_eq_true, if_false,
        FindingAnswer.updated.injEq, decide_eq_true_eq, length_pos_iff_exists_mem,
        mem_filter, true_and]
      exact ⟨fun found => ⟨found, accepted⟩, And.left⟩
    | error error =>
      simp only [updateOne, updated, Bool.false_eq_true, if_false, reduceCtorEq, false_iff]
      rintro ⟨-, -, accepted⟩
      have done := updateFinding_eq_ok.mpr ⟨accepted, rfl⟩
      rw [updated] at done
      cases done

theorem FindingCall.outcome_findingId (call : FindingCall) (finding : AntecedentFinding) :
    (call.outcome finding).findingId = finding.findingId := by
  cases call with
  | record _ => rfl
  | confirm findingId confirmedAt supportEpisodes effectSize failsEvidence failsState =>
    rw [outcome]
    split
    · rw [AntecedentFinding.applied]
      split <;> rfl
    · rfl
  | markSurfaced findingId surfacedAt fails =>
    rw [outcome, AntecedentFinding.applied]
    split <;> rfl
  | retract findingId retractedAt reason fails =>
    rw [outcome, AntecedentFinding.applied]
    split <;> rfl
  | dispute findingId disputedAt fails =>
    rw [outcome, AntecedentFinding.applied]
    split <;> rfl

theorem FindingCall.outcome_admissible {finding : AntecedentFinding}
    (admissible : finding.Admissible) (call : FindingCall) :
    (call.outcome finding).Admissible := by
  cases call with
  | record _ => exact admissible
  | confirm findingId confirmedAt supportEpisodes effectSize failsEvidence failsState =>
    rw [outcome]
    split
    next accepted =>
      exact (AntecedentFinding.refusal_eq_none_iff.mp accepted.2).2.applied _
    next => exact admissible
  | markSurfaced findingId surfacedAt fails => exact admissible.applied _
  | retract findingId retractedAt reason fails => exact admissible.applied _
  | dispute findingId disputedAt fails => exact admissible.applied _

theorem Tabled.confirm_rows (tabled : Tabled rows) (confirmedAt : Int) (supportEpisodes : Nat)
    (effectSize : Option ℚ) (failsEvidence failsState : Bool) :
    (confirmAntecedentFinding rows findingId confirmedAt supportEpisodes effectSize failsEvidence
      failsState).2 =
      Velvt.changeRow findingId
        (FindingCall.confirm findingId confirmedAt supportEpisodes effectSize failsEvidence
          failsState).outcome rows := by
  have keeps : ∀ row : AntecedentFinding,
      (row.confirming confirmedAt supportEpisodes effectSize).findingId = row.findingId :=
    fun _ => rfl
  have evidence : (updateOne rows findingId AntecedentFinding.confirmationIsHeldOut
      (AntecedentFinding.confirming confirmedAt supportEpisodes effectSize) failsEvidence).2 = _ :=
    tabled.updateOne_rows failsEvidence
  unfold confirmAntecedentFinding
  split
  next evidenced landed =>
    obtain ⟨works, -, accepted⟩ := updateOne_answer.mp (congrArg Prod.fst landed)
    have rows_eq : evidenced = Velvt.changeRow findingId
        (AntecedentFinding.confirming confirmedAt supportEpisodes effectSize) rows := by
      rw [landed] at evidence
      refine evidence.trans (changeRow_congr fun row member chosen => ?_)
      rw [AntecedentFinding.applied, if_pos ⟨works, accepted row member chosen⟩]
    have evidencedTabled : Tabled evidenced := by
      rw [rows_eq]
      refine tabled.changeRow keeps fun row member chosen => ?_
      exact (AntecedentFinding.refusal_eq_none_iff.mp (accepted row member chosen)).2
    rw [evidencedTabled.updateOne_rows, rows_eq, changeRow_changeRow keeps]
    refine changeRow_congr fun row member chosen => ?_
    rw [FindingCall.outcome, if_pos ⟨works, accepted row member chosen⟩, Function.comp_apply]
  next refused =>
    rw [evidence]
    refine changeRow_congr fun row member chosen => ?_
    have missed : ¬ (failsEvidence = false ∧
        (row.confirming confirmedAt supportEpisodes effectSize).refusal
          AntecedentFinding.confirmationIsHeldOut = none) := by
      rintro ⟨works, accepted⟩
      refine refused _ (Prod.ext (updateOne_answer.mpr ⟨works, ⟨row, member, chosen⟩, ?_⟩) rfl)
      intro other otherMem alike
      rw [tabled.eq_of_id otherMem member (alike.trans chosen.symm)]
      exact accepted
    rw [AntecedentFinding.applied, FindingCall.outcome, if_neg missed, if_neg missed]

theorem Tabled.next_target (tabled : Tabled rows) {call : FindingCall}
    (names : call.target = some findingId) :
    findingMachine.next rows call = Velvt.changeRow findingId call.outcome rows := by
  cases call with
  | record _ => cases names
  | confirm findingId confirmedAt supportEpisodes effectSize failsEvidence failsState =>
    obtain rfl := Option.some.inj names
    exact tabled.confirm_rows confirmedAt supportEpisodes effectSize failsEvidence failsState
  | markSurfaced findingId surfacedAt fails =>
    obtain rfl := Option.some.inj names
    exact tabled.updateOne_rows fails
  | retract findingId retractedAt reason fails =>
    obtain rfl := Option.some.inj names
    exact tabled.updateOne_rows fails
  | dispute findingId disputedAt fails =>
    obtain rfl := Option.some.inj names
    exact tabled.updateOne_rows fails

theorem next_record (finding : AntecedentFinding) :
    (Insertable rows finding ∧ findingMachine.next rows (.record finding) = rows ++ [finding]) ∨
      (¬ Insertable rows finding ∧ findingMachine.next rows (.record finding) = rows) := by
  change (_ ∧ (recordAntecedentFinding rows finding).2 = _) ∨
    (_ ∧ (recordAntecedentFinding rows finding).2 = _)
  unfold recordAntecedentFinding
  cases inserted : insertFinding rows finding with
  | ok result =>
    obtain ⟨insertable, rfl⟩ := insertFinding_eq_ok.mp inserted
    exact .inl ⟨insertable, rfl⟩
  | error error =>
    refine .inr ⟨fun insertable => ?_, rfl⟩
    have done := insertFinding_eq_ok.mpr ⟨insertable, rfl⟩
    rw [inserted] at done
    cases done

theorem FindingCall.target_cases (call : FindingCall) :
    (∃ finding, call = .record finding) ∨ ∃ findingId, call.target = some findingId := by
  cases call with
  | record finding => exact .inl ⟨finding, rfl⟩
  | confirm findingId _ _ _ _ _ => exact .inr ⟨findingId, rfl⟩
  | markSurfaced findingId _ _ => exact .inr ⟨findingId, rfl⟩
  | retract findingId _ _ _ => exact .inr ⟨findingId, rfl⟩
  | dispute findingId _ _ => exact .inr ⟨findingId, rfl⟩

theorem Tabled.next (tabled : Tabled rows) (call : FindingCall) :
    Tabled (findingMachine.next rows call) := by
  rcases call.target_cases with ⟨finding, rfl⟩ | ⟨findingId, names⟩
  · rcases next_record finding with ⟨⟨admissible, fresh⟩, added⟩ | ⟨-, same⟩
    · rw [added]
      refine ⟨?_, fun row member => ?_⟩
      · rw [map_append, map_singleton, nodup_append]
        refine ⟨tabled.ids, nodup_singleton _, ?_⟩
        intro id held newId added same
        obtain ⟨row, member, rfl⟩ := mem_map.mp held
        exact (fresh row member).1 (same.trans (mem_singleton.mp added))
      · rcases mem_append.mp member with held | added
        · exact tabled.admissible row held
        · rw [mem_singleton.mp added]
          exact admissible
    · rw [same]
      exact tabled
  · rw [tabled.next_target names]
    exact tabled.changeRow call.outcome_findingId fun row member _ =>
      call.outcome_admissible (tabled.admissible row member)

theorem tabled_run {rows : List AntecedentFinding} (tabled : Tabled rows)
    (calls : List FindingCall) : Tabled (findingMachine.run rows calls) := by
  have keeps : ∀ (rows : List AntecedentFinding) (call : FindingCall), Tabled rows →
      Tabled (findingMachine.next rows call) := fun _ call before => before.next call
  exact findingMachine.invariant_run_of_forall keeps calls tabled

end Outcomes

section Lawful

/-- A call that cannot break the rule: it records a finding that is neither surfaced nor
confirmed too early, confirms none that was taken back, and surfaces none but a confirmed one. -/
def Careful (rows : List AntecedentFinding) : FindingCall → Prop
  | .record finding => Insertable rows finding → finding.state ≠ .surfaced ∧ finding.HeldOut
  | .confirm findingId confirmedAt supportEpisodes effectSize failsEvidence failsState =>
    failsEvidence = false → failsState = false →
      ∀ row ∈ rows, row.findingId = findingId → row.Retired →
        (row.confirming confirmedAt supportEpisodes effectSize).refusal
          AntecedentFinding.confirmationIsHeldOut ≠ none
  | .markSurfaced findingId _ fails =>
    fails = false → ∀ row ∈ rows, row.findingId = findingId →
      row.state = .confirmed ∨ row.state = .surfaced ∨ row.confirmedAt = none
  | .retract _ _ _ _ => True
  | .dispute _ _ _ => True

/-- A finding that is surfaced was surfaced or confirmed before. -/
def SurfacedFrom (rows later : List AntecedentFinding) : Prop :=
  ∀ row ∈ later, row.state = .surfaced →
    ∃ old ∈ rows, old.findingId = row.findingId ∧ (old.state = .surfaced ∨ old.state = .confirmed)

/-- A finding that was taken back stays so. -/
def KeepsRetired (rows later : List AntecedentFinding) : Prop :=
  ∀ old ∈ rows, old.Retired → ∃ row ∈ later, row.findingId = old.findingId ∧ row.Retired

variable {rows : List AntecedentFinding}

variable {finding : AntecedentFinding}

theorem AntecedentFinding.Retired.not_confirmed
    (retired : finding.Retired) : finding.state ≠ .confirmed ∧ finding.state ≠ .surfaced := by
  rcases retired with retracted | disputed
  · simp [retracted]
  · simp [disputed]

theorem AntecedentFinding.confirmed_of_surfacing {surfacedAt : Int}
    (checked : (finding.surfacing surfacedAt).Admissible) : finding.confirmedAt ≠ none := by
  have confirmed : finding.confirmedAt.isSome = true :=
    checked.surfacedConfirmed.resolve_left (Option.some_ne_none surfacedAt)
  exact Option.isSome_iff_ne_none.mp confirmed

theorem AntecedentFinding.Admissible.surfacing
    (admissible : finding.Admissible) (confirmed : finding.confirmedAt ≠ none) (surfacedAt : Int) :
    (finding.surfacing surfacedAt).Admissible :=
  { admissible with
    surfacedConfirmed := .inr (Option.isSome_iff_ne_none.mpr confirmed)
    stateConfirmed := .inr (Option.isSome_iff_ne_none.mpr confirmed) }

theorem AntecedentFinding.Admissible.movingTo_confirmed
    (admissible : finding.Admissible) : (finding.movingTo .confirmed).Admissible :=
  { admissible with stateConfirmed := .inl AntecedentFindingState.noConfusion }

theorem FindingCall.outcome_heldOut (heldOut : finding.HeldOut)
    (call : FindingCall) : (call.outcome finding).HeldOut := by
  cases call with
  | record _ => exact heldOut
  | confirm findingId confirmedAt supportEpisodes effectSize failsEvidence failsState =>
    rw [outcome]
    split
    next accepted =>
      have later := AntecedentFinding.confirmationIsHeldOut_eq_none_iff.mp
        (AntecedentFinding.refusal_eq_none_iff.mp accepted.2).1
      rw [AntecedentFinding.applied]
      split <;> exact later
    next => exact heldOut
  | markSurfaced findingId surfacedAt fails =>
    rw [outcome, AntecedentFinding.applied]
    split <;> exact heldOut
  | retract findingId retractedAt reason fails =>
    rw [outcome, AntecedentFinding.applied]
    split <;> exact heldOut
  | dispute findingId disputedAt fails =>
    rw [outcome, AntecedentFinding.applied]
    split <;> exact heldOut

variable {call : FindingCall} {row : AntecedentFinding}

/-- What a call can make of the state of the row that it names. -/
theorem Careful.outcome_state {findingId : String}
    (careful : Careful rows call) (names : call.target = some findingId) (member : row ∈ rows)
    (chosen : row.findingId = findingId) :
    (call.outcome row).state = row.state ∨
      (call.outcome row).state = .confirmed ∧ ¬ row.Retired ∨
      (call.outcome row).state = .surfaced ∧ (row.state = .confirmed ∨ row.state = .surfaced) ∨
      (call.outcome row).Retired := by
  cases call with
  | record _ => cases names
  | confirm findingId confirmedAt supportEpisodes effectSize failsEvidence failsState =>
    obtain rfl := Option.some.inj names
    rw [FindingCall.outcome]
    split
    next accepted =>
      rw [AntecedentFinding.applied]
      split
      next moved =>
        refine .inr (.inl ⟨rfl, fun retired => ?_⟩)
        exact careful accepted.1 moved.1 row member chosen retired accepted.2
      next => exact .inl rfl
    next => exact .inl rfl
  | markSurfaced findingId surfacedAt fails =>
    obtain rfl := Option.some.inj names
    rw [FindingCall.outcome, AntecedentFinding.applied]
    split
    next accepted =>
      have checked := (AntecedentFinding.refusal_eq_none_iff.mp accepted.2).2
      rcases careful accepted.1 row member chosen with confirmed | already | unconfirmed
      · exact .inr (.inr (.inl ⟨rfl, .inl confirmed⟩))
      · exact .inr (.inr (.inl ⟨rfl, .inr already⟩))
      · exact absurd unconfirmed (AntecedentFinding.confirmed_of_surfacing checked)
    next => exact .inl rfl
  | retract findingId retractedAt reason fails =>
    rw [FindingCall.outcome, AntecedentFinding.applied]
    split
    · exact .inr (.inr (.inr (.inl rfl)))
    · exact .inl rfl
  | dispute findingId disputedAt fails =>
    rw [FindingCall.outcome, AntecedentFinding.applied]
    split
    · exact .inr (.inr (.inr (.inr rfl)))
    · exact .inl rfl

theorem Careful.outcome_surfaced {findingId : String}
    (careful : Careful rows call) (names : call.target = some findingId) (member : row ∈ rows)
    (chosen : row.findingId = findingId)
    (surfaced : (call.outcome row).state = .surfaced) :
    row.state = .surfaced ∨ row.state = .confirmed := by
  rcases careful.outcome_state names member chosen with same | ⟨confirmed, -⟩ | ⟨-, before⟩ | retired
  · exact .inl (same.symm.trans surfaced)
  · cases confirmed.symm.trans surfaced
  · exact before.symm
  · exact absurd surfaced retired.not_confirmed.2

theorem Careful.outcome_retired {findingId : String}
    (careful : Careful rows call) (names : call.target = some findingId) (member : row ∈ rows)
    (chosen : row.findingId = findingId)
    (retired : row.Retired) : (call.outcome row).Retired := by
  rcases careful.outcome_state names member chosen with same | ⟨-, live⟩ | ⟨-, before⟩ | later
  · rwa [AntecedentFinding.Retired, same]
  · exact absurd retired live
  · exact absurd before (not_or.mpr retired.not_confirmed)
  · exact later

theorem surfacedFrom_refl : SurfacedFrom rows rows :=
  fun row member surfaced => ⟨row, member, rfl, .inl surfaced⟩

theorem keepsRetired_refl : KeepsRetired rows rows :=
  fun old member retired => ⟨old, member, rfl, retired⟩

theorem Careful.lawful (careful : Careful rows call) (tabled : Tabled rows)
    (heldOut : ∀ row ∈ rows, row.HeldOut) :
    SurfacedFrom rows (findingMachine.next rows call) ∧
      KeepsRetired rows (findingMachine.next rows call) ∧
        ∀ row ∈ findingMachine.next rows call, row.HeldOut := by
  rcases call.target_cases with ⟨finding, rfl⟩ | ⟨findingId, names⟩
  · rcases next_record finding with ⟨insertable, added⟩ | ⟨-, same⟩
    · obtain ⟨unsurfaced, later⟩ := careful insertable
      rw [added]
      refine ⟨fun row member surfaced => ?_, fun old member retired => ?_, fun row member => ?_⟩
      · rcases mem_append.mp member with held | new
        · exact surfacedFrom_refl row held surfaced
        · rw [mem_singleton.mp new] at surfaced
          exact absurd surfaced unsurfaced
      · exact ⟨old, mem_append_left _ member, rfl, retired⟩
      · rcases mem_append.mp member with held | new
        · exact heldOut row held
        · rw [mem_singleton.mp new]
          exact later
    · rw [same]
      exact ⟨surfacedFrom_refl, keepsRetired_refl, heldOut⟩
  · rw [tabled.next_target names]
    refine ⟨fun row member surfaced => ?_, fun old member retired => ?_, fun row member => ?_⟩
    · rcases mem_changeRow.mp member with ⟨held, -⟩ | ⟨old, oldMem, chosen, rfl⟩
      · exact surfacedFrom_refl row held surfaced
      · exact ⟨old, oldMem, (call.outcome_findingId old).symm,
          careful.outcome_surfaced names oldMem chosen surfaced⟩
    · by_cases chosen : old.findingId = findingId
      · exact ⟨call.outcome old, mem_changeRow.mpr (.inr ⟨old, member, chosen, rfl⟩),
          call.outcome_findingId old, careful.outcome_retired names member chosen retired⟩
      · exact ⟨old, mem_changeRow.mpr (.inl ⟨member, chosen⟩), rfl, retired⟩
    · rcases mem_changeRow.mp member with ⟨held, -⟩ | ⟨old, oldMem, -, rfl⟩
      · exact heldOut row held
      · exact call.outcome_heldOut (heldOut old oldMem)

/-- A call that leaves the rule intact is careful. -/
theorem Tabled.careful (tabled : Tabled rows)
    (surfacedFrom : SurfacedFrom rows (findingMachine.next rows call))
    (retired : ∀ old ∈ rows, old.Retired → ∀ row ∈ findingMachine.next rows call,
      row.findingId = old.findingId → row.state ≠ .confirmed)
    (heldOut : ∀ row ∈ findingMachine.next rows call, row.HeldOut) : Careful rows call := by
  cases call with
  | record finding =>
    intro insertable
    have added : findingMachine.next rows (.record finding) = rows ++ [finding] := by
      rcases next_record finding with ⟨-, added⟩ | ⟨refused, -⟩
      · exact added
      · exact absurd insertable refused
    rw [added] at surfacedFrom heldOut
    have new : finding ∈ rows ++ [finding] := by simp
    refine ⟨fun surfaced => ?_, heldOut finding new⟩
    obtain ⟨old, oldMem, same, -⟩ := surfacedFrom finding new surfaced
    exact (insertable.2 old oldMem).1 same
  | confirm findingId confirmedAt supportEpisodes effectSize failsEvidence failsState =>
    intro works moves row member chosen wasRetired accepted
    have evidenced := (AntecedentFinding.refusal_eq_none_iff.mp accepted).2
    have confirmed : (FindingCall.confirm findingId confirmedAt supportEpisodes effectSize
        failsEvidence failsState).outcome row =
        (row.confirming confirmedAt supportEpisodes effectSize).movingTo .confirmed := by
      rw [FindingCall.outcome, if_pos ⟨works, accepted⟩, AntecedentFinding.applied, if_pos]
      exact ⟨moves, AntecedentFinding.refusal_requiresConfirmation.mpr evidenced.movingTo_confirmed⟩
    rw [tabled.next_target rfl] at retired
    refine retired row member wasRetired _ (mem_changeRow.mpr (.inr ⟨row, member, chosen, rfl⟩))
      (FindingCall.outcome_findingId _ _) ?_
    rw [confirmed]
    rfl
  | markSurfaced findingId surfacedAt fails =>
    intro works row member chosen
    by_contra refuted
    obtain ⟨unconfirmed, fresh, present⟩ :
        row.state ≠ .confirmed ∧ row.state ≠ .surfaced ∧ row.confirmedAt ≠ none := by
      simpa using refuted
    have surfaced : (FindingCall.markSurfaced findingId surfacedAt fails).outcome row =
        row.surfacing surfacedAt := by
      rw [FindingCall.outcome, AntecedentFinding.applied, if_pos]
      exact ⟨works, AntecedentFinding.refusal_requiresConfirmation.mpr
        ((tabled.admissible row member).surfacing present surfacedAt)⟩
    rw [tabled.next_target rfl] at surfacedFrom
    obtain ⟨old, oldMem, same, before⟩ := surfacedFrom _
      (mem_changeRow.mpr (.inr ⟨row, member, chosen, rfl⟩)) (by rw [surfaced]; rfl)
    rw [FindingCall.outcome_findingId] at same
    rw [tabled.eq_of_id oldMem member same] at before
    exact before.elim fresh unconfirmed
  | retract _ _ _ _ => trivial
  | dispute _ _ _ => trivial

/-- A run in which findings are surfaced only from `confirmed`, never come back once they were
taken back, and are confirmed only after their discovery window. -/
structure SurfacedOnlyHeldOut (calls : List FindingCall) : Prop where
  surfaced : ∀ before call after, calls = before ++ call :: after →
    SurfacedFrom (findingMachine.run [] before)
      (findingMachine.next (findingMachine.run [] before) call)
  retired : ∀ before between after, calls = before ++ between ++ after →
    ∀ old ∈ findingMachine.run [] before, old.Retired →
      ∀ row ∈ findingMachine.run [] (before ++ between), row.findingId = old.findingId →
        row.state ≠ .confirmed ∧ row.state ≠ .surfaced
  heldOut : ∀ before after, calls = before ++ after →
    ∀ row ∈ findingMachine.run [] before, row.HeldOut

theorem tabled_nil : Tabled [] :=
  ⟨nodup_nil, fun _ member => absurd member not_mem_nil⟩

theorem heldOut_run (tabled : Tabled rows) (heldOut : ∀ row ∈ rows, row.HeldOut)
    {calls : List FindingCall} (careful : findingMachine.Meets Careful rows calls) :
    ∀ row ∈ findingMachine.run rows calls, row.HeldOut := by
  have keeps : ∀ (rows : List AntecedentFinding) (call : FindingCall),
      (Tabled rows ∧ ∀ row ∈ rows, row.HeldOut) → Careful rows call →
        Tabled (findingMachine.next rows call) ∧
          ∀ row ∈ findingMachine.next rows call, row.HeldOut :=
    fun rows call before careful =>
      ⟨before.1.next call, (careful.lawful before.1 before.2).2.2⟩
  exact (findingMachine.invariant_run keeps ⟨tabled, heldOut⟩ careful).2

theorem keepsRetired_run (tabled : Tabled rows) (heldOut : ∀ row ∈ rows, row.HeldOut)
    {calls : List FindingCall} (careful : findingMachine.Meets Careful rows calls) :
    KeepsRetired rows (findingMachine.run rows calls) := by
  induction calls generalizing rows with
  | nil => exact keepsRetired_refl
  | cons call calls ih =>
    intro old member retired
    obtain ⟨-, keeps, later⟩ := careful.1.lawful tabled heldOut
    obtain ⟨row, rowMem, same, stillRetired⟩ := keeps old member retired
    obtain ⟨last, lastMem, alike, lastRetired⟩ :=
      ih (tabled.next call) later careful.2 row rowMem stillRetired
    exact ⟨last, lastMem, alike.trans same, lastRetired⟩

/-- A run keeps the rule exactly when each of its calls is careful. -/
theorem findings_surface_only_held_out (calls : List FindingCall) :
    SurfacedOnlyHeldOut calls ↔ findingMachine.Meets Careful [] calls := by
  have tabled (before : List FindingCall) : Tabled (findingMachine.run [] before) :=
    tabled_run tabled_nil before
  constructor
  · intro lawful
    induction calls using List.reverseRecOn with
    | nil => trivial
    | append_singleton before call ih =>
      rw [findingMachine.meets_append]
      refine ⟨ih ⟨?_, ?_, ?_⟩, ?_, trivial⟩
      · rintro earlier other after rfl
        exact lawful.surfaced earlier other (after ++ [call]) (by simp)
      · rintro earlier between after rfl
        exact lawful.retired earlier between (after ++ [call]) (by simp)
      · rintro earlier after rfl
        exact lawful.heldOut earlier (after ++ [call]) (by simp)
      · refine (tabled before).careful (lawful.surfaced before call [] rfl) ?_ ?_
        · intro old oldMem retired row member same
          exact (lawful.retired before [call] [] (by simp) old oldMem retired row
            (by simpa using member) same).1
        · simpa using lawful.heldOut (before ++ [call]) [] (by simp)
  · intro careful
    have none : ∀ row ∈ ([] : List AntecedentFinding), row.HeldOut :=
      fun _ member => absurd member not_mem_nil
    have heldOut {before after : List FindingCall} (split : calls = before ++ after) :
        ∀ row ∈ findingMachine.run [] before, row.HeldOut := by
      rw [split, findingMachine.meets_append] at careful
      exact heldOut_run tabled_nil none careful.1
    refine ⟨?_, ?_, fun before after split => heldOut split⟩
    · intro before call after split
      have earlier := heldOut split
      rw [split, findingMachine.meets_append] at careful
      exact (careful.2.1.lawful (tabled before) earlier).1
    · intro before between after split old oldMem retired row member same
      have earlier := heldOut (split.trans (append_assoc _ _ _))
      rw [split, findingMachine.meets_append, findingMachine.meets_append] at careful
      obtain ⟨last, lastMem, alike, lastRetired⟩ :=
        keepsRetired_run (tabled before) earlier careful.1.2 old oldMem retired
      rw [← findingMachine.run_append] at lastMem
      rw [(tabled (before ++ between)).eq_of_id member lastMem (same.trans alike.symm)]
      exact lastRetired.not_confirmed

end Lawful

def sampleFinding : AntecedentFinding where
  findingId := "finding"
  candidateId := "prevcat_COMMUNICATION"
  candidateRegistryVersion := 1
  discoveredAt := 1800000000
  discoveryWindowStart := "2026-06-01"
  discoveryWindowEnd := "2026-07-15"
  supportEpisodes := 96
  effectSize := some (-31 / 100)
  qValue := some (21 / 1000)
  confirmedAt := none
  confirmSupportEpisodes := none
  confirmEffectSize := none
  state := .candidate
  surfacedAt := none
  retractedAt := none
  retractionReason := none
  userDisputedAt := none

/-- The second statement of the confirmation fails, and the finding is surfaced all the same. -/
theorem candidate_is_surfaced : ¬ ∀ calls, SurfacedOnlyHeldOut calls := by
  intro lawful
  have surfaced := (lawful _).surfaced
    [.record sampleFinding, .confirm "finding" 1786000000 61 (some (-27 / 100)) false true]
    (.markSurfaced "finding" 1786100000 false) [] rfl
  unfold SurfacedFrom at surfaced
  revert surfaced
  decide +kernel

end Velvt
