import Mathlib.Data.List.Induction
import Velvt.FocusEvidence

/-!
# Consent to quiet hours

The pattern rule records a trigger, a morning returns the offer, and a reply settles it.
-/

namespace Velvt

open StepMachine List Option

namespace FocusTables

variable (tables : FocusTables)

def observed (report : FocusReport) : FocusTables :=
  ((tables.setUtcOffset (clampOffset report.utcOffsetSeconds) report.now).pruneFocusEvidence
    (report.now - Duration.days focusEvidenceRetentionDays)).recordFocusTransition
      (transitionOf report)

theorem observed_settings (report : FocusReport) :
    (tables.observed report).quietHours = tables.quietHours ∧
      (tables.observed report).quietHoursOfferState = tables.quietHoursOfferState := by
  unfold observed recordFocusTransition
  split
  · exact ⟨rfl, rfl⟩
  · exact ⟨rfl, rfl⟩

def triggers (now : Int) : Bool :=
  !(tables.quietHours.isSome || tables.offerHolds now) &&
    tables.utcOffsetSeconds.any fun offsetSeconds =>
      let lookback := recentLocalDates now offsetSeconds lateNightLookbackDays
      decide (lateNightMinDistinctDays ≤
        ((tables.focusActiveDatesInHours lateNightHours).filter lookback.contains).length)

theorem evaluatePatternRule_eq (now : Int) : tables.evaluatePatternRule now =
      if tables.triggers now = true then
        tables.recordQuietHoursTrigger dndPatternRuleVersion now
      else
        tables := by
  unfold evaluatePatternRule triggers
  cases tables.quietHours.isSome || tables.offerHolds now with
  | true => rfl
  | false =>
    cases tables.utcOffsetSeconds with
    | none => rfl
    | some offsetSeconds => simp

def reply : Option QuietHoursOfferResponse := tables.quietHoursOfferState.bind (·.response)

def awaitsReply : Bool :=
  tables.quietHoursOfferState.any fun state => state.offeredAt.isSome && state.response.isNone

end FocusTables

/-- A call of the focus manager. -/
inductive FocusCall
  | recordTransition (report : FocusReport)
  | pendingMorningOffer (now : Int)
  | respondToOffer (accepted : Bool) (now : Int)

namespace FocusCall

def now : FocusCall → Int
  | recordTransition report => report.now
  | pendingMorningOffer now | respondToOffer _ now => now

def IsReply : FocusCall → Prop
  | respondToOffer _ _ => True
  | _ => False

/-- The call records a trigger. -/
def Triggers (tables : FocusTables) : FocusCall → Prop
  | recordTransition report => (tables.observed report).triggers report.now = true
  | _ => False

/-- An acceptance answers a returned offer, or repeats what is configured already. -/
def Asked (tables : FocusTables) : FocusCall → Prop
  | respondToOffer true _ => tables.quietHours.isSome = true ∨ tables.awaitsReply = true
  | _ => True

instance (tables : FocusTables) (call : FocusCall) : Decidable (call.Asked tables) := by
  unfold Asked
  split <;> infer_instance

end FocusCall

/-- The focus manager with its offers: a call answers with the offer that it returns. -/
def offerMachine : Machine FocusTables FocusCall (Option QuietHoursOffer) where
  step tables
    | .recordTransition report => (none, tables.recordTransition report)
    | .pendingMorningOffer now => tables.pendingMorningOffer now
    | .respondToOffer accepted now => (none, tables.respondToOffer accepted now)

section Steps

variable {tables : FocusTables} {call : FocusCall}

theorem triggers_finds (triggered : call.Triggers tables) :
    tables.quietHours = none ∧ tables.offerHolds call.now = false := by
  cases call with
  | recordTransition report =>
    obtain ⟨sameHours, sameOffer⟩ := tables.observed_settings report
    have isTriggered : (tables.observed report).triggers report.now = true := triggered
    simp only [FocusTables.triggers, FocusTables.offerHolds, sameHours, sameOffer,
      Bool.and_eq_true, Bool.not_eq_true', Bool.or_eq_false_iff] at isTriggered
    exact ⟨by simpa using isTriggered.1.1, isTriggered.1.2⟩
  | pendingMorningOffer now => exact triggered.elim
  | respondToOffer accepted now => exact triggered.elim

theorem recordTransition_settings (report : FocusReport) :
    (tables.recordTransition report).quietHours = tables.quietHours ∧
      ((tables.recordTransition report).quietHoursOfferState = tables.quietHoursOfferState ∧
          ¬ (FocusCall.recordTransition report).Triggers tables ∨
        (tables.recordTransition report).quietHoursOfferState = some
              { ruleVersion := dndPatternRuleVersion
                triggeredAt := some (timestamp report.now)
                offeredAt := none
                response := none
                respondedAt := none } ∧
          (FocusCall.recordTransition report).Triggers tables) := by
  obtain ⟨sameHours, sameOffer⟩ := tables.observed_settings report
  have isRule : tables.recordTransition report =
      (tables.observed report).evaluatePatternRule report.now := rfl
  rw [isRule, FocusTables.evaluatePatternRule_eq]
  split
  next triggered => exact ⟨sameHours, Or.inr ⟨rfl, triggered⟩⟩
  next silent => exact ⟨sameHours, Or.inl ⟨sameOffer, silent⟩⟩

theorem pendingMorningOffer_cases (now : Int) : tables.pendingMorningOffer now = (none, tables) ∨
      ∃ offer state, tables.quietHoursOfferState = some state ∧ state.response = none ∧
        state.triggeredAt.isSome = true ∧
        tables.pendingMorningOffer now = (some offer, tables.recordQuietHoursOffered now) := by
  unfold FocusTables.pendingMorningOffer
  split
  next state offsetSeconds isState isOffset =>
    split
    next triggeredAt noResponse isTriggered =>
      simp only
      split
      · exact Or.inl rfl
      · exact Or.inr ⟨_, state, isState, noResponse, by rw [isTriggered]; rfl, rfl⟩
    next => exact Or.inl rfl
  next => exact Or.inl rfl

theorem respondToOffer_offer (accepted : Bool) (now : Int) :
    (tables.respondToOffer accepted now).quietHoursOfferState =
      tables.quietHoursOfferState.map fun state =>
        if state.response = none then
          { state with
            response := some (if accepted then .accepted else .declined)
            respondedAt := some (timestamp now) }
        else
          state := by
  cases accepted <;> rfl

end Steps

/-- What holds of the tables whoever replies, and when. -/
structure FocusTables.Settled (tables : FocusTables) : Prop where
  triggered : ∀ state ∈ tables.quietHoursOfferState, state.triggeredAt.isSome = true
  answered : tables.quietHours.isSome = true →
    ∀ state ∈ tables.quietHoursOfferState, state.response.isSome = true
  configured : tables.reply = some .accepted → tables.quietHours.isSome = true

namespace FocusTables.Settled

variable {tables : FocusTables}

theorem empty : FocusTables.empty.Settled := by
  constructor
  · intro state isState
    cases isState
  · intro configured
    cases configured
  · intro isAccepted
    cases isAccepted

theorem silent (settled : tables.Settled) {call : FocusCall} {state : QuietHoursOfferState}
    (isState : tables.quietHoursOfferState = some state) (unanswered : state.response = none) :
    ¬ call.Triggers tables := by
  intro triggered
  have free := (triggers_finds triggered).2
  have waits := settled.triggered state isState
  simp only [FocusTables.offerHolds, isState, unanswered, waits] at free
  cases free

theorem next (settled : tables.Settled) (call : FocusCall) :
    (offerMachine.next tables call).Settled := by
  cases call with
  | recordTransition report =>
    change (tables.recordTransition report).Settled
    obtain ⟨sameHours, sameOffer⟩ := @recordTransition_settings tables report
    rcases sameOffer with ⟨sameOffer, -⟩ | ⟨isNew, triggered⟩
    · constructor
      · rw [sameOffer]
        exact settled.triggered
      · rw [sameHours, sameOffer]
        exact settled.answered
      · rw [FocusTables.reply, sameHours, sameOffer]
        exact settled.configured
    · constructor
      · rw [isNew]
        rintro state ⟨⟩
        rfl
      · rw [sameHours, (triggers_finds triggered).1]
        intro configured
        cases configured
      · rw [FocusTables.reply, isNew]
        intro isAccepted
        cases isAccepted
  | pendingMorningOffer now =>
    change (tables.pendingMorningOffer now).2.Settled
    rcases @pendingMorningOffer_cases tables now with same | ⟨offer, state, isState, -, -, isNext⟩
    · rw [same]
      exact settled
    · rw [isNext]
      constructor
      · simp only [recordQuietHoursOffered, isState, map_some]
        rintro offered ⟨⟩
        exact settled.triggered state isState
      · intro configured
        simp only [recordQuietHoursOffered, isState, map_some]
        rintro offered ⟨⟩
        exact settled.answered configured state isState
      · intro isAccepted
        simp only [FocusTables.reply, recordQuietHoursOffered, isState, map_some,
          bind_some] at isAccepted
        refine settled.configured ?_
        rw [FocusTables.reply, isState]
        exact isAccepted
  | respondToOffer accepted now =>
    change (tables.respondToOffer accepted now).Settled
    have answers (state : QuietHoursOfferState)
        (isState : state ∈ (tables.respondToOffer accepted now).quietHoursOfferState) :
        state.triggeredAt.isSome = true ∧ state.response.isSome = true := by
      rw [respondToOffer_offer, mem_def, map_eq_some_iff] at isState
      obtain ⟨before, isBefore, rfl⟩ := isState
      have triggered := settled.triggered before isBefore
      split
      next => exact ⟨triggered, rfl⟩
      next answered => exact ⟨triggered, isSome_iff_ne_none.mpr answered⟩
    refine ⟨fun state isState => (answers state isState).1,
      fun _ state isState => (answers state isState).2, ?_⟩
    intro isAccepted
    cases accepted with
    | true => rfl
    | false =>
      refine settled.configured ?_
      rw [FocusTables.reply, respondToOffer_offer] at isAccepted
      rw [FocusTables.reply]
      cases isState : tables.quietHoursOfferState with
      | none =>
        rw [isState] at isAccepted
        cases isAccepted
      | some state =>
        rw [isState] at isAccepted
        simp only [map_some, bind_some] at isAccepted ⊢
        split at isAccepted
        next => cases isAccepted
        next => exact isAccepted

theorem run (calls : List FocusCall) : (offerMachine.run .empty calls).Settled :=
  offerMachine.invariant_run_of_forall (fun _ call settled => settled.next call) calls empty

end FocusTables.Settled

section Replies

variable {tables : FocusTables} {state : QuietHoursOfferState}

theorem answered_offer_next (isState : tables.quietHoursOfferState = some state)
    (answered : state.response.isSome = true) {call : FocusCall} (silent : ¬ call.Triggers tables) :
    (offerMachine.next tables call).quietHoursOfferState = some state := by
  have replied : state.response ≠ none := isSome_iff_ne_none.mp answered
  cases call with
  | recordTransition report =>
    rcases (@recordTransition_settings tables report).2 with ⟨same, -⟩ | ⟨-, triggered⟩
    · exact same.trans isState
    · exact absurd triggered silent
  | pendingMorningOffer now =>
    rcases @pendingMorningOffer_cases tables now with
      same | ⟨offer, waiting, isWaiting, noResponse, -, -⟩
    · change (tables.pendingMorningOffer now).2.quietHoursOfferState = some state
      rw [same]
      exact isState
    · rw [isState] at isWaiting
      cases isWaiting
      exact absurd noResponse replied
  | respondToOffer accepted now =>
    change (tables.respondToOffer accepted now).quietHoursOfferState = some state
    rw [respondToOffer_offer, isState, map_some, if_neg replied]

theorem answered_offer_run (isState : tables.quietHoursOfferState = some state)
    (answered : state.response.isSome = true) {calls : List FocusCall}
    (silent : offerMachine.Meets (fun tables call => ¬ call.Triggers tables) tables calls) :
    (offerMachine.run tables calls).quietHoursOfferState = some state := by
  have keeps : ∀ tables call, tables.quietHoursOfferState = some state → ¬ call.Triggers tables →
      (offerMachine.next tables call).quietHoursOfferState = some state :=
    fun tables call isState silent => answered_offer_next isState answered silent
  exact offerMachine.invariant_run keeps isState silent

theorem answer_finds {call : FocusCall} {offer : QuietHoursOffer}
    (returned : offerMachine.answer tables call = some offer) :
    ∃ now state, call = .pendingMorningOffer now ∧ tables.quietHoursOfferState = some state ∧
      state.response = none := by
  cases call with
  | recordTransition report => cases returned
  | respondToOffer accepted now => cases returned
  | pendingMorningOffer now =>
    rcases @pendingMorningOffer_cases tables now with
      same | ⟨offer, state, isState, noResponse, -, -⟩
    · change (tables.pendingMorningOffer now).1 = some offer at returned
      rw [same] at returned
      cases returned
    · exact ⟨now, state, rfl, isState, noResponse⟩

theorem quietHours_next (call : FocusCall) (unset : tables.quietHours = none) :
    (offerMachine.next tables call).quietHours.isSome = true ↔
      ∃ now, call = .respondToOffer true now := by
  cases call with
  | recordTransition report =>
    refine iff_of_false ?_ ?_
    · change ¬ (tables.recordTransition report).quietHours.isSome = true
      rw [(@recordTransition_settings tables report).1, unset]
      exact Bool.false_ne_true
    · rintro ⟨now, ⟨⟩⟩
  | pendingMorningOffer now =>
    refine iff_of_false ?_ ?_
    · change ¬ (tables.pendingMorningOffer now).2.quietHours.isSome = true
      rcases @pendingMorningOffer_cases tables now with same | ⟨_, _, -, -, -, isNext⟩
      · rw [same, unset]
        exact Bool.false_ne_true
      · rw [isNext]
        change ¬ tables.quietHours.isSome = true
        rw [unset]
        exact Bool.false_ne_true
    · rintro ⟨_, ⟨⟩⟩
  | respondToOffer accepted now =>
    cases accepted with
    | true => exact iff_of_true rfl ⟨now, rfl⟩
    | false =>
      refine iff_of_false ?_ ?_
      · change ¬ tables.quietHours.isSome = true
        rw [unset]
        exact Bool.false_ne_true
      · rintro ⟨_, ⟨⟩⟩

end Replies

/-- An offer was returned, and no reply has been given since. -/
def OfferReturned (calls : List FocusCall) : Prop :=
  ∃ before returned since, calls = before ++ returned :: since ∧
    (offerMachine.answer (offerMachine.run .empty before) returned).isSome = true ∧
    ∀ call ∈ since, ¬ call.IsReply

theorem run_concat (calls : List FocusCall) (call : FocusCall) :
    offerMachine.run .empty (calls ++ [call]) =
      offerMachine.next (offerMachine.run .empty calls) call := by
  rw [Machine.run_append, Machine.run_cons, Machine.run_nil]

theorem offerReturned_concat {calls : List FocusCall} {call : FocusCall} :
    OfferReturned (calls ++ [call]) ↔
      (offerMachine.answer (offerMachine.run .empty calls) call).isSome = true ∨
        ¬ call.IsReply ∧ OfferReturned calls := by
  constructor
  · rintro ⟨before, offering, since, sameCalls, isOffer, noReplies⟩
    rcases since.eq_nil_or_concat with rfl | ⟨earlier, last, rfl⟩
    · obtain ⟨rfl, same⟩ := append_inj' sameCalls rfl
      obtain rfl := head_eq_of_cons_eq same
      exact Or.inl isOffer
    · rw [concat_eq_append, ← cons_append, ← append_assoc] at sameCalls
      obtain ⟨rfl, same⟩ := append_inj' sameCalls rfl
      obtain rfl := head_eq_of_cons_eq same
      rw [concat_eq_append, forall_mem_append, forall_mem_singleton] at noReplies
      exact Or.inr ⟨noReplies.2, before, offering, earlier, rfl, isOffer, noReplies.1⟩
  · rintro (isOffer | ⟨noReply, before, offering, since, rfl, isOffer, noReplies⟩)
    · refine ⟨calls, call, [], rfl, isOffer, ?_⟩
      intro other member
      cases member
    · refine ⟨before, offering, since ++ [call], by simp, isOffer, ?_⟩
      rw [forall_mem_append, forall_mem_singleton]
      exact ⟨noReplies, noReply⟩

/-- A reply is awaited from the offer to the next reply. -/
theorem awaitsReply_next {tables : FocusTables} (settled : tables.Settled) (call : FocusCall) :
    (offerMachine.next tables call).awaitsReply = true ↔
      (offerMachine.answer tables call).isSome = true ∨
        ¬ call.IsReply ∧ tables.awaitsReply = true := by
  cases call with
  | recordTransition report =>
    change (tables.recordTransition report).awaitsReply = true ↔
      false = true ∨ ¬ False ∧ tables.awaitsReply = true
    rcases (@recordTransition_settings tables report).2 with ⟨same, -⟩ | ⟨isNew, triggered⟩
    · simp only [FocusTables.awaitsReply, same]
      simp
    · have notWaiting : ¬ tables.awaitsReply = true := by
        intro waits
        obtain ⟨state, isState, isWaiting⟩ := (any_eq_true _ _).mp waits
        rw [Bool.and_eq_true, isNone_iff_eq_none] at isWaiting
        exact settled.silent isState isWaiting.2 triggered
      have isFresh : (tables.recordTransition report).awaitsReply = false := by
        simp [FocusTables.awaitsReply, isNew]
      simp [isFresh, notWaiting]
  | pendingMorningOffer now =>
    change (tables.pendingMorningOffer now).2.awaitsReply = true ↔
      (tables.pendingMorningOffer now).1.isSome = true ∨ ¬ False ∧ tables.awaitsReply = true
    rcases @pendingMorningOffer_cases tables now with
      same | ⟨offer, state, isState, noResponse, -, isNext⟩
    · simp [same]
    · have offered : (tables.recordQuietHoursOffered now).awaitsReply = true := by
        simp [FocusTables.awaitsReply, FocusTables.recordQuietHoursOffered, isState, noResponse]
      simp [isNext, offered]
  | respondToOffer accepted now =>
    change (tables.respondToOffer accepted now).awaitsReply = true ↔
      false = true ∨ ¬ True ∧ tables.awaitsReply = true
    have replied : (tables.respondToOffer accepted now).awaitsReply = false := by
      rw [FocusTables.awaitsReply, respondToOffer_offer]
      cases tables.quietHoursOfferState with
      | none => rfl
      | some state =>
        cases isResponse : state.response <;> simp [isResponse]
    simp [replied]

theorem awaitsReply_iff (calls : List FocusCall) :
    (offerMachine.run .empty calls).awaitsReply = true ↔ OfferReturned calls := by
  induction calls using List.reverseRecOn with
  | nil =>
    refine iff_of_false Bool.false_ne_true ?_
    rintro ⟨before, returned, since, isEmpty, -⟩
    simp at isEmpty
  | append_singleton calls call ih =>
    rw [run_concat, awaitsReply_next (.run calls), offerReturned_concat, ih]

/-- The consent that the offers promise, over a run from empty tables. -/
structure Consented (calls : List FocusCall) : Prop where
  /-- The quiet hours are configured exactly while the current offer is accepted. -/
  configured : ∀ earlier, earlier <+: calls →
    ((offerMachine.run .empty earlier).quietHours.isSome = true ↔
      (offerMachine.run .empty earlier).reply = some .accepted)
  /-- They become so by the acceptance of an offer that was returned and not replied to. -/
  asked : ∀ earlier call, earlier ++ [call] <+: calls →
    (offerMachine.run .empty earlier).quietHours = none →
    (offerMachine.run .empty (earlier ++ [call])).quietHours.isSome = true →
    (∃ now, call = .respondToOffer true now) ∧ OfferReturned earlier
  /-- Once they are, no offer is returned and no trigger recorded. -/
  silent : ∀ earlier call, earlier ++ [call] <+: calls →
    (offerMachine.run .empty earlier).quietHours.isSome = true →
    offerMachine.answer (offerMachine.run .empty earlier) call = none ∧
      ¬ call.Triggers (offerMachine.run .empty earlier)
  /-- A reply stays until the next trigger. -/
  firstReply : ∀ earlier since state, earlier ++ since <+: calls →
    (offerMachine.run .empty earlier).quietHoursOfferState = some state →
    state.response.isSome = true →
    offerMachine.Meets (fun tables call => ¬ call.Triggers tables)
      (offerMachine.run .empty earlier) since →
    (offerMachine.run .empty (earlier ++ since)).quietHoursOfferState = some state
  /-- For thirty days after a recorded decline nothing is triggered or returned. -/
  declined : ∀ earlier declinedAt since call,
    earlier ++ .respondToOffer false declinedAt :: since ++ [call] <+: calls →
    (∃ state, (offerMachine.run .empty earlier).quietHoursOfferState = some state ∧
      state.response = none) →
    call.now < declinedAt + Duration.days 30 →
    offerMachine.answer
        (offerMachine.run .empty (earlier ++ .respondToOffer false declinedAt :: since)) call =
          none ∧
      ¬ call.Triggers
        (offerMachine.run .empty (earlier ++ .respondToOffer false declinedAt :: since))

section Consent

variable {tables : FocusTables} {calls : List FocusCall}

/-- Where the quiet hours are configured, the current offer is accepted. -/
def FocusTables.Consenting (tables : FocusTables) : Prop :=
  tables.Settled ∧ (tables.quietHours.isSome = true → tables.reply = some .accepted)

theorem answered_offer_silent (answered : ∀ state ∈ tables.quietHoursOfferState,
    state.response.isSome = true) (call : FocusCall) : offerMachine.answer tables call = none := by
  cases isAnswer : offerMachine.answer tables call with
  | none => rfl
  | some offer =>
    obtain ⟨now, state, -, isState, noResponse⟩ := answer_finds isAnswer
    have isAnswered := answered state isState
    rw [noResponse] at isAnswered
    cases isAnswered

theorem configured_silent (settled : tables.Settled) (configured : tables.quietHours.isSome = true)
    (call : FocusCall) :
    offerMachine.answer tables call = none ∧ ¬ call.Triggers tables := by
  refine ⟨answered_offer_silent (settled.answered configured) call, fun triggered => ?_⟩
  rw [(triggers_finds triggered).1] at configured
  cases configured

theorem consenting_next (consenting : tables.Consenting) {call : FocusCall}
    (asked : call.Asked tables) : (offerMachine.next tables call).Consenting := by
  obtain ⟨settled, accepted⟩ := consenting
  refine ⟨settled.next call, fun configured => ?_⟩
  by_cases before : tables.quietHours.isSome = true
  · have isReply := accepted before
    obtain ⟨state, isState, isAccepted⟩ := bind_eq_some_iff.mp isReply
    have stays := answered_offer_next isState (by rw [isAccepted]; rfl)
      (configured_silent settled before call).2
    rw [FocusTables.reply, stays]
    exact isAccepted
  · have unset : tables.quietHours = none := by simpa using before
    obtain ⟨now, rfl⟩ := (quietHours_next call unset).mp configured
    have waits : tables.awaitsReply = true := asked.resolve_left before
    obtain ⟨state, isState, isWaiting⟩ := (any_eq_true _ _).mp waits
    rw [Bool.and_eq_true, isNone_iff_eq_none] at isWaiting
    change (tables.respondToOffer true now).reply = some .accepted
    rw [FocusTables.reply, respondToOffer_offer, isState, map_some, if_pos isWaiting.2]
    rfl

theorem decline_holds {declinedAt : Int} (whole : WholeSecond declinedAt)
    (isDeclined : ∃ state, tables.quietHoursOfferState = some state ∧
      state.response = some .declined ∧ state.respondedAt = some (timestamp declinedAt))
    {call : FocusCall} (soon : call.now < declinedAt + Duration.days 30) :
    offerMachine.answer tables call = none ∧ ¬ call.Triggers tables := by
  obtain ⟨state, isState, isResponse, isTime⟩ := isDeclined
  constructor
  · refine answered_offer_silent ?_ call
    rw [isState]
    rintro other ⟨⟩
    rw [isResponse]
    rfl
  · intro triggered
    have free := (triggers_finds triggered).2
    have sameTime : fromTimestamp (timestamp declinedAt) = declinedAt := wholeSecond_iff.mp whole
    simp only [FocusTables.offerHolds, isState, isResponse, isTime, any_some, sameTime,
      decide_eq_false_iff_not] at free
    exact free soon

theorem decline_stays {declinedAt : Int} (whole : WholeSecond declinedAt)
    {since : List FocusCall} (soon : ∀ call ∈ since, call.now < declinedAt + Duration.days 30)
    (isDeclined : ∃ state, tables.quietHoursOfferState = some state ∧
      state.response = some .declined ∧ state.respondedAt = some (timestamp declinedAt)) :
    ∃ state, (offerMachine.run tables since).quietHoursOfferState = some state ∧
      state.response = some .declined ∧ state.respondedAt = some (timestamp declinedAt) := by
  have keeps : ∀ tables call,
      (∃ state, tables.quietHoursOfferState = some state ∧ state.response = some .declined ∧
        state.respondedAt = some (timestamp declinedAt)) →
      call.now < declinedAt + Duration.days 30 →
      ∃ state, (offerMachine.next tables call).quietHoursOfferState = some state ∧
        state.response = some .declined ∧ state.respondedAt = some (timestamp declinedAt) := by
    intro tables call isDeclined soon
    have silent := (decline_holds whole isDeclined soon).2
    obtain ⟨state, isState, isResponse, isTime⟩ := isDeclined
    have answered : state.response.isSome = true := by
      rw [isResponse]
      rfl
    exact ⟨state, answered_offer_next isState answered silent, isResponse, isTime⟩
  have all := offerMachine.meets_of_mem (fun call member _ => soon call member) tables
  exact offerMachine.invariant_run keeps isDeclined all

theorem decline_recorded (declinedAt : Int)
    (unanswered : ∃ state, tables.quietHoursOfferState = some state ∧ state.response = none) :
    ∃ state, (tables.respondToOffer false declinedAt).quietHoursOfferState = some state ∧
      state.response = some .declined ∧ state.respondedAt = some (timestamp declinedAt) := by
  obtain ⟨state, isState, noResponse⟩ := unanswered
  rw [respondToOffer_offer, isState, map_some, if_pos noResponse]
  exact ⟨_, rfl, rfl, rfl⟩

/-- Replies to what was asked are consent. -/
theorem consented_of_asked (ordered : (calls.map FocusCall.now).Pairwise (· ≤ ·))
    (whole : ∀ call ∈ calls, WholeSecond call.now)
    (asked : offerMachine.Meets (fun tables call => call.Asked tables) .empty calls) :
    Consented calls := by
  have consenting (earlier : List FocusCall) (isEarlier : earlier <+: calls) :
      (offerMachine.run .empty earlier).Consenting := by
    obtain ⟨later, rfl⟩ := isEarlier
    have keeps : ∀ (tables : FocusTables) (call : FocusCall), tables.Consenting →
        call.Asked tables → (offerMachine.next tables call).Consenting :=
      fun tables call consenting asked => consenting_next consenting asked
    refine offerMachine.invariant_run keeps ⟨.empty, ?_⟩
      ((offerMachine.meets_append _ _ _ _).mp asked).1
    intro configured
    cases configured
  constructor
  · intro earlier isEarlier
    obtain ⟨settled, accepted⟩ := consenting earlier isEarlier
    exact ⟨accepted, settled.configured⟩
  · rintro earlier call ⟨later, rfl⟩ unset configured
    rw [run_concat] at configured
    have isReply := (quietHours_next call unset).mp configured
    refine ⟨isReply, ?_⟩
    rw [append_assoc, Machine.meets_append] at asked
    obtain ⟨now, rfl⟩ := isReply
    have isAsked : FocusCall.Asked (offerMachine.run .empty earlier) (.respondToOffer true now) :=
      asked.2.1
    refine (awaitsReply_iff earlier).mp (isAsked.resolve_left ?_)
    rw [unset]
    exact Bool.false_ne_true
  · intro earlier call _ configured
    exact configured_silent (.run earlier) configured call
  · intro earlier since state _ isState answered silent
    rw [Machine.run_append]
    exact answered_offer_run isState answered silent
  · rintro earlier declinedAt since call ⟨later, rfl⟩ unanswered soon
    have isWhole : WholeSecond declinedAt := whole (.respondToOffer false declinedAt) (by simp)
    have inTime : ∀ other ∈ since, other.now < declinedAt + Duration.days 30 := by
      intro other member
      refine lt_of_le_of_lt ?_ soon
      simp only [map_append, map_cons, append_assoc, cons_append,
        pairwise_append, pairwise_cons] at ordered
      exact ordered.2.1.2.2.2 _ (mem_map_of_mem member) _ (by simp)
    rw [Machine.run_append, Machine.run_cons]
    have recorded := decline_recorded declinedAt unanswered
    exact decline_holds isWhole (decline_stays isWhole inTime recorded) soon

theorem asked_of_consented (consented : Consented calls) :
    offerMachine.Meets (fun tables call => call.Asked tables) .empty calls := by
  have meets (earlier : List FocusCall) (isEarlier : earlier <+: calls) :
      offerMachine.Meets (fun tables call => call.Asked tables) .empty earlier := by
    induction earlier using List.reverseRecOn with
    | nil => trivial
    | append_singleton earlier call ih =>
      rw [Machine.meets_append]
      refine ⟨ih ((prefix_append earlier [call]).trans isEarlier), ?_, trivial⟩
      cases call with
      | recordTransition report => trivial
      | pendingMorningOffer now => trivial
      | respondToOffer accepted now =>
        cases accepted with
        | false => trivial
        | true =>
          by_cases configured : (offerMachine.run .empty earlier).quietHours.isSome = true
          · exact Or.inl configured
          · have unset : (offerMachine.run .empty earlier).quietHours = none := by
              simpa using configured
            have becomes : (offerMachine.run .empty
                (earlier ++ [.respondToOffer true now])).quietHours.isSome = true := by
              rw [run_concat]
              rfl
            have returned := (consented.asked earlier _ isEarlier unset becomes).2
            exact Or.inr ((awaitsReply_iff earlier).mpr returned)
  exact meets calls (prefix_refl calls)

end Consent

/-- Quiet hours are configured with consent exactly in the runs in which each acceptance answers
a returned offer, or repeats what is configured already. -/
theorem quiet_hours_need_consent_iff (calls : List FocusCall)
    (ordered : (calls.map FocusCall.now).Pairwise (· ≤ ·))
    (whole : ∀ call ∈ calls, WholeSecond call.now) :
    Consented calls ↔
      offerMachine.Meets (fun tables call => call.Asked tables) .empty calls := by
  constructor
  · intro consented
    exact asked_of_consented consented
  · intro asked
    exact consented_of_asked ordered whole asked

/-- Focus is turned on at 23:00 of three nights, and the offer is returned at seven in the
morning. -/
def lateNights : List FocusCall :=
  [ .recordTransition ⟨true, fromTimestamp 82800, 0, fromTimestamp 82800⟩,
    .recordTransition ⟨false, fromTimestamp 86400, 0, fromTimestamp 86400⟩,
    .recordTransition ⟨true, fromTimestamp 169200, 0, fromTimestamp 169200⟩,
    .recordTransition ⟨false, fromTimestamp 172800, 0, fromTimestamp 172800⟩,
    .recordTransition ⟨true, fromTimestamp 255600, 0, fromTimestamp 255600⟩,
    .pendingMorningOffer (fromTimestamp 284400) ]

def lateNightsAccepted : List FocusCall :=
  lateNights ++ [.respondToOffer true (fromTimestamp 284460)]

def lateNightsDeclined : List FocusCall :=
  lateNights ++
    [ .respondToOffer false (fromTimestamp 284460), .respondToOffer true (fromTimestamp 284520) ]

/-- The offer after some late nights is accepted. -/
theorem accepted_offer_has_consent :
    Consented lateNightsAccepted ∧
      (offerMachine.run .empty lateNightsAccepted).quietHours.isSome = true := by
  have whole : ∀ call ∈ lateNightsAccepted, WholeSecond call.now := by
    have each : ∀ call ∈ lateNightsAccepted, fromTimestamp (timestamp call.now) = call.now := by
      decide +kernel
    exact fun call member => wholeSecond_iff.mpr (each call member)
  have ordered : (lateNightsAccepted.map FocusCall.now).Pairwise (· ≤ ·) := by
    decide +kernel
  have asked : offerMachine.Meets (fun tables call => call.Asked tables) .empty
      lateNightsAccepted := by
    decide +kernel
  exact ⟨(quiet_hours_need_consent_iff lateNightsAccepted ordered whole).mpr asked,
    by decide +kernel⟩

/-- The late acceptance configures quiet hours over the recorded decline. -/
theorem declined_offer_configures_quiet_hours :
    (lateNightsDeclined.map FocusCall.now).Pairwise (· ≤ ·) ∧
      (∀ call ∈ lateNightsDeclined, WholeSecond call.now) ∧
      (offerMachine.run .empty lateNightsDeclined).quietHours.isSome = true ∧
      (offerMachine.run .empty lateNightsDeclined).reply = some .declined ∧
      ¬ Consented lateNightsDeclined := by
  have each : ∀ call ∈ lateNightsDeclined, fromTimestamp (timestamp call.now) = call.now := by
    decide +kernel
  have isSet : (offerMachine.run .empty lateNightsDeclined).quietHours.isSome = true := by
    decide +kernel
  have isDeclined : (offerMachine.run .empty lateNightsDeclined).reply = some .declined := by
    decide +kernel
  refine ⟨by decide +kernel, fun call member => wholeSecond_iff.mpr (each call member), isSet,
    isDeclined, ?_⟩
  intro consented
  have isAccepted := (consented.configured _ (prefix_refl _)).mp isSet
  rw [isDeclined] at isAccepted
  cases isAccepted

end Velvt
