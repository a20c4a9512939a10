import Mathlib.Data.List.Destutter
import Velvt.PushQueue

/-!
# Polled insights and their notifications

The poll hands its insights one after another to the push adapter.  An insight is validated on its
way into the queue and its notification is not; a guard on the last id suppresses direct repeats.
Around the two pushes of a call everything else may happen to the queue.
-/

namespace Velvt.Poll

open StepMachine Push List

inductive EmotionalStage
  | early
  | stable
  | positiveDeviation
  | sustainedPositiveTrend
  | negativeDeviation
  | repeatedNegativeTrend
  | sustainedHighConfidenceDecline
  | recovery
  deriving DecidableEq

structure InsightEvidence where
  observation : String
  comparison : String
  suggestedAction : String
  toneStage : EmotionalStage
  observationType : String

structure InsightPayload where
  date : Int
  text : String
  evidence : InsightEvidence

structure NotificationPayload where
  notificationId : String
  title : String
  body : String
  insightDate : Int
  doNotDisturbUntil : Option Int

/-- The messages of the poll, and those that others push. -/
inductive ServerMessage
  | insightPayload (payload : InsightPayload)
  | notificationPayload (payload : NotificationPayload)
  | other (message : String)

inductive ValidationError
  | emptyField (field : String)

def InsightPayload.validateFields (payload : InsightPayload) : Except ValidationError Unit := do
  if payload.text.isEmpty then throw (.emptyField "text")
  if payload.evidence.observation.isEmpty then throw (.emptyField "evidence.observation")
  if payload.evidence.comparison.isEmpty then throw (.emptyField "evidence.comparison")
  if payload.evidence.suggestedAction.isEmpty then throw (.emptyField "evidence.suggested_action")

/-- `shape_insight`.  Every payload can be serialised. -/
def shapeInsight (payload : InsightPayload) : Except ValidationError InsightPayload := do
  payload.validateFields
  pure payload

/-- Whether `enqueue` keeps what it is given: there is room, or a message may be evicted. -/
def takes {Message : Type*} (queue : PushQueue Message) : Bool :=
  decide (queue.inner.length < queue.capacity) || queue.evictable.isSome

/-- `push_insight`, with whether the queue took the insight if it got there. -/
def pushInsight (service : PushService ServerMessage) (payload : InsightPayload) :
    Option Bool × PushService ServerMessage :=
  match shapeInsight payload with
  | .ok validated => (some (takes service.queue), service.enqueue (.insightPayload validated))
  | .error _ => (none, service)

/-- `push_notification`, with whether the queue took it. -/
def pushNotification (service : PushService ServerMessage) (payload : NotificationPayload) :
    Bool × PushService ServerMessage :=
  (takes service.queue, service.enqueue (.notificationPayload payload))

/-- `InsightDedupeGuard`. -/
structure InsightDedupeGuard where
  lastDeliveredId : Option String

def InsightDedupeGuard.shouldDeliver (dedupe : InsightDedupeGuard) (insightId : String) :
    Bool × InsightDedupeGuard :=
  if dedupe.lastDeliveredId = some insightId then (false, dedupe)
  else (true, { lastDeliveredId := some insightId })

structure PolledInsight where
  id : String
  payload : InsightPayload

def PolledInsight.shouldNotify (insight : PolledInsight) : Bool :=
  insight.payload.evidence.toneStage != .early &&
    insight.payload.evidence.observationType != "recorded_activity"

/-- A call, with what happens to the queue before it and between its pushes. -/
structure PolledDelivery where
  insight : PolledInsight
  doNotDisturbUntil : Option Int
  /-- `Uuid::new_v4`. -/
  notificationId : String
  before : List (PushEvent ServerMessage)
  meanwhile : List (PushEvent ServerMessage)

/-- What a call has pushed, and whether the queue took it. -/
structure DeliveryRecord where
  id : String
  insightPush : Option Bool
  notificationPush : Option Bool
  deriving DecidableEq

structure PollState where
  service : PushService ServerMessage
  dedupe : InsightDedupeGuard

def deliverPolledInsight (state : PollState) (delivery : PolledDelivery) :
    DeliveryRecord × PollState :=
  let insight := delivery.insight
  match state.dedupe.shouldDeliver insight.id with
  | (false, dedupe) => (⟨insight.id, none, none⟩, { state with dedupe := dedupe })
  | (true, dedupe) =>
    let (insightPush, service) := pushInsight state.service insight.payload
    let service := pushMachine.run service delivery.meanwhile
    if insight.shouldNotify then
      let (taken, service) := pushNotification service {
        notificationId := delivery.notificationId
        title := "Your Velvt insight is ready"
        body := insight.payload.text
        insightDate := insight.payload.date
        doNotDisturbUntil := delivery.doNotDisturbUntil }
      (⟨insight.id, insightPush, some taken⟩, { service := service, dedupe := dedupe })
    else (⟨insight.id, insightPush, none⟩, { service := service, dedupe := dedupe })

def pollMachine : Machine PollState PolledDelivery DeliveryRecord where
  step state delivery := deliverPolledInsight
    { state with service := pushMachine.run state.service delivery.before } delivery

def PollState.initial (service : PushService ServerMessage) : PollState where
  service := service
  dedupe := { lastDeliveredId := none }

/-- The records of a run speak of each id at most once, and of no notification without its
insight in the queue. -/
structure DeliversOnce (records : List DeliveryRecord) : Prop where
  pushed : ∀ id, records.countP (fun record => record.id == id && record.insightPush.isSome) ≤ 1
  notified : ∀ id,
    records.countP (fun record => record.id == id && record.notificationPush.isSome) ≤ 1
  announced : ∀ record ∈ records, record.notificationPush.isSome → record.insightPush = some true

def PolledInsight.isValid (insight : PolledInsight) : Bool :=
  match insight.payload.validateFields with
  | .ok _ => true
  | .error _ => false

/-- An insight that is worth a notification is valid and finds its place in the queue, unless it
is a direct repeat. -/
def Announceable (state : PollState) (delivery : PolledDelivery) : Prop :=
  state.dedupe.lastDeliveredId ≠ some delivery.insight.id →
    delivery.insight.shouldNotify = true →
      delivery.insight.isValid = true ∧
        takes (pushMachine.run state.service delivery.before).queue = true

def withoutRepeats (deliveries : List PolledDelivery) : List PolledInsight :=
  (deliveries.map PolledDelivery.insight).destutter fun earlier later => earlier.id ≠ later.id

/-- No insight with a valid payload comes back after one with another id. -/
def NoneReturns (deliveries : List PolledDelivery) : Prop :=
  (((withoutRepeats deliveries).filter PolledInsight.isValid).map PolledInsight.id).Nodup

def admittedInsights (last : Option String) : List PolledDelivery → List PolledInsight
  | [] => []
  | delivery :: deliveries =>
    if last = some delivery.insight.id then admittedInsights last deliveries
    else delivery.insight :: admittedInsights (some delivery.insight.id) deliveries

theorem destutter_eq_admittedInsights (insight : PolledInsight) (deliveries : List PolledDelivery) :
    (deliveries.map PolledDelivery.insight).destutter'
        (fun earlier later => earlier.id ≠ later.id) insight =
      insight :: admittedInsights (some insight.id) deliveries := by
  induction deliveries generalizing insight with
  | nil => rfl
  | cons delivery deliveries ih =>
    by_cases same : insight.id = delivery.insight.id
    · rw [map_cons, List.destutter'_cons_neg _ (not_not_intro same), ih]
      simp [admittedInsights, same]
    · rw [map_cons, List.destutter'_cons_pos _ same, ih]
      simp [admittedInsights, same]

theorem withoutRepeats_eq (deliveries : List PolledDelivery) :
    withoutRepeats deliveries = admittedInsights none deliveries := by
  cases deliveries with
  | nil => rfl
  | cons delivery deliveries =>
    rw [withoutRepeats, map_cons, destutter_cons', destutter_eq_admittedInsights]
    simp [admittedInsights]

section Steps

variable (state : PollState) (delivery : PolledDelivery)

theorem pushInsight_fst (service : PushService ServerMessage) (insight : PolledInsight) :
    (pushInsight service insight.payload).1 =
      if insight.isValid then some (takes service.queue) else none := by
  unfold pushInsight shapeInsight PolledInsight.isValid
  cases insight.payload.validateFields with
  | ok checked => rfl
  | error reason => rfl

theorem poll_repeat (repeats : state.dedupe.lastDeliveredId = some delivery.insight.id) :
    pollMachine.answer state delivery = ⟨delivery.insight.id, none, none⟩ ∧
      (pollMachine.next state delivery).dedupe = state.dedupe := by
  simp [Machine.answer, Machine.next, pollMachine, deliverPolledInsight,
    InsightDedupeGuard.shouldDeliver, repeats]

theorem poll_admitted (fresh : state.dedupe.lastDeliveredId ≠ some delivery.insight.id) :
    (pollMachine.answer state delivery).id = delivery.insight.id ∧
      (pollMachine.answer state delivery).insightPush = (if delivery.insight.isValid then
          some (takes (pushMachine.run state.service delivery.before).queue) else none) ∧
      (pollMachine.answer state delivery).notificationPush.isSome = delivery.insight.shouldNotify ∧
      (pollMachine.next state delivery).dedupe.lastDeliveredId = some delivery.insight.id := by
  rw [← pushInsight_fst]
  cases worth : delivery.insight.shouldNotify <;>
    simp [Machine.answer, Machine.next, pollMachine, deliverPolledInsight,
      InsightDedupeGuard.shouldDeliver, fresh, worth]

theorem poll_announced : ((pollMachine.answer state delivery).notificationPush.isSome →
        (pollMachine.answer state delivery).insightPush = some true) ↔
      Announceable state delivery := by
  by_cases repeats : state.dedupe.lastDeliveredId = some delivery.insight.id
  · simp [(poll_repeat state delivery repeats).1, Announceable, repeats]
  · obtain ⟨_, pushed, notified, _⟩ := poll_admitted state delivery repeats
    rw [pushed, notified, Announceable]
    cases delivery.insight.isValid <;> simp [repeats]

end Steps

theorem kept_ids {kept : DeliveryRecord → Bool} {wanted : PolledInsight → Bool}
    (silent : ∀ id, kept ⟨id, none, none⟩ = false)
    (speaks : ∀ (state : PollState) (delivery : PolledDelivery),
      state.dedupe.lastDeliveredId ≠ some delivery.insight.id →
        kept (pollMachine.answer state delivery) = wanted delivery.insight)
    (state : PollState) (deliveries : List PolledDelivery) :
    ((pollMachine.answers state deliveries).filter kept).map DeliveryRecord.id =
      ((admittedInsights state.dedupe.lastDeliveredId deliveries).filter wanted).map
        PolledInsight.id := by
  induction deliveries generalizing state with
  | nil => rfl
  | cons delivery deliveries ih =>
    rw [Machine.answers_cons]
    by_cases repeats : state.dedupe.lastDeliveredId = some delivery.insight.id
    · obtain ⟨answer, dedupe⟩ := poll_repeat state delivery repeats
      have unkept : ¬ kept (pollMachine.answer state delivery) = true := by
        simp [answer, silent]
      rw [admittedInsights, if_pos repeats, filter_cons_of_neg unkept, ih, dedupe]
    · obtain ⟨id, _, _, dedupe⟩ := poll_admitted state delivery repeats
      have speaks := speaks state delivery repeats
      rw [admittedInsights, if_neg repeats]
      cases wants : wanted delivery.insight with
      | true =>
        rw [filter_cons_of_pos (speaks.trans wants), filter_cons_of_pos wants,
          map_cons, map_cons, ih, id, dedupe]
      | false =>
        rw [filter_cons_of_neg (by simp [speaks, wants]),
          filter_cons_of_neg (by simp [wants]), ih, dedupe]

theorem pushed_ids (state : PollState) (deliveries : List PolledDelivery) :
    ((pollMachine.answers state deliveries).filter fun record => record.insightPush.isSome).map
        DeliveryRecord.id =
      ((admittedInsights state.dedupe.lastDeliveredId deliveries).filter
        PolledInsight.isValid).map PolledInsight.id := by
  apply kept_ids (fun _ => rfl)
  intro state delivery fresh
  rw [(poll_admitted state delivery fresh).2.1]
  cases delivery.insight.isValid <;> rfl

theorem notified_ids (state : PollState) (deliveries : List PolledDelivery) :
    ((pollMachine.answers state deliveries).filter fun record =>
        record.notificationPush.isSome).map DeliveryRecord.id =
      ((admittedInsights state.dedupe.lastDeliveredId deliveries).filter
        PolledInsight.shouldNotify).map PolledInsight.id := by
  apply kept_ids (fun _ => rfl)
  intro state delivery fresh
  exact (poll_admitted state delivery fresh).2.2.1

theorem nodup_ids_iff (kept : DeliveryRecord → Bool) (records : List DeliveryRecord) :
    ((records.filter kept).map DeliveryRecord.id).Nodup ↔
      ∀ id, records.countP (fun record => record.id == id && kept record) ≤ 1 := by
  rw [nodup_iff_count_le_one]
  apply forall_congr'
  intro id
  rw [List.count, countP_map, countP_filter]
  rfl

theorem announced_iff (state : PollState) (deliveries : List PolledDelivery) :
    (∀ record ∈ pollMachine.answers state deliveries,
        record.notificationPush.isSome → record.insightPush = some true) ↔
      pollMachine.Meets Announceable state deliveries := by
  induction deliveries generalizing state with
  | nil => simp
  | cons delivery deliveries ih =>
    rw [Machine.answers_cons, forall_mem_cons, poll_announced, ih, Machine.meets_cons]

theorem isValid_of_meets {state : PollState} {deliveries : List PolledDelivery}
    (meets : pollMachine.Meets Announceable state deliveries) (insight : PolledInsight)
    (member : insight ∈ admittedInsights state.dedupe.lastDeliveredId deliveries)
    (worth : insight.shouldNotify = true) :
    insight.isValid = true := by
  induction deliveries generalizing state with
  | nil => cases member
  | cons delivery deliveries ih =>
    obtain ⟨announceable, rest⟩ := meets
    by_cases repeats : state.dedupe.lastDeliveredId = some delivery.insight.id
    · rw [admittedInsights, if_pos repeats, ← (poll_repeat state delivery repeats).2] at member
      exact ih rest member
    · rw [admittedInsights, if_neg repeats,
        ← (poll_admitted state delivery repeats).2.2.2] at member
      rcases mem_cons.mp member with rfl | later
      · exact (announceable repeats worth).1
      · exact ih rest later

/-- A run delivers once exactly where no insight comes back after another one, and every one that is
worth a notification is valid and finds its place. -/
theorem polled_delivers_once_iff (service : PushService ServerMessage)
    (deliveries : List PolledDelivery) :
    DeliversOnce (pollMachine.answers (PollState.initial service) deliveries) ↔
      NoneReturns deliveries ∧
        pollMachine.Meets Announceable (PollState.initial service) deliveries := by
  have pushed := pushed_ids (PollState.initial service) deliveries
  have notified := notified_ids (PollState.initial service) deliveries
  rw [NoneReturns, withoutRepeats_eq, ← announced_iff]
  constructor
  · rintro ⟨once, _, announced⟩
    exact ⟨pushed ▸ (nodup_ids_iff _ _).mpr once, announced⟩
  · rintro ⟨once, announced⟩
    have valid := isValid_of_meets ((announced_iff _ _).mp announced)
    have kept : (admittedInsights none deliveries).filter PolledInsight.shouldNotify =
        ((admittedInsights none deliveries).filter PolledInsight.isValid).filter
          PolledInsight.shouldNotify := by
      rw [filter_filter]
      apply filter_congr
      intro insight member
      cases worth : insight.shouldNotify with
      | false => rfl
      | true => simp [valid insight member worth]
    have notifiedOnce : ((admittedInsights none deliveries).filter
        PolledInsight.shouldNotify |>.map PolledInsight.id).Nodup := by
      rw [kept]
      exact once.sublist (filter_sublist.map _)
    exact ⟨(nodup_ids_iff _ _).mp (pushed.symm ▸ once),
      (nodup_ids_iff _ _).mp (notified.symm ▸ notifiedOnce), announced⟩

def withoutComparison : PolledInsight where
  id := "insight"
  payload := {
    date := 0
    text := "You switched away from your document."
    evidence := {
      observation := "switches"
      comparison := ""
      suggestedAction := "a pause"
      toneStage := .stable
      observationType := "context_switching" } }

def refusedDelivery : PolledDelivery where
  insight := withoutComparison
  doNotDisturbUntil := none
  notificationId := "notification"
  before := []
  meanwhile := []

/-- The queue refuses the insight, and its notification is pushed. -/
theorem refused_insight_is_announced :
    ¬ ∀ (service : PushService ServerMessage) (deliveries : List PolledDelivery),
      DeliversOnce (pollMachine.answers (PollState.initial service) deliveries) := by
  intro always
  have once := always (PushService.initial 50) [refusedDelivery]
  have announces : pollMachine.answers (PollState.initial (PushService.initial 50))
      [refusedDelivery] = [⟨"insight", none, some true⟩] := by
    decide
  rw [announces] at once
  have delivered := once.announced _ mem_cons_self rfl
  cases delivered

end Velvt.Poll
