import Velvt.InitiationInvitations

/-!
# The pacing of invitations

Every call either leaves the invitations alone, settles the newest one, or adds one after all others
are settled.
-/

namespace Velvt

open StepMachine List TableRows

namespace InitiationInvitationRecord

instance : Std.Total NewestFirst where
  total first second := by
    simp only [NewestFirst]
    rcases Int.lt_trichotomy first.offeredAt second.offeredAt with earlier | same | later
    · exact Or.inr (Or.inl earlier)
    · rcases Std.Total.total (r := fun one other : String => one ≤ other)
        first.invitationId second.invitationId with before | after
      · exact Or.inr (Or.inr ⟨same, before⟩)
      · exact Or.inl (Or.inr ⟨same.symm, after⟩)
    · exact Or.inl (Or.inl later)

instance : IsTrans InitiationInvitationRecord NewestFirst where
  trans first second third newer older := by
    simp only [NewestFirst] at *
    rcases newer with later | ⟨same, before⟩
    · rcases older with later' | ⟨same', -⟩
      · exact Or.inl (by omega)
      · exact Or.inl (by omega)
    · rcases older with later' | ⟨same', before'⟩
      · exact Or.inl (by omega)
      · exact Or.inr ⟨by omega, String.le_trans before' before⟩

end InitiationInvitationRecord

section Backoff

variable (recent : List InitiationInvitationRecord)

def sinceAcceptance : List InitiationInvitationRecord :=
  recent.takeWhile fun row => decide (row.outcome ≠ .accepted)

def dismissals : Nat :=
  (sinceAcceptance recent).countP fun row => decide (row.outcome = .dismissed)

def lastDismissal : Option InitiationInvitationRecord :=
  (sinceAcceptance recent).find? fun row => decide (row.outcome = .dismissed)

theorem trailingDismissalsFrom_eq {count : Nat} {last : Option Int}
    (bounded : count + recent.length ≤ u32Max) :
    trailingDismissalsFrom count last recent = (count + dismissals recent,
        last.or ((lastDismissal recent).map fun row => row.outcomeAt.getD row.offeredAt)) := by
  induction recent generalizing count last with
  | nil => simp [trailingDismissalsFrom, dismissals, lastDismissal, sinceAcceptance]
  | cons row older ih =>
    rw [length_cons] at bounded
    cases outcome : row.outcome with
    | dismissed =>
      have added : saturatingAdd count 1 = count + 1 := by
        rw [saturatingAdd]
        omega
      simp only [trailingDismissalsFrom, outcome, added]
      rw [ih (by omega)]
      cases last <;>
        simp [dismissals, lastDismissal, sinceAcceptance, outcome] <;> omega
    | accepted =>
      simp [trailingDismissalsFrom, dismissals, lastDismissal, sinceAcceptance, outcome]
    | noResponse | expired | offered =>
      simp only [trailingDismissalsFrom, outcome]
      rw [ih (by omega)]
      simp [dismissals, lastDismissal, sinceAcceptance, outcome]

theorem dismissals_le_length : dismissals recent ≤ recent.length :=
  countP_le_length.trans (takeWhile_sublist _).length_le

variable {recent} {isCounted : InitiationInvitationRecord → Bool} {room : Nat}

/-- Rows past the first `room` that do not count may be left out of a count. -/
theorem countP_take (none : ∀ row ∈ recent.drop room, ¬ isCounted row = true) :
    (recent.take room).countP isCounted = recent.countP isCounted := by
  conv_rhs => rw [← take_append_drop room recent]
  rw [countP_append, countP_eq_zero.mpr none, Nat.add_zero]

theorem find?_take (none : ∀ row ∈ recent.drop room, ¬ isCounted row = true) :
    (recent.take room).find? isCounted = recent.find? isCounted := by
  conv_rhs => rw [← take_append_drop room recent]
  rw [List.find?_append, List.find?_eq_none.mpr none, Option.or_none]

end Backoff

/-- The rows the backoff scan reads, for a table in the order of creation. -/
def scanned (before : List InitiationInvitationRecord) : List InitiationInvitationRecord :=
  before.reverse.take backoffScanLimit

/-- No dismissal since the last acceptance is past the end of the scan. -/
def SeesDismissals (before : List InitiationInvitationRecord) : Prop :=
  ∀ row ∈ (sinceAcceptance before.reverse).drop backoffScanLimit, row.outcome ≠ .dismissed

/-- An invitation keeps its distance from the ones before it: a cooldown that doubles with each
dismissal since the last acceptance, and the silence after the last of three or more.  The
dismissals are those among `recent`, the newest first. -/
structure Rested (recent before : List InitiationInvitationRecord)
    (later : InitiationInvitationRecord) : Prop where
  cooled : ∀ last, before.getLast? = some last →
    last.offeredAt + 24 * 60 * 60 * (min (2 ^ dismissals recent) u32Max : Nat) ≤ later.offeredAt
  silent : 3 ≤ dismissals recent →
    ∃ row dismissedAt, lastDismissal recent = some row ∧
      row.outcomeAt = some dismissedAt ∧ dismissedAt + 30 * 24 * 60 * 60 ≤ later.offeredAt

theorem sinceAcceptance_scanned (before : List InitiationInvitationRecord) :
    sinceAcceptance (scanned before) = (sinceAcceptance before.reverse).take backoffScanLimit := by
  rw [sinceAcceptance, scanned, sinceAcceptance, take_takeWhile]

/-- Where the scan sees every dismissal, it counts as the whole history does. -/
theorem Rested.whole {before : List InitiationInvitationRecord}
    {later : InitiationInvitationRecord} (rested : Rested (scanned before) before later)
    (sees : SeesDismissals before) : Rested before.reverse before later := by
  have none : ∀ row ∈ (sinceAcceptance before.reverse).drop backoffScanLimit,
      ¬ decide (row.outcome = .dismissed) = true :=
    fun row past => by simpa using sees row past
  have counts : dismissals (scanned before) = dismissals before.reverse := by
    rw [dismissals, sinceAcceptance_scanned, countP_take none, dismissals]
  have last : lastDismissal (scanned before) = lastDismissal before.reverse := by
    rw [lastDismissal, sinceAcceptance_scanned, find?_take none, lastDismissal]
  obtain ⟨cooled, silent⟩ := rested
  rw [counts] at cooled silent
  rw [last] at silent
  exact ⟨cooled, silent⟩

theorem split_concat {Row : Type*} {rows first after : List Row} {last row : Row}
    (split : rows ++ [last] = first ++ row :: after) :
    (first = rows ∧ row = last) ∨ ∃ middle, rows = first ++ row :: middle := by
  rcases eq_nil_or_concat after with rfl | ⟨middle, final, rfl⟩
  · obtain ⟨same, isLast⟩ := append_inj' split rfl
    exact Or.inl ⟨same.symm, (head_eq_of_cons_eq isLast).symm⟩
  · have ends : rows ++ [last] = (first ++ row :: middle) ++ [final] := by
      simpa using split
    exact Or.inr ⟨middle, (append_inj' ends rfl).1⟩

/-- The state of the table between two calls. -/
structure Paced (rows : List InitiationInvitationRecord) : Prop where
  earlierSettled : ∀ row ∈ rows.dropLast, row.outcome ≠ .offered
  answered : ∀ row ∈ rows, row.outcome ≠ .offered → ∃ instant, row.outcomeAt = some instant
  ids : (rows.map (·.invitationId)).Nodup
  dates : (rows.map (·.localDate)).Nodup
  ascending : rows.Pairwise fun first second => first.offeredAt < second.offeredAt
  rested : ∀ before later after, rows = before ++ later :: after →
    Rested (scanned before) before later

theorem paced_nil : Paced [] where
  earlierSettled := by simp
  answered := by simp
  ids := nodup_nil
  dates := nodup_nil
  ascending := List.Pairwise.nil
  rested before later after split := by simp at split

/-- The newest invitation is settled, once and for all. -/
inductive Settles : List InitiationInvitationRecord → List InitiationInvitationRecord → Prop
  | same (rows) : Settles rows rows
  | settled (before last outcome instant) : last.outcome = .offered → outcome ≠ .offered →
      Settles (before ++ [last])
        (before ++ [{ last with outcome := outcome, outcomeAt := some instant }])

/-- A new invitation is added after all others are settled and every gate let it pass. -/
structure Invites (rows : List InitiationInvitationRecord)
    (row : InitiationInvitationRecord) : Prop where
  settled : ∀ other ∈ rows, other.outcome ≠ .offered
  open_ : row.outcome = .offered
  freshId : row.invitationId ∉ rows.map (·.invitationId)
  freshDate : row.localDate ∉ rows.map (·.localDate)
  rested : Rested (scanned rows) rows row

variable {rows next : List InitiationInvitationRecord}

theorem Paced.settles (paced : Paced rows) (settles : Settles rows next) : Paced next := by
  cases settles with
  | same => exact paced
  | settled before last outcome instant _ final =>
    refine { earlierSettled := ?_, answered := ?_, ids := ?_, dates := ?_, ascending := ?_,
             rested := ?_ }
    · simpa using paced.earlierSettled
    · intro row member isSettled
      rcases mem_append.mp member with earlier | isLast
      · exact paced.answered row (mem_append_left _ earlier) isSettled
      · rw [mem_singleton.mp isLast]
        exact ⟨instant, rfl⟩
    · simpa using paced.ids
    · simpa using paced.dates
    · simpa [pairwise_append] using paced.ascending
    · intro first later after split
      rcases split_concat split with ⟨rfl, rfl⟩ | ⟨middle, earlier⟩
      · exact { paced.rested first last [] rfl with }
      · exact paced.rested first later (middle ++ [last]) (by simp [earlier])

theorem Paced.invites (paced : Paced rows) {row : InitiationInvitationRecord}
    (invites : Invites rows row) : Paced (rows ++ [row]) where
  earlierSettled := by simpa using invites.settled
  answered other member isSettled := by
    rcases mem_append.mp member with earlier | isNew
    · exact paced.answered other earlier isSettled
    · rw [mem_singleton.mp isNew] at isSettled
      exact absurd invites.open_ isSettled
  ids := by
    rw [map_append]
    exact nodup_append.mpr ⟨paced.ids, nodup_singleton _, by
      intro id member other isNew same
      rw [same, mem_singleton.mp isNew] at member
      exact invites.freshId member⟩
  dates := by
    rw [map_append]
    exact nodup_append.mpr ⟨paced.dates, nodup_singleton _, by
      intro date member other isNew same
      rw [same, mem_singleton.mp isNew] at member
      exact invites.freshDate member⟩
  ascending := by
    refine pairwise_append.mpr ⟨paced.ascending, pairwise_singleton _ _, ?_⟩
    intro other member new isNew
    rw [mem_singleton.mp isNew]
    obtain ⟨before, last, rfl⟩ : ∃ before last, rows = before ++ [last] :=
      ⟨rows.dropLast, rows.getLast (ne_nil_of_mem member), (dropLast_append_getLast _).symm⟩
    have cooled := invites.rested.cooled last (by simp)
    have spaced : 0 < min (2 ^ dismissals (scanned (before ++ [last]))) u32Max :=
      Nat.lt_min.mpr ⟨Nat.two_pow_pos _, by decide⟩
    have upToLast : other.offeredAt ≤ last.offeredAt := by
      rcases mem_append.mp member with earlier | isLast
      · have apart := (pairwise_append.mp paced.ascending).2.2 other earlier last (by simp)
        omega
      · rw [mem_singleton.mp isLast]
    omega
  rested first later after split := by
    rcases split_concat split with ⟨rfl, rfl⟩ | ⟨middle, earlier⟩
    · exact invites.rested
    · exact paced.rested first later middle earlier

namespace InitiationTables

variable {tables : InitiationTables}

variable {outcome : InitiationInvitationOutcome} {current : InitiationInvitationRecord}

theorem settles_resolveInvitation (paced : Paced tables.invitations) (invitationId : String)
    (final : outcome ≠ .offered) (instant : Int) :
    Settles tables.invitations
      (tables.resolveInvitation invitationId outcome instant).invitations := by
  rcases eq_nil_or_concat tables.invitations with none | ⟨before, last, rows⟩
  · simp only [resolveInvitation, TableRows.update, none, map_nil]
    exact Settles.same []
  · rw [concat_eq_append] at rows
    have kept : TableRows.update
        (fun row => decide (row.invitationId = invitationId ∧ row.outcome = .offered))
        (fun row => { row with outcome := outcome, outcomeAt := some (timestamp instant) })
        before = before := by
      refine update_eq_self_iff.mpr fun row member selected => ?_
      have isSettled := paced.earlierSettled row (by simpa [rows] using member)
      exact absurd (of_decide_eq_true selected).2 isSettled
    simp only [resolveInvitation, rows]
    rw [TableRows.update, map_append, ← TableRows.update, kept, map_singleton]
    by_cases selected : last.invitationId = invitationId ∧ last.outcome = .offered
    · rw [if_pos (by simpa using selected)]
      exact Settles.settled before last outcome (timestamp instant) selected.2 final
    · rw [if_neg (by simpa using selected)]
      exact Settles.same _

theorem openInvitation_none (none : tables.openInvitation = none) :
    ∀ row ∈ tables.invitations, row.outcome ≠ .offered := by
  have unfiltered := filter_eq_nil_iff.mp (newest_eq_none_iff.mp none)
  intro row member
  simpa using unfiltered row member

theorem openInvitation_some (paced : Paced tables.invitations)
    (found : tables.openInvitation = some current) :
    ∃ before, tables.invitations = before ++ [current] ∧
      ∀ row ∈ before, row.outcome ≠ .offered := by
  obtain ⟨member, isOpen⟩ := mem_filter.mp (mem_of_newest found)
  have nonempty := ne_nil_of_mem member
  have split := dropLast_append_getLast nonempty
  have isLast : tables.invitations.getLast nonempty = current := by
    rw [← split] at member
    rcases mem_append.mp member with earlier | isLast
    · exact absurd (of_decide_eq_true isOpen) (paced.earlierSettled current earlier)
    · exact (mem_singleton.mp isLast).symm
  rw [isLast] at split
  exact ⟨_, split.symm, paced.earlierSettled⟩

theorem settled_resolveInvitation (paced : Paced tables.invitations)
    (found : tables.openInvitation = some current)
    (final : outcome ≠ .offered) (instant : Int) :
    ∀ row ∈ (tables.resolveInvitation current.invitationId outcome instant).invitations,
      row.outcome ≠ .offered := by
  obtain ⟨before, split, earlier⟩ := openInvitation_some paced found
  intro row member
  rcases mem_update.mp member with ⟨stored, unselected⟩ | ⟨old, _, _, rfl⟩
  · rw [split] at stored
    rcases mem_append.mp stored with isEarlier | isCurrent
    · exact earlier row isEarlier
    · simpa [mem_singleton.mp isCurrent] using unselected
  · exact final

theorem recentInvitations_eq (paced : Paced tables.invitations) :
    tables.recentInvitations backoffScanLimit = scanned tables.invitations := by
  rw [recentInvitations, scanned, insertionSort_eq_reverse]
  · exact paced.ascending.imp fun earlier => Or.inl earlier
  · intro row member other otherMember newer older
    have sameId : other.invitationId = row.invitationId := by
      rcases newer with later | ⟨_, before⟩
      · rcases older with later' | ⟨same, _⟩ <;> omega
      · rcases older with later' | ⟨_, after⟩
        · omega
        · exact String.le_antisymm before after
    exact inj_on_of_nodup_map paced.ids otherMember member sameId

theorem trailingDismissals_scanned (rows : List InitiationInvitationRecord) :
    trailingDismissals (scanned rows) = (dismissals (scanned rows),
        (lastDismissal (scanned rows)).map fun row => row.outcomeAt.getD row.offeredAt) := by
  have short : (scanned rows).length ≤ backoffScanLimit := length_take_le _ _
  rw [trailingDismissals, trailingDismissalsFrom_eq]
  · simp
  · exact (Nat.add_le_add_left short 0).trans (by decide)

theorem invitationCooldown_scanned (rows : List InitiationInvitationRecord) :
    invitationCooldown (dismissals (scanned rows)) =
      24 * 60 * 60 * (min (2 ^ dismissals (scanned rows)) u32Max : Nat) := by
  have few : dismissals (scanned rows) ≤ backoffScanLimit :=
    (dismissals_le_length _).trans (length_take_le _ _)
  rw [invitationCooldown, Nat.min_eq_left few]
  rfl

theorem exists_lastDismissal {rows : List InitiationInvitationRecord}
    (some_count : 0 < dismissals (scanned rows)) :
    ∃ row ∈ rows, lastDismissal (scanned rows) = some row := by
  obtain ⟨dismissed, isCounted, isDismissed⟩ := countP_pos_iff.mp some_count
  obtain ⟨row, found⟩ : ∃ row, lastDismissal (scanned rows) = some row :=
    Option.isSome_iff_exists.mp (List.find?_isSome.mpr ⟨dismissed, isCounted, isDismissed⟩)
  have isScanned := (takeWhile_sublist _).subset (mem_of_find?_eq_some found)
  exact ⟨row, mem_reverse.mp (mem_of_mem_take isScanned), found⟩

/-- An invitation that the gates let through is paced. -/
theorem invites_of_mayInvite (paced : Paced tables.invitations)
    (settled : ∀ row ∈ tables.invitations, row.outcome ≠ .offered)
    {request : InvitationRequest} (may : tables.mayInvite request = true)
    {recorded : InitiationTables}
    (stored : tables.recordInvitation (newInvitation request) = some recorded) :
    Invites tables.invitations (newInvitation request) ∧
      recorded.invitations = tables.invitations ++ [newInvitation request] := by
  simp only [mayInvite, Bool.and_eq_true, decide_eq_true_eq, Bool.not_eq_true',
    recentInvitations_eq paced] at may
  obtain ⟨⟨⟨⟨_, date⟩, loud⟩, cool⟩, _⟩ := may
  simp only [recordInvitation] at stored
  split at stored
  case isTrue => exact absurd stored (by simp)
  case isFalse fresh =>
    rw [← Option.some.inj stored]
    refine ⟨{ settled := settled, open_ := rfl, freshId := fresh, freshDate := ?_,
              rested := { cooled := ?_, silent := ?_ } }, rfl⟩
    · have absent : tables.invitationsOnLocalDate (requestDate request) = 0 :=
        Nat.lt_one_iff.mp date
      intro member
      obtain ⟨row, isStored, sameDate⟩ := mem_map.mp member
      have differs := countP_eq_zero.mp absent row isStored
      exact differs (decide_eq_true sameDate)
    · intro last isLast
      have newest : (scanned tables.invitations).head? = some last := by
        rw [scanned, List.head?_take, if_neg (by decide), List.head?_reverse, isLast]
      rw [coolingDown, newest, trailingDismissals_scanned, Option.any_some,
        decide_eq_false_iff_not, not_lt, invitationCooldown_scanned,
        fromTimestamp_add_seconds, fromTimestamp_le_iff] at cool
      exact cool
    · intro many
      obtain ⟨row, member, found⟩ :=
        exists_lastDismissal (Nat.lt_of_lt_of_le (by decide) many)
      obtain ⟨dismissedAt, answered⟩ := paced.answered row member (settled row member)
      refine ⟨row, dismissedAt, found, answered, ?_⟩
      have counted : decide (invitationSilenceDismissalThreshold ≤
          dismissals (scanned tables.invitations)) = true :=
        decide_eq_true many
      simp only [silenced, trailingDismissals_scanned, found, Option.map_some, answered,
        Option.getD_some, Option.any_some, counted, Bool.true_and,
        decide_eq_false_iff_not, not_lt] at loud
      have stored : fromTimestamp (dismissedAt + 30 * 24 * 60 * 60) ≤ request.now := by
        rw [← fromTimestamp_add_seconds]
        exact loud
      exact fromTimestamp_le_iff.mp stored

/-- What one call does to the invitations: the newest may be settled, and then one may be
added. -/
def Steps (rows next : List InitiationInvitationRecord) : Prop :=
  ∃ middle, Settles rows middle ∧
    (next = middle ∨ ∃ row, Invites middle row ∧ next = middle ++ [row])

theorem steps_of_settles {rows next : List InitiationInvitationRecord}
    (settles : Settles rows next) : Steps rows next :=
  ⟨next, settles, Or.inl rfl⟩

theorem steps_refl (rows : List InitiationInvitationRecord) : Steps rows rows :=
  steps_of_settles (Settles.same rows)

theorem inviteAfresh_cases (paced : Paced tables.invitations)
    (settled : ∀ row ∈ tables.invitations, row.outcome ≠ .offered) (request : InvitationRequest) :
    (tables.inviteAfresh request).2.invitations = tables.invitations ∨
      ∃ row, Invites tables.invitations row ∧
        (tables.inviteAfresh request).2.invitations = tables.invitations ++ [row] := by
  rw [inviteAfresh]
  split
  case isFalse => exact Or.inl rfl
  case isTrue may =>
    cases stored : tables.recordInvitation (newInvitation request) with
    | none => exact Or.inl rfl
    | some recorded =>
      exact Or.inr ⟨_, invites_of_mayInvite paced settled may stored⟩

theorem staleOutcome_final {request : InvitationRequest}
    (stale : tables.staleOutcome request current = some outcome) : outcome ≠ .offered := by
  simp only [staleOutcome] at stale
  split at stale
  · simp [← Option.some.inj stale]
  · split at stale
    · simp [← Option.some.inj stale]
    · split at stale
      · simp [← Option.some.inj stale]
      · exact absurd stale (by simp)

theorem steps_pendingInvitation (paced : Paced tables.invitations) (request : InvitationRequest) :
    Steps tables.invitations (tables.pendingInvitation request).2.invitations := by
  rw [pendingInvitation]
  cases found : tables.openInvitation with
  | none =>
    exact ⟨_, Settles.same _, inviteAfresh_cases paced (openInvitation_none found) request⟩
  | some current =>
    cases stale : tables.staleOutcome request current with
    | none =>
      simp only [stale]
      exact steps_refl _
    | some outcome =>
      simp only [stale]
      have final := staleOutcome_final stale
      have settles :=
        settles_resolveInvitation paced current.invitationId final request.now
      exact ⟨_, settles, inviteAfresh_cases (paced.settles settles)
        (settled_resolveInvitation paced found final request.now) request⟩

theorem settles_expireOpen (paced : Paced tables.invitations) (now : Int) :
    Settles tables.invitations (tables.expireOpen now).invitations := by
  rw [expireOpen]
  cases tables.openInvitation with
  | none => exact Settles.same _
  | some current => exact settles_resolveInvitation paced _ (by decide) now

theorem steps_next (paced : Paced tables.invitations) (call : InitiationCall) :
    Steps tables.invitations (initiationMachine.next tables call).invitations := by
  cases call with
  | pendingInvitation request => exact steps_pendingInvitation paced request
  | dismiss invitationId now =>
    exact steps_of_settles (settles_resolveInvitation paced invitationId (by decide) now)
  | claimable invitationId now => exact steps_refl _
  | recordBlockStarted claimed now =>
    cases claimed with
    | some invitationId =>
      exact steps_of_settles (settles_resolveInvitation paced invitationId (by decide) now)
    | none => exact steps_of_settles (settles_expireOpen paced now)
  | expireOpen now => exact steps_of_settles (settles_expireOpen paced now)
  | setEnabled enabled now =>
    cases enabled with
    | true => exact steps_refl _
    | false =>
      have same : Paced (tables.setInvitationsEnabled false now).invitations := paced
      exact steps_of_settles (settles_expireOpen same now)
  | enabled => exact steps_refl _

end InitiationTables

open InitiationTables

theorem Paced.steps (paced : Paced rows) (steps : Steps rows next) : Paced next := by
  obtain ⟨middle, settles, rfl | ⟨row, invites, rfl⟩⟩ := steps
  · exact paced.settles settles
  · exact (paced.settles settles).invites invites

theorem paced_run {tables : InitiationTables} (paced : Paced tables.invitations)
    (calls : List InitiationCall) : Paced (initiationMachine.run tables calls).invitations := by
  have keeps : ∀ (tables : InitiationTables) (call : InitiationCall),
      Paced tables.invitations → Paced (initiationMachine.next tables call).invitations :=
    fun _ call paced => paced.steps (steps_next paced call)
  exact initiationMachine.invariant_run_of_forall keeps calls paced

/-- The row is still the same invitation, and unchanged if it was settled. -/
structure Continues (row later : InitiationInvitationRecord) : Prop where
  invitationId : later.invitationId = row.invitationId
  offeredAt : later.offeredAt = row.offeredAt
  localDate : later.localDate = row.localDate
  settled : row.outcome ≠ .offered → later = row

theorem Continues.trans {first second third : InitiationInvitationRecord}
    (before : Continues first second) (after : Continues second third) :
    Continues first third where
  invitationId := after.invitationId.trans before.invitationId
  offeredAt := after.offeredAt.trans before.offeredAt
  localDate := after.localDate.trans before.localDate
  settled isSettled := by
    have kept := before.settled isSettled
    rw [← kept] at isSettled
    exact (after.settled isSettled).trans kept

/-- Every invitation goes on at its place. -/
def Extends (rows next : List InitiationInvitationRecord) : Prop :=
  ∀ (index : Nat) (row : InitiationInvitationRecord), rows[index]? = some row →
    ∃ later, next[index]? = some later ∧ Continues row later

theorem Extends.refl (rows : List InitiationInvitationRecord) : Extends rows rows :=
  fun _ row found => ⟨row, found, ⟨rfl, rfl, rfl, fun _ => rfl⟩⟩

theorem Extends.trans {first second third : List InitiationInvitationRecord}
    (before : Extends first second) (after : Extends second third) : Extends first third := by
  intro index row found
  obtain ⟨middle, stored, continues⟩ := before index row found
  obtain ⟨later, stored', continues'⟩ := after index middle stored
  exact ⟨later, stored', continues.trans continues'⟩

theorem extends_append (rows new : List InitiationInvitationRecord) :
    Extends rows (rows ++ new) := by
  intro index row found
  have inside : index < rows.length := (List.getElem?_eq_some_iff.mp found).1
  exact ⟨row, by rw [List.getElem?_append_left inside, found], ⟨rfl, rfl, rfl, fun _ => rfl⟩⟩

theorem extends_of_settles (settles : Settles rows next) : Extends rows next := by
  cases settles with
  | same => exact Extends.refl rows
  | settled before last outcome instant isOpen final =>
    intro index row found
    rcases Nat.lt_or_ge index before.length with inside | atEnd
    · rw [List.getElem?_append_left inside] at found ⊢
      exact ⟨row, found, ⟨rfl, rfl, rfl, fun _ => rfl⟩⟩
    · rw [List.getElem?_append_right atEnd] at found ⊢
      cases offset : index - before.length with
      | zero =>
        rw [offset] at found
        obtain rfl := Option.some.inj found
        exact ⟨_, rfl, ⟨rfl, rfl, rfl, fun isSettled => absurd isOpen isSettled⟩⟩
      | succ beyond =>
        rw [offset] at found
        exact absurd found (by simp)

theorem extends_of_steps (steps : Steps rows next) : Extends rows next := by
  obtain ⟨middle, settles, rfl | ⟨row, _, rfl⟩⟩ := steps
  · exact extends_of_settles settles
  · exact (extends_of_settles settles).trans (extends_append middle [row])

theorem extends_run {tables : InitiationTables} (paced : Paced tables.invitations)
    (calls : List InitiationCall) :
    Extends tables.invitations (initiationMachine.run tables calls).invitations := by
  induction calls generalizing tables with
  | nil => exact Extends.refl _
  | cons call calls ih =>
    have steps := steps_next paced call
    exact (extends_of_steps steps).trans (ih (paced.steps steps))

/-- After any calls at most one invitation is open and no two share a local date; whatever is
settled stays settled; and each keeps its distance from the ones before it, by the dismissals
that the scan sees, and so by all dismissals since the last acceptance if none is past its
end. -/
theorem invitations_paced (calls more : List InitiationCall) :
    ((initiationMachine.run InitiationTables.empty calls).invitations.countP fun row =>
        decide (row.outcome = .offered)) ≤ 1 ∧
      ((initiationMachine.run InitiationTables.empty calls).invitations.map
        (·.localDate)).Nodup ∧
      Extends (initiationMachine.run InitiationTables.empty calls).invitations
        (initiationMachine.run InitiationTables.empty (calls ++ more)).invitations ∧
      ∀ before later after,
        (initiationMachine.run InitiationTables.empty calls).invitations =
          before ++ later :: after →
        Rested (scanned before) before later ∧
          (SeesDismissals before → Rested before.reverse before later) := by
  have paced : Paced (initiationMachine.run InitiationTables.empty calls).invitations :=
    paced_run paced_nil calls
  refine ⟨?_, paced.dates, ?_, fun before later after split =>
    ⟨paced.rested before later after split, (paced.rested before later after split).whole⟩⟩
  · rcases eq_nil_or_concat
      (initiationMachine.run InitiationTables.empty calls).invitations with none | ⟨before, last, rows⟩
    · simp [none]
    · rw [concat_eq_append] at rows
      have settled : before.countP (fun row => decide (row.outcome = .offered)) = 0 := by
        refine countP_eq_zero.mpr fun row member => ?_
        simpa using paced.earlierSettled row (by simpa [rows] using member)
      rw [rows, countP_append, settled, Nat.zero_add]
      exact countP_le_length
  · rw [Machine.run_append]
    exact extends_run paced more

/-- A request at the start of a day, in an hour that three earlier blocks make a good one. -/
def goodHourRequest (day : Int) : InvitationRequest where
  now := Duration.days day
  utcOffsetSeconds := 0
  gates := { liveBlockExists := false, inQuietHours := false, focusActive := false }
  evidence :=
    { completedBlockCount := 6
      completedBlockDwellSpans :=
        [7, 14, 21].map fun back =>
          { blockId := toString back
            startedAt := Duration.days (day - back)
            endedAt := Duration.days (day - back) + Duration.seconds 900 } }
  uuid := toString day

/-- One dismissal, then a request every other day that nobody answers, and one more a day
later. -/
def unansweredRequests : List InitiationCall :=
  [.pendingInvitation (goodHourRequest 0), .dismiss "0" (Duration.days 0)] ++
    (List.range 32).map (fun count => .pendingInvitation (goodHourRequest (2 * count + 2))) ++
    [.pendingInvitation (goodHourRequest 65)]

/-- The dismissal is the only answer there ever was, so it should double the spacing.  The
scan of the last 32 rows no longer finds it, and the last two invitations are one day apart. -/
theorem scan_forgets_dismissal :
    dismissals ((initiationMachine.run InitiationTables.empty
        unansweredRequests).invitations.take 33).reverse = 1 ∧
      ((initiationMachine.run InitiationTables.empty unansweredRequests).invitations.drop
        32).map (·.offeredAt) = [64 * 86400, 65 * 86400] ∧
      ¬ (64 * 86400 + 24 * 60 * 60 * 2 ^ 1 : Int) ≤ 65 * 86400 := by
  decide +kernel

end Velvt
