import Velvt.AccountAuth

/-!
# How a task conducts an exchange of tokens

A task holds the refresh lock while it exchanges tokens.
-/

namespace Velvt.Auth

open StepMachine TaskPrograms

/-- How far a task has got. -/
structure Standing where
  /-- It holds the refresh lock. -/
  holds : Bool
  /-- It has put the state in flight, and has not yet taken it out. -/
  flying : Bool
  /-- The device's refresh token that it has read under the lock. -/
  device : Option String
  /-- The user's refresh token that it has read under the lock. -/
  user : Option String
  /-- The server has taken the device's refresh token. -/
  exchanged : Bool
  /-- The device tokens that the server has handed to it. -/
  inHand : Option TokenPair
  /-- The user tokens that the server has handed to it. -/
  userInHand : Option TokenPair
  /-- It has left the authenticated state. -/
  left : Bool
  cleared : Bool
  userCleared : Bool

namespace Standing

def idle : Standing where
  holds := false
  flying := false
  device := none
  user := none
  exchanged := false
  inHand := none
  userInHand := none
  left := false
  cleared := false
  userCleared := false

variable (state : Standing)

def landed : Standing :=
  { state with flying := false, exchanged := false, inHand := none }

/-- A task that can give the lock back. -/
structure Grounded : Prop where
  holds : state.holds = true
  flying : state.flying = false
  userInHand : state.userInHand = none

/-- A refresh token that the task may send. -/
def MaySend (token : String) : Prop :=
  (state.flying = true ∧ state.exchanged = false ∧ state.device = some token) ∨
    (state.holds = true ∧ state.flying = false ∧ state.userInHand = none ∧ state.user = some token)

/-- A request that the task may send: an exchange of the tokens that it has read, the one for
new device tokens while the state is in flight, or one that exchanges nothing. -/
def MayRequest (request : HttpRequest) : Prop :=
  match request.refreshToken with
  | some token => request.path = refreshPath ∧ state.MaySend token
  | none => state.flying = true → request.path = reissuePath

def received (request : HttpRequest) (reply : Except AuthError HttpResponse) : Standing :=
  match reply with
  | .error _ => state
  | .ok response =>
    if response.status = 200 then
      match request.refreshToken with
      | some _ =>
        if state.flying then { state with exchanged := true, inHand := response.tokens }
        else { state with userInHand := response.tokens }
      | none => if state.flying then { state with inHand := response.tokens } else state
    else
      state

end Standing

namespace AuthCall

variable {Answer : Type}

/-- The calls that a task may make, in a run with logouts or in one without. -/
def Conducted (departs : Bool) (state : Standing) : AuthCall Answer → Prop
  | .storePair tokens => state.flying = true ∧ state.inHand = some tokens
  | .storeUserPair tokens => state.holds = true ∧ state.userInHand = some tokens
  | .clearTokens => departs = true ∧ state.holds = false ∧ state.left = true
  | .clearUserTokens => departs = true ∧ state.holds = false ∧ state.left = true
  | .storeDeviceId _ => False
  | .clearDeviceId => False
  | .transition (.authenticated _) => state.flying = true ∧ state.exchanged = false
  | .transition .refreshInFlight => state.Grounded
  | .transition .unauthenticated => departs = true ∧ state.holds = false
  | .lockRefresh => state = .idle
  | .unlockRefresh => state.Grounded
  | .send request => state.MayRequest request
  | .receive request => state.MayRequest request
  | .returnLogOut => state.cleared = true ∧ state.userCleared = true
  | _ => True

def conducts (state : Standing) : AuthCall Answer → Answer → Standing
  | .loadTokens, .ok stored =>
    if state.holds then { state with device := stored.map (·.refreshToken) } else state
  | .loadUserTokens, .ok stored =>
    if state.holds then { state with user := stored.map (·.refreshToken) } else state
  | .storePair _, .ok () => { state with exchanged := false, inHand := none, device := none }
  | .storeUserPair _, .ok () => { state with userInHand := none, user := none }
  | .clearTokens, .ok () => { state with cleared := true }
  | .clearUserTokens, .ok () => { state with userCleared := true }
  | .transition .refreshInFlight, .ok () => { state with flying := true }
  | .transition .refreshInFlight, .error _ => state
  | .transition .unauthenticated, _ => { state with left := true }
  | .transition _, _ => state.landed
  | .lockRefresh, () => { state with holds := true }
  | .unlockRefresh, () => .idle
  | .receive request, reply => state.received request reply
  | _, _ => state

/-- The stores do not fail. -/
def Stores : AuthCall Answer → Answer → Prop
  | .storePair _, answer => answer = .ok ()
  | .storeUserPair _, answer => answer = .ok ()
  | .clearTokens, answer => answer = .ok ()
  | .clearUserTokens, answer => answer = .ok ()
  | _, _ => True

end AuthCall

/-- How tokens are exchanged and given up, while the stores do not fail. -/
def conduct (departs : Bool) : Protocol AuthCall Standing where
  allowed state operation := operation.Conducted departs state
  possible operation answer := operation.Stores answer
  track state operation answer := operation.conducts state answer

section Rules

variable {departs : Bool} {First Answer : Type} {state : Standing}

/-- How a task ends: with a result in one kind of state, with an error in another. -/
def Yields (P : Answer → Standing → Prop) (Q : Standing → Prop)
    (result : Except AuthError Answer) (last : Standing) : Prop :=
  match result with
  | .ok answer => P answer last
  | .error _ => Q last

variable {P : Answer → Standing → Prop} {Q : Standing → Prop}

theorem yields_bind {middle : First → Standing → Prop} {program : AuthTask First}
    {next : First → AuthTask Answer}
    (begins : Follows (conduct departs) (Yields middle Q) program.run state)
    (goesOn : ∀ value later, middle value later →
      Follows (conduct departs) (Yields P Q) (next value).run later) :
    Follows (conduct departs) (Yields P Q) (program >>= next).run state := by
  rw [follows_except_bind]
  refine begins.mono (conduct departs) ?_
  rintro (error | value) later ends
  · exact ends
  · exact goesOn value later ends

theorem yields_pure {value : Answer} (holds : P value state) :
    Follows (conduct departs) (Yields P Q) (pure value : AuthTask Answer).run state :=
  holds

theorem yields_throw {error : AuthError} (holds : Q state) :
    Follows (conduct departs) (Yields P Q) (throw error : AuthTask Answer).run state :=
  holds

theorem yields_outside {operation : AuthCall Answer} (allowed : operation.Conducted departs state)
    (ends : ∀ answer, operation.Stores answer → P answer (operation.conducts state answer)) :
    Follows (conduct departs) (Yields P Q) (outside operation).run state :=
  ⟨allowed, ends⟩

theorem yields_fallible {operation : AuthCall (Except AuthError Answer)}
    (allowed : operation.Conducted departs state) (ends : ∀ answer, operation.Stores (.ok answer) →
      P answer (operation.conducts state (.ok answer)))
    (fails : ∀ error, operation.Stores (.error error : Except AuthError Answer) →
      Q (operation.conducts state (.error error))) :
    Follows (conduct departs) (Yields P Q) (fallible operation).run state := by
  refine ⟨allowed, ?_⟩
  rintro (error | answer) stores
  · exact fails error stores
  · exact ends answer stores

theorem Yields.mono {strong : Answer → Standing → Prop} {worse : Standing → Prop}
    {program : AuthTask Answer}
    (follows : Follows (conduct departs) (Yields strong worse) program.run state)
    (implies : ∀ answer last, strong answer last → P answer last)
    (worsens : ∀ last, worse last → Q last) :
    Follows (conduct departs) (Yields P Q) program.run state := by
  refine follows.mono (conduct departs) ?_
  rintro (error | answer) last ends
  · exact worsens last ends
  · exact implies answer last ends

end Rules

section Helpers

variable {departs : Bool} {Answer : Type} {state : Standing} {Q : Standing → Prop} {refreshBuffer : Int}

/-- The state that a task is in, whatever its result. -/
def Stays (state : Standing) (_ : Answer) (last : Standing) : Prop := last = state

theorem stillUsable_yields (force : Bool) (tokens : TokenPair) :
    Follows (conduct departs) (Yields (Stays state) Q) (stillUsable refreshBuffer force tokens).run state := by
  unfold stillUsable
  split
  · exact yields_pure rfl
  · refine yields_bind (yields_outside (P := Stays state) trivial fun _ _ => rfl) ?_
    rintro now later rfl
    exact yields_pure rfl

theorem presentTokens_yields (stored : Option TokenPair) (fails : Q state) :
    Follows (conduct departs) (Yields (fun tokens last => stored = some tokens ∧ last = state) Q)
      (presentTokens stored).run state := by
  cases stored with
  | none => exact yields_throw fails
  | some tokens => exact yields_pure ⟨rfl, rfl⟩

theorem authenticatedDevice_yields (fails : Q state) :
    Follows (conduct departs) (Yields (Stays state) Q) authenticatedDevice.run state := by
  refine yields_bind (yields_outside (P := Stays state) trivial fun _ _ => rfl) ?_
  rintro current later rfl
  cases current with
  | authenticated deviceId => exact yields_pure rfl
  | unauthenticated => exact yields_throw fails
  | needsReauth => exact yields_throw fails
  | deviceRevoked => exact yields_throw fails
  | refreshInFlight => exact yields_throw fails

theorem attempt_yields {request : HttpRequest} (allowed : state.MayRequest request) :
    Follows (conduct departs) (Yields (fun reply last => last = state.received request reply) Q)
      (attempt request).run state := by
  refine yields_bind (yields_outside (P := Stays state) allowed fun _ _ => rfl) ?_
  rintro _ later rfl
  exact yields_outside allowed fun _ _ => rfl

theorem transmit_yields {request : HttpRequest}
    (allowed : state.MayRequest request) (fails : Q state) :
    Follows (conduct departs)
      (Yields (fun response last => last = state.received request (.ok response)) Q)
      (transmit request).run state := by
  refine yields_bind (yields_outside (P := Stays state) allowed fun _ _ => rfl) ?_
  rintro _ later rfl
  exact yields_fallible allowed (fun _ _ => rfl) fun _ _ => fails

theorem failAfter_yields {P : Answer → Standing → Prop} {next : AuthState} {error : AuthError}
    (allowed : (AuthCall.transition next).Conducted departs state)
    (lands : ∀ answer, Q ((AuthCall.transition next).conducts state answer)) :
    Follows (conduct departs) (Yields P Q) (failAfter next error : AuthTask Answer).run state := by
  refine yields_bind (yields_fallible (P := fun _ last => Q last) allowed
    (fun _ _ => lands _) fun _ _ => lands _) ?_
  intro _ later isLast
  exact yields_throw isLast

theorem landed_grounded (holds : state.holds = true) (free : state.userInHand = none) :
    state.landed.Grounded where
  holds := holds
  flying := rfl
  userInHand := free

end Helpers

section Sections

variable {departs : Bool} {state : Standing} {refreshBuffer : Int}

/-- A task under the lock, with the state in flight and nothing of the user's in hand. -/
structure InFlight (state : Standing) : Prop where
  holds : state.holds = true
  flying : state.flying = true
  userInHand : state.userInHand = none

theorem failAfter_lands {Answer : Type} {P : Answer → Standing → Prop} {next : AuthState}
    {error : AuthError} (holds : state.holds = true) (free : state.userInHand = none)
    (allowed : (AuthCall.transition next).Conducted departs state)
    (lands : ∀ answer, (AuthCall.transition next).conducts state answer = state.landed) :
    Follows (conduct departs) (Yields P Standing.Grounded) (failAfter next error : AuthTask Answer).run
      state := by
  refine failAfter_yields allowed fun answer => ?_
  rw [lands answer]
  exact landed_grounded holds free

variable {response : HttpResponse} {request : HttpRequest}

theorem acceptFresh_yields {deviceId : String} (inFlight : InFlight state)
    (handed : state.inHand = response.tokens) :
    Follows (conduct departs) (Yields (fun _ last => last.Grounded) Standing.Grounded)
      (acceptFresh deviceId response).run state := by
  unfold acceptFresh
  split
  · exact failAfter_lands inFlight.holds inFlight.userInHand trivial fun _ => rfl
  next fresh isFresh =>
    refine yields_bind (yields_outside (P := fun answer last => answer = .ok () ∧
        last = { state with exchanged := false, inHand := none, device := none })
      ⟨inFlight.flying, handed.trans isFresh⟩ ?_) ?_
    · rintro answer rfl
      exact ⟨rfl, rfl⟩
    · rintro answer later ⟨rfl, rfl⟩
      refine yields_bind (yields_fallible (P := fun _ last => last.Grounded)
        ⟨inFlight.flying, rfl⟩ ?_ ?_) ?_
      · exact fun _ _ => landed_grounded inFlight.holds inFlight.userInHand
      · exact fun _ _ => landed_grounded inFlight.holds inFlight.userInHand
      · intro _ last grounded
        exact yields_pure grounded

theorem InFlight.received {reply : Except AuthError HttpResponse}
    (inFlight : InFlight state) : InFlight (state.received request reply) := by
  unfold Standing.received
  split
  · exact inFlight
  · split
    · split
      · rw [if_pos inFlight.flying]
        exact ⟨inFlight.holds, inFlight.flying, inFlight.userInHand⟩
      · rw [if_pos inFlight.flying]
        exact ⟨inFlight.holds, inFlight.flying, inFlight.userInHand⟩
    · exact inFlight

theorem InFlight.inHand (inFlight : InFlight state) (success : response.status = 200) :
    (state.received request (.ok response)).inHand = response.tokens := by
  simp only [Standing.received, if_pos success]
  split <;> rw [if_pos inFlight.flying]

theorem received_of_failure
    (failure : response.status ≠ 200) : state.received request (.ok response) = state := by
  simp only [Standing.received, if_neg failure]

def locked : Standing := { Standing.idle with holds := true }

/-- The refresh keeps to the conduct, and ends on the ground. -/
theorem refreshSection_yields (force : Bool) :
    Follows (conduct departs) (Yields (fun _ last => last.Grounded) Standing.Grounded)
      (refreshSection refreshBuffer force).run locked := by
  refine yields_bind (yields_fallible
    (P := fun stored last => last = { locked with device := stored.map (·.refreshToken) })
    trivial (fun _ _ => rfl) fun _ _ => ⟨rfl, rfl, rfl⟩) ?_
  rintro stored later rfl
  refine yields_bind (presentTokens_yields stored ⟨rfl, rfl, rfl⟩) ?_
  rintro tokens later ⟨rfl, rfl⟩
  refine yields_bind (stillUsable_yields force tokens) ?_
  rintro usable later rfl
  split
  · exact yields_pure ⟨rfl, rfl, rfl⟩
  · refine yields_bind (authenticatedDevice_yields ⟨rfl, rfl, rfl⟩) ?_
    rintro deviceId later rfl
    refine yields_bind (yields_fallible (P := fun _ last => last =
        { locked with device := some tokens.refreshToken, flying := true })
      ⟨rfl, rfl, rfl⟩ (fun _ _ => rfl) fun _ _ => ⟨rfl, rfl, rfl⟩) ?_
    rintro _ later rfl
    have inFlight :
        InFlight { locked with device := some tokens.refreshToken, flying := true } :=
      ⟨rfl, rfl, rfl⟩
    refine yields_bind (attempt_yields ?_) ?_
    · exact ⟨rfl, Or.inl ⟨rfl, rfl, rfl⟩⟩
    · rintro reply later rfl
      cases reply with
      | error error =>
        exact failAfter_lands rfl rfl ⟨rfl, rfl⟩ fun _ => rfl
      | ok response =>
        dsimp only
        split
        next success =>
          refine yields_bind (acceptFresh_yields inFlight.received (inFlight.inHand success)) ?_
          intro fresh last grounded
          exact yields_pure grounded
        next failure =>
          rw [received_of_failure failure]
          split
          · exact failAfter_lands rfl rfl trivial fun _ => rfl
          · split
            · refine yields_bind (yields_fallible (P := fun _ last => last.Grounded)
                ⟨rfl, rfl⟩ (fun _ _ => landed_grounded rfl rfl)
                fun _ _ => landed_grounded rfl rfl) ?_
              intro _ last grounded
              exact yields_pure grounded
            · exact failAfter_lands rfl rfl trivial fun _ => rfl

/-- A task under the lock that has read what the user's tokens are, or nothing. -/
structure Reading (state : Standing) : Prop where
  holds : state.holds = true
  flying : state.flying = false
  exchanged : state.exchanged = false
  inHand : state.inHand = none
  userInHand : state.userInHand = none

section

variable (reading : Reading state)

include reading

theorem Reading.grounded : state.Grounded :=
  ⟨reading.holds, reading.flying, reading.userInHand⟩

theorem Reading.landed : Reading state.landed :=
  ⟨reading.holds, rfl, rfl, rfl, reading.userInHand⟩

theorem loadUserTokens_yields : Follows (conduct departs)
      (Yields (fun stored last => Reading last ∧ last.user = stored.map (·.refreshToken)) Reading)
      (fallible .loadUserTokens).run state := by
  refine yields_fallible trivial (fun stored _ => ?_) fun _ _ => reading
  change Reading (if state.holds then _ else _) ∧ (if state.holds then _ else _ : Standing).user = _
  rw [if_pos reading.holds]
  exact ⟨⟨reading.holds, reading.flying, reading.exchanged, reading.inHand, reading.userInHand⟩,
    rfl⟩

theorem failAfter_reading {Answer : Type} {P : Answer → Standing → Prop} {error : AuthError} :
    Follows (conduct departs) (Yields P Reading) (failAfter .needsReauth error : AuthTask Answer).run
      state :=
  failAfter_yields trivial fun _ => reading.landed

theorem received_user {token : String} (carries : request.refreshToken = some token) :
    state.received request (.ok response) =
      if response.status = 200 then { state with userInHand := response.tokens } else state := by
  unfold Standing.received
  simp [carries, reading.flying]

theorem refreshUserTokens_yields :
    Follows (conduct departs) (Yields (fun _ => Reading) Reading) refreshUserTokens.run state := by
  refine yields_bind (loadUserTokens_yields reading) ?_
  rintro stored later ⟨isReading, known⟩
  refine yields_bind (presentTokens_yields stored isReading) ?_
  rintro tokens _ ⟨rfl, rfl⟩
  refine yields_bind (transmit_yields ?_ isReading) ?_
  · exact ⟨rfl, Or.inr ⟨isReading.holds, isReading.flying, isReading.userInHand, known⟩⟩
  · rintro response _ rfl
    rw [received_user isReading rfl]
    split
    next success =>
      split
      next missing =>
        refine failAfter_reading ?_
        exact ⟨isReading.holds, isReading.flying, isReading.exchanged, isReading.inHand, missing⟩
      next fresh isFresh =>
        refine yields_bind (yields_outside (P := fun answer last => answer = .ok () ∧ Reading last)
          ⟨isReading.holds, isFresh⟩ ?_) ?_
        · rintro answer rfl
          exact ⟨rfl, isReading.holds, isReading.flying, isReading.exchanged, isReading.inHand, rfl⟩
        · rintro answer last ⟨rfl, isLast⟩
          exact yields_pure isLast
    next failure => exact failAfter_reading isReading

theorem userTokensForReissue_yields : Follows (conduct departs) (Yields (fun _ => Reading) Reading)
      (userTokensForReissue refreshBuffer).run state := by
  refine yields_bind (loadUserTokens_yields reading) ?_
  rintro stored later ⟨isReading, -⟩
  refine yields_bind (presentTokens_yields stored isReading) ?_
  rintro tokens _ ⟨rfl, rfl⟩
  refine yields_bind (stillUsable_yields false tokens) ?_
  rintro usable _ rfl
  split
  · exact yields_pure isReading
  · exact refreshUserTokens_yields isReading

end

theorem reissueSection_yields :
    Follows (conduct departs) (Yields (fun _ last => last.Grounded) Standing.Grounded)
      (reissueSection refreshBuffer).run locked := by
  have opening : Reading locked := ⟨rfl, rfl, rfl, rfl, rfl⟩
  have guarded : Follows (conduct departs) (Yields (fun _ => Reading) Standing.Grounded)
      (tryCatch (userTokensForReissue refreshBuffer) fun error =>
        failAfter .needsReauth error).run locked := by
    rw [follows_except_catch]
    refine (userTokensForReissue_yields opening).mono (conduct departs) ?_
    rintro (error | tokens) later ends
    · exact Yields.mono (failAfter_reading ends) (fun _ _ isReading => isReading)
        fun _ isReading => isReading.grounded
    · exact ends
  refine yields_bind guarded ?_
  intro userTokens reading isReading
  refine yields_bind (authenticatedDevice_yields isReading.grounded) ?_
  rintro deviceId _ rfl
  refine yields_bind (yields_fallible (P := fun _ last => InFlight last ∧ last.exchanged = false)
    isReading.grounded ?_ fun _ _ => isReading.grounded) ?_
  · exact fun _ _ => ⟨⟨isReading.holds, rfl, isReading.userInHand⟩, isReading.exchanged⟩
  · rintro _ flying ⟨inFlight, unspent⟩
    refine yields_bind (attempt_yields fun _ => rfl) ?_
    rintro reply _ rfl
    cases reply with
    | error error =>
      exact failAfter_lands inFlight.holds inFlight.userInHand ⟨inFlight.flying, unspent⟩
        fun _ => rfl
    | ok response =>
      dsimp only
      split
      next success => exact acceptFresh_yields inFlight.received (inFlight.inHand success)
      next failure =>
        rw [received_of_failure failure]
        split
        · exact failAfter_lands inFlight.holds inFlight.userInHand trivial fun _ => rfl
        · exact failAfter_lands inFlight.holds inFlight.userInHand trivial fun _ => rfl

end Sections

section Callers

variable {departs : Bool} {Answer : Type} {refreshBuffer : Int}

theorem withRefreshLock_yields {section_ : AuthTask Answer}
    (ends : Follows (conduct departs) (Yields (fun _ last => last.Grounded) Standing.Grounded) section_.run
      locked) :
    Follows (conduct departs) (Yields (Stays .idle) (· = .idle)) (withRefreshLock section_).run .idle := by
  refine ⟨rfl, fun _ _ => ?_⟩
  change Follows (conduct departs) _ (section_.run >>= fun result => _) locked
  rw [follows_bind]
  refine ends.mono (conduct departs) ?_
  rintro (error | answer) last grounded
  · exact ⟨grounded, fun _ _ => rfl⟩
  · exact ⟨grounded, fun _ _ => rfl⟩

theorem reissueDeviceTokens_yields :
    Follows (conduct departs) (Yields (Stays .idle) (· = .idle)) (reissueDeviceTokens refreshBuffer).run
      .idle :=
  withRefreshLock_yields reissueSection_yields

theorem refreshTokens_yields (force : Bool) :
    Follows (conduct departs) (Yields (Stays .idle) (· = .idle)) (refreshTokens refreshBuffer force).run
      .idle := by
  refine yields_bind (withRefreshLock_yields (refreshSection_yields force)) ?_
  rintro fresh _ rfl
  cases fresh with
  | some tokens => exact yields_pure rfl
  | none => exact reissueDeviceTokens_yields

theorem tokensForRequest_yields :
    Follows (conduct departs) (Yields (Stays .idle) (· = .idle)) (tokensForRequest refreshBuffer).run
      .idle := by
  refine yields_bind (yields_fallible (P := Stays .idle) trivial (fun _ _ => rfl) fun _ _ => rfl) ?_
  rintro stored _ rfl
  refine yields_bind (presentTokens_yields stored rfl) ?_
  rintro tokens _ ⟨-, rfl⟩
  refine yields_bind (stillUsable_yields false tokens) ?_
  rintro usable _ rfl
  split
  · exact yields_pure rfl
  · exact refreshTokens_yields false

variable {request : HttpRequest}

theorem received_plain {state : Standing}
    {reply : Except AuthError HttpResponse} (plain : request.refreshToken = none)
    (landed : state.flying = false) : state.received request reply = state := by
  unfold Standing.received
  split
  · rfl
  · simp [plain, landed]

theorem sendRaw_follows {state : Standing}
    (plain : request.refreshToken = none) (landed : state.flying = false) :
    Follows (conduct departs) (fun _ last => last = state) (sendRaw request) state := by
  have sends : state.MayRequest request := by
    unfold Standing.MayRequest
    simp [plain, landed]
  exact ⟨sends, fun _ _ => ⟨sends, fun _ _ => received_plain plain landed⟩⟩

theorem transmitCaller_yields (plain : request.refreshToken = none) :
    Follows (conduct departs) (Yields (Stays .idle) (· = .idle)) (transmit request).run .idle := by
  refine Yields.mono (transmit_yields (Q := (· = .idle)) ?_ rfl) ?_ fun _ => id
  · unfold Standing.MayRequest
    simp [plain, Standing.idle]
  · rintro response last rfl
    exact received_plain plain rfl

theorem settleResponse_yields (response : HttpResponse) :
    Follows (conduct departs) (Yields (Stays .idle) (· = .idle)) (settleResponse response).run .idle := by
  unfold settleResponse
  split
  · exact failAfter_yields trivial fun _ => rfl
  · split
    · exact failAfter_yields trivial fun _ => rfl
    · split
      · exact yields_throw rfl
      · exact yields_pure rfl

theorem handleResponse_yields (response : HttpResponse) (plain : request.refreshToken = none) :
    Follows (conduct departs) (Yields (Stays .idle) (· = .idle))
      (handleResponse refreshBuffer response request).run .idle := by
  unfold handleResponse
  split
  · refine yields_bind reissueDeviceTokens_yields ?_
    rintro fresh _ rfl
    refine yields_bind (transmitCaller_yields plain) ?_
    rintro retried _ rfl
    exact settleResponse_yields retried
  · exact settleResponse_yields response

theorem sendAuthenticated_yields (plain : request.refreshToken = none) :
    Follows (conduct departs) (Yields (Stays .idle) (· = .idle))
      (sendAuthenticated refreshBuffer request).run .idle := by
  refine yields_bind (yields_outside (P := Stays .idle) trivial fun _ _ => rfl) ?_
  rintro current _ rfl
  split
  · exact yields_throw rfl
  · refine yields_bind tokensForRequest_yields ?_
    rintro tokens _ rfl
    refine yields_bind (transmitCaller_yields plain) ?_
    rintro response _ rfl
    split
    · refine yields_bind (refreshTokens_yields true) ?_
      rintro fresh _ rfl
      refine yields_bind (transmitCaller_yields plain) ?_
      rintro retried _ rfl
      exact handleResponse_yields retried plain
    · exact handleResponse_yields response plain

theorem caller_follows (caller : CallerRequest) :
    Follows (conduct departs) (fun _ _ => True) (AuthWorld.caller refreshBuffer caller) .idle := by
  unfold AuthWorld.caller
  rw [follows_bind]
  exact (sendAuthenticated_yields rfl).mono (conduct departs) fun _ _ _ => trivial

/-- The task that logs out keeps to the conduct. -/
theorem leaver_follows : Follows (conduct true) (fun _ _ => True) AuthWorld.leaver .idle := by
  have clears : ∀ left : Standing, left.holds = false → left.left = true →
      Follows (conduct true) (fun _ last => last.cleared = true ∧ last.userCleared = true)
        (clearLocalSession false) left := by
    intro left free isLeft
    refine ⟨⟨rfl, free, isLeft⟩, ?_⟩
    rintro _ rfl
    refine ⟨⟨rfl, free, isLeft⟩, ?_⟩
    rintro _ rfl
    exact ⟨⟨rfl, free⟩, fun _ _ => ⟨rfl, rfl⟩⟩
  have returns : Follows (conduct true) (fun _ last => last.cleared = true ∧ last.userCleared = true)
      logOut .idle := by
    refine ⟨trivial, fun stored _ => ?_⟩
    have unread : AuthCall.loadTokens.conducts .idle stored = .idle := by
      cases stored <;> rfl
    change Follows (conduct true) _ _ (AuthCall.loadTokens.conducts .idle stored)
    rw [unread]
    refine ⟨⟨rfl, rfl⟩, fun _ _ => ?_⟩
    change Follows (conduct true) _ (revokeTokens stored >>= fun _ => clearLocalSession false)
      { Standing.idle with left := true }
    rw [follows_bind]
    have revokes : Follows (conduct true) (fun _ last => last = { Standing.idle with left := true })
        (revokeTokens stored) { Standing.idle with left := true } := by
      unfold revokeTokens
      split
      · rw [follows_bind]
        refine (sendRaw_follows rfl rfl).mono (conduct true) ?_
        rintro _ last rfl
        rfl
      · rfl
    refine revokes.mono (conduct true) ?_
    rintro _ _ rfl
    exact clears _ rfl rfl
  unfold AuthWorld.leaver
  rw [follows_bind]
  refine returns.mono (conduct true) ?_
  intro _ last cleared
  exact ⟨cleared, fun _ _ => trivial⟩

end Callers

end Velvt.Auth
