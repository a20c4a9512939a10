import Velvt.AccountSessions

/-!
# Reported logins

A sign-up or a login that answers with a device's tokens should have left the service authenticated
as that device, with the tokens and the device id stored; and an authenticated device should be the
stored one.
-/

namespace Velvt.Auth

open StepMachine TaskPrograms

def AuthSuccess.userPair (success : AuthSuccess) : Option TokenPair :=
  match success.userAccessToken, success.userRefreshToken, success.userExpiresAt with
  | some access, some refresh, some expiresAt =>
    some { accessToken := access, refreshToken := refresh, expiresAt := expiresAt }
  | _, _, _ => none

/-- The service is in the session that an answer describes. -/
structure IsLive (success : AuthSuccess) (shared : AuthShared) : Prop where
  state : shared.state = .authenticated success.deviceId
  deviceTokens : shared.deviceTokens = some success.tokens
  userTokens : shared.userTokens = success.userPair
  deviceId : shared.deviceId = some success.deviceId

/-- An answer with a device's tokens, which carries the user's beside them, is live. -/
def ReportsLive (answer : Option ServerMessage) (shared : AuthShared) : Prop :=
  ∀ success, answer = some (.authSuccess success) → success.userAccessToken ≠ none →
    IsLive success shared

/-- The authenticated device is the stored one. -/
def KnowsDevice (shared : AuthShared) : Prop :=
  ∀ device, shared.state = .authenticated device → shared.deviceId = some device

def AuthState.device : AuthState → Option String
  | .authenticated device => some device
  | _ => none

def AuthInput.writes (input : AuthInput) : Bool :=
  !input.storeFails || input.writesAnyway

/-- A login does not end in the revoked state, does not lose the user's tokens, and neither
replaces nor clears the id of the device that is authenticated. -/
def LoginHolds : CallCondition AuthCall AuthShared AuthInput
  | _, input, shared, .storeDeviceId device =>
    input.writes = true → ∀ other ∈ shared.state.device, other = device
  | _, input, shared, .clearDeviceId => input.writes = true → shared.state.device = none
  | _, input, _, .storeUserPair _ => input.writes = true
  | _, _, shared, .transition (.authenticated _) => shared.state ≠ .deviceRevoked
  | _, _, _, _ => True

/-- A restored session does not replace the id of the device that is authenticated. -/
def SessionHolds : CallCondition AuthCall AuthShared AuthInput
  | _, input, shared, .storeDeviceId device =>
    input.writes = true → ∀ other ∈ shared.state.device, other = device
  | _, _, _, _ => True

def AccountOperation.holds : AccountOperation → CallCondition AuthCall AuthShared AuthInput
  | .signUp _ _ | .logIn _ _ => LoginHolds
  | .applySession _ => SessionHolds
  | .logOut | .deleteAccount => anyCall

instance (Answer : Type) (input : AuthInput) (shared : AuthShared) (call : AuthCall Answer) :
    Decidable (LoginHolds Answer input shared call) := by
  induction call using AuthCall.casesOn <;> dsimp only [LoginHolds]
  case transition next => induction next using AuthState.casesOn <;> infer_instance
  all_goals infer_instance

instance (Answer : Type) (input : AuthInput) (shared : AuthShared) (call : AuthCall Answer) :
    Decidable (SessionHolds Answer input shared call) := by
  induction call using AuthCall.casesOn <;> dsimp only [SessionHolds] <;> infer_instance

instance (Answer : Type) (input : AuthInput) (shared : AuthShared) (call : AuthCall Answer)
    (operation : AccountOperation) : Decidable (operation.holds Answer input shared call) := by
  cases operation <;> dsimp only [AccountOperation.holds, anyCall] <;> infer_instance

section Logins

variable {shared after : AuthShared} {condition : CallCondition AuthCall AuthShared AuthInput}
  {input : AuthInput}

theorem device_of_authenticated {device other : String} {state : AuthState}
    (isState : state = .authenticated other) (same : ∀ found ∈ state.device, found = device) :
    other = device :=
  same other (by rw [isState]; rfl)

variable {answer : Except AuthError Unit}

theorem store_writes {written : AuthShared}
    (handled : shared.store input written = some (answer, after)) :
    (input.writes = true ∧ after = written) ∨ (input.writes = false ∧ after = shared) := by
  unfold AuthShared.store at handled
  unfold AuthInput.writes
  split at handled
  next fails =>
    obtain ⟨-, rfl⟩ := Prod.mk.inj (Option.some.inj handled)
    cases isWritten : input.writesAnyway <;> simp [fails]
  next works =>
    obtain ⟨-, rfl⟩ := Prod.mk.inj (Option.some.inj handled)
    simp [works]

variable {device : String}

theorem authenticates {state : AuthState} (unrevoked : state ≠ .deviceRevoked)
    (same : ∀ other, state = .authenticated other → other = device) :
    validTransition state (.authenticated device) = true := by
  cases state with
  | authenticated other =>
    rw [same other rfl]
    simp [validTransition]
  | deviceRevoked => exact absurd rfl unrevoked
  | unauthenticated => rfl
  | needsReauth => rfl
  | refreshInFlight => rfl

theorem sendRaw_ensures (request : HttpRequest) : (sendRaw request).Ensures performAuth condition
      (fun _ after => ∃ events, after = { shared with events := events }) shared := by
  intro input _ answer between sent input _ reply after received
  cases sent
  cases received
  exact ⟨_, rfl⟩

/-- What a sign-up or a login ends in. -/
structure LoginOutcome (message : ServerMessage) (shared : AuthShared) : Prop where
  knows : KnowsDevice shared
  live : ReportsLive (some message) shared

theorem plain_outcome {success : AuthSuccess} (plain : success.userAccessToken = none)
    (knows : KnowsDevice shared) : LoginOutcome (.authSuccess success) shared where
  knows := knows
  live := by
    rintro _ ⟨⟩ carries
    exact absurd plain carries

theorem failure_outcome {failure : AuthFailure} (knows : KnowsDevice shared) :
    LoginOutcome (.authFailure failure) shared where
  knows := knows
  live := by
    rintro success ⟨⟩

theorem KnowsDevice.of_same (knows : KnowsDevice shared) (state : after.state = shared.state)
    (deviceId : after.deviceId = shared.deviceId) : KnowsDevice after := by
  intro device isDevice
  rw [deviceId]
  exact knows device (state.symm.trans isDevice)

theorem KnowsDevice.stored (knows : KnowsDevice shared) {written : AuthShared}
    (handled : shared.store input written = some (answer, after))
    (state : written.state = shared.state) (deviceId : written.deviceId = shared.deviceId) :
    KnowsDevice after := by
  rcases store_fields handled with rfl | rfl
  · exact knows.of_same state deviceId
  · exact knows

theorem KnowsDevice.storesId (knows : KnowsDevice shared)
    (handled : performAuth _ input shared (.storeDeviceId device) = some (answer, after))
    (alone : input.writes = true → ∀ other ∈ shared.state.device, other = device) :
    KnowsDevice after := by
  rcases store_writes handled with ⟨writes, rfl⟩ | ⟨-, rfl⟩
  · intro other isOther
    rw [device_of_authenticated isOther (alone writes)]
  · exact knows

/-- The login of a new device. -/
theorem registerDevice_ensures (serviceVersion : String) {success : AuthSuccess}
    (plain : success.userAccessToken = none) (knows : KnowsDevice shared) :
    (registerDevice serviceVersion success).Ensures performAuth LoginHolds LoginOutcome shared := by
  unfold registerDevice
  rw [ensures_bind]
  refine (sendRaw_ensures _).mono ?_
  rintro (error | response) _ ⟨events, rfl⟩
  all_goals have known : KnowsDevice { shared with events := events } := knows.of_same rfl rfl
  · exact plain_outcome plain known
  · dsimp only
    split
    · split
      next device tokens isDevice isTokens =>
        intro input _ answer paired handled
        have pairedKnows := known.stored handled rfl rfl
        rcases store_cases handled with ⟨rfl, rfl, -⟩ | ⟨⟨error, rfl⟩, -, -⟩
        · intro input alone answer named handled
          have namedKnows := pairedKnows.storesId handled alone
          rcases store_cases handled with ⟨rfl, rfl, -⟩ | ⟨⟨error, rfl⟩, -, -⟩
          · intro input unrevoked answer moved handled
            rcases transition_cases handled with ⟨-, -, rfl⟩ | ⟨-, refused, -⟩
            · intro input writes answer ended handled
              rcases store_writes handled with ⟨-, rfl⟩ | ⟨lost, -⟩
              · refine ⟨fun other isOther => ?_, ?_⟩
                · cases isOther
                  rfl
                · rintro _ ⟨⟩ -
                  exact ⟨rfl, rfl, rfl, rfl⟩
              · rw [show input.writes = true from writes] at lost
                cases lost
            · rw [authenticates unrevoked fun other isOther =>
                (Option.some.inj (namedKnows other isOther)).symm] at refused
              cases refused
          · exact plain_outcome plain namedKnows
        · exact plain_outcome plain pairedKnows
      next => exact plain_outcome plain known
    · exact plain_outcome plain known

/-- The login of a device that is known. -/
theorem reissueForLogin_ensures (serviceVersion userId : String) {userTokens : TokenPair}
    (knows : KnowsDevice shared) (stored : shared.deviceId = some device)
    (storedUser : shared.userTokens = some userTokens) :
    (reissueForLogin serviceVersion userId userTokens device).Ensures performAuth LoginHolds
      LoginOutcome shared := by
  unfold reissueForLogin
  rw [ensures_bind]
  refine (sendRaw_ensures _).mono ?_
  rintro (error | response) _ ⟨events, rfl⟩
  all_goals have known : KnowsDevice { shared with events := events } := knows.of_same rfl rfl
  · exact failure_outcome known
  · dsimp only
    split
    · split
      · exact failure_outcome known
      next tokens isTokens =>
        intro input _ answer paired handled
        have pairedKnows := known.stored handled rfl rfl
        rcases store_cases handled with ⟨rfl, rfl, -⟩ | ⟨⟨error, rfl⟩, -, -⟩
        · intro input unrevoked answer moved handled
          rcases transition_cases handled with ⟨-, -, rfl⟩ | ⟨-, refused, -⟩
          · refine ⟨fun other isOther => ?_, ?_⟩
            · cases isOther
              exact stored
            · rintro _ ⟨⟩ -
              exact ⟨rfl, rfl, storedUser, stored⟩
          · have same : ∀ other, shared.state = .authenticated other → other = device :=
              fun other isOther => Option.some.inj ((pairedKnows other isOther).symm.trans stored)
            rw [authenticates unrevoked same] at refused
            cases refused
        · exact failure_outcome pairedKnows
    · split
      · intro input alone answer cleared handled
        refine registerDevice_ensures serviceVersion rfl ?_
        rcases store_writes handled with ⟨writes, rfl⟩ | ⟨-, rfl⟩
        · intro other isOther
          have free : shared.state.device = none := alone writes
          have isDevice : shared.state = .authenticated other := isOther
          rw [isDevice] at free
          cases free
        · exact known
      · exact failure_outcome known

theorem credentialFlow_ensures (path : String) (successStatus : Nat) (email password : String)
    (knows : KnowsDevice shared) :
    (credentialFlow path successStatus email password).Ensures performAuth condition
      (fun message after => KnowsDevice after ∧
        ∀ success, message = .authSuccess success → success.userAccessToken = none) shared := by
  unfold credentialFlow
  rw [ensures_bind]
  refine (sendRaw_ensures _).mono ?_
  rintro (error | response) _ ⟨events, rfl⟩
  all_goals have known : KnowsDevice { shared with events := events } := knows.of_same rfl rfl
  · refine ⟨known, ?_⟩
    rintro success ⟨⟩
  · dsimp only
    split
    · split
      · refine ⟨known, ?_⟩
        rintro success ⟨⟩
        rfl
      · refine ⟨known, ?_⟩
        rintro success ⟨⟩
    · refine ⟨known, ?_⟩
      rintro success ⟨⟩

theorem ensureDeviceRegistered_ensures (serviceVersion : String) {message : ServerMessage}
    (plain : ∀ success, message = .authSuccess success → success.userAccessToken = none)
    (knows : KnowsDevice shared) :
    (ensureDeviceRegistered serviceVersion message).Ensures performAuth LoginHolds LoginOutcome
      shared := by
  cases message with
  | authFailure failure => exact failure_outcome knows
  | accountDeletionAccepted => exact ⟨knows, by rintro success ⟨⟩⟩
  | errorResponse code text => exact ⟨knows, by rintro success ⟨⟩⟩
  | authSuccess success =>
    intro input _ answer loaded handled
    obtain ⟨rfl, ⟨error, rfl⟩ | rfl⟩ := load_cases handled
    · exact plain_outcome (plain success rfl) knows
    · cases stored : loaded.deviceId with
      | none => exact registerDevice_ensures serviceVersion (plain success rfl) knows
      | some device =>
        intro input writes answer after handled
        rcases store_writes handled with ⟨-, rfl⟩ | ⟨lost, -⟩
        · exact reissueForLogin_ensures serviceVersion success.userId (knows.of_same rfl rfl)
            stored rfl
        · rw [show input.writes = true from writes] at lost
          cases lost

theorem login_ensures (serviceVersion path : String) (successStatus : Nat) (email password : String)
    (knows : KnowsDevice shared) :
    (credentialFlow path successStatus email password >>=
      ensureDeviceRegistered serviceVersion).Ensures performAuth LoginHolds LoginOutcome shared := by
  rw [ensures_bind]
  refine (credentialFlow_ensures path successStatus email password knows).mono ?_
  rintro message after ⟨known, plain⟩
  exact ensureDeviceRegistered_ensures serviceVersion plain known

end Logins

section Sessions

variable {shared after : AuthShared} {condition : CallCondition AuthCall AuthShared AuthInput}

theorem storeSessionUserTokens_ensures (session : AuthSession) (knows : KnowsDevice shared) :
    (storeSessionUserTokens session).Ensures performAuth condition
      (fun _ after => KnowsDevice after) shared := by
  unfold storeSessionUserTokens
  split
  · intro input _ answer after handled
    exact knows.stored handled rfl rfl
  · exact knows
  · exact knows

theorem applySession_ensures (session : AuthSession) (knows : KnowsDevice shared) :
    (applySession session).Ensures performAuth SessionHolds (fun _ after => KnowsDevice after)
      shared := by
  unfold applySession
  rw [ensures_bind]
  refine (storeSessionUserTokens_ensures session knows).mono ?_
  intro userTokensStored between known input _ answer paired handled
  have pairedKnows := known.stored handled rfl rfl
  rcases store_cases handled with ⟨rfl, rfl, -⟩ | ⟨⟨error, rfl⟩, -, -⟩
  · intro input alone answer named handled
    have namedKnows := pairedKnows.storesId handled alone
    rcases store_cases handled with ⟨rfl, rfl, -⟩ | ⟨⟨error, rfl⟩, -, -⟩
    · dsimp only
      split
      · intro input _ answer moved handled
        rcases transition_cases handled with ⟨-, -, rfl⟩ | ⟨-, -, rfl⟩
        · intro other isOther
          cases isOther
          rfl
        · exact namedKnows
      · exact namedKnows
    · exact namedKnows
  · exact pairedKnows

theorem transition_unauthenticated {input : AuthInput} {answer : Except AuthError Unit}
    (handled : performAuth _ input shared (.transition .unauthenticated) = some (answer, after)) :
    KnowsDevice after := by
  have valid : validTransition shared.state .unauthenticated = true := by
    cases shared.state <;> rfl
  rcases transition_cases handled with ⟨-, -, rfl⟩ | ⟨-, refused, -⟩
  · rintro device ⟨⟩
  · rw [valid] at refused
    cases refused

theorem clearLocalSession_ensures (clearDeviceId : Bool) :
    (clearLocalSession clearDeviceId).Ensures performAuth condition
      (fun _ after => KnowsDevice after) shared := by
  intro input _ answer cleared handled input _ answer userCleared handled
  cases clearDeviceId with
  | true =>
    intro input _ answer forgotten handled input _ answer after handled
    exact transition_unauthenticated handled
  | false =>
    intro input _ answer after handled
    exact transition_unauthenticated handled

theorem revokeTokens_ensures (stored : Except AuthError (Option TokenPair)) :
    (revokeTokens stored).Ensures performAuth condition (fun _ _ => True) shared := by
  unfold revokeTokens
  split
  · rw [ensures_bind]
    exact (sendRaw_ensures _).mono fun _ _ _ => trivial
  · trivial

theorem logOut_ensures :
    logOut.Ensures performAuth condition (fun _ after => KnowsDevice after) shared := by
  intro input _ stored loaded handled input _ answer left handled
  change Program.Ensures _ _ _ (revokeTokens stored >>= fun _ => clearLocalSession false) left
  rw [ensures_bind]
  exact (revokeTokens_ensures stored).mono fun _ _ _ => clearLocalSession_ensures false

theorem deleteAccount_ensures (refreshBuffer : Int) (knows : KnowsDevice shared) :
    (deleteAccount refreshBuffer).Ensures performAuth anyCall LoginOutcome shared := by
  unfold deleteAccount
  rw [ensures_bind]
  have known : Known shared.deviceId shared := ⟨rfl, knows⟩
  refine (sendAuthenticated_keeps _ shared known).mono ?_
  rintro (error | response) after ⟨stays, -⟩
  all_goals
    have knowsAfter : KnowsDevice after := fun device isDevice =>
      stays.stored.trans (stays.state device isDevice)
  · exact ⟨knowsAfter, by rintro success ⟨⟩⟩
  · dsimp only
    split
    · rw [ensures_bind]
      exact (clearLocalSession_ensures true).mono fun _ _ cleared =>
        ⟨cleared, by rintro success ⟨⟩⟩
    · exact ⟨knowsAfter, by rintro success ⟨⟩⟩

end Sessions

section Runs

variable {serviceVersion : String} {refreshBuffer : Int} {shared after : AuthShared}

/-- What every operation ends in. -/
structure Outcome (answer : Option ServerMessage) (shared : AuthShared) : Prop where
  knows : KnowsDevice shared
  live : ReportsLive answer shared

theorem LoginOutcome.outcome {message : ServerMessage} (outcome : LoginOutcome message shared) :
    Outcome (some message) shared :=
  ⟨outcome.knows, outcome.live⟩

theorem silent_outcome (knows : KnowsDevice shared) : Outcome none shared :=
  ⟨knows, by rintro success ⟨⟩⟩

theorem program_ensures (operation : AccountOperation) (knows : KnowsDevice shared) :
    (operation.program serviceVersion refreshBuffer).Ensures performAuth operation.holds Outcome
      shared := by
  cases operation with
  | signUp email password =>
    refine ensures_bind.mpr ((login_ensures serviceVersion _ _ email password knows).mono ?_)
    exact fun _ _ => LoginOutcome.outcome
  | logIn email password =>
    refine ensures_bind.mpr ((login_ensures serviceVersion _ _ email password knows).mono ?_)
    exact fun _ _ => LoginOutcome.outcome
  | applySession session =>
    exact ensures_bind.mpr ((applySession_ensures session knows).mono fun _ _ => silent_outcome)
  | logOut => exact ensures_bind.mpr (logOut_ensures.mono fun _ _ => silent_outcome)
  | deleteAccount =>
    refine ensures_bind.mpr ((deleteAccount_ensures refreshBuffer knows).mono ?_)
    exact fun _ _ => LoginOutcome.outcome

/-- Every call of the operation meets its condition. -/
def StaysLive (serviceVersion : String) (refreshBuffer : Int) (shared : AuthShared)
    (operation : AccountOperation × List AuthInput) : Prop :=
  (operation.1.program serviceVersion refreshBuffer).MeetsAlong performAuth operation.1.holds
    operation.2 shared
  deriving Decidable

theorem outcome_of_step (knows : KnowsDevice shared) {operation : AccountOperation × List AuthInput}
    (stays : StaysLive serviceVersion refreshBuffer shared operation) :
    Outcome ((accountMachine serviceVersion refreshBuffer).answer shared operation)
      ((accountMachine serviceVersion refreshBuffer).next shared operation) := by
  cases ends : (operation.1.program serviceVersion refreshBuffer).run performAuth operation.2
      shared with
  | none =>
    simp only [Machine.answer, Machine.next, accountMachine, ends, Option.getD_none]
    exact silent_outcome knows
  | some result =>
    simp only [Machine.answer, Machine.next, accountMachine, ends, Option.getD_some]
    exact (program_ensures operation.1 knows).run stays ends

/-- In every state of a run the authenticated device is the stored one, and every operation's
answer with a device's tokens is live when it is given. -/
structure LoginsAreLive (serviceVersion : String) (refreshBuffer : Int) (opening : AuthShared)
    (operations : List (AccountOperation × List AuthInput)) : Prop where
  knows : KnowsDevice ((accountMachine serviceVersion refreshBuffer).run opening operations)
  live : ∀ (before later : List (AccountOperation × List AuthInput))
    (operation : AccountOperation × List AuthInput), operations = before ++ operation :: later →
      ReportsLive
        ((accountMachine serviceVersion refreshBuffer).answer
          ((accountMachine serviceVersion refreshBuffer).run opening before) operation)
        ((accountMachine serviceVersion refreshBuffer).run opening (before ++ [operation]))

/-- The logins of a run are live if none ends in the revoked state or loses the user's tokens, and
no operation but a deletion replaces or clears the id of the device that is authenticated. -/
theorem logins_are_live_unless_refused (serviceVersion : String) (refreshBuffer : Int)
    (opening : AuthShared) (knows : KnowsDevice opening)
    (operations : List (AccountOperation × List AuthInput))
    (stays : (accountMachine serviceVersion refreshBuffer).Meets
      (StaysLive serviceVersion refreshBuffer) opening operations) :
    LoginsAreLive serviceVersion refreshBuffer opening operations := by
  have steps : ∀ shared operation, KnowsDevice shared →
      StaysLive serviceVersion refreshBuffer shared operation →
        KnowsDevice ((accountMachine serviceVersion refreshBuffer).next shared operation) :=
    fun _ _ known met => (outcome_of_step known met).knows
  constructor
  · exact (accountMachine serviceVersion refreshBuffer).invariant_run steps knows stays
  · rintro before later operation rfl
    rw [Machine.meets_append] at stays
    have known := (accountMachine serviceVersion refreshBuffer).invariant_run steps knows stays.1
    have outcome := outcome_of_step known stays.2.1
    rw [Machine.run_append]
    exact outcome.live

def accountReply (status : Nat) (tokens : Option (String × String)) (userId deviceId : Option String) :
    AuthInput where
  now := 0
  storeFails := false
  writesAnyway := false
  reply := .ok
    { status := status
      errorCode := none
      tokens := tokens.map fun pair => ⟨pair.1, pair.2, 1000⟩
      message := none
      userId := userId
      deviceId := deviceId }

def acceptsCredentials : AuthInput := accountReply 200 (some ("ua", "ur")) (some "user") none

def registersDevice (device : String) : AuthInput :=
  accountReply 201 (some ("da", "dr")) none (some device)

/-- The service before its calls, with an account that may be signed in. -/
def accountOpening (state : AuthState) (deviceId : Option String) : AuthShared where
  deviceTokens := none
  userTokens := none
  deviceId := deviceId
  state := state
  refreshLocked := false
  events := []
  signedOut := false
  loggedOut := false

def firstLogin : List (AccountOperation × List AuthInput) :=
  [(.logIn "email" "password",
      List.replicate 2 acceptsCredentials ++ List.replicate 7 (registersDevice "device")),
    (.logOut, List.replicate 8 acceptsCredentials)]

/-- A device registers at its first login, and logs out. -/
theorem first_login_is_live :
    KnowsDevice (accountOpening .unauthenticated none) ∧
      (accountMachine "1.0" 300).Meets (StaysLive "1.0" 300) (accountOpening .unauthenticated none)
        firstLogin ∧
      LoginsAreLive "1.0" 300 (accountOpening .unauthenticated none) firstLogin := by
  have knows : KnowsDevice (accountOpening .unauthenticated none) := by
    rintro device ⟨⟩
  have stays : (accountMachine "1.0" 300).Meets (StaysLive "1.0" 300)
      (accountOpening .unauthenticated none) firstLogin := by
    decide +kernel
  exact ⟨knows, stays, logins_are_live_unless_refused "1.0" 300 _ knows firstLogin stays⟩

/-- A login while the stored device is authenticated, which the server no longer knows. -/
def staleLogin : AccountOperation × List AuthInput :=
  (.logIn "email" "password",
    List.replicate 2 acceptsCredentials ++ List.replicate 4 (accountReply 404 none none none) ++
      List.replicate 7 (registersDevice "new"))

/-- The state keeps the old device, and the id that is stored is the new one. -/
theorem stale_login_is_not_live :
    KnowsDevice (accountOpening (.authenticated "old") (some "old")) ∧
      ¬LoginsAreLive "1.0" 300 (accountOpening (.authenticated "old") (some "old")) [staleLogin] := by
  refine ⟨?_, fun live => ?_⟩
  · rintro device ⟨⟩
    rfl
  have outcome :
      ((accountMachine "1.0" 300).run (accountOpening (.authenticated "old") (some "old"))
        [staleLogin]).state = .authenticated "old" ∧
      ((accountMachine "1.0" 300).run (accountOpening (.authenticated "old") (some "old"))
        [staleLogin]).deviceId = some "new" := by
    decide +kernel
  have known := live.knows "old" outcome.1
  rw [outcome.2] at known
  exact absurd known (by decide)

end Runs

end Velvt.Auth
