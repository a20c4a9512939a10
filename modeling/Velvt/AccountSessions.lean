import Velvt.ProgramRuns
import Velvt.RefreshLock

/-!
# Sessions of the account service

Sign-ups, logins, restored sessions, logouts and deletions follow one another.
-/

namespace Velvt.Auth

open StepMachine TaskPrograms

inductive AccountOperation
  | signUp (email password : String)
  | logIn (email password : String)
  | applySession (session : AuthSession)
  | logOut
  | deleteAccount

def AccountOperation.program (serviceVersion : String) (refreshBuffer : Int) :
    AccountOperation → Program AuthCall (Option ServerMessage)
  | .signUp email password => do
      let message ← Auth.signUp serviceVersion email password
      pure (some message)
  | .logIn email password => do
      let message ← Auth.logIn serviceVersion email password
      pure (some message)
  | .applySession session => do
      Auth.applySession session
      pure none
  | .logOut => do
      Auth.logOut
      pure none
  | .deleteAccount => do
      let message ← Auth.deleteAccount refreshBuffer
      pure (some message)

/-- The account service as a step machine: each operation runs to its end.  One that its
surroundings do not let come to its end has not happened. -/
def accountMachine (serviceVersion : String) (refreshBuffer : Int) :
    Machine AuthShared (AccountOperation × List AuthInput) (Option ServerMessage) where
  step shared operation :=
    ((operation.1.program serviceVersion refreshBuffer).run performAuth operation.2 shared).getD
      (none, shared)

section Device

/-- The stored device id is known, and an authenticated device is the stored one. -/
structure Known (deviceId : Option String) (shared : AuthShared) : Prop where
  stored : shared.deviceId = deviceId
  state : ∀ device, shared.state = .authenticated device → deviceId = some device

/-- A call that leaves the device id alone, and authenticates no other device. -/
def AuthCall.Spares {Answer : Type} (deviceId : Option String) : AuthCall Answer → Prop
  | .storeDeviceId _ => False
  | .clearDeviceId => False
  | .transition (.authenticated device) => deviceId = some device
  | _ => True

def anyCall : CallCondition AuthCall AuthShared AuthInput
  | _, _, _, _ => True

/-- Whatever its surroundings do, the task keeps to the known device, and its value is good. -/
def KeepsDevice {Answer : Type} (deviceId : Option String) (P : Answer → Prop)
    (task : AuthTask Answer) : Prop :=
  ∀ shared, Known deviceId shared →
    task.run.Ensures performAuth anyCall
      (fun result after => Known deviceId after ∧ ∀ value, result = .ok value → P value) shared

def anyValue {Answer : Type} : Answer → Prop
  | _ => True

variable {deviceId : Option String} {shared after : AuthShared} {First Answer : Type}
  {P : Answer → Prop}

theorem store_fields {input : AuthInput} {written : AuthShared} {answer : Except AuthError Unit}
    (handled : shared.store input written = some (answer, after)) :
    after = written ∨ after = shared := by
  rcases store_cases handled with ⟨-, rfl, -⟩ | ⟨-, -, same⟩
  · exact Or.inl rfl
  · exact same

/-- A call that spares the device leaves it known. -/
theorem Known.step (known : Known deviceId shared) {operation : AuthCall Answer}
    (spares : operation.Spares deviceId) {input : AuthInput} {answer : Answer}
    (handled : performAuth Answer input shared operation = some (answer, after)) :
    Known deviceId after := by
  have stored {written : AuthShared} {reply : Except AuthError Unit}
      (isStored : shared.store input written = some (reply, after))
      (sameId : written.deviceId = shared.deviceId) (sameState : written.state = shared.state) :
      Known deviceId after := by
    rcases store_fields isStored with rfl | rfl
    · exact ⟨sameId.trans known.stored, fun device isDevice =>
        known.state device (sameState.symm.trans isDevice)⟩
    · exact known
  cases operation with
  | utcNow | currentState | unlockRefresh | returnLogOut =>
    cases handled
    exact ⟨known.stored, known.state⟩
  | send request | receive request =>
    cases handled
    exact ⟨known.stored, known.state⟩
  | loadTokens | loadUserTokens | loadDeviceId =>
    rw [(load_cases handled).1]
    exact known
  | storePair tokens => exact stored handled rfl rfl
  | storeUserPair tokens => exact stored handled rfl rfl
  | clearTokens => exact stored handled rfl rfl
  | clearUserTokens => exact stored handled rfl rfl
  | storeDeviceId device => exact absurd spares id
  | clearDeviceId => exact absurd spares id
  | lockRefresh =>
    simp only [performAuth] at handled
    split at handled
    · cases handled
    · cases handled
      exact ⟨known.stored, known.state⟩
  | transition target =>
    rcases transition_cases handled with ⟨-, -, rfl⟩ | ⟨-, -, rfl⟩
    · refine ⟨known.stored, fun device isDevice => ?_⟩
      have isTarget : target = .authenticated device := isDevice
      subst isTarget
      exact spares
    · exact known

theorem keeps_bind {middle : First → Prop} {task : AuthTask First} {next : First → AuthTask Answer}
    (begins : KeepsDevice deviceId middle task)
    (goesOn : ∀ value, middle value → KeepsDevice deviceId P (next value)) :
    KeepsDevice deviceId P (task >>= next) := by
  intro shared known
  rw [ensures_except_bind]
  refine (begins shared known).mono ?_
  rintro (error | value) last ⟨stays, isGood⟩
  · exact ⟨stays, by simp⟩
  · exact goesOn value (isGood value rfl) last stays

theorem keeps_pure {value : Answer} (isGood : P value) :
    KeepsDevice deviceId P (pure value) := by
  intro shared known
  refine ⟨known, fun other same => ?_⟩
  cases same
  exact isGood

theorem keeps_throw {error : AuthError} : KeepsDevice deviceId P (throw error) :=
  fun _ known => ⟨known, fun _ same => by cases same⟩

theorem keeps_outside {operation : AuthCall Answer} (spares : operation.Spares deviceId)
    (isGood : ∀ (input : AuthInput) (shared after : AuthShared) (answer : Answer),
      Known deviceId shared → performAuth Answer input shared operation = some (answer, after) →
        P answer) :
    KeepsDevice deviceId P (outside operation) := by
  intro shared known input _ answer after handled
  refine ⟨known.step spares handled, fun value same => ?_⟩
  cases same
  exact isGood input shared after answer known handled

theorem keeps_fallible {operation : AuthCall (Except AuthError Answer)}
    (spares : operation.Spares deviceId) :
    KeepsDevice deviceId anyValue (fallible operation) := by
  intro shared known input _ answer after handled
  exact ⟨known.step spares handled, fun _ _ => trivial⟩

theorem keeps_fails {next : AuthState} {error : AuthError}
    (spares : (AuthCall.transition next).Spares deviceId) :
    KeepsDevice deviceId P (failAfter next error : AuthTask Answer) :=
  keeps_bind (keeps_fallible spares) fun _ _ => keeps_throw

end Device

section Requests

variable {deviceId : Option String} {refreshBuffer : Int}

theorem stillUsable_keeps (force : Bool) (tokens : TokenPair) :
    KeepsDevice deviceId anyValue (stillUsable refreshBuffer force tokens) := by
  unfold stillUsable
  split
  · exact keeps_pure trivial
  · exact keeps_bind (keeps_outside (P := anyValue) trivial fun _ _ _ _ _ _ => trivial)
      fun _ _ => keeps_pure trivial

theorem presentTokens_keeps (stored : Option TokenPair) :
    KeepsDevice deviceId anyValue (presentTokens stored) := by
  cases stored with
  | none => exact keeps_throw
  | some tokens => exact keeps_pure trivial

theorem authenticatedDevice_keeps :
    KeepsDevice deviceId (fun device => deviceId = some device) authenticatedDevice := by
  refine keeps_bind (keeps_outside (P := fun state => ∀ device, state = .authenticated device →
    deviceId = some device) trivial ?_) ?_
  · intro input shared after answer known handled
    cases handled
    exact known.state
  · intro current isKnown
    cases current with
    | authenticated device => exact keeps_pure (isKnown device rfl)
    | unauthenticated => exact keeps_throw
    | needsReauth => exact keeps_throw
    | deviceRevoked => exact keeps_throw
    | refreshInFlight => exact keeps_throw

theorem attempt_keeps (request : HttpRequest) :
    KeepsDevice deviceId anyValue (attempt request) :=
  keeps_bind (keeps_outside (P := anyValue) trivial fun _ _ _ _ _ _ => trivial)
    fun _ _ => keeps_outside trivial fun _ _ _ _ _ _ => trivial

theorem transmit_keeps (request : HttpRequest) :
    KeepsDevice deviceId anyValue (transmit request) :=
  keeps_bind (keeps_outside (P := anyValue) trivial fun _ _ _ _ _ _ => trivial)
    fun _ _ => keeps_fallible trivial

theorem acceptFresh_keeps {device : String} (isDevice : deviceId = some device)
    (response : HttpResponse) : KeepsDevice deviceId anyValue (acceptFresh device response) := by
  unfold acceptFresh
  split
  · exact keeps_fails trivial
  · refine keeps_bind (keeps_outside (P := anyValue) trivial fun _ _ _ _ _ _ => trivial) ?_
    rintro (error | stored) _
    · exact keeps_fails trivial
    · exact keeps_bind (keeps_fallible isDevice) fun _ _ => keeps_pure trivial

theorem refreshSection_keeps (force : Bool) :
    KeepsDevice deviceId anyValue (refreshSection refreshBuffer force) := by
  refine keeps_bind (keeps_fallible trivial) fun stored _ => ?_
  refine keeps_bind (presentTokens_keeps stored) fun tokens _ => ?_
  refine keeps_bind (stillUsable_keeps force tokens) fun usable _ => ?_
  split
  · exact keeps_pure trivial
  · refine keeps_bind authenticatedDevice_keeps fun device isDevice => ?_
    refine keeps_bind (keeps_fallible trivial) fun _ _ => ?_
    refine keeps_bind (attempt_keeps _) ?_
    rintro (error | response) _
    · exact keeps_fails isDevice
    · dsimp only
      split
      · exact keeps_bind (acceptFresh_keeps isDevice response) fun _ _ => keeps_pure trivial
      · split
        · exact keeps_fails trivial
        · split
          · exact keeps_bind (keeps_fallible isDevice) fun _ _ => keeps_pure trivial
          · exact keeps_fails trivial

theorem refreshUserTokens_keeps : KeepsDevice deviceId anyValue refreshUserTokens := by
  refine keeps_bind (keeps_fallible trivial) fun stored _ => ?_
  refine keeps_bind (presentTokens_keeps stored) fun tokens _ => ?_
  refine keeps_bind (transmit_keeps _) fun response _ => ?_
  split
  · split
    · exact keeps_fails trivial
    · refine keeps_bind (keeps_outside (P := anyValue) trivial fun _ _ _ _ _ _ => trivial) ?_
      rintro (error | stored) _
      · exact keeps_fails trivial
      · exact keeps_pure trivial
  · exact keeps_fails trivial

theorem userTokensForReissue_keeps :
    KeepsDevice deviceId anyValue (userTokensForReissue refreshBuffer) := by
  refine keeps_bind (keeps_fallible trivial) fun stored _ => ?_
  refine keeps_bind (presentTokens_keeps stored) fun tokens _ => ?_
  refine keeps_bind (stillUsable_keeps false tokens) fun usable _ => ?_
  split
  · exact keeps_pure trivial
  · exact refreshUserTokens_keeps

theorem reissueSection_keeps : KeepsDevice deviceId anyValue (reissueSection refreshBuffer) := by
  have userTokens : KeepsDevice deviceId anyValue
      (tryCatch (userTokensForReissue refreshBuffer) fun error => failAfter .needsReauth error) := by
    intro shared known
    refine ensures_except_catch ((userTokensForReissue_keeps shared known).mono ?_)
    rintro (error | tokens) last ⟨stays, -⟩
    · have fails : KeepsDevice deviceId anyValue (failAfter .needsReauth error : AuthTask TokenPair) :=
        keeps_fails trivial
      exact fails last stays
    · exact ⟨stays, fun _ _ => trivial⟩
  refine keeps_bind userTokens fun tokens _ => ?_
  refine keeps_bind authenticatedDevice_keeps fun device isDevice => ?_
  refine keeps_bind (keeps_fallible trivial) fun _ _ => ?_
  refine keeps_bind (attempt_keeps _) ?_
  rintro (error | response) _
  · exact keeps_fails isDevice
  · dsimp only
    split
    · exact acceptFresh_keeps isDevice response
    · split
      · exact keeps_fails trivial
      · exact keeps_fails trivial

theorem withRefreshLock_keeps {Answer : Type} {section_ : AuthTask Answer}
    (keeps : KeepsDevice deviceId anyValue section_) :
    KeepsDevice deviceId anyValue (withRefreshLock section_) := by
  intro shared known input _ answer after handled
  have locked := known.step (show AuthCall.lockRefresh.Spares deviceId from trivial) handled
  change Program.Ensures _ _ _ (section_.run >>= fun result => _) after
  rw [ensures_bind]
  refine (keeps after locked).mono ?_
  rintro result last ⟨stays, -⟩ input _ answer after handled
  exact ⟨stays.step (show AuthCall.unlockRefresh.Spares deviceId from trivial) handled, fun _ _ => trivial⟩

theorem reissueDeviceTokens_keeps :
    KeepsDevice deviceId anyValue (reissueDeviceTokens refreshBuffer) :=
  withRefreshLock_keeps reissueSection_keeps

theorem refreshTokens_keeps (force : Bool) :
    KeepsDevice deviceId anyValue (refreshTokens refreshBuffer force) := by
  refine keeps_bind (withRefreshLock_keeps (refreshSection_keeps force)) ?_
  rintro (_ | tokens) _
  · exact reissueDeviceTokens_keeps
  · exact keeps_pure trivial

theorem tokensForRequest_keeps :
    KeepsDevice deviceId anyValue (tokensForRequest refreshBuffer) := by
  refine keeps_bind (keeps_fallible trivial) fun stored _ => ?_
  refine keeps_bind (presentTokens_keeps stored) fun tokens _ => ?_
  refine keeps_bind (stillUsable_keeps false tokens) fun usable _ => ?_
  split
  · exact keeps_pure trivial
  · exact refreshTokens_keeps false

theorem settleResponse_keeps (response : HttpResponse) :
    KeepsDevice deviceId anyValue (settleResponse response) := by
  unfold settleResponse
  split
  · exact keeps_fails trivial
  · split
    · exact keeps_fails trivial
    · split
      · exact keeps_throw
      · exact keeps_pure trivial

theorem handleResponse_keeps (response : HttpResponse) (request : HttpRequest) :
    KeepsDevice deviceId anyValue (handleResponse refreshBuffer response request) := by
  unfold handleResponse
  split
  · refine keeps_bind reissueDeviceTokens_keeps fun fresh _ => ?_
    exact keeps_bind (transmit_keeps _) fun retried _ => settleResponse_keeps retried
  · exact settleResponse_keeps response

theorem sendAuthenticated_keeps (request : HttpRequest) :
    KeepsDevice deviceId anyValue (sendAuthenticated refreshBuffer request) := by
  refine keeps_bind (keeps_outside (P := anyValue) trivial fun _ _ _ _ _ _ => trivial) ?_
  intro state _
  split
  · exact keeps_throw
  · refine keeps_bind tokensForRequest_keeps fun tokens _ => ?_
    refine keeps_bind (transmit_keeps _) fun response _ => ?_
    split
    · refine keeps_bind (refreshTokens_keeps true) fun fresh _ => ?_
      exact keeps_bind (transmit_keeps _) fun retried _ => handleResponse_keeps retried _
    · exact handleResponse_keeps response _

end Requests

end Velvt.Auth
