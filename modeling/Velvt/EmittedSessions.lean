import Velvt.AccountSessions

/-!
# The sessions that the token store emits

`VolatileTokenStore` keeps the device's tokens, the user's tokens and the device id, and hands a
session back to the client after each of the three setters.  What the server has issued to whom is
kept beside it, so that a session can be told from a mixture of two.
-/

namespace Velvt.Auth

open StepMachine TaskPrograms

def signupPath : String := "/v1/auth/signup"

def loginPath : String := "/v1/auth/login"

def devicesPath : String := "/v1/devices"

/-- The service with its store, what the server has issued, and what the store has emitted. -/
structure SessionShared where
  auth : AuthShared
  /-- The pairs issued to users, each with its user. -/
  issuedUsers : List (TokenPair × String)
  /-- The pairs issued for devices, each with its device and its user. -/
  issuedDevices : List (TokenPair × String × String)
  /-- Oldest first. -/
  emitted : List AuthSession

def AuthSession.userTokens (session : AuthSession) : Option TokenPair :=
  match session.userAccessToken, session.userRefreshToken, session.userExpiresAt with
  | some access, some refresh, some expiresAt =>
    some { accessToken := access, refreshToken := refresh, expiresAt := expiresAt }
  | _, _, _ => none

/-- `emit_update`: what the three fields make, once there are device tokens and a device id. -/
def AuthShared.session (auth : AuthShared) : Option AuthSession :=
  match auth.deviceTokens, auth.deviceId with
  | some tokens, some deviceId =>
    some
      { deviceId := deviceId
        accessToken := tokens.accessToken
        refreshToken := tokens.refreshToken
        expiresAt := tokens.expiresAt
        userAccessToken := auth.userTokens.map (·.accessToken)
        userRefreshToken := auth.userTokens.map (·.refreshToken)
        userExpiresAt := auth.userTokens.map (·.expiresAt) }
  | _, _ => none

def HttpRequest.namedDevice (request : HttpRequest) : Option String :=
  request.jsonBody.bind fun body => body.lookup "device_id"

/-- The user whom a reply to credentials signs in, with the tokens. -/
def signedIn (request : HttpRequest) (response : HttpResponse) : List (TokenPair × String) :=
  if request.path = signupPath ∧ response.status = 201 ∨
      request.path = loginPath ∧ response.status = 200 then
    response.tokens.toList.flatMap fun fresh =>
      response.userId.toList.map fun userId => (fresh, userId)
  else
    []

def isRefreshed (request : HttpRequest) (response : HttpResponse) : Bool :=
  request.path == refreshPath && response.status == 200

def registered (request : HttpRequest) (response : HttpResponse) : List String :=
  if request.path = devicesPath ∧ 200 ≤ response.status ∧ response.status < 300 ∧
      response.tokens.isSome = true then
    response.deviceId.toList
  else
    []

def reissued (request : HttpRequest) (response : HttpResponse) : List String :=
  if request.path = reissuePath ∧ response.status = 200 ∧ response.tokens.isSome = true then
    request.namedDevice.toList
  else
    []

namespace SessionShared

variable (shared : SessionShared)

def owners (request : HttpRequest) : List String :=
  (shared.issuedUsers.filter fun issued =>
    request.authorization == some issued.1.accessToken).map (·.2)

/-- What a reply issues to users.  A refresh issues to whom the old tokens were issued. -/
def issuesToUsers (request : HttpRequest) (response : HttpResponse) :
    List (TokenPair × String) :=
  signedIn request response ++
    if isRefreshed request response then
      response.tokens.toList.flatMap fun fresh =>
        (shared.issuedUsers.filter fun issued =>
          request.refreshToken == some issued.1.refreshToken).map fun issued =>
            (fresh, issued.2)
    else
      []

def issuesToDevices (request : HttpRequest) (response : HttpResponse) :
    List (TokenPair × String × String) :=
  response.tokens.toList.flatMap fun fresh =>
    ((registered request response ++ reissued request response).flatMap fun deviceId =>
      (shared.owners request).map fun user => (fresh, deviceId, user)) ++
    if isRefreshed request response then
      (shared.issuedDevices.filter fun issued =>
        request.refreshToken == some issued.1.refreshToken).map fun issued => (fresh, issued.2)
    else
      []

/-- The state after a call: a reply issues tokens, and a setter emits a session. -/
def after {Answer : Type} (auth : AuthShared) : AuthCall Answer → Answer → SessionShared
  | .receive request, .ok response =>
    { shared with
      auth := auth
      issuedUsers := shared.issuedUsers ++ shared.issuesToUsers request response
      issuedDevices := shared.issuedDevices ++ shared.issuesToDevices request response }
  | .storePair _, _ | .storeUserPair _, _ | .storeDeviceId _, _ =>
    { shared with
      auth := auth
      emitted := shared.emitted ++ auth.session.toList }
  | _, _ => { shared with auth := auth }

/-- A session pairs a device id with tokens issued for it, and with tokens of their user. -/
def Coherent (session : AuthSession) : Prop :=
  ∃ user ∈ shared.issuedDevices.map (·.2.2),
    (session.tokens, session.deviceId, user) ∈ shared.issuedDevices ∧
      ∀ userTokens ∈ session.userTokens.toList, (userTokens, user) ∈ shared.issuedUsers
  deriving Decidable

end SessionShared

/-- The effect of one call on a store in memory, which does not fail. -/
def performSession : Handler AuthCall SessionShared AuthInput
  | _, input, shared, operation =>
    (performAuth _ { input with storeFails := false } shared.auth operation).map fun handled =>
      (handled.1, shared.after handled.2 operation handled.1)

inductive SessionOperation
  | account (operation : AccountOperation)
  | refreshTokens (force : Bool)
  | reissueDeviceTokens
  | sendAuthenticated (caller : CallerRequest)

def SessionOperation.program (serviceVersion : String) (refreshBuffer : Int) :
    SessionOperation → Program AuthCall Unit
  | .account operation => do
      let _ ← operation.program serviceVersion refreshBuffer
      pure ()
  | .refreshTokens force => do
      let _ ← (Auth.refreshTokens refreshBuffer force).run
      pure ()
  | .reissueDeviceTokens => do
      let _ ← (Auth.reissueDeviceTokens refreshBuffer).run
      pure ()
  | .sendAuthenticated caller => do
      let _ ← (Auth.sendAuthenticated refreshBuffer caller.request).run
      pure ()

/-- The account service over a store in memory: each operation runs to its end. -/
def sessionMachine (serviceVersion : String) (refreshBuffer : Int) :
    Machine SessionShared (SessionOperation × List AuthInput) Unit where
  step shared operation :=
    ((operation.1.program serviceVersion refreshBuffer).run performSession operation.2 shared).getD
      ((), shared)

/-- The service at its start, with what the server has issued in earlier ones. -/
def SessionShared.opened (issuedUsers : List (TokenPair × String))
    (issuedDevices : List (TokenPair × String × String)) : SessionShared where
  auth :=
    { deviceTokens := none
      userTokens := none
      deviceId := none
      state := .unauthenticated
      refreshLocked := false
      events := []
      signedOut := false
      loggedOut := false }
  issuedUsers := issuedUsers
  issuedDevices := issuedDevices
  emitted := []

/-- A reply belongs to the session that the store holds: it signs in the user of the stored device
tokens, it registers a device for the user of the stored user tokens, and it issues new tokens for
the stored device. -/
def SoundReply (shared : SessionShared) (request : HttpRequest) (response : HttpResponse) : Prop :=
  (∀ issued ∈ signedIn request response, ∀ deviceId ∈ shared.auth.deviceId.toList,
      ∀ tokens ∈ shared.auth.deviceTokens.toList,
        (tokens, deviceId, issued.2) ∈ shared.issuedDevices) ∧
    (∀ _ ∈ registered request response, ∀ user ∈ shared.owners request,
      ∀ userTokens ∈ shared.auth.userTokens.toList, (userTokens, user) ∈ shared.issuedUsers) ∧
    ∀ device ∈ reissued request response, ∀ deviceId ∈ shared.auth.deviceId.toList,
      device = deviceId
  deriving Decidable

def soundReplies : CallCondition AuthCall SessionShared AuthInput
  | _, input, shared, .receive request =>
    ∀ response ∈ input.reply.toOption.toList, SoundReply shared request response
  | _, _, _, _ => True

instance (Answer : Type) (input : AuthInput) (shared : SessionShared)
    (operation : AuthCall Answer) : Decidable (soundReplies Answer input shared operation) := by
  unfold soundReplies
  split <;> infer_instance

/-- A session to apply was issued to one user, for the device that is stored if one is; the tokens
that are stored with it, or stay, are of the same user. -/
def Applicable (shared : SessionShared) (session : AuthSession) : Prop :=
  ∃ user ∈ shared.issuedDevices.map (·.2.2),
    (session.tokens, session.deviceId, user) ∈ shared.issuedDevices ∧
    (∀ deviceId ∈ shared.auth.deviceId.toList, deviceId = session.deviceId) ∧
    (∀ userTokens ∈ session.userTokens.toList, (userTokens, user) ∈ shared.issuedUsers ∧
      ∀ deviceId ∈ shared.auth.deviceId.toList, ∀ tokens ∈ shared.auth.deviceTokens.toList,
        (tokens, deviceId, user) ∈ shared.issuedDevices) ∧
    (session.userTokens = none → ∀ userTokens ∈ shared.auth.userTokens.toList,
      (userTokens, user) ∈ shared.issuedUsers)
  deriving Decidable

/-- The condition on what an operation is called with. -/
def AppliesOne (shared : SessionShared) : SessionOperation → Prop
  | .account (.applySession session) => Applicable shared session
  | _ => True

instance (shared : SessionShared) (operation : SessionOperation) :
    Decidable (AppliesOne shared operation) := by
  unfold AppliesOne
  split <;> infer_instance

/-- An operation keeps to one session, in what it is called with and in the replies that it
gets. -/
def KeepsToOne (serviceVersion : String) (refreshBuffer : Int) (shared : SessionShared)
    (operation : SessionOperation × List AuthInput) : Prop :=
  AppliesOne shared operation.1 ∧
    (operation.1.program serviceVersion refreshBuffer).MeetsAlong performSession soundReplies
      operation.2 shared
  deriving Decidable

end Velvt.Auth
