import Velvt.StepMachine
import Velvt.TaskInvariants

/-!
# Authenticated requests

`AuthManager` attaches the device's tokens to a request, exchanges them when they run out, has new
ones issued when the server has revoked them, and moves the authentication state along its table.
Requests are tasks, which share the tokens, the state, the refresh lock and the network, and touch
them one call at a time.
-/

namespace Velvt.Auth

open StepMachine TaskPrograms

inductive AuthState
  | unauthenticated
  | authenticated (deviceId : String)
  | needsReauth
  | deviceRevoked
  | refreshInFlight
  deriving DecidableEq

def validTransition (source target : AuthState) : Bool :=
  source == target ||
    match source, target with
    | .unauthenticated, .authenticated _ => true
    | .authenticated _, .unauthenticated => true
    | .authenticated _, .refreshInFlight => true
    | .authenticated _, .needsReauth => true
    | .authenticated _, .deviceRevoked => true
    | .refreshInFlight, .authenticated _ => true
    | .refreshInFlight, .needsReauth => true
    | .refreshInFlight, .deviceRevoked => true
    | .refreshInFlight, .unauthenticated => true
    | .needsReauth, .authenticated _ => true
    | .needsReauth, .unauthenticated => true
    | .deviceRevoked, .unauthenticated => true
    | _, _ => false

structure TokenPair where
  accessToken : String
  refreshToken : String
  expiresAt : Int
  deriving DecidableEq

inductive HttpMethod
  | get
  | post
  | patch
  | delete

/-- A request; the body is an object of texts. -/
structure HttpRequest where
  method : HttpMethod
  path : String
  authorization : Option String
  refreshToken : Option String
  jsonBody : Option (List (String × String))

def HttpRequest.get (path : String) : HttpRequest where
  method := .get
  path := path
  authorization := none
  refreshToken := none
  jsonBody := none

def HttpRequest.post (path : String) : HttpRequest where
  method := .post
  path := path
  authorization := none
  refreshToken := none
  jsonBody := none

def HttpRequest.deleting (path : String) : HttpRequest where
  method := .delete
  path := path
  authorization := none
  refreshToken := none
  jsonBody := none

structure HttpResponse where
  status : Nat
  errorCode : Option String
  tokens : Option TokenPair
  message : Option String
  userId : Option String
  deviceId : Option String

inductive AuthError
  | needsReauth
  | deviceRevoked
  | forbidden
  | rateLimited
  | transport
  | invalidResponse
  | tokenStore
  | transition

/-- What a task can call, with the type of the answer. -/
inductive AuthCall : Type → Type
  | utcNow : AuthCall Int
  | loadTokens : AuthCall (Except AuthError (Option TokenPair))
  | storePair (tokens : TokenPair) : AuthCall (Except AuthError Unit)
  | clearTokens : AuthCall (Except AuthError Unit)
  | loadUserTokens : AuthCall (Except AuthError (Option TokenPair))
  | storeUserPair (tokens : TokenPair) : AuthCall (Except AuthError Unit)
  | clearUserTokens : AuthCall (Except AuthError Unit)
  | loadDeviceId : AuthCall (Except AuthError (Option String))
  | storeDeviceId (deviceId : String) : AuthCall (Except AuthError Unit)
  | clearDeviceId : AuthCall (Except AuthError Unit)
  | currentState : AuthCall AuthState
  | transition (next : AuthState) : AuthCall (Except AuthError Unit)
  | lockRefresh : AuthCall Unit
  | unlockRefresh : AuthCall Unit
  /-- A request leaves. -/
  | send (request : HttpRequest) : AuthCall Unit
  /-- Its reply arrives, or the transport fails. -/
  | receive (request : HttpRequest) : AuthCall (Except AuthError HttpResponse)
  /-- The caller of `log_out` goes on. -/
  | returnLogOut : AuthCall Unit

inductive AuthEvent
  | sent (request : HttpRequest)
  | answered (request : HttpRequest) (reply : Except AuthError HttpResponse)

/-- What the tasks share. -/
structure AuthShared where
  deviceTokens : Option TokenPair
  userTokens : Option TokenPair
  deviceId : Option String
  state : AuthState
  refreshLocked : Bool
  /-- What the network has carried, oldest first. -/
  events : List AuthEvent
  /-- A logout has left the authenticated state. -/
  signedOut : Bool
  /-- A logout has returned. -/
  loggedOut : Bool

/-- What the surroundings decide about one call. -/
structure AuthInput where
  now : Int
  storeFails : Bool
  /-- A store that fails may have written all the same. -/
  writesAnyway : Bool
  reply : Except AuthError HttpResponse

namespace AuthShared

variable (input : AuthInput) (shared : AuthShared)

def load {Answer : Type} (answer : Answer) :
    Option (Except AuthError Answer × AuthShared) :=
  if input.storeFails then some (.error .tokenStore, shared) else some (.ok answer, shared)

def store (written : AuthShared) : Option (Except AuthError Unit × AuthShared) :=
  if input.storeFails then
    some (.error .tokenStore, if input.writesAnyway then written else shared)
  else
    some (.ok (), written)

def transition (next : AuthState) : Except AuthError Unit × AuthShared :=
  if validTransition shared.state next then
    (.ok (),
      { shared with
        state := next
        signedOut := shared.signedOut || next == .unauthenticated })
  else
    (.error .transition, shared)

end AuthShared

def performAuth : Handler AuthCall AuthShared AuthInput
  | _, input, shared, .utcNow => some (input.now, shared)
  | _, input, shared, .loadTokens => shared.load input shared.deviceTokens
  | _, input, shared, .storePair tokens =>
    shared.store input { shared with deviceTokens := some tokens }
  | _, input, shared, .clearTokens => shared.store input { shared with deviceTokens := none }
  | _, input, shared, .loadUserTokens => shared.load input shared.userTokens
  | _, input, shared, .storeUserPair tokens =>
    shared.store input { shared with userTokens := some tokens }
  | _, input, shared, .clearUserTokens => shared.store input { shared with userTokens := none }
  | _, input, shared, .loadDeviceId => shared.load input shared.deviceId
  | _, input, shared, .storeDeviceId deviceId =>
    shared.store input { shared with deviceId := some deviceId }
  | _, input, shared, .clearDeviceId => shared.store input { shared with deviceId := none }
  | _, _, shared, .currentState => some (shared.state, shared)
  | _, _, shared, .transition next => some (shared.transition next)
  | _, _, shared, .lockRefresh =>
    if shared.refreshLocked then none else some ((), { shared with refreshLocked := true })
  | _, _, shared, .unlockRefresh => some ((), { shared with refreshLocked := false })
  | _, _, shared, .send request =>
    some ((), { shared with events := shared.events ++ [.sent request] })
  | _, input, shared, .receive request =>
    some (input.reply, { shared with events := shared.events ++ [.answered request input.reply] })
  | _, _, shared, .returnLogOut => some ((), { shared with loggedOut := true })

/-- A task that may end in an error. -/
abbrev AuthTask := ExceptT AuthError (Program AuthCall)

section Tasks

variable {Answer : Type}

def outside (operation : AuthCall Answer) : AuthTask Answer :=
  ExceptT.mk do
    let answer ← Program.ask operation
    pure (.ok answer)

def fallible (operation : AuthCall (Except AuthError Answer)) : AuthTask Answer :=
  ExceptT.mk (Program.ask operation)

def attempt (request : HttpRequest) : AuthTask (Except AuthError HttpResponse) := do
  outside (.send request)
  outside (.receive request)

/-- `http.send(request).await?`. -/
def transmit (request : HttpRequest) : AuthTask HttpResponse := do
  outside (.send request)
  fallible (.receive request)

def failAfter (next : AuthState) (error : AuthError) : AuthTask Answer := do
  fallible (.transition next)
  throw error

/-- The guard of the refresh lock is dropped wherever the section ends. -/
def withRefreshLock (section_ : AuthTask Answer) : AuthTask Answer :=
  ExceptT.mk do
    Program.ask .lockRefresh
    let result ← section_.run
    Program.ask .unlockRefresh
    pure result

end Tasks

def deviceTokenRevoked (response : HttpResponse) : Bool :=
  (response.status == 401 || response.status == 403) &&
    response.errorCode == some "device_token_revoked"

def deviceIsRevoked (response : HttpResponse) : Bool :=
  response.status == 403 && response.errorCode == some "device_revoked"

def credentialsRefused (response : HttpResponse) : Bool :=
  response.status == 401 &&
    (response.errorCode == some "invalid_credentials" ||
      response.errorCode == some "invalid_token" || response.errorCode == some "token_expired")

def refusal (status : Nat) : AuthError :=
  if status = 403 then .forbidden else if status = 429 then .rateLimited else .needsReauth

section Manager

def refreshPath : String := "/v1/auth/refresh"

def reissuePath : String := "/v1/auth/devices/reissue"

def refreshRequest (tokens : TokenPair) : HttpRequest :=
  { HttpRequest.post refreshPath with refreshToken := some tokens.refreshToken }

def reissueRequest (userTokens : TokenPair) (deviceId : String) : HttpRequest :=
  { HttpRequest.post reissuePath with
    authorization := some userTokens.accessToken
    jsonBody := some [("device_id", deviceId)] }

variable (refreshBuffer : Int)

def stillUsable (force : Bool) (tokens : TokenPair) : AuthTask Bool :=
  if force then
    return false
  else do
    let now ← outside .utcNow
    return decide (now + refreshBuffer < tokens.expiresAt)

def presentTokens : Option TokenPair → AuthTask TokenPair
  | some tokens => return tokens
  | none => throw .needsReauth

def authenticatedDevice : AuthTask String := do
  match ← outside .currentState with
  | .authenticated deviceId => return deviceId
  | .deviceRevoked => throw .deviceRevoked
  | .refreshInFlight | .unauthenticated | .needsReauth => throw .needsReauth

def acceptFresh (deviceId : String) (response : HttpResponse) : AuthTask TokenPair :=
  match response.tokens with
  | none => failAfter .needsReauth .invalidResponse
  | some fresh => do
      match ← outside (.storePair fresh) with
      | .error error => failAfter .needsReauth error
      | .ok () => do
          fallible (.transition (.authenticated deviceId))
          return fresh

/-- `refresh_tokens` behind the lock.  Without a result the server has revoked the tokens. -/
def refreshSection (force : Bool) : AuthTask (Option TokenPair) := do
  let stored ← fallible .loadTokens
  let tokens ← presentTokens stored
  let usable ← stillUsable refreshBuffer force tokens
  if usable then
    return some tokens
  else do
    let deviceId ← authenticatedDevice
    fallible (.transition .refreshInFlight)
    match ← attempt (refreshRequest tokens) with
    | .error error => failAfter (.authenticated deviceId) error
    | .ok response =>
      if response.status = 200 then do
        let fresh ← acceptFresh deviceId response
        return some fresh
      else if deviceIsRevoked response then
        failAfter .deviceRevoked .deviceRevoked
      else if deviceTokenRevoked response then do
        fallible (.transition (.authenticated deviceId))
        return none
      else
        failAfter .needsReauth (refusal response.status)

def refreshUserTokens : AuthTask TokenPair := do
  let stored ← fallible .loadUserTokens
  let tokens ← presentTokens stored
  let response ← transmit (refreshRequest tokens)
  if response.status = 200 then
    match response.tokens with
    | none => failAfter .needsReauth .invalidResponse
    | some fresh => do
        match ← outside (.storeUserPair fresh) with
        | .error error => failAfter .needsReauth error
        | .ok () => return fresh
  else
    failAfter .needsReauth (refusal response.status)

def userTokensForReissue : AuthTask TokenPair := do
  let stored ← fallible .loadUserTokens
  let tokens ← presentTokens stored
  let usable ← stillUsable refreshBuffer false tokens
  if usable then
    return tokens
  else
    refreshUserTokens

/-- `reissue_device_tokens` behind the lock. -/
def reissueSection : AuthTask TokenPair := do
  let userTokens ← tryCatch (userTokensForReissue refreshBuffer) fun error =>
    failAfter .needsReauth error
  let deviceId ← authenticatedDevice
  fallible (.transition .refreshInFlight)
  match ← attempt (reissueRequest userTokens deviceId) with
  | .error error => failAfter (.authenticated deviceId) error
  | .ok response =>
    if response.status = 200 then
      acceptFresh deviceId response
    else if deviceIsRevoked response then
      failAfter .deviceRevoked .deviceRevoked
    else
      failAfter .needsReauth (refusal response.status)

def reissueDeviceTokens : AuthTask TokenPair :=
  withRefreshLock (reissueSection refreshBuffer)

def refreshTokens (force : Bool) : AuthTask TokenPair := do
  match ← withRefreshLock (refreshSection refreshBuffer force) with
  | some tokens => return tokens
  | none => reissueDeviceTokens refreshBuffer

def tokensForRequest : AuthTask TokenPair := do
  let stored ← fallible .loadTokens
  let tokens ← presentTokens stored
  let usable ← stillUsable refreshBuffer false tokens
  if usable then
    return tokens
  else
    refreshTokens refreshBuffer false

def authorized (request : HttpRequest) (tokens : TokenPair) : HttpRequest :=
  { request with authorization := some tokens.accessToken }

def settleResponse (response : HttpResponse) : AuthTask HttpResponse :=
  if deviceIsRevoked response then
    failAfter .deviceRevoked .deviceRevoked
  else if deviceTokenRevoked response || credentialsRefused response || response.status == 403 then
    failAfter .needsReauth .needsReauth
  else if response.status = 429 then
    throw .rateLimited
  else
    return response

def handleResponse (response : HttpResponse) (request : HttpRequest) : AuthTask HttpResponse :=
  if !deviceIsRevoked response && deviceTokenRevoked response then do
    let fresh ← reissueDeviceTokens refreshBuffer
    let retried ← transmit (authorized request fresh)
    settleResponse retried
  else
    settleResponse response

def sendAuthenticated (request : HttpRequest) : AuthTask HttpResponse := do
  let state ← outside .currentState
  if state = .deviceRevoked then
    throw .deviceRevoked
  else do
    let tokens ← tokensForRequest refreshBuffer
    let response ← transmit (authorized request tokens)
    if credentialsRefused response then do
      let fresh ← refreshTokens refreshBuffer true
      let retried ← transmit (authorized request fresh)
      handleResponse refreshBuffer retried (authorized request fresh)
    else
      handleResponse refreshBuffer response (authorized request tokens)

end Manager

end Velvt.Auth
