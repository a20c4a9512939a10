import Velvt.AuthManager

/-!
# The user's account

`AccountAuthService` relays sign-up, login, logout and account deletion to the cloud.  The first
login of a device registers it; a later one has new tokens issued for the device that is stored.
The tokens, the device id and the authentication state are three stores, written one after the
other.
-/

namespace Velvt.Auth

open StepMachine TaskPrograms

structure AuthSuccess where
  userId : String
  deviceId : String
  accessToken : String
  refreshToken : String
  expiresAt : Int
  userAccessToken : Option String
  userRefreshToken : Option String
  userExpiresAt : Option Int

inductive AuthFailureCode
  | invalidCredentials
  | networkError
  | serverError

structure AuthFailure where
  code : AuthFailureCode
  message : String

/-- The messages by which the account service answers. -/
inductive ServerMessage
  | authSuccess (success : AuthSuccess)
  | authFailure (failure : AuthFailure)
  | accountDeletionAccepted
  | errorResponse (code message : String)

/-- A session that the client restores. -/
structure AuthSession where
  deviceId : String
  accessToken : String
  refreshToken : String
  expiresAt : Int
  userAccessToken : Option String
  userRefreshToken : Option String
  userExpiresAt : Option Int

def userSuccess (userId : String) (tokens : TokenPair) : AuthSuccess where
  userId := userId
  deviceId := ""
  accessToken := tokens.accessToken
  refreshToken := tokens.refreshToken
  expiresAt := tokens.expiresAt
  userAccessToken := none
  userRefreshToken := none
  userExpiresAt := none

def AuthSuccess.tokens (success : AuthSuccess) : TokenPair where
  accessToken := success.accessToken
  refreshToken := success.refreshToken
  expiresAt := success.expiresAt

def authSuccessFromDeviceTokens (userId deviceId : String) (tokens : TokenPair)
    (userTokens : Option TokenPair) : ServerMessage :=
  .authSuccess
    { userId := userId
      deviceId := deviceId
      accessToken := tokens.accessToken
      refreshToken := tokens.refreshToken
      expiresAt := tokens.expiresAt
      userAccessToken := userTokens.map (·.accessToken)
      userRefreshToken := userTokens.map (·.refreshToken)
      userExpiresAt := userTokens.map (·.expiresAt) }

def mapAuthFailure (response : HttpResponse) : AuthFailure :=
  if response.status = 401 ∨ response.status = 403 ∨
      response.errorCode = some "invalid_credentials" then
    { code := .invalidCredentials
      message := response.message.getD "Incorrect email or password." }
  else
    { code := .serverError
      message := response.message.getD "Something went wrong. Please try again." }

def networkFailure : ServerMessage :=
  .authFailure
    { code := .networkError
      message := "Could not reach the server. Check your connection and try again." }

def serverFailure (message : String) : ServerMessage :=
  .authFailure { code := .serverError, message := message }

def sendRaw (request : HttpRequest) : Program AuthCall (Except AuthError HttpResponse) := do
  Program.ask (.send request)
  Program.ask (.receive request)

def credentialFlow (path : String) (successStatus : Nat) (email password : String) :
    Program AuthCall ServerMessage := do
  match ← sendRaw { HttpRequest.post path with
      jsonBody := some [("email", email), ("password", password)] } with
  | .error _ => pure networkFailure
  | .ok response =>
    if response.status = successStatus then
      match response.userId, response.tokens with
      | some userId, some tokens => pure (.authSuccess (userSuccess userId tokens))
      | _, _ => pure (serverFailure "The server response was invalid.")
    else
      pure (.authFailure (mapAuthFailure response))

/-- Registers the device.  A rejected transition is logged, and so is a failing store. -/
def registerDevice (serviceVersion : String) (success : AuthSuccess) :
    Program AuthCall ServerMessage := do
  match ← sendRaw { HttpRequest.post "/v1/devices" with
      authorization := some success.accessToken
      jsonBody := some [("client_version", serviceVersion)] } with
  | .error _ => pure (.authSuccess success)
  | .ok response =>
    if 200 ≤ response.status ∧ response.status < 300 then
      match response.deviceId, response.tokens with
      | some deviceId, some tokens => do
          match ← Program.ask (.storePair tokens) with
          | .error _ => pure (.authSuccess success)
          | .ok () => do
              match ← Program.ask (.storeDeviceId deviceId) with
              | .error _ => pure (.authSuccess success)
              | .ok () => do
                  let _ ← Program.ask (.transition (.authenticated deviceId))
                  let _ ← Program.ask (.storeUserPair success.tokens)
                  pure (authSuccessFromDeviceTokens success.userId deviceId tokens
                    (some success.tokens))
      | _, _ => pure (.authSuccess success)
    else
      pure (.authSuccess success)

/-- Has new tokens issued for the stored device, or registers it anew where the server does not
know it. -/
def reissueForLogin (serviceVersion userId : String) (userTokens : TokenPair)
    (deviceId : String) : Program AuthCall ServerMessage := do
  match ← sendRaw (reissueRequest userTokens deviceId) with
  | .error _ => pure networkFailure
  | .ok response =>
    if response.status = 200 then
      match response.tokens with
      | none => pure (serverFailure "The server response was invalid.")
      | some tokens => do
          match ← Program.ask (.storePair tokens) with
          | .error _ => pure (serverFailure "Unable to save this device session.")
          | .ok () => do
              let _ ← Program.ask (.transition (.authenticated deviceId))
              pure (authSuccessFromDeviceTokens userId deviceId tokens (some userTokens))
    else if response.status = 404 then do
      let _ ← Program.ask .clearDeviceId
      registerDevice serviceVersion (userSuccess userId userTokens)
    else
      pure (serverFailure "Unable to register this device.")

def ensureDeviceRegistered (serviceVersion : String) :
    ServerMessage → Program AuthCall ServerMessage
  | .authSuccess success => do
      match ← Program.ask .loadDeviceId with
      | .error _ => pure (.authSuccess success)
      | .ok (some deviceId) => do
          let _ ← Program.ask (.storeUserPair success.tokens)
          reissueForLogin serviceVersion success.userId success.tokens deviceId
      | .ok none => registerDevice serviceVersion success
  | outcome => pure outcome

def signUp (serviceVersion email password : String) : Program AuthCall ServerMessage := do
  let message ← credentialFlow "/v1/auth/signup" 201 email password
  ensureDeviceRegistered serviceVersion message

def logIn (serviceVersion email password : String) : Program AuthCall ServerMessage := do
  let message ← credentialFlow "/v1/auth/login" 200 email password
  ensureDeviceRegistered serviceVersion message

/-- Stores the user's tokens of a session, if it has them; half a pair counts as a failure. -/
def storeSessionUserTokens (session : AuthSession) : Program AuthCall Bool :=
  match session.userAccessToken, session.userRefreshToken, session.userExpiresAt with
  | some access, some refresh, some expiresAt => do
      let stored ← Program.ask (.storeUserPair
        { accessToken := access, refreshToken := refresh, expiresAt := expiresAt })
      pure stored.isOk
  | none, none, none => pure true
  | _, _, _ => pure false

def AuthSession.tokens (session : AuthSession) : TokenPair where
  accessToken := session.accessToken
  refreshToken := session.refreshToken
  expiresAt := session.expiresAt

def applySession (session : AuthSession) : Program AuthCall Unit := do
  let userTokensStored ← storeSessionUserTokens session
  match ← Program.ask (.storePair session.tokens) with
  | .error _ => pure ()
  | .ok () => do
      match ← Program.ask (.storeDeviceId session.deviceId) with
      | .error _ => pure ()
      | .ok () =>
        if userTokensStored then do
          let _ ← Program.ask (.transition (.authenticated session.deviceId))
          pure ()
        else
          pure ()

/-- What `clear_local_session` makes of the stored device id. -/
def forgetDevice : Bool → Program AuthCall Unit
  | true => do
      let _ ← Program.ask .clearDeviceId
      pure ()
  | false => pure ()

/-- Clears the tokens, and the device id with them if it is to go; no failure stops it. -/
def clearLocalSession (clearDeviceId : Bool) : Program AuthCall Unit := do
  let _ ← Program.ask .clearTokens
  let _ ← Program.ask .clearUserTokens
  forgetDevice clearDeviceId
  let _ ← Program.ask (.transition .unauthenticated)
  pure ()

/-- The revocation at the server, if there is a token to revoke; its outcome is ignored. -/
def revokeTokens : Except AuthError (Option TokenPair) → Program AuthCall Unit
  | .ok (some tokens) => do
      let _ ← sendRaw { HttpRequest.post "/v1/auth/logout" with
        authorization := some tokens.accessToken }
      pure ()
  | _ => pure ()

def logOut : Program AuthCall Unit := do
  let stored ← Program.ask .loadTokens
  let _ ← Program.ask (.transition .unauthenticated)
  revokeTokens stored
  clearLocalSession false

def deleteAccount (refreshBuffer : Int) : Program AuthCall ServerMessage := do
  match ← (sendAuthenticated refreshBuffer (HttpRequest.deleting "/v1/account")).run with
  | .ok response =>
    if response.status = 202 then do
      clearLocalSession true
      pure .accountDeletionAccepted
    else
      pure (.errorResponse "account_deletion_failed" "Unable to delete account")
  | .error _ => pure (.errorResponse "account_deletion_failed" "Unable to delete account")

/-- What a caller asks the manager to send.  Only the manager itself sends a refresh token. -/
structure CallerRequest where
  method : HttpMethod
  path : String
  jsonBody : Option (List (String × String))

def CallerRequest.request (caller : CallerRequest) : HttpRequest where
  method := caller.method
  path := caller.path
  authorization := none
  refreshToken := none
  jsonBody := caller.jsonBody

inductive AuthOperation
  | sendAuthenticated (caller : CallerRequest)
  | logOut
  /-- One task makes its next call. -/
  | advance (task : Nat)

abbrev AuthWorld := World AuthCall AuthShared

/-- The service at its start, with what the stores hold. -/
structure AuthOpening where
  deviceTokens : Option TokenPair
  userTokens : Option TokenPair
  deviceId : Option String
  state : AuthState

namespace AuthWorld

def opened (opening : AuthOpening) : AuthWorld where
  shared :=
    { deviceTokens := opening.deviceTokens
      userTokens := opening.userTokens
      deviceId := opening.deviceId
      state := opening.state
      refreshLocked := false
      events := []
      signedOut := false
      loggedOut := false }
  tasks := []

/-- A caller of `send_authenticated`, which keeps the outcome to itself. -/
def caller (refreshBuffer : Int) (caller : CallerRequest) : Program AuthCall Unit := do
  let _ ← (sendAuthenticated refreshBuffer caller.request).run
  pure ()

/-- The caller of `log_out`. -/
def leaver : Program AuthCall Unit := do
  Auth.logOut
  Program.ask .returnLogOut

def next (refreshBuffer : Int) (world : AuthWorld) (operation : AuthOperation)
    (input : AuthInput) : AuthWorld :=
  match operation with
  | .sendAuthenticated request => world.spawn (caller refreshBuffer request)
  | .logOut => world.spawn leaver
  | .advance task => World.advance performAuth world task input

end AuthWorld

def authMachine (refreshBuffer : Int) : Machine AuthWorld (AuthOperation × AuthInput) Unit where
  step world operation := ((), world.next refreshBuffer operation.1 operation.2)

end Velvt.Auth
