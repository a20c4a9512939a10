import Velvt.HeldSessions

/-!
# One session at a time

While every reply belongs to the session that is held, and sessions to apply are of its user and
device, what the token store holds is always one session, and so is what it emits.
-/

namespace Velvt.Auth

open StepMachine TaskPrograms List

section Manager

variable {shared : SessionShared} {refreshBuffer : Int}

theorem stillUsable_quiet (force : Bool) (tokens : TokenPair) :
    Quietly anyAnswer (stillUsable refreshBuffer force tokens) shared := by
  unfold stillUsable
  split
  · exact quietly_pure trivial
  · refine quietly_bind (P := anyAnswer) (quietly_outside trivial fun _ _ _ _ _ => trivial) ?_
    intro _ _ _ _
    exact quietly_pure trivial

theorem presentTokens_quiet (stored : Option TokenPair) :
    Quietly (fun tokens _ => stored = some tokens) (presentTokens stored) shared := by
  cases stored with
  | none => exact quietly_throw
  | some tokens => exact quietly_pure rfl

theorem authenticatedDevice_quiet : Quietly anyAnswer authenticatedDevice shared := by
  refine quietly_bind (P := anyAnswer) (quietly_outside trivial fun _ _ _ _ _ => trivial) ?_
  intro state last _ _
  cases state with
  | authenticated deviceId => exact quietly_pure trivial
  | unauthenticated => exact quietly_throw
  | needsReauth => exact quietly_throw
  | deviceRevoked => exact quietly_throw
  | refreshInFlight => exact quietly_throw

theorem transition_quiet (target : AuthState) :
    Quietly anyAnswer (fallible (.transition target)) shared :=
  quietly_fallible trivial fun _ _ _ _ _ => trivial

theorem loadTokens_quiet :
    Quietly (fun stored last => last.auth.deviceTokens = stored) (fallible .loadTokens) shared := by
  refine quietly_fallible trivial ?_
  intro input last stored _ handled
  obtain ⟨auth, performed, rfl⟩ := performSession_cases handled
  cases performed
  rfl

theorem loadUserTokens_quiet :
    Quietly (fun stored last => last.auth.userTokens = stored) (fallible .loadUserTokens)
      shared := by
  refine quietly_fallible trivial ?_
  intro input last stored _ handled
  obtain ⟨auth, performed, rfl⟩ := performSession_cases handled
  cases performed
  rfl

theorem acceptFresh_one (one : OneSession shared) (deviceId : String) {response : HttpResponse}
    (storable : ∀ fresh, response.tokens = some fresh → Storable shared fresh) :
    Leads (fun _ last => OneSession last) (acceptFresh deviceId response).run shared := by
  unfold acceptFresh
  split
  next => exact one_fails one
  next fresh isFresh =>
    rw [Leads, ensures_except_bind]
    intro input _ answer last handled
    obtain ⟨rfl, isOne⟩ := one_after_storePair one (storable fresh isFresh) handled
    refine one_after_quiet isOne (transition_quiet _) ?_
    intro _ later _ stillOne _
    exact stillOne

theorem refreshed_storable {tokens fresh : TokenPair} {response : HttpResponse}
    {last : SessionShared} (one : OneSession shared)
    (stored : shared.auth.deviceTokens = some tokens) (grows : Grows shared last)
    (received : Received shared (refreshRequest tokens) response last)
    (accepted : response.status = 200) (isFresh : response.tokens = some fresh) :
    Storable last fresh := by
  intro deviceId isDevice
  rw [grows.deviceId] at isDevice
  obtain ⟨user, issued, areUsers⟩ := one.held tokens deviceId stored isDevice
  refine ⟨user, (received.refreshed accepted isFresh).2 deviceId user issued, ?_⟩
  intro userTokens isUser
  rw [grows.userTokens] at isUser
  exact grows.users (areUsers userTokens isUser)

theorem refreshSection_one (force : Bool) : KeepsOne (refreshSection refreshBuffer force) := by
  intro shared one
  refine one_after_quiet one loadTokens_quiet ?_
  intro stored loaded _ one isStored
  refine one_after_quiet one (presentTokens_quiet stored) ?_
  rintro tokens present grows one rfl
  have held := grows.deviceTokens.trans isStored
  refine one_after_quiet one (stillUsable_quiet force tokens) ?_
  intro usable asked grows one _
  have held := grows.deviceTokens.trans held
  split
  · exact one
  · refine one_after_quiet one authenticatedDevice_quiet ?_
    intro deviceId authenticated grows one _
    have held := grows.deviceTokens.trans held
    refine one_after_quiet one (transition_quiet _) ?_
    intro _ moved grows one _
    have held := grows.deviceTokens.trans held
    refine one_after_quiet one (attempt_received _) ?_
    rintro (error | response) last grows isOne received
    · exact one_fails isOne
    · dsimp only
      split
      next accepted =>
        have storable (fresh : TokenPair) (isFresh : response.tokens = some fresh) :
            Storable last fresh :=
          refreshed_storable one held grows (received response rfl) accepted isFresh
        rw [Leads, ensures_except_bind]
        refine Program.Ensures.mono (acceptFresh_one isOne deviceId storable) ?_
        rintro (error | fresh) later stillOne
        · exact stillOne
        · exact stillOne
      · split
        · exact one_fails isOne
        · split
          · refine one_after_quiet isOne (transition_quiet _) ?_
            intro _ later _ stillOne _
            exact stillOne
          · exact one_fails isOne

/-- The tokens that a reissue goes out with are the stored ones. -/
def HoldsUser (result : Except AuthError TokenPair) (last : SessionShared) : Prop :=
  OneSession last ∧ ∀ tokens, result = .ok tokens → last.auth.userTokens = some tokens

theorem holdsUser_of_error {error : AuthError} {last : SessionShared} (one : OneSession last) :
    HoldsUser (.error error) last :=
  ⟨one, fun _ same => by cases same⟩

theorem holdsUser_fails {next : AuthState} {error : AuthError} (one : OneSession shared) :
    Leads HoldsUser (failAfter next error : AuthTask TokenPair).run shared := by
  refine Program.Ensures.mono (quietly_fails (Q := fun _ _ => False)) ?_
  rintro (error | tokens) last ⟨grows, isGood⟩
  · exact holdsUser_of_error (one.grows grows)
  · exact (isGood tokens rfl).elim

theorem refreshUserTokens_one (one : OneSession shared) :
    Leads HoldsUser refreshUserTokens.run shared := by
  refine leads_after_quiet loadUserTokens_quiet
    (fun _ _ grows => holdsUser_of_error (one.grows grows)) ?_
  intro stored loaded grows isStored
  have one := one.grows grows
  refine leads_after_quiet (presentTokens_quiet stored)
    (fun _ _ grows => holdsUser_of_error (one.grows grows)) ?_
  rintro tokens present grows rfl
  have held := grows.userTokens.trans isStored
  have one := one.grows grows
  refine leads_after_quiet (transmit_received _)
    (fun _ _ grows => holdsUser_of_error (one.grows grows)) ?_
  intro response last grows received
  have isOne := one.grows grows
  split
  next accepted =>
    split
    next => exact holdsUser_fails isOne
    next fresh isFresh =>
      have issued := (received.refreshed accepted isFresh).1
      have storable : StorableUser last fresh := by
        constructor
        · intro device deviceId isDevice isId
          rw [grows.deviceTokens] at isDevice
          rw [grows.deviceId] at isId
          obtain ⟨user, isIssued, areUsers⟩ := one.held device deviceId isDevice isId
          exact ⟨user, grows.devices isIssued, issued user (areUsers tokens held)⟩
        · obtain ⟨user, isUser⟩ := one.known tokens held
          exact ⟨user, issued user isUser⟩
      rw [Leads, ensures_except_bind]
      intro input _ answer later handled
      have isAuth := (storeUserPair_handled handled).2.1
      obtain ⟨rfl, stillOne⟩ := one_after_storeUserPair isOne storable handled
      refine ⟨stillOne, ?_⟩
      rintro other ⟨⟩
      rw [isAuth]
  next => exact holdsUser_fails isOne

theorem userTokensForReissue_one (one : OneSession shared) :
    Leads HoldsUser (userTokensForReissue refreshBuffer).run shared := by
  refine leads_after_quiet loadUserTokens_quiet
    (fun _ _ grows => holdsUser_of_error (one.grows grows)) ?_
  intro stored loaded grows isStored
  have one := one.grows grows
  refine leads_after_quiet (presentTokens_quiet stored)
    (fun _ _ grows => holdsUser_of_error (one.grows grows)) ?_
  rintro tokens present grows rfl
  have held := grows.userTokens.trans isStored
  have one := one.grows grows
  refine leads_after_quiet (stillUsable_quiet false tokens)
    (fun _ _ grows => holdsUser_of_error (one.grows grows)) ?_
  intro usable last grows _
  split
  · refine ⟨one.grows grows, ?_⟩
    rintro other ⟨⟩
    exact grows.userTokens.trans held
  · exact refreshUserTokens_one (one.grows grows)

theorem reissueSection_one : KeepsOne (reissueSection refreshBuffer) := by
  intro shared one
  have userTokens : Leads HoldsUser (tryCatch (userTokensForReissue refreshBuffer) fun error =>
        failAfter .needsReauth error).run shared := by
    refine ensures_except_catch (Program.Ensures.mono (userTokensForReissue_one one) ?_)
    rintro (error | tokens) last ⟨isOne, isStored⟩
    · exact holdsUser_fails isOne
    · exact ⟨isOne, isStored⟩
  unfold reissueSection
  rw [Leads, ensures_except_bind]
  refine Program.Ensures.mono userTokens ?_
  rintro (error | tokens) loaded ⟨one, isStored⟩
  · exact one
  have held := isStored tokens rfl
  refine one_after_quiet one authenticatedDevice_quiet ?_
  intro deviceId authenticated grows one _
  have held := grows.userTokens.trans held
  refine one_after_quiet one (transition_quiet _) ?_
  intro _ moved grows one _
  have held := grows.userTokens.trans held
  refine one_after_quiet one (attempt_received _) ?_
  rintro (error | response) last grows isOne received
  · exact one_fails isOne
  · dsimp only
    split
    next accepted =>
      refine acceptFresh_one isOne deviceId fun fresh isFresh => ?_
      obtain ⟨isNamed, issued⟩ := (received response rfl).reissued accepted isFresh
      intro stored isDevice
      rw [grows.deviceId] at isDevice
      obtain rfl := isNamed stored isDevice
      obtain ⟨user, isUser⟩ := one.known tokens held
      refine ⟨user, issued user isUser, fun userTokens isHeld => ?_⟩
      rw [grows.userTokens, held] at isHeld
      obtain rfl := Option.some.inj isHeld
      exact grows.users isUser
    · split
      · exact one_fails isOne
      · exact one_fails isOne

variable {Answer : Type}

theorem withRefreshLock_one {section_ : AuthTask Answer}
    (keeps : KeepsOne section_) : KeepsOne (withRefreshLock section_) := by
  intro shared one input _ answer locked handled
  have locks : AuthCall.lockRefresh.Quiet := trivial
  have unlocks : AuthCall.unlockRefresh.Quiet := trivial
  have isOne := one.grows (grows_of_quiet locks handled)
  change Program.Ensures _ _ _ (section_.run >>= fun result => _) locked
  rw [ensures_bind]
  refine Program.Ensures.mono (keeps locked isOne) ?_
  intro result last stillOne input _ answer later unlocked
  exact stillOne.grows (grows_of_quiet unlocks unlocked)

theorem one_pure (value : Answer) : KeepsOne (pure value : AuthTask Answer) :=
  fun _ one => one

theorem one_throw (error : AuthError) :
    KeepsOne (throw error : AuthTask Answer) :=
  fun _ one => one

theorem reissueDeviceTokens_one : KeepsOne (reissueDeviceTokens refreshBuffer) :=
  withRefreshLock_one reissueSection_one

theorem refreshTokens_one (force : Bool) : KeepsOne (refreshTokens refreshBuffer force) := by
  refine one_bind (withRefreshLock_one (refreshSection_one force)) ?_
  rintro (_ | tokens)
  · exact reissueDeviceTokens_one
  · exact one_pure tokens

theorem tokensForRequest_one : KeepsOne (tokensForRequest refreshBuffer) := by
  refine one_bind (fun shared one => one_of_quiet one loadTokens_quiet) fun stored => ?_
  refine one_bind (fun shared one => one_of_quiet one (presentTokens_quiet stored)) fun tokens => ?_
  refine one_bind (fun shared one => one_of_quiet one (stillUsable_quiet false tokens))
    fun usable => ?_
  split
  · exact one_pure tokens
  · exact refreshTokens_one false

theorem transmit_one (request : HttpRequest) : KeepsOne (transmit request) :=
  fun _ one => one_of_quiet one (transmit_received request)

theorem settleResponse_one (response : HttpResponse) : KeepsOne (settleResponse response) := by
  unfold settleResponse
  split
  · exact fun _ one => one_fails one
  · split
    · exact fun _ one => one_fails one
    · split
      · exact one_throw _
      · exact one_pure _

theorem handleResponse_one (response : HttpResponse) (request : HttpRequest) :
    KeepsOne (handleResponse refreshBuffer response request) := by
  unfold handleResponse
  split
  · refine one_bind reissueDeviceTokens_one fun fresh => ?_
    exact one_bind (transmit_one _) settleResponse_one
  · exact settleResponse_one response

theorem sendAuthenticated_one (request : HttpRequest) :
    KeepsOne (sendAuthenticated refreshBuffer request) := by
  have current : KeepsOne (outside .currentState) := fun _ one =>
    one_of_quiet (P := anyAnswer) one (quietly_outside trivial fun _ _ _ _ _ => trivial)
  refine one_bind current fun state => ?_
  split
  · exact one_throw _
  · refine one_bind tokensForRequest_one fun tokens => ?_
    refine one_bind (transmit_one _) fun response => ?_
    split
    · refine one_bind (refreshTokens_one true) fun fresh => ?_
      exact one_bind (transmit_one _) fun retried => handleResponse_one retried _
    · exact handleResponse_one response _

end Manager

section Account

variable {shared : SessionShared} {refreshBuffer : Int} {serviceVersion : String}

theorem sendRaw_received (request : HttpRequest) :
    Leads (fun reply last => Grows shared last ∧ ∀ response, reply = .ok response →
      Received shared request response last) (sendRaw request) shared := by
  intro input _ answer middle sent other sound reply last handled
  have sends : (AuthCall.send request).Quiet := trivial
  have receives : (AuthCall.receive request).Quiet := trivial
  have grows := grows_of_quiet sends sent
  refine ⟨grows.trans (grows_of_quiet receives handled), ?_⟩
  rintro response rfl
  exact (received_of_handled sound handled).grows grows

theorem one_after_clear {last : SessionShared} {operation : AuthCall (Except AuthError Unit)}
    {input : AuthInput} {answer : Except AuthError Unit} (one : OneSession shared)
    (clears : operation = .clearTokens ∨ operation = .clearUserTokens ∨ operation = .clearDeviceId)
    (handled : performSession _ input shared operation = some (answer, last)) :
    OneSession last := by
  obtain ⟨auth, performed, rfl⟩ := performSession_cases handled
  rcases clears with rfl | rfl | rfl
  · cases performed
    exact ⟨fun _ _ isTokens => (by cases isTokens), one.known, one.emitted⟩
  · cases performed
    refine ⟨?_, fun _ isUser => (by cases isUser), one.emitted⟩
    intro tokens deviceId isTokens isDevice
    obtain ⟨user, issued, -⟩ := one.held tokens deviceId isTokens isDevice
    exact ⟨user, issued, fun _ isUser => by cases isUser⟩
  · cases performed
    exact ⟨fun _ _ _ isDevice => (by cases isDevice), one.known, one.emitted⟩

/-- A login has yielded these tokens, and the device tokens that are held with a device id are of
its user. -/
structure SignedIn (success : AuthSuccess) (shared : SessionShared) : Prop where
  issued : (success.tokens, success.userId) ∈ shared.issuedUsers
  held : ∀ device deviceId, shared.auth.deviceTokens = some device →
    shared.auth.deviceId = some deviceId →
    (device, deviceId, success.userId) ∈ shared.issuedDevices

theorem credentialFlow_signs {path : String} {successStatus : Nat}
    (isCredential : path = signupPath ∧ successStatus = 201 ∨
      path = loginPath ∧ successStatus = 200) (email password : String) :
    Leads (fun message last => Grows shared last ∧ ∀ success, message = .authSuccess success →
      SignedIn success last) (credentialFlow path successStatus email password) shared := by
  unfold credentialFlow
  rw [Leads, ensures_bind]
  refine Program.Ensures.mono (sendRaw_received _) ?_
  rintro (error | response) last ⟨grows, received⟩
  · exact ⟨grows, fun success same => by cases same⟩
  · dsimp only
    split
    next accepted =>
      split
      next userId tokens isUser isTokens =>
        refine ⟨grows, ?_⟩
        rintro success ⟨⟩
        have signs : (tokens, userId) ∈ signedIn { HttpRequest.post path with
            jsonBody := some [("email", email), ("password", password)] } response := by
          rw [signedIn, if_pos (by rw [accepted]; exact isCredential), isTokens, isUser]
          exact mem_singleton_self _
        have isReceived := received response rfl
        constructor
        · exact isReceived.users (mem_append_left _ signs)
        · intro device deviceId isDevice isId
          rw [grows.deviceTokens] at isDevice
          rw [grows.deviceId] at isId
          exact isReceived.signsIn _ signs deviceId device isId isDevice
      next => exact ⟨grows, fun success same => by cases same⟩
    next => exact ⟨grows, fun success same => by cases same⟩

/-- The registration of a device leaves one session. -/
theorem registerDevice_one {success : AuthSuccess} (one : OneSession shared)
    (noDevice : shared.auth.deviceId = none)
    (issued : (success.tokens, success.userId) ∈ shared.issuedUsers) :
    Leads (fun _ last => OneSession last) (registerDevice serviceVersion success) shared := by
  unfold registerDevice
  rw [Leads, ensures_bind]
  refine Program.Ensures.mono (sendRaw_received _) ?_
  rintro (error | response) replied ⟨grows, received⟩
  · exact one.grows grows
  have isOne := one.grows grows
  dsimp only
  split
  next accepted =>
    split
    next deviceId tokens isDevice isTokens =>
      have isReceived := received response rfl
      have isRegistered : deviceId ∈ registered { HttpRequest.post "/v1/devices" with
          authorization := some success.accessToken
          jsonBody := some [("client_version", serviceVersion)] } response := by
        rw [registered, if_pos ⟨rfl, accepted.1, accepted.2, by rw [isTokens]; rfl⟩, isDevice]
        exact mem_singleton_self deviceId
      have isIssued : (tokens, deviceId, success.userId) ∈ replied.issuedDevices :=
        isReceived.deviceIssued (mem_append_left _ isRegistered) isTokens rfl issued
      have sameUser : ∀ userTokens, replied.auth.userTokens = some userTokens →
          (userTokens, success.userId) ∈ replied.issuedUsers := by
        intro userTokens isHeld
        rw [grows.userTokens] at isHeld
        exact isReceived.registers deviceId isRegistered success.userId (mem_owners issued rfl)
          userTokens isHeld
      intro input _ answer stored storing
      obtain ⟨-, storedAuth, storedUsers, storedDevices, -⟩ := storePair_handled storing
      obtain ⟨rfl, isOne⟩ := one_after_storePair isOne (fun other isOther => by
        rw [grows.deviceId, noDevice] at isOther
        cases isOther) storing
      intro input _ answer named naming
      obtain ⟨-, namedAuth, namedUsers, namedDevices, -⟩ := storeDeviceId_handled naming
      obtain ⟨rfl, isOne⟩ := one_after_storeDeviceId isOne (fun device isHeld => by
        rw [storedAuth] at isHeld
        obtain rfl := Option.some.inj isHeld
        refine ⟨success.userId, storedDevices ▸ isIssued, fun userTokens isUser => ?_⟩
        rw [storedAuth] at isUser
        exact storedUsers ▸ sameUser userTokens isUser) naming
      intro input _ answer moved moving
      have moves : (AuthCall.transition (.authenticated deviceId)).Quiet := trivial
      have further := grows_of_quiet moves moving
      intro input _ answer last keeping
      refine (one_after_storeUserPair (isOne.grows further) ?_ keeping).2
      have isUser : (success.tokens, success.userId) ∈ moved.issuedUsers := by
        refine further.users ?_
        rw [namedUsers, storedUsers]
        exact grows.users issued
      refine ⟨?_, success.userId, isUser⟩
      intro device other isDevice isOther
      rw [further.deviceTokens, namedAuth] at isDevice
      rw [further.deviceId, namedAuth] at isOther
      obtain rfl := Option.some.inj isOther
      change stored.auth.deviceTokens = some device at isDevice
      rw [storedAuth] at isDevice
      obtain rfl := Option.some.inj isDevice
      refine ⟨success.userId, further.devices ?_, isUser⟩
      rw [namedDevices, storedDevices]
      exact isIssued
    next => exact isOne
  next => exact isOne

/-- New tokens for a device that is stored. -/
theorem reissueForLogin_one {userId deviceId : String} {userTokens : TokenPair}
    (one : OneSession shared) (isDevice : shared.auth.deviceId = some deviceId)
    (isUser : shared.auth.userTokens = some userTokens)
    (issued : (userTokens, userId) ∈ shared.issuedUsers) :
    Leads (fun _ last => OneSession last)
      (reissueForLogin serviceVersion userId userTokens deviceId) shared := by
  unfold reissueForLogin
  rw [Leads, ensures_bind]
  refine Program.Ensures.mono (sendRaw_received _) ?_
  rintro (error | response) replied ⟨grows, received⟩
  · exact one.grows grows
  have isOne := one.grows grows
  dsimp only
  split
  next accepted =>
    split
    next => exact isOne
    next tokens isTokens =>
      intro input _ answer stored storing
      have isIssued := ((received response rfl).reissued accepted isTokens).2 userId issued
      have storable : Storable replied tokens := by
        intro other isOther
        rw [grows.deviceId, isDevice] at isOther
        obtain rfl := Option.some.inj isOther
        refine ⟨userId, isIssued, fun held isHeld => ?_⟩
        rw [grows.userTokens, isUser] at isHeld
        obtain rfl := Option.some.inj isHeld
        exact grows.users issued
      obtain ⟨rfl, isOne⟩ := one_after_storePair isOne storable storing
      intro input _ answer moved moving
      have moves : (AuthCall.transition (.authenticated deviceId)).Quiet := trivial
      exact isOne.grows (grows_of_quiet moves moving)
  next =>
    split
    next =>
      intro input _ answer cleared clearing
      have isOne := one_after_clear isOne (Or.inr (Or.inr rfl)) clearing
      obtain ⟨auth, performed, rfl⟩ := performSession_cases clearing
      cases performed
      exact registerDevice_one isOne rfl (grows.users issued)
    next => exact isOne

theorem ensureDeviceRegistered_one {message : ServerMessage} (one : OneSession shared)
    (signed : ∀ success, message = .authSuccess success → SignedIn success shared) :
    Leads (fun _ last => OneSession last) (ensureDeviceRegistered serviceVersion message)
      shared := by
  cases message with
  | authFailure failure => exact one
  | accountDeletionAccepted => exact one
  | errorResponse code text => exact one
  | authSuccess success =>
    obtain ⟨issued, held⟩ := signed success rfl
    intro input _ answer loaded loading
    obtain ⟨auth, performed, rfl⟩ := performSession_cases loading
    cases performed
    cases isDevice : shared.auth.deviceId with
    | none => exact registerDevice_one one isDevice issued
    | some deviceId =>
      intro input _ answer stored storing
      have isAuth := (storeUserPair_handled storing).2.1
      have sameUsers := (storeUserPair_handled storing).2.2.1
      have storable : StorableUser shared success.tokens := by
        refine ⟨fun device other isTokens isOther => ?_, success.userId, issued⟩
        exact ⟨success.userId, held device other isTokens isOther, issued⟩
      obtain ⟨-, isOne⟩ := one_after_storeUserPair one storable storing
      refine reissueForLogin_one isOne ?_ ?_ ?_
      · rw [isAuth]
        exact isDevice
      · rw [isAuth]
      · rw [sameUsers]
        exact issued

theorem signing_one {path : String} {successStatus : Nat}
    (isCredential : path = signupPath ∧ successStatus = 201 ∨
      path = loginPath ∧ successStatus = 200) (email password : String)
    (one : OneSession shared) :
    Leads (fun _ last => OneSession last) (do
        let message ← credentialFlow path successStatus email password
        ensureDeviceRegistered serviceVersion message) shared := by
  rw [Leads, ensures_bind]
  refine Program.Ensures.mono (credentialFlow_signs isCredential email password) ?_
  rintro message last ⟨grows, signed⟩
  exact ensureDeviceRegistered_one (one.grows grows) signed

theorem storeSessionUserTokens_one {session : AuthSession} (one : OneSession shared)
    (storable : ∀ userTokens, session.userTokens = some userTokens →
      StorableUser shared userTokens) :
    Leads (fun _ last => OneSession last ∧ last.auth.deviceTokens = shared.auth.deviceTokens ∧
        last.auth.deviceId = shared.auth.deviceId ∧
        last.auth.userTokens = session.userTokens.or shared.auth.userTokens ∧
        last.issuedUsers = shared.issuedUsers ∧ last.issuedDevices = shared.issuedDevices)
      (storeSessionUserTokens session) shared := by
  unfold storeSessionUserTokens
  split
  next access refresh expiresAt isAccess isRefresh isExpiry =>
    have isPair : session.userTokens =
        some { accessToken := access, refreshToken := refresh, expiresAt := expiresAt } := by
      rw [AuthSession.userTokens, isAccess, isRefresh, isExpiry]
    intro input _ answer stored storing
    obtain ⟨-, isAuth, sameUsers, sameDevices, -⟩ := storeUserPair_handled storing
    refine ⟨(one_after_storeUserPair one (storable _ isPair) storing).2, ?_, ?_, ?_, sameUsers,
      sameDevices⟩
    · rw [isAuth]
    · rw [isAuth]
    · rw [isAuth, isPair]
      rfl
  next isAccess isRefresh isExpiry =>
    have isNone : session.userTokens = none := by
      rw [AuthSession.userTokens, isAccess, isRefresh, isExpiry]
    exact ⟨one, rfl, rfl, by rw [isNone]; rfl, rfl, rfl⟩
  next notAll _ =>
    have isNone : session.userTokens = none := by
      rw [AuthSession.userTokens]
      split
      next access refresh expiresAt isAccess isRefresh isExpiry =>
        exact absurd isExpiry (notAll access refresh expiresAt isAccess isRefresh)
      next => rfl
    exact ⟨one, rfl, rfl, by rw [isNone]; rfl, rfl, rfl⟩

/-- A session that fits what is held is taken whole. -/
theorem applySession_one {session : AuthSession} (one : OneSession shared)
    (applicable : Applicable shared session) :
    Leads (fun _ last => OneSession last) (applySession session) shared := by
  obtain ⟨user, -, issued, sameDevice, brings, stays⟩ := applicable
  have storable (userTokens : TokenPair) (isPair : session.userTokens = some userTokens) :
      StorableUser shared userTokens := by
    obtain ⟨isUser, held⟩ := brings userTokens (by rw [isPair]; exact mem_singleton_self _)
    refine ⟨fun device deviceId isDevice isId => ⟨user, ?_, isUser⟩, user, isUser⟩
    exact held deviceId (by rw [isId]; exact mem_singleton_self _) device
      (by rw [isDevice]; exact mem_singleton_self _)
  have sameUser (userTokens : TokenPair)
      (isHeld : session.userTokens.or shared.auth.userTokens = some userTokens) :
      (userTokens, user) ∈ shared.issuedUsers := by
    cases isPair : session.userTokens with
    | none =>
      rw [isPair, Option.none_or] at isHeld
      exact stays isPair userTokens (by rw [isHeld]; exact mem_singleton_self _)
    | some pair =>
      rw [isPair, Option.some_or] at isHeld
      obtain rfl := Option.some.inj isHeld
      exact (brings pair (by rw [isPair]; exact mem_singleton_self _)).1
  unfold applySession
  rw [Leads, ensures_bind]
  refine Program.Ensures.mono (storeSessionUserTokens_one one storable) ?_
  rintro userTokensStored begun ⟨isOne, -, sameId, isUser, sameUsers, sameDevices⟩
  intro input _ answer stored storing
  obtain ⟨-, storedAuth, storedUsers, storedDevices, -⟩ := storePair_handled storing
  have fits : Storable begun session.tokens := by
    intro deviceId isDevice
    rw [sameId] at isDevice
    obtain rfl := sameDevice deviceId (by rw [isDevice]; exact mem_singleton_self _)
    refine ⟨user, sameDevices ▸ issued, fun userTokens isHeld => ?_⟩
    rw [isUser] at isHeld
    exact sameUsers ▸ sameUser userTokens isHeld
  obtain ⟨rfl, isOne⟩ := one_after_storePair isOne fits storing
  intro input _ answer named naming
  obtain ⟨rfl, isOne⟩ := one_after_storeDeviceId isOne (fun device isHeld => by
    rw [storedAuth] at isHeld
    obtain rfl := Option.some.inj isHeld
    refine ⟨user, ?_, fun userTokens isKept => ?_⟩
    · rw [storedDevices, sameDevices]
      exact issued
    · rw [storedAuth] at isKept
      change begun.auth.userTokens = some userTokens at isKept
      rw [isUser] at isKept
      rw [storedUsers, sameUsers]
      exact sameUser userTokens isKept) naming
  dsimp only
  split
  · intro input _ answer moved moving
    have moves : (AuthCall.transition (.authenticated session.deviceId)).Quiet := trivial
    exact isOne.grows (grows_of_quiet moves moving)
  · exact isOne

theorem forgetDevice_one (clearDeviceId : Bool) (one : OneSession shared) :
    Leads (fun _ last => OneSession last) (forgetDevice clearDeviceId) shared := by
  cases clearDeviceId with
  | false => exact one
  | true =>
    intro input _ answer cleared clearing
    exact one_after_clear one (Or.inr (Or.inr rfl)) clearing

theorem clearLocalSession_one (clearDeviceId : Bool) (one : OneSession shared) :
    Leads (fun _ last => OneSession last) (clearLocalSession clearDeviceId) shared := by
  intro input _ answer first clearing
  have one := one_after_clear one (Or.inl rfl) clearing
  intro input _ answer second clearing
  have one := one_after_clear one (Or.inr (Or.inl rfl)) clearing
  change Leads _ (forgetDevice clearDeviceId >>= fun _ => _) second
  rw [Leads, ensures_bind]
  refine Program.Ensures.mono (forgetDevice_one clearDeviceId one) ?_
  intro _ third one input _ answer last moving
  have moves : (AuthCall.transition .unauthenticated).Quiet := trivial
  exact one.grows (grows_of_quiet moves moving)

theorem logOut_one (one : OneSession shared) :
    Leads (fun _ last => OneSession last) logOut shared := by
  have loads : AuthCall.loadTokens.Quiet := trivial
  have moves : (AuthCall.transition .unauthenticated).Quiet := trivial
  intro input _ stored loaded loading
  have one := one.grows (grows_of_quiet loads loading)
  intro input _ answer moved moving
  have one := one.grows (grows_of_quiet moves moving)
  change Leads _ (revokeTokens stored >>= fun _ => _) moved
  rw [Leads, ensures_bind]
  have revokes : Leads (fun _ last => OneSession last) (revokeTokens stored) moved := by
    rcases stored with error | _ | tokens
    · exact one
    · exact one
    · change Leads _ (sendRaw _ >>= fun _ => _) moved
      rw [Leads, ensures_bind]
      refine Program.Ensures.mono (sendRaw_received _) ?_
      rintro reply last ⟨grows, -⟩
      exact one.grows grows
  refine Program.Ensures.mono revokes ?_
  intro _ last one
  exact clearLocalSession_one false one

theorem deleteAccount_one (one : OneSession shared) :
    Leads (fun _ last => OneSession last) (deleteAccount refreshBuffer) shared := by
  unfold deleteAccount
  rw [Leads, ensures_bind]
  refine Program.Ensures.mono (sendAuthenticated_one _ shared one) ?_
  rintro (error | response) last isOne
  · exact isOne
  · dsimp only
    split
    · rw [ensures_bind]
      refine Program.Ensures.mono (clearLocalSession_one true isOne) ?_
      intro _ later stillOne
      exact stillOne
    · exact isOne

end Account

section Runs

variable {serviceVersion : String} {refreshBuffer : Int} {shared : SessionShared}

theorem one_dropped {Result : Type} {program : Program AuthCall Result}
    (leads : Leads (fun _ last => OneSession last) program shared) :
    Leads (fun _ last => OneSession last) (do let _ ← program; pure ()) shared := by
  rw [Leads, ensures_bind]
  exact leads.mono fun _ _ one => one

theorem operation_one (one : OneSession shared) (operation : SessionOperation)
    (applicable : ∀ session, operation = .account (.applySession session) →
      Applicable shared session) :
    Leads (fun _ last => OneSession last) (operation.program serviceVersion refreshBuffer)
      shared := by
  cases operation with
  | refreshTokens force => exact one_dropped (refreshTokens_one force shared one)
  | reissueDeviceTokens => exact one_dropped (reissueDeviceTokens_one shared one)
  | sendAuthenticated caller => exact one_dropped (sendAuthenticated_one _ shared one)
  | account operation =>
    refine one_dropped ?_
    have answers {Result : Type} {program : Program AuthCall Result}
        {answer : Result → Option ServerMessage}
        (leads : Leads (fun _ last => OneSession last) program shared) :
        Leads (fun _ last => OneSession last)
          (do let result ← program; pure (answer result)) shared := by
      rw [Leads, ensures_bind]
      exact leads.mono fun _ _ one => one
    cases operation with
    | signUp email password =>
      exact answers (signing_one (Or.inl ⟨rfl, rfl⟩) email password one)
    | logIn email password =>
      exact answers (signing_one (Or.inr ⟨rfl, rfl⟩) email password one)
    | applySession session => exact answers (applySession_one one (applicable session rfl))
    | logOut => exact answers (logOut_one one)
    | deleteAccount => exact answers (deleteAccount_one one)

theorem one_next {operation : SessionOperation × List AuthInput} (one : OneSession shared)
    (keeps : KeepsToOne serviceVersion refreshBuffer shared operation) :
    OneSession ((sessionMachine serviceVersion refreshBuffer).next shared operation) := by
  obtain ⟨operation, inputs⟩ := operation
  obtain ⟨applicable, sound⟩ := keeps
  have applies : ∀ session, operation = .account (.applySession session) →
      Applicable shared session := by
    rintro session rfl
    exact applicable
  change OneSession (((operation.program serviceVersion refreshBuffer).run performSession inputs
    shared).getD ((), shared)).2
  cases ends : (operation.program serviceVersion refreshBuffer).run performSession inputs
      shared with
  | none => exact one
  | some result =>
    obtain ⟨answer, last⟩ := result
    have leads := @operation_one serviceVersion refreshBuffer shared one operation applies
    exact leads.run sound ends

theorem one_opened (issuedUsers : List (TokenPair × String))
    (issuedDevices : List (TokenPair × String × String)) :
    OneSession (.opened issuedUsers issuedDevices) where
  held := by
    intro _ _ isTokens
    cases isTokens
  known := by
    intro _ isUser
    cases isUser
  emitted := by
    intro _ member
    cases member

end Runs

/-- Wherever each operation keeps to the session that is held, every session that the store emits
pairs a device id with tokens issued for it, and with tokens of their user. -/
theorem emitted_sessions_are_one (serviceVersion : String) (refreshBuffer : Int)
    (issuedUsers : List (TokenPair × String)) (issuedDevices : List (TokenPair × String × String))
    (operations : List (SessionOperation × List AuthInput))
    (keeps : (sessionMachine serviceVersion refreshBuffer).Meets
      (KeepsToOne serviceVersion refreshBuffer) (.opened issuedUsers issuedDevices) operations) :
    let last := (sessionMachine serviceVersion refreshBuffer).run
      (.opened issuedUsers issuedDevices) operations
    ∀ session ∈ last.emitted, last.Coherent session := by
  have step : ∀ shared operation, OneSession shared →
      KeepsToOne serviceVersion refreshBuffer shared operation →
      OneSession ((sessionMachine serviceVersion refreshBuffer).next shared operation) := by
    intro shared operation one keeps
    exact one_next one keeps
  exact ((sessionMachine serviceVersion refreshBuffer).invariant_run step
    (one_opened issuedUsers issuedDevices) keeps).emitted

/-- A call for which its surroundings decide nothing; a request fails in transport. -/
def idleInput : AuthInput where
  now := 0
  storeFails := false
  writesAnyway := false
  reply := .error .transport

def replyInput (status : Nat) (tokens : TokenPair) (userId deviceId : Option String) :
    AuthInput :=
  { idleInput with
    reply := .ok
      { status := status
        errorCode := none
        tokens := some tokens
        message := none
        userId := userId
        deviceId := deviceId } }

def samplePair (name : String) : TokenPair where
  accessToken := "access-" ++ name
  refreshToken := "refresh-" ++ name
  expiresAt := 3600

def adaLogin : SessionOperation × List AuthInput :=
  (.account (.logIn "ada@example.test" "secret"),
    [ idleInput, replyInput 200 (samplePair "ada") (some "ada") none, idleInput, idleInput,
      replyInput 201 (samplePair "device") none (some "device-1"), idleInput, idleInput,
      idleInput, idleInput ])

def sampleRefresh : SessionOperation × List AuthInput :=
  (.refreshTokens true,
    [ idleInput, idleInput, idleInput, idleInput, idleInput,
      replyInput 200 (samplePair "fresh") none none, idleInput, idleInput, idleInput ])

/-- Ben logs in on the same device; the reissue fails in transport. -/
def benLogin : SessionOperation × List AuthInput :=
  (.account (.logIn "ben@example.test" "secret"),
    [ idleInput, replyInput 200 (samplePair "ben") (some "ben") none, idleInput, idleInput,
      idleInput, idleInput ])

/-- A first login and a refresh emit three sessions, each of one account. -/
theorem login_and_refresh_emit_one_session :
    (sessionMachine "0.1.0" 60).Meets (KeepsToOne "0.1.0" 60) (.opened [] [])
        [adaLogin, sampleRefresh] ∧
      ((sessionMachine "0.1.0" 60).run (.opened [] []) [adaLogin, sampleRefresh]).emitted.length =
        3 ∧
      ∀ session ∈
        ((sessionMachine "0.1.0" 60).run (.opened [] []) [adaLogin, sampleRefresh]).emitted,
        ((sessionMachine "0.1.0" 60).run (.opened [] []) [adaLogin, sampleRefresh]).Coherent
          session := by
  have keeps : (sessionMachine "0.1.0" 60).Meets (KeepsToOne "0.1.0" 60) (.opened [] [])
      [adaLogin, sampleRefresh] := by
    decide +kernel
  exact ⟨keeps, by decide +kernel,
    emitted_sessions_are_one "0.1.0" 60 [] [] [adaLogin, sampleRefresh] keeps⟩

/-- Ada's device tokens are handed back with Ben's tokens. -/
theorem second_login_emits_mixture :
    let last := (sessionMachine "0.1.0" 60).run (.opened [] []) [adaLogin, benLogin]
    ∃ session ∈ last.emitted,
      session.accessToken = "access-device" ∧ session.userAccessToken = some "access-ben" ∧
        ¬ last.Coherent session := by
  decide +kernel

end Velvt.Auth
