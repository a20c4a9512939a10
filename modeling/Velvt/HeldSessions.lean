import Velvt.EmittedSessions

/-!
# What the token store holds

The store holds one session if its tokens and its device id are of one user and one device.  This
file says which writes keep that, what a sound reply brings, and how facts about single calls make
facts about tasks.
-/

namespace Velvt.Auth

open StepMachine TaskPrograms List

section States

/-- What the store holds, and what it has emitted, is of one user and one device each. -/
structure OneSession (shared : SessionShared) : Prop where
  held : ∀ tokens deviceId, shared.auth.deviceTokens = some tokens →
    shared.auth.deviceId = some deviceId →
    ∃ user, (tokens, deviceId, user) ∈ shared.issuedDevices ∧
      ∀ userTokens, shared.auth.userTokens = some userTokens →
        (userTokens, user) ∈ shared.issuedUsers
  known : ∀ userTokens, shared.auth.userTokens = some userTokens →
    ∃ user, (userTokens, user) ∈ shared.issuedUsers
  emitted : ∀ session ∈ shared.emitted, shared.Coherent session

/-- More may have been issued since; nothing is stored, cleared or emitted. -/
structure Grows (shared later : SessionShared) : Prop where
  deviceTokens : later.auth.deviceTokens = shared.auth.deviceTokens
  userTokens : later.auth.userTokens = shared.auth.userTokens
  deviceId : later.auth.deviceId = shared.auth.deviceId
  users : shared.issuedUsers ⊆ later.issuedUsers
  devices : shared.issuedDevices ⊆ later.issuedDevices
  emitted : later.emitted = shared.emitted

variable {shared middle later : SessionShared}

theorem Grows.refl (shared : SessionShared) : Grows shared shared :=
  ⟨rfl, rfl, rfl, fun _ => id, fun _ => id, rfl⟩

theorem Grows.trans (first : Grows shared middle) (second : Grows middle later) :
    Grows shared later where
  deviceTokens := second.deviceTokens.trans first.deviceTokens
  userTokens := second.userTokens.trans first.userTokens
  deviceId := second.deviceId.trans first.deviceId
  users := List.Subset.trans first.users second.users
  devices := List.Subset.trans first.devices second.devices
  emitted := second.emitted.trans first.emitted

theorem SessionShared.Coherent.mono {session : AuthSession} (coherent : shared.Coherent session)
    (users : shared.issuedUsers ⊆ later.issuedUsers)
    (devices : shared.issuedDevices ⊆ later.issuedDevices) : later.Coherent session := by
  obtain ⟨user, -, isDevice, areUsers⟩ := coherent
  have isLater := devices isDevice
  exact ⟨user, mem_map.mpr ⟨_, isLater, rfl⟩, isLater,
    fun userTokens member => users (areUsers userTokens member)⟩

theorem OneSession.grows (one : OneSession shared) (grows : Grows shared later) :
    OneSession later where
  held := by
    intro tokens deviceId isTokens isDevice
    rw [grows.deviceTokens] at isTokens
    rw [grows.deviceId] at isDevice
    obtain ⟨user, issued, areUsers⟩ := one.held tokens deviceId isTokens isDevice
    refine ⟨user, grows.devices issued, fun userTokens isUser => ?_⟩
    rw [grows.userTokens] at isUser
    exact grows.users (areUsers userTokens isUser)
  known := by
    intro userTokens isUser
    rw [grows.userTokens] at isUser
    obtain ⟨user, issued⟩ := one.known userTokens isUser
    exact ⟨user, grows.users issued⟩
  emitted := by
    rw [grows.emitted]
    intro session member
    exact (one.emitted session member).mono grows.users grows.devices

theorem OneSession.session_coherent (one : OneSession shared) :
    ∀ session ∈ shared.auth.session, shared.Coherent session := by
  intro session isSession
  unfold AuthShared.session at isSession
  split at isSession
  next tokens deviceId isTokens isDevice =>
    obtain rfl := Option.some.inj isSession
    obtain ⟨user, issued, areUsers⟩ := one.held tokens deviceId isTokens isDevice
    refine ⟨user, mem_map.mpr ⟨_, issued, rfl⟩, issued, ?_⟩
    intro userTokens member
    cases held : shared.auth.userTokens with
    | none =>
      rw [held] at member
      cases member
    | some stored =>
      rw [held] at member
      obtain rfl : userTokens = stored := mem_singleton.mp member
      exact areUsers userTokens held
  next => cases isSession

end States

/-- A call that neither stores nor clears. -/
def AuthCall.Quiet {Answer : Type} : AuthCall Answer → Prop
  | .storePair _ | .storeUserPair _ | .storeDeviceId _ => False
  | .clearTokens | .clearUserTokens | .clearDeviceId => False
  | _ => True

section Calls

variable {Answer : Type} {operation : AuthCall Answer} {input : AuthInput} {answer : Answer}
  {shared later : SessionShared}

theorem performSession_cases
    (handled : performSession Answer input shared operation = some (answer, later)) :
    ∃ auth, performAuth Answer { input with storeFails := false } shared.auth operation =
        some (answer, auth) ∧ later = shared.after auth operation answer := by
  obtain ⟨⟨reply, auth⟩, isHandled, same⟩ := Option.map_eq_some_iff.mp handled
  obtain ⟨rfl, rfl⟩ := Prod.mk.inj same
  exact ⟨auth, isHandled, rfl⟩

/-- A call that stores nothing only adds to what was issued. -/
theorem grows_of_quiet (quiet : operation.Quiet)
    (handled : performSession Answer input shared operation = some (answer, later)) :
    Grows shared later := by
  obtain ⟨auth, performed, rfl⟩ := performSession_cases handled
  have loaded {Value : Type} {value : Value} {reply : Except AuthError Value}
      (isLoaded : shared.auth.load { input with storeFails := false } value = some (reply, auth)) :
      auth = shared.auth := (load_cases isLoaded).1
  cases operation with
  | utcNow =>
    cases performed
    exact ⟨rfl, rfl, rfl, fun _ => id, fun _ => id, rfl⟩
  | currentState =>
    cases performed
    exact ⟨rfl, rfl, rfl, fun _ => id, fun _ => id, rfl⟩
  | unlockRefresh =>
    cases performed
    exact ⟨rfl, rfl, rfl, fun _ => id, fun _ => id, rfl⟩
  | returnLogOut =>
    cases performed
    exact ⟨rfl, rfl, rfl, fun _ => id, fun _ => id, rfl⟩
  | send request =>
    cases performed
    exact ⟨rfl, rfl, rfl, fun _ => id, fun _ => id, rfl⟩
  | receive request =>
    cases performed
    cases isReply : input.reply with
    | error error => exact ⟨rfl, rfl, rfl, fun _ => id, fun _ => id, rfl⟩
    | ok response =>
      exact ⟨rfl, rfl, rfl, subset_append_left _ _, subset_append_left _ _, rfl⟩
  | loadTokens =>
    obtain rfl := loaded performed
    exact ⟨rfl, rfl, rfl, fun _ => id, fun _ => id, rfl⟩
  | loadUserTokens =>
    obtain rfl := loaded performed
    exact ⟨rfl, rfl, rfl, fun _ => id, fun _ => id, rfl⟩
  | loadDeviceId =>
    obtain rfl := loaded performed
    exact ⟨rfl, rfl, rfl, fun _ => id, fun _ => id, rfl⟩
  | lockRefresh =>
    simp only [performAuth] at performed
    split at performed
    · cases performed
    · cases performed
      exact ⟨rfl, rfl, rfl, fun _ => id, fun _ => id, rfl⟩
  | transition target =>
    rcases transition_cases performed with ⟨rfl, -, rfl⟩ | ⟨rfl, -, rfl⟩
    · exact ⟨rfl, rfl, rfl, fun _ => id, fun _ => id, rfl⟩
    · exact ⟨rfl, rfl, rfl, fun _ => id, fun _ => id, rfl⟩
  | storePair tokens => exact quiet.elim
  | storeUserPair tokens => exact quiet.elim
  | storeDeviceId deviceId => exact quiet.elim
  | clearTokens => exact quiet.elim
  | clearUserTokens => exact quiet.elim
  | clearDeviceId => exact quiet.elim

theorem one_of_stored {auth : AuthShared} (one : OneSession { shared with auth := auth }) :
    OneSession { shared with auth := auth, emitted := shared.emitted ++ auth.session.toList } where
  held := one.held
  known := one.known
  emitted := by
    intro session member
    rcases mem_append.mp member with before | isNew
    · exact one.emitted session before
    · exact one.session_coherent session (Option.mem_toList.mp isNew)

end Calls

section Rules

/-- Every run with sound replies ends as the postcondition says. -/
abbrev Leads {Result : Type} (post : Result → SessionShared → Prop)
    (program : Program AuthCall Result) (shared : SessionShared) : Prop :=
  program.Ensures performSession soundReplies post shared

/-- The task stores and clears nothing, and its value is good. -/
def Quietly {Answer : Type} (P : Answer → SessionShared → Prop) (task : AuthTask Answer)
    (shared : SessionShared) : Prop :=
  Leads (fun result last => Grows shared last ∧ ∀ value, result = .ok value → P value last)
    task.run shared

/-- What the task leaves is one session. -/
def KeepsOne {Answer : Type} (task : AuthTask Answer) : Prop :=
  ∀ shared, OneSession shared → Leads (fun _ last => OneSession last) task.run shared

variable {First Answer : Type} {shared : SessionShared} {P : First → SessionShared → Prop}
  {Q : Answer → SessionShared → Prop}

variable {task : AuthTask First}

theorem leads_after_quiet {Result : Type} {post : Except AuthError Result → SessionShared → Prop}
    {next : First → AuthTask Result} (quiet : Quietly P task shared)
    (fails : ∀ error last, Grows shared last → post (.error error) last)
    (goesOn : ∀ value last, Grows shared last → P value last → Leads post (next value).run last) :
    Leads post (task >>= next).run shared := by
  rw [Leads, ensures_except_bind]
  refine Program.Ensures.mono quiet ?_
  rintro (error | value) last ⟨grows, isGood⟩
  · exact fails error last grows
  · exact goesOn value last grows (isGood value rfl)

variable {next : First → AuthTask Answer}

theorem quietly_bind (quiet : Quietly P task shared)
    (goesOn : ∀ value last, Grows shared last → P value last → Quietly Q (next value) last) :
    Quietly Q (task >>= next) shared := by
  refine leads_after_quiet quiet ?_ ?_
  · intro error last grows
    exact ⟨grows, fun value isValue => by cases isValue⟩
  · intro value last grows isGood
    refine Program.Ensures.mono (goesOn value last grows isGood) ?_
    rintro result later ⟨further, isValue⟩
    exact ⟨grows.trans further, isValue⟩

theorem quietly_pure {value : Answer} (isGood : Q value shared) :
    Quietly Q (pure value) shared := by
  refine ⟨Grows.refl shared, fun other same => ?_⟩
  cases same
  exact isGood

theorem quietly_throw {error : AuthError} : Quietly Q (throw error) shared :=
  ⟨Grows.refl shared, fun _ same => by cases same⟩

theorem quietly_outside {operation : AuthCall Answer} (quiet : operation.Quiet)
    (isGood : ∀ input last answer, soundReplies Answer input shared operation →
      performSession Answer input shared operation = some (answer, last) → Q answer last) :
    Quietly Q (outside operation) shared := by
  intro input admitted answer last handled
  refine ⟨grows_of_quiet quiet handled, fun value same => ?_⟩
  cases same
  exact isGood input last answer admitted handled

theorem quietly_fallible {operation : AuthCall (Except AuthError Answer)} (quiet : operation.Quiet)
    (isGood : ∀ input last value, soundReplies _ input shared operation →
      performSession _ input shared operation = some (.ok value, last) → Q value last) :
    Quietly Q (fallible operation) shared := by
  intro input admitted answer last handled
  refine ⟨grows_of_quiet quiet handled, fun value same => ?_⟩
  cases same
  exact isGood input last value admitted handled

def anyAnswer {Answer : Type} : Answer → SessionShared → Prop
  | _, _ => True

theorem quietly_fails {next : AuthState} {error : AuthError} :
    Quietly Q (failAfter next error : AuthTask Answer) shared := by
  refine quietly_bind (P := anyAnswer) (quietly_fallible trivial fun _ _ _ _ _ => trivial) ?_
  intro _ last _ _
  exact quietly_throw

theorem one_of_quiet (one : OneSession shared)
    (quiet : Quietly P task shared) : Leads (fun _ last => OneSession last) task.run shared := by
  refine Program.Ensures.mono quiet ?_
  rintro result last ⟨grows, -⟩
  exact one.grows grows

theorem one_after_quiet (one : OneSession shared) (quiet : Quietly P task shared)
    (goesOn : ∀ value last, Grows shared last → OneSession last → P value last →
      Leads (fun _ last => OneSession last) (next value).run last) :
    Leads (fun _ last => OneSession last) (task >>= next).run shared :=
  leads_after_quiet quiet (fun _ _ grows => one.grows grows)
    fun value last grows isGood => goesOn value last grows (one.grows grows) isGood

theorem one_fails {next : AuthState} {error : AuthError} (one : OneSession shared) :
    Leads (fun _ last => OneSession last) (failAfter next error : AuthTask Answer).run shared :=
  one_of_quiet (P := anyAnswer) one quietly_fails

theorem one_bind (first : KeepsOne task)
    (second : ∀ value, KeepsOne (next value)) : KeepsOne (task >>= next) := by
  intro shared one
  rw [Leads, ensures_except_bind]
  refine Program.Ensures.mono (first shared one) ?_
  rintro (error | value) last isOne
  · exact isOne
  · exact second value last isOne

end Rules

section Replies

/-- What is known of a reply once it has arrived. -/
structure Received (shared : SessionShared) (request : HttpRequest) (response : HttpResponse)
    (last : SessionShared) : Prop where
  users : shared.issuesToUsers request response ⊆ last.issuedUsers
  devices : shared.issuesToDevices request response ⊆ last.issuedDevices
  signsIn : ∀ issued ∈ signedIn request response, ∀ deviceId tokens,
    shared.auth.deviceId = some deviceId → shared.auth.deviceTokens = some tokens →
    (tokens, deviceId, issued.2) ∈ last.issuedDevices
  registers : ∀ device ∈ registered request response, ∀ user ∈ shared.owners request,
    ∀ userTokens, shared.auth.userTokens = some userTokens →
    (userTokens, user) ∈ last.issuedUsers
  reissues : ∀ device ∈ reissued request response, ∀ deviceId,
    shared.auth.deviceId = some deviceId → device = deviceId

variable {shared middle last : SessionShared} {request : HttpRequest} {response : HttpResponse}

theorem SessionShared.owners_mono (users : shared.issuedUsers ⊆ middle.issuedUsers) :
    shared.owners request ⊆ middle.owners request := by
  intro user isOwner
  obtain ⟨issued, member, rfl⟩ := mem_map.mp isOwner
  obtain ⟨isIssued, carries⟩ := mem_filter.mp member
  exact mem_map.mpr ⟨issued, mem_filter.mpr ⟨users isIssued, carries⟩, rfl⟩

theorem Received.grows (grows : Grows shared middle)
    (received : Received middle request response last) :
    Received shared request response last where
  users := by
    intro issued member
    refine received.users ?_
    rcases mem_append.mp member with signs | refreshes
    · exact mem_append_left _ signs
    · refine mem_append_right _ ?_
      split at refreshes
      next isRefresh =>
        rw [if_pos isRefresh]
        simp only [mem_flatMap, mem_map, mem_filter] at refreshes ⊢
        obtain ⟨fresh, isFresh, old, ⟨isOld, carries⟩, rfl⟩ := refreshes
        exact ⟨fresh, isFresh, old, ⟨grows.users isOld, carries⟩, rfl⟩
      next => cases refreshes
  devices := by
    intro issued member
    refine received.devices ?_
    obtain ⟨fresh, isFresh, member⟩ := mem_flatMap.mp member
    refine mem_flatMap.mpr ⟨fresh, isFresh, ?_⟩
    rcases mem_append.mp member with isNew | refreshes
    · refine mem_append_left _ ?_
      obtain ⟨deviceId, isDevice, member⟩ := mem_flatMap.mp isNew
      obtain ⟨user, isOwner, rfl⟩ := mem_map.mp member
      exact mem_flatMap.mpr ⟨deviceId, isDevice,
        mem_map.mpr ⟨user, SessionShared.owners_mono grows.users isOwner, rfl⟩⟩
    · refine mem_append_right _ ?_
      split at refreshes
      next isRefresh =>
        rw [if_pos isRefresh]
        simp only [mem_map, mem_filter] at refreshes ⊢
        obtain ⟨old, ⟨isOld, carries⟩, rfl⟩ := refreshes
        exact ⟨old, ⟨grows.devices isOld, carries⟩, rfl⟩
      next => cases refreshes
  signsIn := by
    intro issued member deviceId tokens isDevice isTokens
    rw [← grows.deviceId] at isDevice
    rw [← grows.deviceTokens] at isTokens
    exact received.signsIn issued member deviceId tokens isDevice isTokens
  registers := by
    intro device member user isOwner userTokens isUser
    rw [← grows.userTokens] at isUser
    exact received.registers device member user (SessionShared.owners_mono grows.users isOwner)
      userTokens isUser
  reissues := by
    intro device member deviceId isDevice
    rw [← grows.deviceId] at isDevice
    exact received.reissues device member deviceId isDevice

theorem received_of_handled {input : AuthInput}
    (sound : soundReplies _ input shared (.receive request))
    (handled : performSession _ input shared (.receive request) = some (.ok response, last)) :
    Received shared request response last := by
  obtain ⟨auth, performed, rfl⟩ := performSession_cases handled
  have isReply : input.reply = .ok response := congrArg Prod.fst (Option.some.inj performed)
  have isSound : SoundReply shared request response := by
    refine sound response ?_
    rw [isReply]
    exact mem_singleton_self response
  obtain ⟨signsIn, registers, reissues⟩ := isSound
  constructor
  · exact subset_append_right _ _
  · exact subset_append_right _ _
  · intro issued member deviceId tokens isDevice isTokens
    refine mem_append_left _ (signsIn issued member deviceId ?_ tokens ?_)
    · rw [isDevice]
      exact mem_singleton_self deviceId
    · rw [isTokens]
      exact mem_singleton_self tokens
  · intro device member user isOwner userTokens isUser
    refine mem_append_left _ (registers device member user isOwner userTokens ?_)
    rw [isUser]
    exact mem_singleton_self userTokens
  · intro device member deviceId isDevice
    refine reissues device member deviceId ?_
    rw [isDevice]
    exact mem_singleton_self deviceId

theorem attempt_received (request : HttpRequest) :
    Quietly (fun reply last => ∀ response, reply = .ok response →
      Received shared request response last) (attempt request) shared := by
  refine quietly_bind (P := anyAnswer) (quietly_outside trivial fun _ _ _ _ _ => trivial) ?_
  intro _ middle grows _
  refine quietly_outside trivial ?_
  rintro input last answer sound handled response rfl
  exact (received_of_handled sound handled).grows grows

theorem transmit_received (request : HttpRequest) :
    Quietly (fun response last => Received shared request response last) (transmit request)
      shared := by
  refine quietly_bind (P := anyAnswer) (quietly_outside trivial fun _ _ _ _ _ => trivial) ?_
  intro _ middle grows _
  refine quietly_fallible trivial ?_
  intro input last response sound handled
  exact (received_of_handled sound handled).grows grows

theorem Received.refreshed {tokens fresh : TokenPair}
    (received : Received shared (refreshRequest tokens) response last)
    (accepted : response.status = 200) (isFresh : response.tokens = some fresh) :
    (∀ user, (tokens, user) ∈ shared.issuedUsers → (fresh, user) ∈ last.issuedUsers) ∧
      ∀ deviceId user, (tokens, deviceId, user) ∈ shared.issuedDevices →
        (fresh, deviceId, user) ∈ last.issuedDevices := by
  have isRefresh : isRefreshed (refreshRequest tokens) response = true := by
    rw [isRefreshed, accepted]
    rfl
  have carries : ((refreshRequest tokens).refreshToken == some tokens.refreshToken) = true :=
    beq_self_eq_true _
  constructor
  · intro user issued
    refine received.users (mem_append_right _ ?_)
    rw [if_pos isRefresh, isFresh]
    exact mem_flatMap.mpr ⟨fresh, mem_singleton_self fresh,
      mem_map.mpr ⟨(tokens, user), mem_filter.mpr ⟨issued, carries⟩, rfl⟩⟩
  · intro deviceId user issued
    refine received.devices (mem_flatMap.mpr ⟨fresh, ?_, mem_append_right _ ?_⟩)
    · rw [isFresh]
      exact mem_singleton_self fresh
    · rw [if_pos isRefresh]
      exact mem_map.mpr ⟨(tokens, deviceId, user), mem_filter.mpr ⟨issued, carries⟩, rfl⟩

theorem mem_owners {userTokens : TokenPair} {user : String}
    (issued : (userTokens, user) ∈ shared.issuedUsers)
    (carries : request.authorization = some userTokens.accessToken) :
    user ∈ shared.owners request :=
  mem_map.mpr ⟨(userTokens, user), mem_filter.mpr ⟨issued, beq_iff_eq.mpr carries⟩, rfl⟩

theorem Received.deviceIssued {userTokens fresh : TokenPair} {user deviceId : String}
    (received : Received shared request response last)
    (isNamed : deviceId ∈ registered request response ++ reissued request response)
    (isFresh : response.tokens = some fresh)
    (carries : request.authorization = some userTokens.accessToken)
    (issued : (userTokens, user) ∈ shared.issuedUsers) :
    (fresh, deviceId, user) ∈ last.issuedDevices := by
  refine received.devices (mem_flatMap.mpr ⟨fresh, ?_, mem_append_left _ ?_⟩)
  · rw [isFresh]
    exact mem_singleton_self fresh
  · exact mem_flatMap.mpr ⟨deviceId, isNamed, mem_map.mpr ⟨user, mem_owners issued carries, rfl⟩⟩

theorem Received.reissued {userTokens fresh : TokenPair} {deviceId : String}
    (received : Received shared (reissueRequest userTokens deviceId) response last)
    (accepted : response.status = 200) (isFresh : response.tokens = some fresh) :
    (∀ stored, shared.auth.deviceId = some stored → stored = deviceId) ∧
      ∀ user, (userTokens, user) ∈ shared.issuedUsers →
        (fresh, deviceId, user) ∈ last.issuedDevices := by
  have isNamed : deviceId ∈ Auth.reissued (reissueRequest userTokens deviceId) response := by
    rw [Auth.reissued, if_pos ⟨rfl, accepted, by rw [isFresh]; rfl⟩]
    exact mem_singleton_self deviceId
  constructor
  · intro stored isStored
    exact (received.reissues deviceId isNamed stored isStored).symm
  · intro user issued
    exact received.deviceIssued (mem_append_right _ isNamed) isFresh rfl issued

end Replies

section Stores

variable {shared last : SessionShared} {input : AuthInput} {answer : Except AuthError Unit}
  {tokens : TokenPair} {deviceId : String}

theorem storePair_handled
    (handled : performSession _ input shared (.storePair tokens) = some (answer, last)) :
    answer = .ok () ∧
      last.auth = { shared.auth with deviceTokens := some tokens } ∧
      last.issuedUsers = shared.issuedUsers ∧ last.issuedDevices = shared.issuedDevices ∧
      (OneSession { shared with auth := last.auth } → OneSession last) := by
  obtain ⟨auth, performed, rfl⟩ := performSession_cases handled
  cases performed
  exact ⟨rfl, rfl, rfl, rfl, one_of_stored⟩

theorem storeUserPair_handled
    (handled : performSession _ input shared (.storeUserPair tokens) = some (answer, last)) :
    answer = .ok () ∧
      last.auth = { shared.auth with userTokens := some tokens } ∧
      last.issuedUsers = shared.issuedUsers ∧ last.issuedDevices = shared.issuedDevices ∧
      (OneSession { shared with auth := last.auth } → OneSession last) := by
  obtain ⟨auth, performed, rfl⟩ := performSession_cases handled
  cases performed
  exact ⟨rfl, rfl, rfl, rfl, one_of_stored⟩

theorem storeDeviceId_handled
    (handled : performSession _ input shared (.storeDeviceId deviceId) = some (answer, last)) :
    answer = .ok () ∧
      last.auth = { shared.auth with deviceId := some deviceId } ∧
      last.issuedUsers = shared.issuedUsers ∧ last.issuedDevices = shared.issuedDevices ∧
      (OneSession { shared with auth := last.auth } → OneSession last) := by
  obtain ⟨auth, performed, rfl⟩ := performSession_cases handled
  cases performed
  exact ⟨rfl, rfl, rfl, rfl, one_of_stored⟩

/-- The tokens were issued for the stored device, to the user of the stored user tokens. -/
def Storable (shared : SessionShared) (tokens : TokenPair) : Prop :=
  ∀ deviceId, shared.auth.deviceId = some deviceId →
    ∃ user, (tokens, deviceId, user) ∈ shared.issuedDevices ∧
      ∀ userTokens, shared.auth.userTokens = some userTokens →
        (userTokens, user) ∈ shared.issuedUsers

theorem one_after_storePair (one : OneSession shared) (storable : Storable shared tokens)
    (handled : performSession _ input shared (.storePair tokens) = some (answer, last)) :
    answer = .ok () ∧ OneSession last := by
  obtain ⟨isOk, isAuth, -, -, stores⟩ := storePair_handled handled
  refine ⟨isOk, stores ?_⟩
  rw [isAuth]
  refine ⟨?_, one.known, one.emitted⟩
  intro stored deviceId isStored isDevice
  obtain rfl := Option.some.inj isStored
  exact storable deviceId isDevice

/-- The tokens were issued to the user of the stored device tokens, and to some user. -/
structure StorableUser (shared : SessionShared) (tokens : TokenPair) : Prop where
  held : ∀ device deviceId, shared.auth.deviceTokens = some device →
    shared.auth.deviceId = some deviceId →
    ∃ user, (device, deviceId, user) ∈ shared.issuedDevices ∧ (tokens, user) ∈ shared.issuedUsers
  known : ∃ user, (tokens, user) ∈ shared.issuedUsers

theorem one_after_storeUserPair (one : OneSession shared) (storable : StorableUser shared tokens)
    (handled : performSession _ input shared (.storeUserPair tokens) = some (answer, last)) :
    answer = .ok () ∧ OneSession last := by
  obtain ⟨isOk, isAuth, -, -, stores⟩ := storeUserPair_handled handled
  refine ⟨isOk, stores ?_⟩
  rw [isAuth]
  refine ⟨?_, ?_, one.emitted⟩
  · intro device deviceId isDevice isId
    obtain ⟨user, issued, isUser⟩ := storable.held device deviceId isDevice isId
    refine ⟨user, issued, fun userTokens isStored => ?_⟩
    obtain rfl := Option.some.inj isStored
    exact isUser
  · intro userTokens isStored
    obtain rfl := Option.some.inj isStored
    exact storable.known

theorem one_after_storeDeviceId (one : OneSession shared)
    (issued : ∀ device, shared.auth.deviceTokens = some device →
      ∃ user, (device, deviceId, user) ∈ shared.issuedDevices ∧
        ∀ userTokens, shared.auth.userTokens = some userTokens →
          (userTokens, user) ∈ shared.issuedUsers)
    (handled : performSession _ input shared (.storeDeviceId deviceId) = some (answer, last)) :
    answer = .ok () ∧ OneSession last := by
  obtain ⟨isOk, isAuth, -, -, stores⟩ := storeDeviceId_handled handled
  refine ⟨isOk, stores ?_⟩
  rw [isAuth]
  refine ⟨?_, one.known, one.emitted⟩
  intro device stored isDevice isStored
  obtain rfl := Option.some.inj isStored
  exact issued device isDevice

end Stores

end Velvt.Auth
