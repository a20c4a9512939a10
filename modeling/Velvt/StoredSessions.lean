import Velvt.StepMachine

/-!
# The account of the macOS client

The account's state is held in memory, and what a relaunch restores is one item of the Keychain.
The user's actions and the messages of the service arrive one after the other on the main actor.
-/

namespace Velvt.Account

open StepMachine

structure AuthSession where
  deviceId : String
  accessToken : String
  refreshToken : String
  expiresAt : Int
  userAccessToken : Option String
  userRefreshToken : Option String
  userExpiresAt : Option Int
  deriving DecidableEq

structure AuthSuccess where
  userId : String
  session : AuthSession

structure StoredAuthSnapshot where
  userId : String
  email : Option String
  pendingDeletion : Bool
  session : AuthSession

inductive AccountState
  | loggedOut
  | loggingIn
  | loggedIn (userId : String)
  | loggingOut
  | pendingErasure
  deriving DecidableEq

/-- The messages that the account reads. -/
inductive ServerMessage
  | authSuccess (success : AuthSuccess)
  | authSessionUpdated (session : AuthSession)
  | authFailure
  | accountDeletionAccepted
  | needsReauth
  | deviceRevoked
  | other

/-- `AccountStateManager`, with the snapshot in the Keychain. -/
structure AccountStateManager where
  keychain : Option StoredAuthSnapshot
  accountState : AccountState
  isDeviceRevoked : Bool
  requiresReauthentication : Bool
  pendingEmail : Option String
  accountEmailCache : Option (Option String)
  cachedSnapshot : Option StoredAuthSnapshot
  cachedSession : Option AuthSession

def isValidTransition : AccountState → AccountState → Bool
  | .loggedOut, .loggingIn => true
  | .loggingIn, .loggedOut => true
  | .loggingIn, .loggedIn _ => true
  | .loggedIn _, .loggingOut => true
  | .loggingOut, .loggedOut => true
  | .loggedIn _, .pendingErasure => true
  | .pendingErasure, .loggedOut => true
  | _, _ => false

namespace AccountStateManager

def launch (keychain : Option StoredAuthSnapshot) : AccountStateManager where
  keychain := keychain
  accountState :=
    match keychain with
    | some snapshot =>
      if snapshot.pendingDeletion then .pendingErasure else .loggedIn snapshot.userId
    | none => .loggedOut
  isDeviceRevoked := false
  requiresReauthentication := false
  pendingEmail := none
  accountEmailCache := some (keychain.bind (·.email))
  cachedSnapshot := keychain
  cachedSession := keychain.map (·.session)

variable (manager : AccountStateManager)

/-- `store(snapshot:)`. -/
def storeSnapshot (snapshot : StoredAuthSnapshot) : AccountStateManager :=
  { manager with
    keychain := some snapshot
    cachedSnapshot := some snapshot
    cachedSession := some snapshot.session }

def updatePendingDeletionFlag (isPendingDeletion : Bool) : AccountStateManager :=
  match manager.cachedSnapshot with
  | none => manager
  | some snapshot => manager.storeSnapshot { snapshot with pendingDeletion := isPendingDeletion }

def transition (newState : AccountState) : AccountStateManager :=
  if isValidTransition manager.accountState newState then
    match newState with
    | .pendingErasure =>
      { manager.updatePendingDeletionFlag true with accountState := .pendingErasure }
    | _ => { manager with accountState := newState }
  else
    manager

def beginAuthentication : AccountStateManager :=
  match manager.accountState with
  | .loggedOut => { manager with accountState := .loggingIn }
  | _ => manager

def beginAuthenticationAs (email : String) : AccountStateManager :=
  match manager.accountState with
  | .loggedOut => { manager.beginAuthentication with pendingEmail := some email }
  | _ => manager

def cancelAuthentication : AccountStateManager :=
  match manager.accountState with
  | .loggingIn => { manager with accountState := .loggedOut, pendingEmail := none }
  | _ => manager

def cleared : AccountStateManager :=
  { manager with
    keychain := none
    cachedSnapshot := none
    cachedSession := none
    pendingEmail := none
    accountEmailCache := some none
    accountState := .loggedOut }

def logOut : AccountStateManager :=
  { (manager.transition .loggingOut).cleared with requiresReauthentication := false }

def cancelPendingErasure : AccountStateManager :=
  match manager.accountState, manager.cachedSnapshot with
  | .pendingErasure, some snapshot =>
    { manager.storeSnapshot { snapshot with pendingDeletion := false } with
      accountState := .loggedIn snapshot.userId }
  | _, _ => manager

def currentUserId : Option String :=
  match manager.accountState with
  | .loggedIn userId => some userId
  | _ => none

def handleAuthSuccess (success : AuthSuccess) : AccountStateManager :=
  match manager.accountState with
  | .loggingIn =>
    let stored := manager.storeSnapshot {
      userId := success.userId
      email := manager.pendingEmail
      pendingDeletion := false
      session := success.session }
    let signedIn := { stored with
      requiresReauthentication := false
      accountEmailCache := some manager.pendingEmail }
    { signedIn.transition (.loggedIn success.userId) with pendingEmail := none }
  | _ => manager

/-- `store(session:)`. -/
def storeSession (session : AuthSession) : AccountStateManager :=
  if manager.cachedSession = some session then
    manager
  else
    match manager.currentUserId, manager.cachedSnapshot with
    | some userId, some existing => manager.storeSnapshot {
        userId := userId
        email := manager.accountEmailCache.getD existing.email
        pendingDeletion := existing.pendingDeletion
        session := session }
    | _, _ => manager

def handle : ServerMessage → AccountStateManager
  | .authSuccess success => manager.handleAuthSuccess success
  | .authSessionUpdated session => manager.storeSession session
  | .authFailure =>
    match manager.accountState with
    | .loggingIn => { manager with accountState := .loggedOut, pendingEmail := none }
    | _ => manager
  | .accountDeletionAccepted => { manager.cleared with requiresReauthentication := false }
  | .needsReauth => { manager.cleared with requiresReauthentication := true }
  | .deviceRevoked =>
    { manager.cleared with requiresReauthentication := false, isDeviceRevoked := true }
  | .other => manager

def sessionToHandOver : Option AuthSession := manager.cachedSession

end AccountStateManager

/-- What the user does and what the service sends. -/
inductive AccountAction
  | beginAuthentication
  | beginAuthenticationAs (email : String)
  | cancelAuthentication
  | logOut
  | requestErasure
  | cancelPendingErasure
  | receive (message : ServerMessage)

def AccountStateManager.act (manager : AccountStateManager) : AccountAction → AccountStateManager
  | .beginAuthentication => manager.beginAuthentication
  | .beginAuthenticationAs email => manager.beginAuthenticationAs email
  | .cancelAuthentication => manager.cancelAuthentication
  | .logOut => manager.logOut
  | .requestErasure => manager.transition .pendingErasure
  | .cancelPendingErasure => manager.cancelPendingErasure
  | .receive message => manager.handle message

def AccountState.isSignedIn : AccountState → Bool
  | .loggedIn _ | .pendingErasure => true
  | _ => false

/-- The account, and the last session that the service has sent since the sign-in. -/
structure AccountWorld where
  manager : AccountStateManager
  lastSent : Option AuthSession

def AccountAction.sends : AccountAction → Option AuthSession
  | .receive (.authSuccess success) => some success.session
  | .receive (.authSessionUpdated session) => some session
  | _ => none

def AccountWorld.sentAfter (world : AccountWorld) (action : AccountAction) :
    Option AuthSession :=
  if (world.manager.act action).accountState.isSignedIn then
    action.sends.or world.lastSent
  else
    none

def accountMachine : Machine AccountWorld AccountAction Unit where
  step world action :=
    ((), { manager := world.manager.act action, lastSent := world.sentAfter action })

section Invariant

open AccountStateManager

/-- What is stored and cached fits the state. -/
structure Current (world : AccountWorld) : Prop where
  cachedSnapshot : world.manager.cachedSnapshot = world.manager.keychain
  cachedSession : world.manager.cachedSession = world.manager.keychain.map (·.session)
  lastSent : world.lastSent = world.manager.keychain.map (·.session)
  relaunched : world.manager.accountState.isSignedIn = true →
    (launch world.manager.keychain).accountState = world.manager.accountState
  signedOut : world.manager.accountState.isSignedIn = false → world.manager.keychain = none

/-- A step that a session does not get lost in: no session that differs from the stored one is
sent while an erasure is pending, and none by a sign-in while the user is signed in. -/
def KeepsUp (world : AccountWorld) : AccountAction → Prop
  | .receive (.authSuccess success) =>
    world.manager.accountState.isSignedIn = true →
      world.manager.cachedSession = some success.session
  | .receive (.authSessionUpdated session) =>
    world.manager.accountState = .pendingErasure → world.manager.cachedSession = some session
  | _ => True

instance (world : AccountWorld) (action : AccountAction) : Decidable (KeepsUp world action) := by
  unfold KeepsUp
  split <;> infer_instance

variable {world : AccountWorld}

theorem Current.snapshot (current : Current world)
    (signedIn : world.manager.accountState.isSignedIn = true) :
    ∃ snapshot, world.manager.keychain = some snapshot ∧ world.manager.accountState =
        if snapshot.pendingDeletion then .pendingErasure else .loggedIn snapshot.userId := by
  have relaunched := current.relaunched signedIn
  cases stored : world.manager.keychain with
  | none =>
    rw [stored] at relaunched
    rw [← relaunched] at signedIn
    cases signedIn
  | some snapshot =>
    rw [stored] at relaunched
    exact ⟨snapshot, rfl, relaunched.symm⟩

theorem current_signedOut {world : AccountWorld}
    (signedOut : world.manager.accountState.isSignedIn = false)
    (keychain : world.manager.keychain = none) (cachedSnapshot : world.manager.cachedSnapshot = none)
    (cachedSession : world.manager.cachedSession = none) (lastSent : world.lastSent = none) :
    Current world := by
  constructor
  · rw [cachedSnapshot, keychain]
  · rw [cachedSession, keychain]
    rfl
  · rw [lastSent, keychain]
    rfl
  · intro signedIn
    rw [signedOut] at signedIn
    cases signedIn
  · exact fun _ => keychain

theorem current_stored {world : AccountWorld} {s : StoredAuthSnapshot}
    (keychain : world.manager.keychain = some s)
    (cachedSnapshot : world.manager.cachedSnapshot = some s)
    (cachedSession : world.manager.cachedSession = some s.session)
    (lastSent : world.lastSent = some s.session) (state : world.manager.accountState =
      if s.pendingDeletion then .pendingErasure else .loggedIn s.userId) :
    Current world := by
  constructor
  · rw [cachedSnapshot, keychain]
  · rw [cachedSession, keychain]
    rfl
  · rw [lastSent, keychain]
    rfl
  · intro _
    rw [keychain, state]
    rfl
  · intro signedOut
    rw [state] at signedOut
    split at signedOut <;> cases signedOut

variable {action : AccountAction}

theorem Current.unchanged (current : Current world)
    (same : world.manager.act action = world.manager)
    (sent : world.manager.accountState.isSignedIn = true →
      world.sentAfter action = world.manager.cachedSession) :
    Current (accountMachine.next world action) := by
  have next : accountMachine.next world action =
      { manager := world.manager, lastSent := world.sentAfter action } := by
    rw [← same]
    rfl
  rw [next]
  refine ⟨current.cachedSnapshot, current.cachedSession, ?_, current.relaunched, current.signedOut⟩
  dsimp only
  cases signedIn : world.manager.accountState.isSignedIn with
  | true => rw [sent signedIn, current.cachedSession]
  | false =>
    rw [current.signedOut signedIn, AccountWorld.sentAfter, same, signedIn]
    rfl

theorem Current.silent (current : Current world) (same : world.manager.act action = world.manager)
    (silent : action.sends = none) : Current (accountMachine.next world action) := by
  refine current.unchanged same ?_
  intro signedIn
  rw [AccountWorld.sentAfter, same, if_pos signedIn, current.cachedSession, ← current.lastSent,
    silent, Option.none_or]

theorem Current.leaves (signedOut : (world.manager.act action).accountState.isSignedIn = false)
    (keychain : (world.manager.act action).keychain = none)
    (cachedSnapshot : (world.manager.act action).cachedSnapshot = none)
    (cachedSession : (world.manager.act action).cachedSession = none) :
    Current (accountMachine.next world action) := by
  refine current_signedOut signedOut keychain cachedSnapshot cachedSession ?_
  change world.sentAfter action = none
  rw [AccountWorld.sentAfter, signedOut]
  rfl

theorem Current.staysOut (current : Current world) (state : AccountState) (email : Option String)
    (out : world.manager.accountState.isSignedIn = false) (stays : state.isSignedIn = false)
    (acts : world.manager.act action =
      { world.manager with accountState := state, pendingEmail := email }) :
    Current (accountMachine.next world action) := by
  have empty := current.signedOut out
  apply Current.leaves <;> rw [acts]
  · exact stays
  · exact empty
  · exact current.cachedSnapshot.trans empty
  · exact current.cachedSession.trans (by rw [empty]; rfl)

theorem Current.begins (current : Current world)
    (isBegin : action = .beginAuthentication ∨ ∃ email, action = .beginAuthenticationAs email) :
    Current (accountMachine.next world action) := by
  by_cases out : world.manager.accountState = .loggedOut
  · have signedOut : world.manager.accountState.isSignedIn = false := by
      rw [out]
      rfl
    rcases isBegin with rfl | ⟨email, rfl⟩
    · exact current.staysOut .loggingIn world.manager.pendingEmail signedOut rfl
        (by simp [act, beginAuthentication, out])
    · exact current.staysOut .loggingIn (some email) signedOut rfl
        (by simp [act, beginAuthentication, beginAuthenticationAs, out])
  · have same : world.manager.act action = world.manager := by
      rcases isBegin with rfl | ⟨email, rfl⟩
      · simp [act, beginAuthentication]
      · simp [act, beginAuthenticationAs]
    refine current.silent same ?_
    rcases isBegin with rfl | ⟨email, rfl⟩ <;> rfl

theorem Current.cancels (current : Current world) :
    Current (accountMachine.next world .cancelAuthentication) := by
  by_cases waiting : world.manager.accountState = .loggingIn
  · exact current.staysOut .loggedOut none (by rw [waiting]; rfl) rfl
      (by simp [act, cancelAuthentication, waiting])
  · exact current.silent (by simp [act, cancelAuthentication]) rfl

theorem Current.marks (current : Current world) (pending : Bool)
    (signedIn : world.manager.accountState.isSignedIn = true) (silent : action.sends = none)
    (acts : ∀ snapshot, world.manager.cachedSnapshot = some snapshot → world.manager.act action =
        { world.manager.storeSnapshot { snapshot with pendingDeletion := pending } with
          accountState := if pending then .pendingErasure else .loggedIn snapshot.userId }) :
    Current (accountMachine.next world action) := by
  obtain ⟨snapshot, stored, -⟩ := current.snapshot signedIn
  have after := acts snapshot (by rw [current.cachedSnapshot, stored])
  refine current_stored (s := { snapshot with pendingDeletion := pending }) ?_ ?_ ?_ ?_ ?_
  · exact congrArg keychain after
  · exact congrArg AccountStateManager.cachedSnapshot after
  · exact congrArg AccountStateManager.cachedSession after
  · change world.sentAfter action = _
    cases pending <;>
      simp [AccountWorld.sentAfter, after, AccountState.isSignedIn, silent, current.lastSent, stored]
  · exact congrArg accountState after

theorem Current.requestsErasure (current : Current world) :
    Current (accountMachine.next world .requestErasure) := by
  cases state : world.manager.accountState with
  | loggedIn userId =>
    refine current.marks true (by rw [state]; rfl) rfl ?_
    intro snapshot cached
    simp [act, transition, state, isValidTransition, updatePendingDeletionFlag, cached]
  | loggedOut | loggingIn | loggingOut | pendingErasure =>
    exact current.silent (by simp [act, transition, state, isValidTransition]) rfl

theorem Current.cancelsErasure (current : Current world) :
    Current (accountMachine.next world .cancelPendingErasure) := by
  cases state : world.manager.accountState with
  | pendingErasure =>
    refine current.marks false (by rw [state]; rfl) rfl ?_
    intro snapshot cached
    simp [act, cancelPendingErasure, state, cached]
  | loggedOut | loggingIn | loggingOut | loggedIn =>
    exact current.silent (by simp [act, cancelPendingErasure, state]) rfl

theorem Current.logsOut :
    Current (accountMachine.next world .logOut) :=
  Current.leaves rfl rfl rfl rfl

/-- A session that keeps up is the one that is stored. -/
theorem Current.receivesSession (current : Current world) {session : AuthSession}
    (keepsUp : KeepsUp world (.receive (.authSessionUpdated session))) :
    Current (accountMachine.next world (.receive (.authSessionUpdated session))) := by
  by_cases known : world.manager.cachedSession = some session
  · have same : world.manager.act (.receive (.authSessionUpdated session)) = world.manager := by
      simp [act, handle, storeSession, known]
    refine current.unchanged same ?_
    intro signedIn
    rw [AccountWorld.sentAfter, same, if_pos signedIn, known]
    rfl
  · cases state : world.manager.accountState with
    | loggedIn userId =>
      obtain ⟨snapshot, stored, restored⟩ := current.snapshot (by rw [state]; rfl)
      have cached : world.manager.cachedSnapshot = some snapshot := by
        rw [current.cachedSnapshot, stored]
      have kept : snapshot.pendingDeletion = false := by
        cases pending : snapshot.pendingDeletion with
        | false => rfl
        | true => simp [state, pending] at restored
      have after : world.manager.act (.receive (.authSessionUpdated session)) =
          world.manager.storeSnapshot {
            userId := userId
            email := world.manager.accountEmailCache.getD snapshot.email
            pendingDeletion := snapshot.pendingDeletion
            session := session } := by
        simp [act, handle, storeSession, known, currentUserId, state, cached]
      refine current_stored (congrArg keychain after)
        (congrArg AccountStateManager.cachedSnapshot after)
        (congrArg AccountStateManager.cachedSession after) ?_ ?_
      · change world.sentAfter (.receive (.authSessionUpdated session)) = some session
        rw [AccountWorld.sentAfter, after]
        simp [storeSnapshot, state, AccountState.isSignedIn, AccountAction.sends]
      · refine (congrArg accountState after).trans ?_
        simp [storeSnapshot, state, kept]
    | pendingErasure => exact absurd (keepsUp state) known
    | loggedOut | loggingIn | loggingOut =>
      have same :
          world.manager.act (.receive (.authSessionUpdated session)) = world.manager := by
        simp [act, handle, storeSession, currentUserId, state]
      refine current.unchanged same ?_
      intro signedIn
      rw [state] at signedIn
      cases signedIn

theorem Current.signsIn (current : Current world) {success : AuthSuccess}
    (keepsUp : KeepsUp world (.receive (.authSuccess success))) :
    Current (accountMachine.next world (.receive (.authSuccess success))) := by
  by_cases waiting : world.manager.accountState = .loggingIn
  · have after : world.manager.act (.receive (.authSuccess success)) =
        { world.manager.storeSnapshot {
            userId := success.userId
            email := world.manager.pendingEmail
            pendingDeletion := false
            session := success.session } with
          requiresReauthentication := false
          accountEmailCache := some world.manager.pendingEmail
          accountState := .loggedIn success.userId
          pendingEmail := none } := by
      simp [act, handle, handleAuthSuccess, waiting, transition, storeSnapshot, isValidTransition]
    refine current_stored (congrArg keychain after)
      (congrArg AccountStateManager.cachedSnapshot after)
      (congrArg AccountStateManager.cachedSession after) ?_ (congrArg accountState after)
    change world.sentAfter (.receive (.authSuccess success)) = some success.session
    rw [AccountWorld.sentAfter, after]
    rfl
  · have same : world.manager.act (.receive (.authSuccess success)) = world.manager := by
      simp [act, handle, handleAuthSuccess]
    refine current.unchanged same ?_
    intro signedIn
    rw [AccountWorld.sentAfter, same, if_pos signedIn, keepsUp signedIn]
    rfl

theorem Current.next (current : Current world)
    (keepsUp : KeepsUp world action) : Current (accountMachine.next world action) := by
  cases action with
  | beginAuthentication => exact current.begins (.inl rfl)
  | beginAuthenticationAs email => exact current.begins (.inr ⟨email, rfl⟩)
  | cancelAuthentication => exact current.cancels
  | logOut => exact Current.logsOut
  | requestErasure => exact current.requestsErasure
  | cancelPendingErasure => exact current.cancelsErasure
  | receive message =>
    cases message with
    | authSuccess success => exact current.signsIn keepsUp
    | authSessionUpdated session => exact current.receivesSession keepsUp
    | authFailure => exact current.cancels
    | accountDeletionAccepted | needsReauth | deviceRevoked =>
      exact Current.leaves rfl rfl rfl rfl
    | other =>
      have same : world.manager.act (.receive .other) = world.manager := rfl
      exact current.silent same rfl

end Invariant

/-- A launch, after which the session in the Keychain is the last one sent. -/
def AccountWorld.launched (keychain : Option StoredAuthSnapshot) : AccountWorld where
  manager := .launch keychain
  lastSent := keychain.map (·.session)

theorem current_launched (keychain : Option StoredAuthSnapshot) :
    Current (AccountWorld.launched keychain) := by
  refine ⟨rfl, rfl, rfl, fun _ => rfl, ?_⟩
  intro signedOut
  cases keychain with
  | none => rfl
  | some snapshot =>
    simp only [AccountWorld.launched, AccountStateManager.launch] at signedOut
    split at signedOut <;> cases signedOut

/-- As long as no session is sent that the account ignores, a snapshot is stored exactly while the
user is signed in, a relaunch restores the state, and the session that is stored and handed over
is the last one that the service has sent. -/
theorem stored_session_is_last_sent (keychain : Option StoredAuthSnapshot)
    (actions : List AccountAction)
    (keepsUp : accountMachine.Meets KeepsUp (.launched keychain) actions) :
    let world := accountMachine.run (.launched keychain) actions
    (world.manager.keychain.isSome = true ↔ world.manager.accountState.isSignedIn = true) ∧
      (world.manager.accountState.isSignedIn = true →
        (AccountStateManager.launch world.manager.keychain).accountState =
          world.manager.accountState) ∧
      world.manager.keychain.map (·.session) = world.lastSent ∧
      world.manager.sessionToHandOver = world.lastSent := by
  intro world
  have keeps : ∀ (world : AccountWorld) action, Current world → KeepsUp world action →
      Current (accountMachine.next world action) := by
    intro world action current keepsUp
    exact current.next keepsUp
  have current : Current world :=
    accountMachine.invariant_run keeps (current_launched keychain) keepsUp
  refine ⟨⟨?_, ?_⟩, current.relaunched, current.lastSent.symm,
    current.cachedSession.trans current.lastSent.symm⟩
  · intro stored
    cases signedIn : world.manager.accountState.isSignedIn with
    | true => rfl
    | false =>
      rw [current.signedOut signedIn] at stored
      cases stored
  · intro signedIn
    obtain ⟨snapshot, stored, -⟩ := current.snapshot signedIn
    rw [stored]
    rfl

def sessionWith (refreshToken : String) : AuthSession where
  deviceId := "device"
  accessToken := "access"
  refreshToken := refreshToken
  expiresAt := 1800000000
  userAccessToken := none
  userRefreshToken := none
  userExpiresAt := none

/-- A sign-in, a rotation of the tokens, and an erasure that is called off. -/
def rotatedThenErased : List AccountAction :=
  [.beginAuthenticationAs "ada@example.com",
    .receive (.authSuccess { userId := "ada", session := sessionWith "first" }),
    .receive (.authSessionUpdated (sessionWith "second")),
    .requestErasure,
    .cancelPendingErasure]

/-- The tokens are rotated before the erasure is asked for. -/
theorem rotated_session_is_last_sent :
    let world := accountMachine.run (.launched none) rotatedThenErased
    (world.manager.keychain.isSome = true ↔ world.manager.accountState.isSignedIn = true) ∧
      (world.manager.accountState.isSignedIn = true →
        (AccountStateManager.launch world.manager.keychain).accountState =
          world.manager.accountState) ∧
      world.manager.keychain.map (·.session) = world.lastSent ∧
      world.manager.sessionToHandOver = world.lastSent :=
  stored_session_is_last_sent none rotatedThenErased (by decide)

/-- The tokens are rotated while the erasure is pending, and the user calls it off. -/
def erasedThenRotated : List AccountAction :=
  [.beginAuthenticationAs "ada@example.com",
    .receive (.authSuccess { userId := "ada", session := sessionWith "first" }),
    .requestErasure,
    .receive (.authSessionUpdated (sessionWith "second")),
    .cancelPendingErasure]

/-- The stored session is the one from before the rotation. -/
theorem session_rotated_during_erasure_is_lost :
    let world := accountMachine.run (.launched none) erasedThenRotated
    world.manager.accountState = .loggedIn "ada" ∧
      world.lastSent = some (sessionWith "second") ∧
      world.manager.keychain.map (·.session) = some (sessionWith "first") ∧
      world.manager.sessionToHandOver = some (sessionWith "first") ∧
      world.manager.sessionToHandOver ≠ world.lastSent := by
  decide

end Velvt.Account
