import Velvt.RefreshDiscipline

/-!
# The finality of a logout

`log_out` leaves the authenticated state, and then clears the tokens.
-/

namespace Velvt.Auth

open StepMachine TaskPrograms

section Finality

/-- The device's tokens are gone for good. -/
structure DeviceGone (shared : AuthShared) : Prop where
  signedOut : shared.signedOut = true
  stored : shared.deviceTokens = none

/-- The user's tokens are gone for good: no task has any that it might store. -/
structure UserGone (shared : AuthShared) (standings : List Standing) : Prop where
  signedOut : shared.signedOut = true
  stored : shared.userTokens = none
  read : ∀ state ∈ standings, state.user = none
  inHand : ∀ state ∈ standings, state.userInHand = none

/-- What a logout has left behind so far. -/
structure Finality (shared : AuthShared) (standings : List Standing) : Prop where
  signedOut : shared.signedOut = true →
    shared.state = .unauthenticated ∧ ∀ state ∈ standings, state.flying = false
  left : ∀ state ∈ standings, state.left = true → shared.signedOut = true
  cleared : ∀ state ∈ standings, state.cleared = true → DeviceGone shared
  userCleared : ∀ state ∈ standings, state.userCleared = true → UserGone shared standings
  loggedOut : shared.loggedOut = true → DeviceGone shared ∧ UserGone shared standings

/-- The stores work, and a logout takes its first step, and clears the user's tokens, while no
call holds the refresh lock. -/
def LeavesNoExchange : CallCondition AuthCall AuthShared AuthInput
  | _, input, shared, .transition .unauthenticated =>
    input.storeFails = false ∧ (shared.signedOut = false → shared.refreshLocked = false)
  | _, input, shared, .clearUserTokens =>
    input.storeFails = false ∧ shared.refreshLocked = false
  | _, input, _, _ => input.storeFails = false

instance (Answer : Type) (input : AuthInput) (shared : AuthShared) (operation : AuthCall Answer) :
    Decidable (LeavesNoExchange Answer input shared operation) := by
  induction operation using AuthCall.casesOn <;> dsimp only [LeavesNoExchange]
  case transition next => induction next using AuthState.casesOn <;> infer_instance
  all_goals infer_instance

variable {shared after : AuthShared} {standings : List Standing} {index : Nat}
  {state next : Standing} {Answer : Type} {input : AuthInput}

theorem LeavesNoExchange.stores {operation : AuthCall Answer}
    (admitted : LeavesNoExchange Answer input shared operation) : input.storeFails = false := by
  unfold LeavesNoExchange at admitted
  split at admitted
  · exact admitted.1
  · exact admitted.1
  · exact admitted

/-- What one step may do once a logout has begun. -/
structure Leaves (shared after : AuthShared) (standings : List Standing) (state next : Standing) :
    Prop where
  signedOut : shared.signedOut = true → after.signedOut = true
  landed : after.signedOut = true → after.state = .unauthenticated ∧ next.flying = false ∧
    ∀ other ∈ standings, other.flying = false
  device : DeviceGone shared → after.deviceTokens = none
  user : UserGone shared standings →
    after.userTokens = none ∧ next.user = none ∧ next.userInHand = none
  left : next.left = true → after.signedOut = true
  cleared : next.cleared = true → state.cleared = true ∨ DeviceGone after
  userCleared : next.userCleared = true → state.userCleared = true ∨
    after.signedOut = true ∧ after.userTokens = none ∧ next.user = none ∧ next.userInHand = none ∧
      ∀ other ∈ standings, other.user = none ∧ other.userInHand = none
  loggedOut : after.loggedOut = true → shared.loggedOut = true ∨
    state.cleared = true ∧ state.userCleared = true

theorem DeviceGone.later (gone : DeviceGone shared)
    (leaves : Leaves shared after standings state next) : DeviceGone after where
  signedOut := leaves.signedOut gone.signedOut
  stored := leaves.device gone

theorem UserGone.later (gone : UserGone shared standings)
    (leaves : Leaves shared after standings state next) :
    UserGone after (standings.set index next) := by
  obtain ⟨stored, read, inHand⟩ := leaves.user gone
  exact ⟨leaves.signedOut gone.signedOut, stored, forall_mem_set gone.read read,
    forall_mem_set gone.inHand inHand⟩

section

variable (finality : Finality shared standings) (isState : standings[index]? = some state)

include finality isState

theorem Finality.kept (leaves : Leaves shared after standings state next) :
    Finality after (standings.set index next) := by
  have known := List.mem_of_getElem? isState
  refine ⟨?_, ?_, ?_, ?_, ?_⟩
  · intro signedOut
    obtain ⟨unauthenticated, flying, others⟩ := leaves.landed signedOut
    exact ⟨unauthenticated, forall_mem_set others flying⟩
  · exact forall_mem_set
      (fun other member isLeft => leaves.signedOut (finality.left other member isLeft)) leaves.left
  · refine forall_mem_set
      (fun other member cleared => (finality.cleared other member cleared).later leaves) ?_
    intro cleared
    rcases leaves.cleared cleared with before | gone
    · exact (finality.cleared state known before).later leaves
    · exact gone
  · refine forall_mem_set
      (fun other member cleared => (finality.userCleared other member cleared).later leaves) ?_
    intro cleared
    rcases leaves.userCleared cleared with before | ⟨signedOut, stored, read, inHand, others⟩
    · exact (finality.userCleared state known before).later leaves
    · exact ⟨signedOut, stored, forall_mem_set (fun other member => (others other member).1) read,
        forall_mem_set (fun other member => (others other member).2) inHand⟩
  · intro loggedOut
    rcases leaves.loggedOut loggedOut with before | ⟨cleared, userCleared⟩
    · obtain ⟨device, user⟩ := finality.loggedOut before
      exact ⟨device.later leaves, user.later leaves⟩
    · exact ⟨(finality.cleared state known cleared).later leaves,
        (finality.userCleared state known userCleared).later leaves⟩

theorem Finality.aside (signedOut : after.signedOut = shared.signedOut)
    (loggedOut : after.loggedOut = shared.loggedOut)
    (stays : shared.signedOut = true → shared.state = .unauthenticated → state.flying = false →
      after.state = .unauthenticated ∧ next.flying = false)
    (device : shared.signedOut = true → state.flying = false → shared.deviceTokens = none →
      after.deviceTokens = none)
    (user : state.flying = false → state.user = none → state.userInHand = none →
      shared.userTokens = none →
        after.userTokens = none ∧ next.user = none ∧ next.userInHand = none)
    (left : next.left = true → state.left = true)
    (cleared : next.cleared = true → state.cleared = true)
    (userCleared : next.userCleared = true → state.userCleared = true) :
    Finality after (standings.set index next) := by
  have known := List.mem_of_getElem? isState
  refine finality.kept isState
    { signedOut := fun before => signedOut.trans before
      landed := ?_
      device := ?_
      user := ?_
      left := fun isLeft => signedOut.trans (finality.left state known (left isLeft))
      cleared := fun isCleared => Or.inl (cleared isCleared)
      userCleared := fun isCleared => Or.inl (userCleared isCleared)
      loggedOut := fun isOut => Or.inl (loggedOut.symm.trans isOut) }
  · intro isOut
    rw [signedOut] at isOut
    obtain ⟨unauthenticated, landed⟩ := finality.signedOut isOut
    obtain ⟨stayed, flying⟩ := stays isOut unauthenticated (landed state known)
    exact ⟨stayed, flying, landed⟩
  · intro gone
    exact device gone.signedOut ((finality.signedOut gone.signedOut).2 state known) gone.stored
  · intro gone
    exact user ((finality.signedOut gone.signedOut).2 state known) (gone.read state known)
      (gone.inHand state known) gone.stored

theorem Finality.reads (sameState : after.state = shared.state)
    (signedOut : after.signedOut = shared.signedOut) (loggedOut : after.loggedOut = shared.loggedOut)
    (deviceTokens : after.deviceTokens = shared.deviceTokens)
    (userTokens : after.userTokens = shared.userTokens) (flying : next.flying = state.flying)
    (user : next.user = state.user ∨ next.user = refreshTokenOf shared.userTokens)
    (userInHand : next.userInHand = state.userInHand) (left : next.left = state.left)
    (cleared : next.cleared = state.cleared) (userCleared : next.userCleared = state.userCleared) :
    Finality after (standings.set index next) := by
  refine finality.aside isState signedOut loggedOut ?_ (fun _ _ => deviceTokens.trans) ?_
    left.symm.trans cleared.symm.trans userCleared.symm.trans
  · exact fun _ same landed => ⟨sameState.trans same, flying.trans landed⟩
  · intro _ read inHand gone
    refine ⟨userTokens.trans gone, ?_, userInHand.trans inHand⟩
    rcases user with same | reads
    · exact same.trans read
    · rw [reads, gone]
      rfl

end

theorem received_flags (state : Standing) (request : HttpRequest)
    (reply : Except AuthError HttpResponse) :
    (state.received request reply).left = state.left ∧
      (state.received request reply).cleared = state.cleared ∧
      (state.received request reply).userCleared = state.userCleared := by
  unfold Standing.received
  split
  · exact ⟨rfl, rfl, rfl⟩
  · split
    · split <;> split <;> exact ⟨rfl, rfl, rfl⟩
    · exact ⟨rfl, rfl, rfl⟩

theorem received_unread {request : HttpRequest} {reply : Except AuthError HttpResponse}
    (asked : state.MayRequest request) (landed : state.flying = false) (unread : state.user = none) :
    state.received request reply = state := by
  refine received_plain ?_ landed
  unfold Standing.MayRequest at asked
  split at asked
  next token isToken =>
    rcases asked.2 with ⟨flying, -, -⟩ | ⟨-, -, -, isUser⟩
    · rw [landed] at flying
      cases flying
    · rw [unread] at isUser
      cases isUser
  next isNone => exact isNone

theorem Finality.transitions (finality : Finality shared standings)
    (isState : standings[index]? = some state) {target : AuthState} {answer : Except AuthError Unit}
    (handled : performAuth _ input shared (.transition target) = some (answer, after))
    (elsewhere : target ≠ .unauthenticated)
    (refused : shared.signedOut = true → shared.state = .unauthenticated → state.flying = false →
      validTransition shared.state target = false)
    (flying : answer = .error .transition → state.flying = false → next.flying = false)
    (user : next.user = state.user) (userInHand : next.userInHand = state.userInHand)
    (left : next.left = state.left) (cleared : next.cleared = state.cleared)
    (userCleared : next.userCleared = state.userCleared) :
    Finality after (standings.set index next) := by
  rcases transition_cases handled with ⟨-, valid, rfl⟩ | ⟨rfl, -, rfl⟩
  · refine finality.aside isState ?_ rfl ?_ (fun _ _ gone => gone) ?_ left.symm.trans
      cleared.symm.trans userCleared.symm.trans
    · simp [elsewhere]
    · intro signedOut unauthenticated landed
      rw [refused signedOut unauthenticated landed] at valid
      cases valid
    · intro _ read inHand gone
      exact ⟨gone, user.trans read, userInHand.trans inHand⟩
  · refine finality.aside isState rfl rfl ?_ (fun _ _ gone => gone) ?_ left.symm.trans
      cleared.symm.trans userCleared.symm.trans
    · exact fun _ unauthenticated landed => ⟨unauthenticated, flying rfl landed⟩
    · intro _ read inHand gone
      exact ⟨gone, user.trans read, userInHand.trans inHand⟩

/-- Each call keeps what holds after a logout, as long as it leaves no exchange. -/
theorem Finality.step (finality : Finality shared standings) (airspace : Airspace shared standings)
    (isState : standings[index]? = some state) {operation : AuthCall Answer} {answer : Answer}
    (conducted : operation.Conducted true state)
    (admitted : LeavesNoExchange Answer input shared operation)
    (handled : performAuth Answer input shared operation = some (answer, after)) :
    Finality after (standings.set index (operation.conducts state answer)) := by
  have known := List.mem_of_getElem? isState
  have works := admitted.stores
  have written {result : AuthShared} {reply : Except AuthError Unit}
      (isStored : shared.store input result = some (reply, after)) :
      reply = .ok () ∧ after = result := by
    rcases store_cases isStored with ⟨rfl, rfl, -⟩ | ⟨-, fails, -⟩
    · exact ⟨rfl, rfl⟩
    · rw [works] at fails
      cases fails
  cases operation with
  | utcNow | currentState | send request =>
    cases handled
    exact finality.reads isState rfl rfl rfl rfl rfl rfl (Or.inl rfl) rfl rfl rfl rfl
  | loadDeviceId =>
    rw [(load_cases handled).1]
    exact finality.reads isState rfl rfl rfl rfl rfl rfl (Or.inl rfl) rfl rfl rfl rfl
  | loadTokens =>
    obtain ⟨rfl, ⟨error, rfl⟩ | rfl⟩ := load_cases handled
    · exact finality.reads isState rfl rfl rfl rfl rfl rfl (Or.inl rfl) rfl rfl rfl rfl
    · simp only [AuthCall.conducts]
      split
      · exact finality.reads isState rfl rfl rfl rfl rfl rfl (Or.inl rfl) rfl rfl rfl rfl
      · exact finality.reads isState rfl rfl rfl rfl rfl rfl (Or.inl rfl) rfl rfl rfl rfl
  | loadUserTokens =>
    obtain ⟨rfl, ⟨error, rfl⟩ | rfl⟩ := load_cases handled
    · exact finality.reads isState rfl rfl rfl rfl rfl rfl (Or.inl rfl) rfl rfl rfl rfl
    · simp only [AuthCall.conducts]
      split
      · exact finality.reads isState rfl rfl rfl rfl rfl rfl (Or.inr rfl) rfl rfl rfl rfl
      · exact finality.reads isState rfl rfl rfl rfl rfl rfl (Or.inl rfl) rfl rfl rfl rfl
  | storePair tokens =>
    obtain ⟨rfl, rfl⟩ := written handled
    refine finality.aside isState rfl rfl (fun _ => And.intro) ?_
      (fun _ read inHand gone => ⟨gone, read, inHand⟩) id id id
    intro _ landed
    rw [conducted.1] at landed
    cases landed
  | storeUserPair tokens =>
    obtain ⟨rfl, rfl⟩ := written handled
    refine finality.aside isState rfl rfl (fun _ => And.intro) (fun _ _ gone => gone) ?_ id id id
    intro _ _ inHand
    rw [conducted.2] at inHand
    cases inHand
  | clearTokens =>
    obtain ⟨rfl, rfl⟩ := written handled
    have signedOut := finality.left state known conducted.2.2
    refine finality.kept isState
      { signedOut := id
        landed := fun isOut => ?_
        device := fun _ => rfl
        user := fun gone => ⟨gone.stored, gone.read state known, gone.inHand state known⟩
        left := finality.left state known
        cleared := fun _ => Or.inr ⟨signedOut, rfl⟩
        userCleared := Or.inl
        loggedOut := Or.inl }
    obtain ⟨unauthenticated, landed⟩ := finality.signedOut isOut
    exact ⟨unauthenticated, landed state known, landed⟩
  | clearUserTokens =>
    obtain ⟨rfl, rfl⟩ := written handled
    have signedOut := finality.left state known conducted.2.2
    have free : shared.refreshLocked = false := admitted.2
    have empty : ∀ other ∈ standings, other.user = none ∧ other.userInHand = none := by
      intro other member
      have idle : other.holds = false := by
        by_contra holds
        rw [Bool.not_eq_false] at holds
        rw [airspace.held.locked other member holds] at free
        cases free
      obtain ⟨-, read, -, -, inHand⟩ := (airspace.sensible other member).empty idle
      exact ⟨read, inHand⟩
    obtain ⟨read, inHand⟩ := empty state known
    refine finality.kept isState
      { signedOut := id
        landed := fun isOut => ?_
        device := DeviceGone.stored
        user := fun _ => ⟨rfl, read, inHand⟩
        left := finality.left state known
        cleared := Or.inl
        userCleared := fun _ => Or.inr ⟨signedOut, rfl, read, inHand, empty⟩
        loggedOut := Or.inl }
    obtain ⟨unauthenticated, landed⟩ := finality.signedOut isOut
    exact ⟨unauthenticated, landed state known, landed⟩
  | returnLogOut =>
    cases handled
    refine finality.kept isState
      { signedOut := id
        landed := fun isOut => ?_
        device := DeviceGone.stored
        user := fun gone => ⟨gone.stored, gone.read state known, gone.inHand state known⟩
        left := finality.left state known
        cleared := Or.inl
        userCleared := Or.inl
        loggedOut := fun _ => Or.inr conducted }
    obtain ⟨unauthenticated, landed⟩ := finality.signedOut isOut
    exact ⟨unauthenticated, landed state known, landed⟩
  | storeDeviceId deviceId => exact absurd conducted id
  | clearDeviceId => exact absurd conducted id
  | lockRefresh =>
    simp only [performAuth] at handled
    split at handled
    · cases handled
    · cases handled
      exact finality.reads isState rfl rfl rfl rfl rfl rfl (Or.inl rfl) rfl rfl rfl rfl
  | unlockRefresh =>
    cases handled
    exact finality.aside isState rfl rfl (fun _ same _ => ⟨same, rfl⟩) (fun _ _ gone => gone)
      (fun _ _ _ gone => ⟨gone, rfl, rfl⟩) (by simp [AuthCall.conducts, Standing.idle])
      (by simp [AuthCall.conducts, Standing.idle]) (by simp [AuthCall.conducts, Standing.idle])
  | receive request =>
    cases handled
    obtain ⟨left, cleared, userCleared⟩ := received_flags state request input.reply
    refine finality.aside isState rfl rfl ?_ (fun _ _ gone => gone) ?_ left.symm.trans
      cleared.symm.trans userCleared.symm.trans
    · exact fun _ same landed => ⟨same, received_flying.trans landed⟩
    · intro landed read inHand gone
      simp only [AuthCall.conducts, received_unread conducted landed read]
      exact ⟨gone, read, inHand⟩
  | transition target =>
    cases target with
    | authenticated deviceId =>
      refine finality.transitions isState handled (by simp) ?_ (fun _ _ => rfl) rfl rfl rfl rfl rfl
      intro _ _ landed
      rw [conducted.1] at landed
      cases landed
    | needsReauth =>
      refine finality.transitions isState handled (by simp) ?_ (fun _ _ => rfl) rfl rfl rfl rfl rfl
      intro _ unauthenticated _
      rw [unauthenticated]
      rfl
    | deviceRevoked =>
      refine finality.transitions isState handled (by simp) ?_ (fun _ _ => rfl) rfl rfl rfl rfl rfl
      intro _ unauthenticated _
      rw [unauthenticated]
      rfl
    | refreshInFlight =>
      refine finality.transitions isState handled (by simp) ?_ ?_ ?_ ?_ ?_ ?_ ?_
      · intro _ unauthenticated _
        rw [unauthenticated]
        rfl
      · rintro rfl landed
        exact landed
      all_goals cases answer <;> rfl
    | unauthenticated =>
      have valid : validTransition shared.state .unauthenticated = true := by
        cases shared.state <;> rfl
      rcases transition_cases handled with ⟨-, -, rfl⟩ | ⟨-, refused, -⟩
      · have grounded : ∀ other ∈ standings, other.flying = false := by
          intro other member
          cases signedOut : shared.signedOut with
          | true => exact (finality.signedOut signedOut).2 other member
          | false =>
            by_contra flies
            rw [Bool.not_eq_false] at flies
            have holds := (airspace.sensible other member).flying flies
            have locked := airspace.held.locked other member holds
            rw [admitted.2 signedOut] at locked
            cases locked
        exact finality.kept isState
          { signedOut := fun _ => by simp
            landed := fun _ => ⟨rfl, grounded state known, grounded⟩
            device := DeviceGone.stored
            user := fun gone => ⟨gone.stored, gone.read state known, gone.inHand state known⟩
            left := fun _ => by simp
            cleared := fun before => Or.inl before
            userCleared := Or.inl
            loggedOut := Or.inl }
      · rw [valid] at refused
        cases refused

end Finality

section Runs

variable {refreshBuffer : Int} {world : AuthWorld}

/-- What holds of the tasks while logouts leave no exchange behind. -/
def Leaving (shared : AuthShared) (standings : List Standing) : Prop :=
  Airspace shared standings ∧ Finality shared standings

theorem leaving_upheld : Upholds performAuth (conduct true) LeavesNoExchange Leaving := by
  rintro Answer input shared standings index state operation answer after ⟨airspace, finality⟩
    isState conducted admitted handled
  exact ⟨stores_of_works admitted.stores handled, airspace.step isState conducted handled,
    finality.step airspace isState conducted admitted handled⟩

theorem Finality.enters {shared : AuthShared} {standings : List Standing}
    (finality : Finality shared standings) : Finality shared (standings ++ [.idle]) := by
  have gone (user : UserGone shared standings) : UserGone shared (standings ++ [.idle]) :=
    ⟨user.signedOut, user.stored, forall_mem_concat user.read rfl, forall_mem_concat user.inHand rfl⟩
  refine ⟨?_, forall_mem_concat finality.left (by simp [Standing.idle]),
    forall_mem_concat finality.cleared (by simp [Standing.idle]), ?_, ?_⟩
  · intro signedOut
    obtain ⟨unauthenticated, landed⟩ := finality.signedOut signedOut
    exact ⟨unauthenticated, forall_mem_concat landed rfl⟩
  · exact forall_mem_concat (fun state member cleared => gone (finality.userCleared state member cleared))
      (by simp [Standing.idle])
  · intro loggedOut
    obtain ⟨device, user⟩ := finality.loggedOut loggedOut
    exact ⟨device, gone user⟩

theorem Leaving.enters (shared : AuthShared) (standings : List Standing)
    (leaving : Leaving shared standings) : Leaving shared (standings ++ [.idle]) :=
  ⟨Airspace.enters shared standings leaving.1, leaving.2.enters⟩

/-- A step by which a logout leaves no exchange behind. -/
def StepsAway (world : AuthWorld) (operation : AuthOperation × AuthInput) : Prop :=
  match operation with
  | (.advance task, input) => World.Admits LeavesNoExchange world task input
  | _ => True

instance (world : AuthWorld) (operation : AuthOperation × AuthInput) :
    Decidable (StepsAway world operation) := by
  obtain ⟨operation, input⟩ := operation
  induction operation using AuthOperation.casesOn <;> dsimp only [StepsAway] <;> infer_instance

/-- The service whose tasks follow their conduct. -/
abbrev Departing (world : AuthWorld) : Prop :=
  World.Sound (conduct true) .idle (fun _ => True) Leaving world

theorem opened_departing {opening : AuthOpening} (settled : opening.state ≠ .refreshInFlight) :
    Departing (AuthWorld.opened opening) := by
  refine .initial ⟨opened_airspace settled, ?_⟩
  refine ⟨?_, ?_, ?_, ?_, ?_⟩ <;> simp

theorem Departing.next (departing : Departing world) {operation : AuthOperation × AuthInput}
    (admitted : StepsAway world operation) :
    Departing ((authMachine refreshBuffer).next world operation) := by
  obtain ⟨operation, input⟩ := operation
  cases operation with
  | sendAuthenticated request => exact departing.spawn (caller_follows request) Leaving.enters
  | logOut => exact departing.spawn leaver_follows Leaving.enters
  | advance task => exact departing.advance leaving_upheld admitted

/-- Once a logout has left the authenticated state, the service is never authenticated again; and
once it has returned, no tokens are stored. -/
structure LogoutIsFinal (shared : AuthShared) : Prop where
  state : shared.signedOut = true → ∀ deviceId, shared.state ≠ .authenticated deviceId
  tokens : shared.loggedOut = true → shared.deviceTokens = none ∧ shared.userTokens = none

/-- A logout is final in every run in which no call holds the refresh lock when a logout leaves
the authenticated state and when it clears the user's tokens. -/
theorem logout_is_final_unless_overlapped (refreshBuffer : Int) (opening : AuthOpening)
    (settled : opening.state ≠ .refreshInFlight) (operations : List (AuthOperation × AuthInput))
    (away : (authMachine refreshBuffer).Meets StepsAway (AuthWorld.opened opening) operations) :
    LogoutIsFinal
      ((authMachine refreshBuffer).run (AuthWorld.opened opening) operations).shared := by
  have departing : Departing
      ((authMachine refreshBuffer).run (AuthWorld.opened opening) operations) :=
    (authMachine refreshBuffer).invariant_run (fun _ _ holds admitted => holds.next admitted)
      (opened_departing settled) away
  obtain ⟨-, finality⟩ := departing.holds
  constructor
  · intro signedOut deviceId authenticated
    rw [(finality.signedOut signedOut).1] at authenticated
    cases authenticated
  · intro loggedOut
    obtain ⟨device, user⟩ := finality.loggedOut loggedOut
    exact ⟨device.stored, user.stored⟩

def expiredOpening : AuthOpening :=
  signedInAs (tokenPair "a1" "d1" 0) (tokenPair "u" "u1" 1000)

def freshReply : AuthInput := replying 200 none (some (tokenPair "a2" "d2" 1000))

/-- A call exchanges the device's tokens and ends, and a logout follows. -/
def orderlySteps : List AuthOperation :=
  [.sendAuthenticated asksForDays] ++ List.replicate 15 (.advance 0) ++ [.logOut] ++
    List.replicate 8 (.advance 1)

/-- The logout finds no exchange under way. -/
theorem orderly_logout_is_final :
    (authMachine 60).Meets StepsAway (AuthWorld.opened expiredOpening)
        (orderlySteps.map fun operation => (operation, freshReply)) ∧
      LogoutIsFinal ((authMachine 60).run (AuthWorld.opened expiredOpening)
        (orderlySteps.map fun operation => (operation, freshReply))).shared := by
  have away : (authMachine 60).Meets StepsAway (AuthWorld.opened expiredOpening)
      (orderlySteps.map fun operation => (operation, freshReply)) := by
    decide +kernel
  exact ⟨away, logout_is_final_unless_overlapped 60 expiredOpening (by decide) _ away⟩

def overlappedSteps : List AuthOperation :=
  [.sendAuthenticated asksForDays] ++ List.replicate 9 (.advance 0) ++ [.logOut] ++
    List.replicate 8 (.advance 1) ++ List.replicate 3 (.advance 0)

def overlappedWorld : AuthWorld :=
  (authMachine 60).run (AuthWorld.opened expiredOpening)
    (overlappedSteps.map fun operation => (operation, freshReply))

/-- The device is authenticated again after its logout. -/
theorem overlapped_logout_is_undone :
    (∀ input ∈ overlappedSteps.map fun _ => freshReply, input.storeFails = false) ∧
      ¬LogoutIsFinal overlappedWorld.shared := by
  refine ⟨?_, fun final => ?_⟩
  · simp [freshReply, replying]
  have outcome : overlappedWorld.shared.signedOut = true ∧
      overlappedWorld.shared.state = .authenticated "device" := by
    decide +kernel
  exact final.state outcome.1 "device" outcome.2

end Runs

end Velvt.Auth
