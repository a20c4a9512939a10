import Velvt.RefreshLock

/-!
# The discipline of refreshing

The state is in flight only while the holder of the refresh lock has put it there; a revoked device
stays revoked and silent; and a refresh token that was taken is not sent again, as long as the
server hands out no token twice and answers an accepted user token with new ones.
-/

namespace Velvt.Auth

open StepMachine TaskPrograms List

def HttpRequest.presents (request : HttpRequest) : Option String :=
  if request.path = refreshPath then request.refreshToken else none

/-- The refresh token that the server has taken: its exchange was answered 200. -/
def AuthEvent.taken : AuthEvent → Option String
  | .answered request (.ok response) => if response.status = 200 then request.presents else none
  | _ => none

def AuthEvent.sends : AuthEvent → Option String
  | .sent request => request.presents
  | .answered _ _ => none

/-- No refresh token is sent after the server has taken it. -/
def NoReplay (events : List AuthEvent) : Prop :=
  events.Pairwise fun earlier later => ∀ token ∈ earlier.taken, later.sends ≠ some token
  deriving Decidable

def takenTokens (events : List AuthEvent) : List String := events.filterMap AuthEvent.taken

theorem noReplay_concat {events : List AuthEvent} {event : AuthEvent} (quiet : NoReplay events)
    (fresh : ∀ token ∈ event.sends, token ∉ takenTokens events) :
    NoReplay (events ++ [event]) := by
  refine pairwise_append.mpr ⟨quiet, pairwise_singleton _ _, ?_⟩
  intro earlier member later isLater token isTaken
  rw [mem_singleton.mp isLater]
  intro isSent
  exact fresh token isSent (mem_filterMap.mpr ⟨earlier, member, isTaken⟩)

@[simp]
theorem takenTokens_concat (events : List AuthEvent) (event : AuthEvent) :
    takenTokens (events ++ [event]) = takenTokens events ++ event.taken.toList := by
  unfold takenTokens
  rw [filterMap_append]
  cases isTaken : event.taken <;> simp [isTaken]

section Rotation

def refreshTokenOf (tokens : Option TokenPair) : Option String := tokens.map (·.refreshToken)

/-- A refresh token that is new: not stored, and not taken before. -/
@[mk_iff]
structure Anew (shared : AuthShared) (token : String) : Prop where
  device : refreshTokenOf shared.deviceTokens ≠ some token
  user : refreshTokenOf shared.userTokens ≠ some token
  taken : token ∉ takenTokens shared.events

/-- The stored tokens have not been taken, but for those that a task is about to replace, and
what a task has in hand is new. -/
structure Rotation (shared : AuthShared) (standings : List Standing) : Prop where
  noReplay : NoReplay shared.events
  apart : ∀ token ∈ refreshTokenOf shared.deviceTokens,
    refreshTokenOf shared.userTokens ≠ some token
  device : ∀ state ∈ standings, ∀ token ∈ state.device,
    refreshTokenOf shared.deviceTokens = some token
  user : ∀ state ∈ standings, ∀ token ∈ state.user, refreshTokenOf shared.userTokens = some token
  flies : ∀ token ∈ refreshTokenOf shared.deviceTokens, token ∈ takenTokens shared.events →
    (∀ deviceId, shared.state ≠ .authenticated deviceId) ∧
      ∀ state ∈ standings, state.flying = true → state.exchanged = true
  replaces : ∀ token ∈ refreshTokenOf shared.userTokens, token ∈ takenTokens shared.events →
    ∃ state ∈ standings, state.userInHand ≠ none
  inHand : ∀ state ∈ standings, ∀ fresh ∈ state.inHand,
    fresh.refreshToken ∉ takenTokens shared.events ∧
      refreshTokenOf shared.userTokens ≠ some fresh.refreshToken
  userInHand : ∀ state ∈ standings, ∀ fresh ∈ state.userInHand,
    fresh.refreshToken ∉ takenTokens shared.events ∧
      refreshTokenOf shared.deviceTokens ≠ some fresh.refreshToken

/-- The stores work, and the server hands out new tokens only: no reply to an exchange or to a
request for device tokens brings a refresh token that is stored or was taken, and the user's
refresh token is not taken without new tokens in return. -/
def HandsOutAnew : CallCondition AuthCall AuthShared AuthInput
  | _, input, shared, .receive request =>
    input.storeFails = false ∧
      match input.reply with
      | .error _ => True
      | .ok response =>
        response.status = 200 →
          (request.path = refreshPath ∨ request.path = reissuePath →
            ∀ fresh ∈ response.tokens,
              Anew shared fresh.refreshToken ∧ request.presents ≠ some fresh.refreshToken) ∧
          ∀ token ∈ request.presents, refreshTokenOf shared.userTokens = some token →
            response.tokens ≠ none
  | _, input, _, _ => input.storeFails = false

instance (shared : AuthShared) (token : String) : Decidable (Anew shared token) :=
  decidable_of_iff' _ (anew_iff shared token)

instance (Answer : Type) (input : AuthInput) (shared : AuthShared) (operation : AuthCall Answer) :
    Decidable (HandsOutAnew Answer input shared operation) := by
  induction operation using AuthCall.casesOn <;> dsimp only [HandsOutAnew]
  case receive =>
    generalize input.reply = reply
    induction reply using Except.casesOn <;> infer_instance
  all_goals infer_instance

variable {shared after : AuthShared} {standings : List Standing} {index : Nat}
  {state next : Standing} {Answer : Type} {input : AuthInput}

section

variable (rotation : Rotation shared standings) (isState : standings[index]? = some state)

include rotation isState

theorem Rotation.kept (deviceTokens : after.deviceTokens = shared.deviceTokens)
    (userTokens : after.userTokens = shared.userTokens)
    (taken : takenTokens after.events = takenTokens shared.events)
    (noReplay : NoReplay after.events)
    (device : ∀ token ∈ next.device, refreshTokenOf shared.deviceTokens = some token)
    (user : ∀ token ∈ next.user, refreshTokenOf shared.userTokens = some token)
    (flies : ∀ token ∈ refreshTokenOf shared.deviceTokens, token ∈ takenTokens shared.events →
      (∀ deviceId, after.state ≠ .authenticated deviceId) ∧
        (next.flying = true → next.exchanged = true))
    (inHand : ∀ fresh ∈ next.inHand, fresh.refreshToken ∉ takenTokens shared.events ∧
      refreshTokenOf shared.userTokens ≠ some fresh.refreshToken)
    (userInHand : next.userInHand = state.userInHand) :
    Rotation after (standings.set index next) := by
  have known := mem_of_getElem? isState
  refine ⟨noReplay, ?_, ?_, ?_, ?_, ?_, ?_, ?_⟩
  · rw [deviceTokens, userTokens]
    exact rotation.apart
  · rw [deviceTokens]
    exact forall_mem_set rotation.device device
  · rw [userTokens]
    exact forall_mem_set rotation.user user
  · rw [deviceTokens, taken]
    intro token isToken isTaken
    obtain ⟨elsewhere, flying⟩ := flies token isToken isTaken
    exact ⟨elsewhere, forall_mem_set (rotation.flies token isToken isTaken).2 flying⟩
  · rw [userTokens, taken]
    intro token isToken isTaken
    refine exists_mem_set isState (rotation.replaces token isToken isTaken) ?_
    rw [userInHand]
    exact id
  · rw [taken, userTokens]
    exact forall_mem_set rotation.inHand inHand
  · rw [taken, deviceTokens]
    refine forall_mem_set rotation.userInHand ?_
    rw [userInHand]
    exact rotation.userInHand state known

theorem Rotation.quiet (deviceTokens : after.deviceTokens = shared.deviceTokens)
    (userTokens : after.userTokens = shared.userTokens) (sameState : after.state = shared.state)
    (events : after.events = shared.events) (device : next.device = state.device)
    (user : next.user = state.user) (flying : next.flying = state.flying)
    (exchanged : next.exchanged = state.exchanged) (inHand : next.inHand = state.inHand)
    (userInHand : next.userInHand = state.userInHand) :
    Rotation after (standings.set index next) := by
  have known := mem_of_getElem? isState
  refine rotation.kept isState deviceTokens userTokens (by rw [events])
    (by rw [events]; exact rotation.noReplay) ?_ ?_ ?_ ?_ userInHand
  · rw [device]
    exact rotation.device state known
  · rw [user]
    exact rotation.user state known
  · intro token isToken isTaken
    obtain ⟨elsewhere, flies⟩ := rotation.flies token isToken isTaken
    rw [sameState, flying, exchanged]
    exact ⟨elsewhere, flies state known⟩
  · rw [inHand]
    exact rotation.inHand state known

theorem Rotation.landed {target : AuthState} {answer : Except AuthError Unit}
    (handled : performAuth _ input shared (.transition target) = some (answer, after))
    (authenticates : ∀ deviceId, target = .authenticated deviceId →
      state.flying = true ∧ state.exchanged = false) :
    Rotation after (standings.set index state.landed) := by
  have known := mem_of_getElem? isState
  have same : after.deviceTokens = shared.deviceTokens ∧ after.userTokens = shared.userTokens ∧
      after.events = shared.events ∧ (after.state = target ∨ after.state = shared.state) := by
    rcases transition_cases handled with ⟨-, -, rfl⟩ | ⟨-, -, rfl⟩
    · exact ⟨rfl, rfl, rfl, Or.inl rfl⟩
    · exact ⟨rfl, rfl, rfl, Or.inr rfl⟩
  obtain ⟨deviceTokens, userTokens, events, moved⟩ := same
  refine rotation.kept isState deviceTokens userTokens (by rw [events])
    (by rw [events]; exact rotation.noReplay) (rotation.device state known)
    (rotation.user state known) ?_ nofun rfl
  intro token isToken isTaken
  obtain ⟨elsewhere, flies⟩ := rotation.flies token isToken isTaken
  refine ⟨fun deviceId isAuthenticated => ?_, nofun⟩
  rcases moved with isTarget | isSame
  · obtain ⟨flying, unspent⟩ := authenticates deviceId (isTarget.symm.trans isAuthenticated)
    rw [flies state known flying] at unspent
    cases unspent
  · exact elsewhere deviceId (isSame.symm.trans isAuthenticated)

end

theorem Rotation.unspent (rotation : Rotation shared standings) (airspace : Airspace shared standings)
    (isState : standings[index]? = some state) {token : String} (maySend : state.MaySend token) :
    token ∉ takenTokens shared.events := by
  have known := mem_of_getElem? isState
  intro isTaken
  rcases maySend with ⟨flying, unspent, isDevice⟩ | ⟨holds, -, free, isUser⟩
  · have isToken := rotation.device state known token isDevice
    rw [(rotation.flies token isToken isTaken).2 state known flying] at unspent
    cases unspent
  · have isToken := rotation.user state known token isUser
    obtain ⟨other, member, handed⟩ := rotation.replaces token isToken isTaken
    have otherHolds := ((airspace.sensible other member).userInHand handed).1
    rw [airspace.only isState holds member otherHolds] at handed
    exact handed free

theorem Standing.Sensible.oneHand (sensible : state.Sensible) :
    (state.flying = true → state.userInHand = none) ∧
      (state.flying = false → state.inHand = none) := by
  constructor <;> intro flying <;> by_contra handed
  · rw [(sensible.userInHand handed).2] at flying
    cases flying
  · rw [sensible.inHand handed] at flying
    cases flying

theorem Rotation.storesPair (rotation : Rotation shared standings)
    (airspace : Airspace shared standings) (isState : standings[index]? = some state)
    {fresh : TokenPair} (flying : state.flying = true) (inHand : state.inHand = some fresh) :
    Rotation { shared with deviceTokens := some fresh }
      (standings.set index { state with exchanged := false, inHand := none, device := none }) := by
  have known := mem_of_getElem? isState
  have sensible := airspace.sensible state known
  have holds := sensible.flying flying
  obtain ⟨untaken, apart⟩ := rotation.inHand state known fresh inHand
  refine ⟨rotation.noReplay, ?_, ?_, forall_mem_set rotation.user (rotation.user state known), ?_, ?_,
    forall_mem_set rotation.inHand nofun, ?_⟩
  · rintro token ⟨⟩
    exact apart
  · refine airspace.forall_set isState holds nofun ?_
    intro other device _ _ _ _
    simp [device]
  · rintro token ⟨⟩ isTaken
    exact absurd isTaken untaken
  · intro token isToken isTaken
    exact exists_mem_set isState (rotation.replaces token isToken isTaken) id
  · refine airspace.forall_set isState holds ?_ ?_
    · simp [sensible.oneHand.1 flying]
    · intro other _ _ _ _ userInHand
      simp [userInHand]

theorem Rotation.storesUserPair (rotation : Rotation shared standings)
    (airspace : Airspace shared standings) (isState : standings[index]? = some state)
    {fresh : TokenPair} (holds : state.holds = true) (inHand : state.userInHand = some fresh) :
    Rotation { shared with userTokens := some fresh }
      (standings.set index { state with userInHand := none, user := none }) := by
  have known := mem_of_getElem? isState
  have sensible := airspace.sensible state known
  have landed : state.flying = false := (sensible.userInHand (by simp [inHand])).2
  obtain ⟨untaken, apart⟩ := rotation.userInHand state known fresh inHand
  refine ⟨rotation.noReplay, ?_, forall_mem_set rotation.device (rotation.device state known), ?_, ?_,
    ?_, ?_, forall_mem_set rotation.userInHand nofun⟩
  · intro token isToken same
    rw [← Option.some.inj same] at isToken
    exact apart isToken
  · refine airspace.forall_set isState holds nofun ?_
    intro other _ user _ _ _
    simp [user]
  · intro token isToken isTaken
    obtain ⟨elsewhere, flies⟩ := rotation.flies token isToken isTaken
    exact ⟨elsewhere, forall_mem_set flies (flies state known)⟩
  · rintro token ⟨⟩ isTaken
    exact absurd isTaken untaken
  · refine airspace.forall_set isState holds ?_ ?_
    · simp [sensible.oneHand.2 landed]
    · intro other _ _ _ handed _
      simp [handed]

section Taking

variable {token : String} {event : AuthEvent} {tokens : Option TokenPair}

theorem Anew.still {fresh : String} (anew : Anew shared fresh) (apart : fresh ≠ token)
    (taken : event.taken = some token) : fresh ∉ takenTokens (shared.events ++ [event]) := by
  simp only [takenTokens_concat, taken, Option.toList_some, mem_append, mem_singleton, not_or]
  exact ⟨anew.taken, apart⟩

theorem Rotation.takesDevice (rotation : Rotation shared standings)
    (airspace : Airspace shared standings) (isState : standings[index]? = some state)
    (flying : state.flying = true) (isDevice : state.device = some token)
    (taken : event.taken = some token) (silent : event.sends = none)
    (anew : ∀ fresh ∈ tokens, Anew shared fresh.refreshToken ∧ fresh.refreshToken ≠ token) :
    Rotation { shared with events := shared.events ++ [event] }
      (standings.set index { state with exchanged := true, inHand := tokens }) := by
  have known := mem_of_getElem? isState
  have sensible := airspace.sensible state known
  have holds := sensible.flying flying
  have stored := rotation.device state known token isDevice
  refine ⟨noReplay_concat rotation.noReplay (by rw [silent]; exact nofun), rotation.apart,
    forall_mem_set rotation.device (rotation.device state known),
    forall_mem_set rotation.user (rotation.user state known), ?_, ?_, ?_, ?_⟩
  · intro other _ _
    refine ⟨airspace.grounded state known flying, ?_⟩
    refine airspace.forall_set isState holds (fun _ => rfl) ?_
    intro flier _ _ landed _ _
    simp [landed]
  · intro other isUser isTaken
    simp only [takenTokens_concat, taken, Option.toList_some, mem_append, mem_singleton] at isTaken
    rcases isTaken with before | rfl
    · exact exists_mem_set isState (rotation.replaces other isUser before) id
    · exact absurd isUser (rotation.apart other stored)
  · refine airspace.forall_set isState holds ?_ ?_
    · intro fresh isFresh
      obtain ⟨isNew, apart⟩ := anew fresh isFresh
      exact ⟨isNew.still apart taken, isNew.user⟩
    · intro other _ _ _ inHand _
      simp [inHand]
  · refine airspace.forall_set isState holds ?_ ?_
    · simp [sensible.oneHand.1 flying]
    · intro other _ _ _ _ userInHand
      simp [userInHand]

theorem Rotation.takesUser (rotation : Rotation shared standings)
    (airspace : Airspace shared standings) (isState : standings[index]? = some state)
    (holds : state.holds = true) (landed : state.flying = false)
    (isUser : state.user = some token) (taken : event.taken = some token)
    (silent : event.sends = none) (handsOut : tokens ≠ none)
    (anew : ∀ fresh ∈ tokens, Anew shared fresh.refreshToken ∧ fresh.refreshToken ≠ token) :
    Rotation { shared with events := shared.events ++ [event] }
      (standings.set index { state with userInHand := tokens }) := by
  have known := mem_of_getElem? isState
  have sensible := airspace.sensible state known
  have stored := rotation.user state known token isUser
  have bound := (List.getElem?_eq_some_iff.mp isState).1
  refine ⟨noReplay_concat rotation.noReplay (by rw [silent]; exact nofun), rotation.apart,
    forall_mem_set rotation.device (rotation.device state known),
    forall_mem_set rotation.user (rotation.user state known), ?_, ?_, ?_, ?_⟩
  · intro other isDevice isTaken
    simp only [takenTokens_concat, taken, Option.toList_some, mem_append, mem_singleton] at isTaken
    rcases isTaken with before | rfl
    · obtain ⟨elsewhere, flies⟩ := rotation.flies other isDevice before
      exact ⟨elsewhere, forall_mem_set flies (flies state known)⟩
    · exact absurd stored (rotation.apart other isDevice)
  · intro _ _ _
    exact ⟨_, mem_of_getElem? (List.getElem?_set_self bound), handsOut⟩
  · refine airspace.forall_set isState holds ?_ ?_
    · simp [sensible.oneHand.2 landed]
    · intro other _ _ _ inHand _
      simp [inHand]
  · refine airspace.forall_set isState holds ?_ ?_
    · intro fresh isFresh
      obtain ⟨isNew, apart⟩ := anew fresh isFresh
      exact ⟨isNew.still apart taken, isNew.device⟩
    · intro other _ _ _ _ userInHand
      simp [userInHand]

end Taking

/-- A reply hands out tokens that no request has carried yet. -/
theorem Rotation.receives (rotation : Rotation shared standings)
    (airspace : Airspace shared standings) (isState : standings[index]? = some state)
    {request : HttpRequest} (asked : state.MayRequest request)
    (anew : HandsOutAnew _ input shared (.receive request)) :
    Rotation { shared with events := shared.events ++ [.answered request input.reply] }
      (standings.set index (state.received request input.reply)) := by
  have known := mem_of_getElem? isState
  have untaken (none : (AuthEvent.answered request input.reply).taken = none) {next : Standing}
      (inHand : next.inHand = state.inHand ∨ ∀ fresh ∈ next.inHand, Anew shared fresh.refreshToken)
      (device : next.device = state.device) (user : next.user = state.user)
      (flying : next.flying = state.flying) (exchanged : next.exchanged = state.exchanged)
      (userInHand : next.userInHand = state.userInHand) :
      Rotation { shared with events := shared.events ++ [.answered request input.reply] }
        (standings.set index next) := by
    refine rotation.kept isState rfl rfl (by simp [none]) (noReplay_concat rotation.noReplay nofun)
      (by rw [device]; exact rotation.device state known)
      (by rw [user]; exact rotation.user state known) ?_ ?_ userInHand
    · intro token isToken isTaken
      obtain ⟨elsewhere, flies⟩ := rotation.flies token isToken isTaken
      rw [flying, exchanged]
      exact ⟨elsewhere, flies state known⟩
    · rcases inHand with same | isNew
      · rw [same]
        exact rotation.inHand state known
      · exact fun fresh isFresh => ⟨(isNew fresh isFresh).taken, (isNew fresh isFresh).user⟩
  cases replied : input.reply with
  | error error =>
    rw [replied] at untaken
    exact untaken rfl (Or.inl rfl) rfl rfl rfl rfl rfl
  | ok response =>
    rw [replied] at untaken
    by_cases success : response.status = 200
    · have handed := anew.2
      rw [replied] at handed
      obtain ⟨isNew, handsOut⟩ := handed success
      unfold Standing.MayRequest at asked
      simp only [Standing.received, if_pos success]
      cases carried : request.refreshToken with
      | none =>
        have silent : (AuthEvent.answered request (.ok response)).taken = none := by
          simp [AuthEvent.taken, HttpRequest.presents, carried]
        simp only [carried] at asked
        dsimp only
        split
        next flying =>
          refine untaken silent (Or.inr fun fresh isFresh => ?_) rfl rfl rfl rfl rfl
          exact (isNew (Or.inr (asked flying)) fresh isFresh).1
        next landed => exact untaken silent (Or.inl rfl) rfl rfl rfl rfl rfl
      | some token =>
        simp only [carried] at asked
        obtain ⟨isPath, maySend⟩ := asked
        have presents : request.presents = some token := by
          simp [HttpRequest.presents, isPath, carried]
        have taken : (AuthEvent.answered request (.ok response)).taken = some token := by
          simp [AuthEvent.taken, success, presents]
        have fresh : ∀ fresh ∈ response.tokens,
            Anew shared fresh.refreshToken ∧ fresh.refreshToken ≠ token := by
          intro fresh isFresh
          obtain ⟨anew, apart⟩ := isNew (Or.inl isPath) fresh isFresh
          refine ⟨anew, fun same => apart ?_⟩
          rw [presents, same]
        dsimp only
        rcases maySend with ⟨flying, -, isDevice⟩ | ⟨holds, landed, -, isUser⟩
        · rw [if_pos flying]
          exact rotation.takesDevice airspace isState flying isDevice taken rfl fresh
        · rw [if_neg (by simp [landed])]
          exact rotation.takesUser airspace isState holds landed isUser taken rfl
            (handsOut token presents (rotation.user state known token isUser)) fresh
    · rw [received_of_failure success]
      exact untaken (by simp [AuthEvent.taken, success]) (Or.inl rfl) rfl rfl rfl rfl rfl

theorem HandsOutAnew.stores {operation : AuthCall Answer}
    (anew : HandsOutAnew Answer input shared operation) : input.storeFails = false := by
  cases operation <;> first | exact anew | exact anew.1

/-- Each call keeps the refresh tokens rotating, where replies hand out new ones. -/
theorem Rotation.step (rotation : Rotation shared standings) (airspace : Airspace shared standings)
    (isState : standings[index]? = some state) {operation : AuthCall Answer} {answer : Answer}
    (conducted : operation.Conducted false state)
    (anew : HandsOutAnew Answer input shared operation)
    (handled : performAuth Answer input shared operation = some (answer, after)) :
    Rotation after (standings.set index (operation.conducts state answer)) := by
  have known := mem_of_getElem? isState
  have works := anew.stores
  cases operation with
  | utcNow | currentState | returnLogOut =>
    cases handled
    exact rotation.quiet isState rfl rfl rfl rfl rfl rfl rfl rfl rfl rfl
  | loadDeviceId =>
    rw [(load_cases handled).1]
    exact rotation.quiet isState rfl rfl rfl rfl rfl rfl rfl rfl rfl rfl
  | loadTokens =>
    obtain ⟨rfl, ⟨error, rfl⟩ | rfl⟩ := load_cases handled
    · exact rotation.quiet isState rfl rfl rfl rfl rfl rfl rfl rfl rfl rfl
    · simp only [AuthCall.conducts]
      split
      · exact rotation.kept isState rfl rfl rfl rotation.noReplay (fun token isToken => isToken)
          (rotation.user state known)
          (fun token isToken isTaken => (rotation.flies token isToken isTaken).imp_right
            fun flies => flies state known) (rotation.inHand state known) rfl
      · exact rotation.quiet isState rfl rfl rfl rfl rfl rfl rfl rfl rfl rfl
  | loadUserTokens =>
    obtain ⟨rfl, ⟨error, rfl⟩ | rfl⟩ := load_cases handled
    · exact rotation.quiet isState rfl rfl rfl rfl rfl rfl rfl rfl rfl rfl
    · simp only [AuthCall.conducts]
      split
      · exact rotation.kept isState rfl rfl rfl rotation.noReplay (rotation.device state known)
          (fun token isToken => isToken)
          (fun token isToken isTaken => (rotation.flies token isToken isTaken).imp_right
            fun flies => flies state known) (rotation.inHand state known) rfl
      · exact rotation.quiet isState rfl rfl rfl rfl rfl rfl rfl rfl rfl rfl
  | storePair tokens =>
    rcases store_cases handled with ⟨rfl, rfl, -⟩ | ⟨-, fails, -⟩
    · exact rotation.storesPair airspace isState conducted.1 conducted.2
    · rw [works] at fails
      cases fails
  | storeUserPair tokens =>
    rcases store_cases handled with ⟨rfl, rfl, -⟩ | ⟨-, fails, -⟩
    · exact rotation.storesUserPair airspace isState conducted.1 conducted.2
    · rw [works] at fails
      cases fails
  | clearTokens => cases conducted.1
  | clearUserTokens => cases conducted.1
  | storeDeviceId deviceId => exact absurd conducted id
  | clearDeviceId => exact absurd conducted id
  | lockRefresh =>
    simp only [performAuth] at handled
    split at handled
    · cases handled
    · cases handled
      exact rotation.quiet isState rfl rfl rfl rfl rfl rfl rfl rfl rfl rfl
  | unlockRefresh =>
    cases handled
    have ready : state.Grounded := conducted
    exact rotation.kept isState rfl rfl rfl rotation.noReplay
      (by simp [AuthCall.conducts, Standing.idle]) (by simp [AuthCall.conducts, Standing.idle])
      (fun token isToken isTaken => ⟨(rotation.flies token isToken isTaken).1,
        by simp [AuthCall.conducts, Standing.idle]⟩)
      (by simp [AuthCall.conducts, Standing.idle]) ready.userInHand.symm
  | send request =>
    cases handled
    refine rotation.kept isState rfl rfl (by simp [AuthEvent.taken])
      (noReplay_concat rotation.noReplay ?_) (rotation.device state known)
      (rotation.user state known) (fun token isToken isTaken =>
        (rotation.flies token isToken isTaken).imp_right fun flies => flies state known)
      (rotation.inHand state known) rfl
    intro token isSent
    have asked : state.MayRequest request := conducted
    have carried : request.refreshToken = some token := by
      simp only [AuthEvent.sends, HttpRequest.presents] at isSent
      split at isSent
      · exact isSent
      · cases isSent
    simp only [Standing.MayRequest, carried] at asked
    exact rotation.unspent airspace isState asked.2
  | receive request =>
    cases handled
    exact rotation.receives airspace isState conducted anew
  | transition target =>
    cases target with
    | unauthenticated => cases conducted.1
    | authenticated deviceId => exact rotation.landed isState handled fun _ _ => conducted
    | needsReauth => exact rotation.landed isState handled (by simp)
    | deviceRevoked => exact rotation.landed isState handled (by simp)
    | refreshInFlight =>
      have ready : state.Grounded := conducted
      rcases transition_cases handled with ⟨rfl, valid, rfl⟩ | ⟨rfl, -, rfl⟩
      · refine rotation.kept isState rfl rfl rfl rotation.noReplay (rotation.device state known)
          (rotation.user state known) ?_ (rotation.inHand state known) rfl
        intro token isToken isTaken
        obtain ⟨deviceId, authenticated⟩ :=
          airspace.takesOff isState ready.holds ready.flying valid
        exact absurd authenticated ((rotation.flies token isToken isTaken).1 deviceId)
      · exact rotation.quiet isState rfl rfl rfl rfl rfl rfl rfl rfl rfl rfl

end Rotation

section Runs

variable {refreshBuffer : Int} {world : AuthWorld}

/-- The stores work. -/
def StoresWork : CallCondition AuthCall AuthShared AuthInput
  | _, input, _, _ => input.storeFails = false

theorem stores_of_works {Answer : Type} {input : AuthInput} {shared after : AuthShared}
    {operation : AuthCall Answer} {answer : Answer} (works : input.storeFails = false)
    (handled : performAuth Answer input shared operation = some (answer, after)) :
    operation.Stores answer := by
  have stored {written : AuthShared} {reply : Except AuthError Unit}
      (isStored : shared.store input written = some (reply, after)) : reply = .ok () := by
    rcases store_cases isStored with ⟨rfl, -, -⟩ | ⟨-, fails, -⟩
    · rfl
    · rw [works] at fails
      cases fails
  cases operation with
  | storePair tokens => exact stored handled
  | storeUserPair tokens => exact stored handled
  | clearTokens => exact stored handled
  | clearUserTokens => exact stored handled
  | _ => exact trivial

theorem airspace_upheld (departs : Bool) :
    Upholds performAuth (conduct departs) StoresWork Airspace := by
  intro Answer input shared standings index state operation answer after airspace isState conducted
    works handled
  exact ⟨stores_of_works works handled, airspace.step isState conducted handled⟩

/-- What holds of the tasks while the server hands out new tokens only. -/
def Rotating (shared : AuthShared) (standings : List Standing) : Prop :=
  Airspace shared standings ∧ Rotation shared standings

theorem rotation_upheld : Upholds performAuth (conduct false) HandsOutAnew Rotating := by
  rintro Answer input shared standings index state operation answer after ⟨airspace, rotation⟩
    isState conducted anew handled
  exact ⟨stores_of_works anew.stores handled, airspace.step isState conducted handled,
    rotation.step airspace isState conducted anew handled⟩

theorem Airspace.enters (shared : AuthShared) (standings : List Standing)
    (airspace : Airspace shared standings) : Airspace shared (standings ++ [.idle]) := by
  constructor
  · exact airspace.held.append_free rfl
  · exact forall_mem_concat airspace.sensible idle_sensible
  · intro inFlight
    obtain ⟨flier, member, flies⟩ := airspace.inFlight inFlight
    exact ⟨flier, mem_append_left _ member, flies⟩
  · exact forall_mem_concat airspace.grounded (by simp [Standing.idle])

theorem Rotation.enters {shared : AuthShared} {standings : List Standing}
    (rotation : Rotation shared standings) : Rotation shared (standings ++ [.idle]) := by
  refine ⟨rotation.noReplay, rotation.apart, forall_mem_concat rotation.device nofun, forall_mem_concat rotation.user nofun,
    ?_, ?_, forall_mem_concat rotation.inHand nofun, forall_mem_concat rotation.userInHand nofun⟩
  · intro token isToken isTaken
    obtain ⟨elsewhere, flies⟩ := rotation.flies token isToken isTaken
    exact ⟨elsewhere, forall_mem_concat flies nofun⟩
  · intro token isToken isTaken
    obtain ⟨state, member, handed⟩ := rotation.replaces token isToken isTaken
    exact ⟨state, mem_append_left _ member, handed⟩

theorem Rotating.enters (shared : AuthShared) (standings : List Standing)
    (rotating : Rotating shared standings) : Rotating shared (standings ++ [.idle]) :=
  ⟨Airspace.enters shared standings rotating.1, rotating.2.enters⟩

/-- A step without a logout and without a failing store. -/
def Undeparted (operation : AuthOperation × AuthInput) : Prop :=
  operation.1 ≠ .logOut ∧ operation.2.storeFails = false

theorem sound_next {Inv : AuthShared → List Standing → Prop}
    {condition : CallCondition AuthCall AuthShared AuthInput}
    (upheld : Upholds performAuth (conduct false) condition Inv)
    (enters : ∀ shared standings, Inv shared standings → Inv shared (standings ++ [.idle]))
    (sound : World.Sound (conduct false) .idle (fun _ => True) Inv world)
    {operation : AuthOperation × AuthInput} (stays : operation.1 ≠ .logOut)
    (admits : ∀ task, operation.1 = .advance task → World.Admits condition world task operation.2) :
    World.Sound (conduct false) .idle (fun _ => True) Inv
      ((authMachine refreshBuffer).next world operation) := by
  obtain ⟨operation, input⟩ := operation
  cases operation with
  | sendAuthenticated request => exact sound.spawn (caller_follows request) enters
  | logOut => exact absurd rfl stays
  | advance task => exact sound.advance upheld (admits task rfl)

theorem storesWork_admits (task : Nat) {input : AuthInput} (works : input.storeFails = false) :
    World.Admits StoresWork world task input := by
  unfold World.Admits
  split
  · exact works
  · trivial

theorem opened_airspace {opening : AuthOpening} (settled : opening.state ≠ .refreshInFlight) :
    Airspace (AuthWorld.opened opening).shared [] := by
  refine ⟨⟨?_, ?_⟩, ?_, fun inFlight => absurd inFlight settled, ?_⟩ <;> simp

theorem run_sound {opening : AuthOpening} (settled : opening.state ≠ .refreshInFlight)
    {operations : List (AuthOperation × AuthInput)}
    (undeparted : ∀ operation ∈ operations, Undeparted operation) :
    World.Sound (conduct false) .idle (fun _ => True) Airspace
      ((authMachine refreshBuffer).run (AuthWorld.opened opening) operations) := by
  have meets : (authMachine refreshBuffer).Meets (fun _ operation => Undeparted operation)
      (AuthWorld.opened opening) operations :=
    (authMachine refreshBuffer).meets_of_mem (fun operation member _ => undeparted operation member)
      _
  refine (authMachine refreshBuffer).invariant_run ?_ (.initial (opened_airspace settled)) meets
  rintro world ⟨operation, input⟩ sound ⟨stays, works⟩
  exact sound_next (airspace_upheld false) Airspace.enters sound stays
    fun task _ => storesWork_admits task works

end Runs

section Revocation

variable {refreshBuffer : Int} {world : AuthWorld}

def AuthCall.isSend {Answer : Type} : AuthCall Answer → Bool
  | .send _ => true
  | _ => false

/-- A task that has sent nothing, and has ended or not begun. -/
structure Silent (refreshBuffer : Int) (task : Task AuthCall) : Prop where
  quiet : ∀ step ∈ task.trace, step.operation.isSend = false
  ended : task.program = .done () ∨ ∃ request, task.program = AuthWorld.caller refreshBuffer request

/-- The device is revoked, and whoever came after that is silent. -/
structure Revoked (refreshBuffer : Int) (count : Nat) (world : AuthWorld) : Prop where
  state : world.shared.state = .deviceRevoked
  late : ∀ (index : Nat) (task : Task AuthCall), count ≤ index →
    world.tasks[index]? = some task → Silent refreshBuffer task

/-- No call of the conduct brings a revoked device back. -/
theorem revoked_stays {Answer : Type} {input : AuthInput} {shared after : AuthShared}
    {standing : Standing} {operation : AuthCall Answer} {answer : Answer}
    (revoked : shared.state = .deviceRevoked) (conducted : operation.Conducted false standing)
    (handled : performAuth Answer input shared operation = some (answer, after)) :
    after.state = .deviceRevoked := by
  have stored {written : AuthShared} {reply : Except AuthError Unit}
      (isStored : shared.store input written = some (reply, after))
      (same : written.state = shared.state) : after.state = .deviceRevoked := by
    rcases store_cases isStored with ⟨-, rfl, -⟩ | ⟨-, -, rfl | rfl⟩
    · exact same.trans revoked
    · exact same.trans revoked
    · exact revoked
  cases operation with
  | loadTokens | loadUserTokens | loadDeviceId =>
    rw [(load_cases handled).1]
    exact revoked
  | storePair _ => exact stored handled rfl
  | storeUserPair _ => exact stored handled rfl
  | storeDeviceId _ => exact stored handled rfl
  | clearTokens => exact stored handled rfl
  | clearUserTokens => exact stored handled rfl
  | clearDeviceId => exact stored handled rfl
  | lockRefresh =>
    simp only [performAuth] at handled
    split at handled
    · cases handled
    · cases handled
      exact revoked
  | transition target =>
    rcases transition_cases handled with ⟨-, valid, rfl⟩ | ⟨-, -, rfl⟩
    · rw [revoked] at valid
      cases target with
      | deviceRevoked => rfl
      | unauthenticated => cases conducted.1
      | authenticated deviceId => simp [validTransition] at valid
      | needsReauth => simp [validTransition] at valid
      | refreshInFlight => simp [validTransition] at valid
    · exact revoked
  | utcNow | currentState | unlockRefresh | send _ | receive _ | returnLogOut =>
    cases handled
    exact revoked

theorem caller_revoked (refreshBuffer : Int) (request : CallerRequest) :
    ∃ resume, AuthWorld.caller refreshBuffer request = .call .currentState resume ∧
      resume .deviceRevoked = .done () :=
  ⟨_, rfl, rfl⟩

theorem Revoked.next {count : Nat} (revoked : Revoked refreshBuffer count world)
    (sound : World.Sound (conduct false) .idle (fun _ => True) Airspace world)
    {operation : AuthOperation × AuthInput} (stays : operation.1 ≠ .logOut) :
    Revoked refreshBuffer count ((authMachine refreshBuffer).next world operation) := by
  obtain ⟨operation, input⟩ := operation
  cases operation with
  | logOut => exact absurd rfl stays
  | sendAuthenticated request =>
    refine ⟨revoked.state, fun index task late isTask => ?_⟩
    change (world.tasks ++ [_])[index]? = some task at isTask
    rcases Nat.lt_or_ge index world.tasks.length with before | behind
    · rw [List.getElem?_append_left before] at isTask
      exact revoked.late index task late isTask
    · rw [List.getElem?_append_right behind] at isTask
      rw [mem_singleton.mp (mem_of_getElem? isTask)]
      exact ⟨fun step member => absurd member not_mem_nil, Or.inr ⟨request, rfl⟩⟩
  | advance place =>
    change Revoked refreshBuffer count (World.advance performAuth world place input)
    rcases world.advance_cases performAuth place input with same |
      ⟨Answer, call, resume, trace, answer, shared, isTask, handled, isNext⟩
    · rw [same]
      exact revoked
    · rw [isNext]
      have conducted := sound.conforms.allowed (conduct false) isTask
      refine ⟨revoked_stays revoked.state conducted handled, fun index task late found => ?_⟩
      rcases getElem?_set_cases found with ⟨rfl, rfl⟩ | ⟨-, before⟩
      · have silent := revoked.late index _ late isTask
        rcases silent.ended with ended | ⟨request, begins⟩
        · cases ended
        · obtain ⟨onwards, isCaller, ends⟩ := caller_revoked refreshBuffer request
          rw [isCaller] at begins
          cases begins
          obtain ⟨rfl, rfl⟩ := Prod.mk.inj (Option.some.inj handled)
          rw [revoked.state]
          refine ⟨fun step member => ?_, Or.inl ends⟩
          rcases mem_append.mp member with old | isNew
          · exact silent.quiet step old
          · rw [mem_singleton.mp isNew]
            rfl
      · exact revoked.late index task late before

end Revocation

section Discipline

variable {refreshBuffer : Int}

def AuthCall.locks {Answer : Type} (held : Bool) : AuthCall Answer → Bool
  | .lockRefresh => true
  | .unlockRefresh => false
  | _ => held

def holdsRefreshLock (task : Task AuthCall) : Bool :=
  task.trace.foldl (fun held step => step.operation.locks held) false

theorem conducts_holds {Answer : Type} (state : Standing) (operation : AuthCall Answer)
    (answer : Answer) : (operation.conducts state answer).holds = operation.locks state.holds := by
  cases operation with
  | loadTokens | loadUserTokens =>
    cases answer with
    | error error => rfl
    | ok stored =>
      simp only [AuthCall.conducts]
      split <;> rfl
  | storePair _ | storeUserPair _ | clearTokens | clearUserTokens =>
    cases answer <;> rfl
  | transition target =>
    cases target with
    | refreshInFlight => cases answer <;> rfl
    | _ => rfl
  | receive request => exact received_holds
  | _ => rfl

theorem reached_holds (departs : Bool) (trace : List (Step AuthCall)) (state : Standing) :
    ((conduct departs).reached state trace).holds =
      trace.foldl (fun held step => step.operation.locks held) state.holds := by
  induction trace generalizing state with
  | nil => rfl
  | cons step trace ih =>
    change ((conduct departs).reached (step.operation.conducts state step.answer) trace).holds = _
    rw [ih, conducts_holds]
    rfl

/-- The state is in flight only while a task holds the refresh lock. -/
def FlightsAreLocked (world : AuthWorld) : Prop :=
  world.shared.state = .refreshInFlight →
    world.shared.refreshLocked = true ∧ ∃ task ∈ world.tasks, holdsRefreshLock task = true

/-- Once the device is revoked it stays so, and the requests that start later are not sent. -/
def RevocationHolds (refreshBuffer : Int) (opening : AuthOpening)
    (operations : List (AuthOperation × AuthInput)) : Prop :=
  let after := (authMachine refreshBuffer).run (AuthWorld.opened opening)
  ∀ before later : List (AuthOperation × AuthInput), operations = before ++ later →
    (after before).shared.state = .deviceRevoked →
      (after operations).shared.state = .deviceRevoked ∧
        ∀ (index : Nat) (task : Task AuthCall), (after before).tasks.length ≤ index →
          (after operations).tasks[index]? = some task →
            ∀ step ∈ task.trace, step.operation.isSend = false

/-- A step by which the server hands out new tokens only. -/
def StepsAnew (world : AuthWorld) (operation : AuthOperation × AuthInput) : Prop :=
  match operation with
  | (.advance task, input) => World.Admits HandsOutAnew world task input
  | _ => True

theorem Airspace.flightsAreLocked {world : AuthWorld}
    (sound : World.Sound (conduct false) .idle (fun _ => True) Airspace world) :
    FlightsAreLocked world := by
  intro inFlight
  obtain ⟨flier, member, flying⟩ := sound.holds.inFlight inFlight
  have holds := (sound.holds.sensible flier member).flying flying
  refine ⟨sound.holds.held.locked flier member holds, ?_⟩
  obtain ⟨task, isTask, rfl⟩ := mem_map.mp member
  refine ⟨task, isTask, ?_⟩
  rwa [reached_holds] at holds

variable {opening : AuthOpening}

theorem revocation_holds (settled : opening.state ≠ .refreshInFlight)
    {operations : List (AuthOperation × AuthInput)}
    (undeparted : ∀ operation ∈ operations, Undeparted operation) :
    RevocationHolds refreshBuffer opening operations := by
  rintro before later rfl revoked
  have begun : World.Sound (conduct false) .idle (fun _ => True) Airspace
      ((authMachine refreshBuffer).run (AuthWorld.opened opening) before) :=
    run_sound settled fun operation member => undeparted operation (mem_append_left _ member)
  have start : Revoked refreshBuffer
      ((authMachine refreshBuffer).run (AuthWorld.opened opening) before).tasks.length
      ((authMachine refreshBuffer).run (AuthWorld.opened opening) before) := by
    refine ⟨revoked, fun index task late isTask => ?_⟩
    rw [List.getElem?_eq_none late] at isTask
    cases isTask
  have meets : (authMachine refreshBuffer).Meets (fun _ operation => Undeparted operation)
      ((authMachine refreshBuffer).run (AuthWorld.opened opening) before) later :=
    (authMachine refreshBuffer).meets_of_mem
      (fun operation member _ => undeparted operation (mem_append_right _ member)) _
  have keeps : ∀ world operation, World.Sound (conduct false) .idle (fun _ => True) Airspace world ∧
        Revoked refreshBuffer
          ((authMachine refreshBuffer).run (AuthWorld.opened opening) before).tasks.length world →
      Undeparted operation → World.Sound (conduct false) .idle (fun _ => True) Airspace
            ((authMachine refreshBuffer).next world operation) ∧
          Revoked refreshBuffer
            ((authMachine refreshBuffer).run (AuthWorld.opened opening) before).tasks.length
            ((authMachine refreshBuffer).next world operation) := by
    rintro world operation ⟨sound, stays⟩ admitted
    refine ⟨sound_next (airspace_upheld false) Airspace.enters sound admitted.1 ?_,
      stays.next sound admitted.1⟩
    exact fun task _ => storesWork_admits task admitted.2
  have ends := (authMachine refreshBuffer).invariant_run keeps ⟨begun, start⟩ meets
  rw [← Machine.run_append] at ends
  exact ⟨ends.2.state, fun index task late isTask => (ends.2.late index task late isTask).quiet⟩

instance (world : AuthWorld) (operation : AuthOperation × AuthInput) :
    Decidable (StepsAnew world operation) := by
  unfold StepsAnew
  split <;> infer_instance

/-- The device and the user start with refresh tokens of their own. -/
def AuthOpening.Apart (opening : AuthOpening) : Prop :=
  ∀ token ∈ refreshTokenOf opening.deviceTokens, refreshTokenOf opening.userTokens ≠ some token

theorem opened_rotation (apart : opening.Apart) :
    Rotation (AuthWorld.opened opening).shared [] := by
  refine ⟨List.Pairwise.nil, apart, ?_, ?_, ?_, ?_, ?_, ?_⟩ <;>
    simp [AuthWorld.opened, takenTokens]

theorem noReplay_of_anew (settled : opening.state ≠ .refreshInFlight)
    (apart : opening.Apart) {operations : List (AuthOperation × AuthInput)}
    (undeparted : ∀ operation ∈ operations, Undeparted operation)
    (anew : (authMachine refreshBuffer).Meets StepsAnew (AuthWorld.opened opening) operations) :
    NoReplay ((authMachine refreshBuffer).run (AuthWorld.opened opening) operations).shared.events := by
  have keeps : ∀ world operation, World.Sound (conduct false) .idle (fun _ => True) Rotating world →
      StepsAnew world operation ∧ Undeparted operation →
        World.Sound (conduct false) .idle (fun _ => True) Rotating
          ((authMachine refreshBuffer).next world operation) := by
    rintro world ⟨operation, input⟩ sound ⟨steps, stays, -⟩
    refine sound_next rotation_upheld Rotating.enters sound stays fun task isAdvance => ?_
    cases isAdvance
    exact steps
  have sound := (authMachine refreshBuffer).invariant_run keeps
    (.initial ⟨opened_airspace settled, opened_rotation apart⟩) (anew.and_of_mem _ undeparted)
  exact sound.holds.2.noReplay

/-- In every run that nobody leaves, flights are locked and a revocation holds; and no refresh
token is sent after its exchange, if the server hands out new tokens only, and some for every
user token that it takes. -/
theorem refresh_discipline (refreshBuffer : Int) (opening : AuthOpening)
    (settled : opening.state ≠ .refreshInFlight) (operations : List (AuthOperation × AuthInput))
    (undeparted : ∀ operation ∈ operations, Undeparted operation) :
    FlightsAreLocked ((authMachine refreshBuffer).run (AuthWorld.opened opening) operations) ∧
      RevocationHolds refreshBuffer opening operations ∧
      (opening.Apart →
        (authMachine refreshBuffer).Meets StepsAnew (AuthWorld.opened opening) operations →
          NoReplay
            ((authMachine refreshBuffer).run (AuthWorld.opened opening) operations).shared.events) :=
  ⟨Airspace.flightsAreLocked (run_sound settled undeparted), revocation_holds settled undeparted,
    fun apart anew => noReplay_of_anew settled apart undeparted anew⟩

def tokenPair (access refresh : String) (expiresAt : Int) : TokenPair where
  accessToken := access
  refreshToken := refresh
  expiresAt := expiresAt

def signedInAs (deviceTokens userTokens : TokenPair) : AuthOpening where
  deviceTokens := some deviceTokens
  userTokens := some userTokens
  deviceId := some "device"
  state := .authenticated "device"

def replying (status : Nat) (errorCode : Option String) (tokens : Option TokenPair) : AuthInput where
  now := 100
  storeFails := false
  writesAnyway := false
  reply := .ok
    { status := status
      errorCode := errorCode
      tokens := tokens
      message := none
      userId := none
      deviceId := none }

def asksForDays : CallerRequest where
  method := .get
  path := "/v1/days"
  jsonBody := none

/-- A task starts, and makes a number of calls under one input each. -/
def taskRun (task : Nat) (calls : List (Nat × AuthInput)) : List (AuthOperation × AuthInput) :=
  (.sendAuthenticated asksForDays, replying 200 none none) ::
    calls.flatMap fun call => List.replicate call.1 (.advance task, call.2)

def renewedRun : List (AuthOperation × AuthInput) :=
  taskRun 0 [(15, replying 200 none (some (tokenPair "a2" "d2" 1000)))]

/-- A call finds its tokens run out and exchanges them. -/
theorem renewed_tokens_are_not_replayed :
    FlightsAreLocked ((authMachine 60).run (AuthWorld.opened
        (signedInAs (tokenPair "a1" "d1" 0) (tokenPair "u" "u1" 1000))) renewedRun) ∧
      RevocationHolds 60 (signedInAs (tokenPair "a1" "d1" 0) (tokenPair "u" "u1" 1000))
        renewedRun ∧
      NoReplay ((authMachine 60).run (AuthWorld.opened
        (signedInAs (tokenPair "a1" "d1" 0) (tokenPair "u" "u1" 1000))) renewedRun).shared.events := by
  obtain ⟨locked, revocation, noReplay⟩ :=
    refresh_discipline 60 (signedInAs (tokenPair "a1" "d1" 0) (tokenPair "u" "u1" 1000)) (by decide)
      renewedRun (by simp [renewedRun, taskRun, Undeparted, replying])
  refine ⟨locked, revocation, noReplay ?_ ?_⟩
  · simp [AuthOpening.Apart, signedInAs, tokenPair, refreshTokenOf]
  · decide +kernel

/-- Two requests in turn are told that the device's tokens are revoked, and the exchange of the
user's tokens is answered without new ones. -/
def strandedRun : List (AuthOperation × AuthInput) :=
  let steps := [(5, replying 401 (some "device_token_revoked") none), (9, replying 200 none none)]
  taskRun 0 steps ++ taskRun 1 steps

def strandedWorld : AuthWorld :=
  (authMachine 60).run (AuthWorld.opened
    (signedInAs (tokenPair "a1" "d1" 1000) (tokenPair "u" "u1" 0))) strandedRun

/-- The second request sends the user's refresh token again, which the first has used up. -/
theorem user_token_is_replayed :
    (∀ operation ∈ strandedRun, Undeparted operation) ∧ ¬NoReplay strandedWorld.shared.events := by
  refine ⟨?_, ?_⟩
  · simp [strandedRun, taskRun, Undeparted, replying]
  · decide +kernel

end Discipline

end Velvt.Auth
