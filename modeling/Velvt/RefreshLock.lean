import Velvt.RefreshConduct

/-!
# What the refresh lock guards

Only the holder of the refresh lock puts the state in flight, takes it back to the authenticated
state, and has tokens in hand.
-/

namespace Velvt.Auth

open StepMachine TaskPrograms List

section Airspace

/-- What a task has read or been handed goes with the lock. -/
structure Standing.Sensible (state : Standing) : Prop where
  flying : state.flying = true → state.holds = true
  exchanged : state.exchanged = true → state.flying = true
  inHand : state.inHand ≠ none → state.flying = true
  userInHand : state.userInHand ≠ none → state.holds = true ∧ state.flying = false
  device : state.device ≠ none → state.holds = true
  user : state.user ≠ none → state.holds = true

theorem Standing.Sensible.empty {state : Standing} (sensible : state.Sensible)
    (free : state.holds = false) :
    state.device = none ∧ state.user = none ∧ state.flying = false ∧ state.inHand = none ∧
      state.userInHand = none := by
  have landed : state.flying = false := by
    by_contra flies
    rw [Bool.not_eq_false] at flies
    rw [sensible.flying flies] at free
    cases free
  refine ⟨?_, ?_, landed, ?_, ?_⟩ <;> by_contra something
  · rw [sensible.device something] at free
    cases free
  · rw [sensible.user something] at free
    cases free
  · rw [sensible.inHand something] at landed
    cases landed
  · rw [(sensible.userInHand something).1] at free
    cases free

theorem idle_sensible : Standing.idle.Sensible := by
  constructor <;> simp [Standing.idle]

/-- The state is in flight only while a task flies, which holds the lock; and while a task flies
no other leads back to the authenticated state. -/
structure Airspace (shared : AuthShared) (standings : List Standing) : Prop where
  held : HeldOnce (·.holds) shared.refreshLocked standings
  sensible : ∀ state ∈ standings, state.Sensible
  inFlight : shared.state = .refreshInFlight → ∃ state ∈ standings, state.flying = true
  grounded : ∀ state ∈ standings, state.flying = true → ∀ deviceId,
    shared.state ≠ .authenticated deviceId

variable {departs : Bool} {shared after : AuthShared} {standings : List Standing} {index : Nat}
  {state next : Standing} {Answer : Type}

variable {other : Standing}

section

variable (airspace : Airspace shared standings) (isState : standings[index]? = some state)

include airspace isState

theorem Airspace.only (holds : state.holds = true)
    (member : other ∈ standings) (otherHolds : other.holds = true) : other = state := by
  obtain ⟨place, isPlace⟩ := mem_iff_getElem?.mp member
  have same := airspace.held.unique place index other state isPlace isState otherHolds holds
  rw [same, isState] at isPlace
  exact (Option.some.inj isPlace).symm

theorem Airspace.alone (holds : state.holds = true)
    (member : other ∈ standings) (flying : other.flying = true) : other = state :=
  airspace.only isState holds member ((airspace.sensible other member).flying flying)

theorem Airspace.others (holds : state.holds = true)
    (member : other ∈ standings.set index next) : other = next ∨ other.holds = false := by
  obtain ⟨place, isPlace⟩ := mem_iff_getElem?.mp member
  rcases getElem?_set_cases isPlace with ⟨-, rfl⟩ | ⟨apart, before⟩
  · exact Or.inl rfl
  · refine Or.inr ?_
    by_contra otherHolds
    rw [Bool.not_eq_false] at otherHolds
    exact apart (airspace.held.unique place index other state before isState otherHolds holds)

theorem Airspace.forall_set (holds : state.holds = true) {P : Standing → Prop}
    (isNext : P next)
    (idle : ∀ other : Standing, other.device = none → other.user = none → other.flying = false →
      other.inHand = none → other.userInHand = none → P other) :
    ∀ other ∈ standings.set index next, P other := by
  intro other member
  rcases airspace.others isState holds member with rfl | free
  · exact isNext
  · rcases mem_or_eq_of_mem_set member with before | rfl
    · obtain ⟨device, user, flying, inHand, userInHand⟩ :=
        (airspace.sensible other before).empty free
      exact idle other device user flying inHand userInHand
    · exact isNext

theorem Airspace.kept_of_held (sameState : after.state = shared.state)
    (held : HeldOnce (·.holds) after.refreshLocked (standings.set index next))
    (flying : next.flying = state.flying) (sensible : next.Sensible) :
    Airspace after (standings.set index next) := by
  have known := mem_of_getElem? isState
  constructor
  · exact held
  · exact forall_mem_set airspace.sensible sensible
  · intro inFlight
    rw [sameState] at inFlight
    exact exists_mem_set isState (airspace.inFlight inFlight) flying.trans
  · intro other member flies deviceId
    rw [sameState]
    rcases mem_or_eq_of_mem_set member with before | rfl
    · exact airspace.grounded other before flies deviceId
    · exact airspace.grounded state known (flying ▸ flies) deviceId

theorem Airspace.kept (sameState : after.state = shared.state)
    (sameLock : after.refreshLocked = shared.refreshLocked) (holds : next.holds = state.holds)
    (flying : next.flying = state.flying) (sensible : next.Sensible) :
    Airspace after (standings.set index next) := by
  refine airspace.kept_of_held isState sameState ?_ flying sensible
  rw [sameLock]
  exact airspace.held.set_kept isState fun had => holds ▸ had

end

variable {target : AuthState}

theorem not_inFlight_of_refused (refused : validTransition shared.state target = false) :
    shared.state ≠ .refreshInFlight := by
  intro inFlight
  rw [inFlight] at refused
  cases target <;> simp [validTransition] at refused

section

variable (airspace : Airspace shared standings) (isState : standings[index]? = some state)

include airspace isState

theorem Airspace.landed (elsewhere : target ≠ .refreshInFlight)
    (authenticates : ∀ deviceId, target = .authenticated deviceId → state.flying = true)
    (holds : next.holds = state.holds) (flying : next.flying = false) (sensible : next.Sensible) :
    Airspace (shared.transition target).2 (standings.set index next) := by
  have known := mem_of_getElem? isState
  have held : HeldOnce (·.holds) shared.refreshLocked (standings.set index next) :=
    airspace.held.set_kept isState fun had => holds ▸ had
  have sensibles : ∀ other ∈ standings.set index next, other.Sensible :=
    forall_mem_set airspace.sensible sensible
  cases valid : validTransition shared.state target with
  | true =>
    simp only [AuthShared.transition, valid, if_true]
    refine ⟨held, sensibles, fun inFlight => absurd inFlight elsewhere, ?_⟩
    intro other member flies deviceId isTarget
    have flew := authenticates deviceId isTarget
    have had := (airspace.sensible state known).flying flew
    rcases airspace.others isState had member with rfl | free
    · rw [flying] at flies
      cases flies
    · rw [(sensibles other member).flying flies] at free
      cases free
  | false =>
    simp only [AuthShared.transition, valid]
    refine ⟨held, sensibles, fun inFlight => absurd inFlight (not_inFlight_of_refused valid), ?_⟩
    intro other member flies
    rcases mem_or_eq_of_mem_set member with before | rfl
    · exact airspace.grounded other before flies
    · rw [flying] at flies
      cases flies

theorem Airspace.takesOff (holds : state.holds = true)
    (idle : state.flying = false) (valid : validTransition shared.state .refreshInFlight = true) :
    ∃ deviceId, shared.state = .authenticated deviceId := by
  cases current : shared.state with
  | authenticated deviceId => exact ⟨deviceId, rfl⟩
  | refreshInFlight =>
    obtain ⟨flier, member, flies⟩ := airspace.inFlight current
    rw [airspace.alone isState holds member flies, idle] at flies
    cases flies
  | unauthenticated => simp [current, validTransition] at valid
  | needsReauth => simp [current, validTransition] at valid
  | deviceRevoked => simp [current, validTransition] at valid

theorem Airspace.tookOff (ready : state.Grounded) {signedOut : Bool} :
    Airspace { shared with state := .refreshInFlight, signedOut := signedOut }
      (standings.set index { state with flying := true }) := by
  have known := mem_of_getElem? isState
  have sensible := airspace.sensible state known
  have bound := (List.getElem?_eq_some_iff.mp isState).1
  constructor
  · exact airspace.held.set_kept isState fun had => had
  · exact forall_mem_set airspace.sensible ⟨fun _ => ready.holds, fun _ => rfl, fun _ => rfl,
      fun handed => absurd ready.userInHand handed, sensible.device, sensible.user⟩
  · exact fun _ => ⟨_, mem_of_getElem? (List.getElem?_set_self bound), rfl⟩
  · exact fun _ _ _ _ => nofun

end

/-- By the calls that are allowed in each standing. -/
theorem conducts_sensible {operation : AuthCall Answer} {answer : Answer}
    (sensible : state.Sensible) (conducted : operation.Conducted departs state) :
    (operation.conducts state answer).Sensible := by
  cases operation with
  | loadTokens =>
    cases answer with
    | error error => exact sensible
    | ok stored =>
      simp only [AuthCall.conducts]
      split
      next holds => exact { sensible with device := fun _ => holds }
      next => exact sensible
  | loadUserTokens =>
    cases answer with
    | error error => exact sensible
    | ok stored =>
      simp only [AuthCall.conducts]
      split
      next holds => exact { sensible with user := fun _ => holds }
      next => exact sensible
  | storePair tokens =>
    cases answer with
    | error error => exact sensible
    | ok stored =>
      exact { sensible with
        exchanged := nofun
        inHand := fun handed => absurd rfl handed
        device := fun read => absurd rfl read }
  | storeUserPair tokens =>
    cases answer with
    | error error => exact sensible
    | ok stored =>
      exact { sensible with
        userInHand := fun handed => absurd rfl handed
        user := fun read => absurd rfl read }
  | clearTokens =>
    cases answer with
    | error error => exact sensible
    | ok stored => exact { sensible with }
  | clearUserTokens =>
    cases answer with
    | error error => exact sensible
    | ok stored => exact { sensible with }
  | transition target =>
    have landed : state.landed.Sensible :=
      ⟨nofun, nofun, fun handed => absurd rfl handed,
        fun handed => ⟨(sensible.userInHand handed).1, rfl⟩, sensible.device, sensible.user⟩
    cases target with
    | unauthenticated => exact { sensible with }
    | authenticated deviceId => exact landed
    | needsReauth => exact landed
    | deviceRevoked => exact landed
    | refreshInFlight =>
      cases answer with
      | error error => exact sensible
      | ok moved =>
        have ready : state.Grounded := conducted
        exact ⟨fun _ => ready.holds, fun _ => rfl, fun _ => rfl,
          fun handed => absurd ready.userInHand handed, sensible.device, sensible.user⟩
  | lockRefresh =>
    have idle : state = .idle := conducted
    subst idle
    constructor <;> simp [AuthCall.conducts, Standing.idle]
  | unlockRefresh => exact idle_sensible
  | receive request =>
    simp only [AuthCall.conducts, Standing.received]
    split
    · exact sensible
    · split
      · have asked : state.MayRequest request := conducted
        unfold Standing.MayRequest at asked
        split at asked
        next token isToken =>
          split
          next flying =>
            exact { sensible with
              exchanged := fun _ => flying
              inHand := fun _ => flying }
          next landed =>
            rw [Bool.not_eq_true] at landed
            rcases asked.2 with ⟨flying, -, -⟩ | ⟨holds, -, -, -⟩
            · rw [landed] at flying
              cases flying
            · exact { sensible with userInHand := fun _ => ⟨holds, landed⟩ }
        next isNone =>
          split
          next flying => exact { sensible with inHand := fun _ => flying }
          next => exact sensible
      · exact sensible
  | storeDeviceId deviceId => exact absurd conducted id
  | clearDeviceId => exact absurd conducted id
  | utcNow | loadDeviceId | currentState | send request | returnLogOut => exact sensible

theorem received_holds {request : HttpRequest} {reply : Except AuthError HttpResponse} :
    (state.received request reply).holds = state.holds := by
  unfold Standing.received
  split
  · rfl
  · split
    · split <;> split <;> rfl
    · rfl

theorem received_flying {request : HttpRequest} {reply : Except AuthError HttpResponse} :
    (state.received request reply).flying = state.flying := by
  unfold Standing.received
  split
  · rfl
  · split
    · split <;> split <;> rfl
    · rfl

variable {input : AuthInput}

variable {answer : Except AuthError Unit}

theorem store_cases {written : AuthShared}
    (handled : shared.store input written = some (answer, after)) :
    (answer = .ok () ∧ after = written ∧ input.storeFails = false) ∨
      ((∃ error, answer = .error error) ∧ input.storeFails = true ∧
        (after = written ∨ after = shared)) := by
  unfold AuthShared.store at handled
  split at handled
  next fails =>
    obtain ⟨rfl, rfl⟩ := Prod.mk.inj (Option.some.inj handled)
    refine Or.inr ⟨⟨_, rfl⟩, fails, ?_⟩
    split
    · exact Or.inl rfl
    · exact Or.inr rfl
  next works =>
    obtain ⟨rfl, rfl⟩ := Prod.mk.inj (Option.some.inj handled)
    exact Or.inl ⟨rfl, rfl, by simpa using works⟩

theorem load_cases {Value : Type} {value : Value} {answer : Except AuthError Value}
    (handled : shared.load input value = some (answer, after)) :
    after = shared ∧ ((∃ error, answer = .error error) ∨ answer = .ok value) := by
  unfold AuthShared.load at handled
  split at handled
  · obtain ⟨rfl, rfl⟩ := Prod.mk.inj (Option.some.inj handled)
    exact ⟨rfl, Or.inl ⟨_, rfl⟩⟩
  · obtain ⟨rfl, rfl⟩ := Prod.mk.inj (Option.some.inj handled)
    exact ⟨rfl, Or.inr rfl⟩

theorem transition_cases
    (handled : performAuth _ input shared (.transition target) = some (answer, after)) :
    (answer = .ok () ∧ validTransition shared.state target = true ∧ after = { shared with
          state := target
          signedOut := shared.signedOut || target == .unauthenticated }) ∨
      (answer = .error .transition ∧ validTransition shared.state target = false ∧
        after = shared) := by
  have moved : shared.transition target = (answer, after) := Option.some.inj handled
  unfold AuthShared.transition at moved
  split at moved
  next valid =>
    obtain ⟨rfl, rfl⟩ := Prod.mk.inj moved
    exact Or.inl ⟨rfl, valid, rfl⟩
  next refused =>
    obtain ⟨rfl, rfl⟩ := Prod.mk.inj moved
    exact Or.inr ⟨rfl, by simpa using refused, rfl⟩

theorem transition_eq
    (handled : performAuth _ input shared (.transition target) = some (answer, after)) :
    after = (shared.transition target).2 :=
  (congrArg Prod.snd (Option.some.inj handled)).symm

/-- Each call leaves the state in flight only while a task flies. -/
theorem Airspace.step (airspace : Airspace shared standings)
    (isState : standings[index]? = some state) {operation : AuthCall Answer} {answer : Answer}
    (conducted : operation.Conducted departs state)
    (handled : performAuth Answer input shared operation = some (answer, after)) :
    Airspace after (standings.set index (operation.conducts state answer)) := by
  have sensible : (operation.conducts state answer).Sensible :=
    conducts_sensible (airspace.sensible state (mem_of_getElem? isState)) conducted
  have loaded {Value : Type} {value : Value} {reply : Except AuthError Value}
      (isLoaded : shared.load input value = some (reply, after)) :
      after.state = shared.state ∧ after.refreshLocked = shared.refreshLocked := by
    rw [(load_cases isLoaded).1]
    exact ⟨rfl, rfl⟩
  have stored {written : AuthShared} {reply : Except AuthError Unit}
      (isStored : shared.store input written = some (reply, after))
      (sameState : written.state = shared.state)
      (sameLock : written.refreshLocked = shared.refreshLocked) :
      after.state = shared.state ∧ after.refreshLocked = shared.refreshLocked := by
    rcases store_cases isStored with ⟨-, rfl, -⟩ | ⟨-, -, rfl | rfl⟩
    · exact ⟨sameState, sameLock⟩
    · exact ⟨sameState, sameLock⟩
    · exact ⟨rfl, rfl⟩
  cases operation with
  | utcNow | currentState | returnLogOut | send request =>
    cases handled
    exact airspace.kept isState rfl rfl rfl rfl sensible
  | loadDeviceId =>
    obtain ⟨sameState, sameLock⟩ := loaded handled
    exact airspace.kept isState sameState sameLock rfl rfl sensible
  | loadTokens =>
    obtain ⟨sameState, sameLock⟩ := loaded handled
    refine airspace.kept isState sameState sameLock ?_ ?_ sensible <;>
      cases answer <;> simp only [AuthCall.conducts] <;> split <;> rfl
  | loadUserTokens =>
    obtain ⟨sameState, sameLock⟩ := loaded handled
    refine airspace.kept isState sameState sameLock ?_ ?_ sensible <;>
      cases answer <;> simp only [AuthCall.conducts] <;> split <;> rfl
  | storePair tokens =>
    obtain ⟨sameState, sameLock⟩ := stored handled rfl rfl
    refine airspace.kept isState sameState sameLock ?_ ?_ sensible <;> cases answer <;> rfl
  | storeUserPair tokens =>
    obtain ⟨sameState, sameLock⟩ := stored handled rfl rfl
    refine airspace.kept isState sameState sameLock ?_ ?_ sensible <;> cases answer <;> rfl
  | clearTokens =>
    obtain ⟨sameState, sameLock⟩ := stored handled rfl rfl
    refine airspace.kept isState sameState sameLock ?_ ?_ sensible <;> cases answer <;> rfl
  | clearUserTokens =>
    obtain ⟨sameState, sameLock⟩ := stored handled rfl rfl
    refine airspace.kept isState sameState sameLock ?_ ?_ sensible <;> cases answer <;> rfl
  | storeDeviceId deviceId => exact absurd conducted id
  | clearDeviceId => exact absurd conducted id
  | lockRefresh =>
    simp only [performAuth] at handled
    split at handled
    · cases handled
    next free =>
      cases handled
      refine airspace.kept_of_held isState rfl ?_ rfl sensible
      have held := airspace.held
      rw [Bool.not_eq_true] at free
      rw [free] at held
      exact held.set_taken
  | unlockRefresh =>
    cases handled
    have ready : state.Grounded := conducted
    exact airspace.kept_of_held isState rfl (airspace.held.set_released isState ready.holds rfl)
      ready.flying.symm sensible
  | receive request =>
    cases handled
    exact airspace.kept isState rfl rfl received_holds received_flying sensible
  | transition target =>
    cases target with
    | unauthenticated =>
      have free : state.holds = false := conducted.2
      have landed : state.flying = false :=
        ((airspace.sensible state (mem_of_getElem? isState)).empty free).2.2.1
      rw [transition_eq handled]
      exact airspace.landed isState nofun nofun rfl landed sensible
    | authenticated deviceId =>
      rw [transition_eq handled]
      exact airspace.landed isState nofun (fun _ _ => conducted.1) rfl rfl sensible
    | needsReauth =>
      rw [transition_eq handled]
      exact airspace.landed isState nofun nofun rfl rfl sensible
    | deviceRevoked =>
      rw [transition_eq handled]
      exact airspace.landed isState nofun nofun rfl rfl sensible
    | refreshInFlight =>
      rcases transition_cases handled with ⟨rfl, -, rfl⟩ | ⟨rfl, -, rfl⟩
      · exact airspace.tookOff isState conducted
      · exact airspace.kept isState rfl rfl rfl rfl sensible

end Airspace

end Velvt.Auth
