import Mathlib.Data.Finset.Insert
import Mathlib.Data.List.Triplewise
import Velvt.CardRows

/-!
# The id of a card

A card is known by an id that is drawn at random, and its set of counted entries is read back from
rows that go when their entries expire.
-/

namespace Velvt.CategoryLedger

open StepMachine List
open CategoryPrompts (CategoryPromptResponse)

/-- A card as it was returned: its id, and the keys it counts. -/
structure ReturnedCard where
  promptId : String
  counted : List String
  deriving DecidableEq

section Naming

/-- Every id stands for one set of keys, and once another id was returned it does not come back. -/
structure NamesOneSet (returned : List ReturnedCard) : Prop where
  oneSet : returned.Pairwise fun first second =>
    first.promptId = second.promptId → first.counted.toFinset = second.counted.toFinset
  gone : returned.Triplewise fun first between second =>
    first.promptId = second.promptId → between.promptId = first.promptId

/-- Two cards with one id and one set. -/
def SameCard (first second : ReturnedCard) : Prop :=
  first.promptId = second.promptId ∧ first.counted.toFinset = second.counted.toFinset

variable {returned : List ReturnedCard} {card : ReturnedCard}

theorem namesOneSet_nil : NamesOneSet [] where
  oneSet := .nil
  gone := .nil

theorem namesOneSet_concat : NamesOneSet (returned ++ [card]) ↔ NamesOneSet returned ∧
      (∀ other ∈ returned, other.promptId = card.promptId →
        other.counted.toFinset = card.counted.toFinset) ∧
      returned.Pairwise fun first between =>
        first.promptId = card.promptId → between.promptId = first.promptId := by
  constructor
  · rintro ⟨oneSet, gone⟩
    obtain ⟨sets, -, last⟩ := pairwise_append.mp oneSet
    obtain ⟨ids, -, -, lastId⟩ := triplewise_append.mp gone
    exact ⟨⟨sets, ids⟩, fun other member => last other member card mem_cons_self,
      lastId card mem_cons_self⟩
  · rintro ⟨⟨sets, ids⟩, last, lastId⟩
    constructor
    · refine pairwise_append.mpr ⟨sets, pairwise_singleton _ _, ?_⟩
      intro other member new isNew
      rw [mem_singleton.mp isNew]
      exact last other member
    · refine triplewise_append.mpr ⟨ids, triplewise_singleton _ _, ?_, ?_⟩
      · exact fun _ _ => pairwise_singleton _ _
      · intro new isNew
        rw [mem_singleton.mp isNew]
        exact lastId

theorem NamesOneSet.new (names : NamesOneSet returned)
    (fresh : ∀ other ∈ returned, other.promptId ≠ card.promptId) :
    NamesOneSet (returned ++ [card]) := by
  refine namesOneSet_concat.mpr ⟨names, ?_, ?_⟩
  · intro other member same
    exact absurd same (fresh other member)
  · apply pairwise_of_forall_mem_list
    intro first member _ _ same
    exact absurd same (fresh first member)

theorem NamesOneSet.again (names : NamesOneSet returned)
    (known : ∃ other ∈ returned, other.promptId = card.promptId) :
    NamesOneSet (returned ++ [card]) ↔ ∃ last ∈ returned.getLast?, SameCard last card := by
  obtain ⟨other, member, isId⟩ := known
  obtain rfl | ⟨init, last, rfl⟩ := eq_nil_or_concat' returned
  · cases member
  rw [namesOneSet_concat, List.getLast?_concat]
  have sets := (pairwise_append.mp names.oneSet).2.2
  have ids := (triplewise_append.mp names.gone).2.2.2
  constructor
  · rintro ⟨-, sameSet, sameId⟩
    have lastId : last.promptId = card.promptId := by
      rcases mem_append.mp member with earlier | isLast
      · have after := (pairwise_append.mp sameId).2.2 other earlier last mem_cons_self
        exact (after isId).trans isId
      · rwa [← mem_singleton.mp isLast]
    exact ⟨last, rfl, lastId, sameSet last (mem_append_right _ mem_cons_self) lastId⟩
  · rintro ⟨_, ⟨⟩, lastId, lastSet⟩
    refine ⟨names, ?_, ?_⟩
    · intro first firstIn same
      rcases mem_append.mp firstIn with earlier | isLast
      · rw [sets first earlier last mem_cons_self (same.trans lastId.symm), lastSet]
      · rw [mem_singleton.mp isLast, lastSet]
    · rw [← lastId]
      refine pairwise_append.mpr ⟨ids last mem_cons_self, pairwise_singleton _ _, ?_⟩
      intro first _ final isLast same
      rw [mem_singleton.mp isLast, same]

end Naming

/-- The ledger, and the cards that were returned. -/
structure CardHistory where
  ledger : PromptLedger
  returned : List ReturnedCard

/-- The calls of the repository that reach a card; one for a card comes with the id that it would
draw. -/
inductive CardCall
  | recordListed (entryKeys : List String) (instant : Int)
  | cardFor (counted uncounted : List String) (minted : String)
  | acknowledgePrompt (promptId : String) (response : CategoryPromptResponse) (instant : Int)
  | deleteExpiredEntries (cutoff : Int) (limit : Nat)
  | deleteExpiredNotifications (cutoff : Int) (limit : Nat)

namespace CardHistory

def initial : CardHistory where
  ledger := .empty
  returned := []

variable (history : CardHistory)

def returns (tables : CardTables) (card : ReturnedCard) : CardHistory where
  ledger := { history.ledger with tables := tables }
  returned := history.returned ++ [card]

def cardFor (counted uncounted : List String) (minted : String) : Option String × CardHistory :=
  match history.ledger.tables.cardFor counted uncounted minted with
  | none => (none, history)
  | some (promptId, tables) =>
    (some promptId, history.returns tables { promptId := promptId, counted := counted })

end CardHistory

/-- A call that fails changes nothing; the answer is the id of a card. -/
def cardMachine : Machine CardHistory CardCall (Option String) where
  step history
    | .recordListed entryKeys instant =>
      match history.ledger.tables.recordListed entryKeys instant with
      | none => (none, history)
      | some (_, tables) =>
        (none, { history with ledger := { history.ledger with tables := tables } })
    | .cardFor counted uncounted minted => history.cardFor counted uncounted minted
    | .acknowledgePrompt promptId response instant =>
      (none, { history with ledger := history.ledger.acknowledge promptId response instant })
    | .deleteExpiredEntries cutoff limit =>
      (none, { history with ledger :=
        { history.ledger with
          tables := history.ledger.tables.deleteExpiredEntries cutoff limit } })
    | .deleteExpiredNotifications cutoff limit =>
      (none, { history with ledger :=
        { history.ledger with
          notifications := history.ledger.notifications.deleteExpired cutoff limit } })

section Known

variable {history : CardHistory} {minted : String}

/-- The stored rows are of cards that were returned. -/
def Known (history : CardHistory) : Prop :=
  ∀ row ∈ history.ledger.tables.cards, ∃ card ∈ history.returned, card.promptId = row.promptId

theorem known_initial : Known .initial := by
  intro row member
  cases member

/-- The id that a call draws is not that of a card that was returned. -/
def DrawsNew (history : CardHistory) : CardCall → Prop
  | .cardFor _ _ minted => ∀ card ∈ history.returned, card.promptId ≠ minted
  | _ => True

theorem Known.returned_of_latest (known : Known history) {latest : String}
    (isLatest : history.ledger.tables.latestCard = some latest) :
    ∃ card ∈ history.returned, card.promptId = latest := by
  obtain ⟨row, isLast, rfl⟩ := Option.map_eq_some_iff.mp isLatest
  exact known row (mem_of_getLast? isLast)

theorem Known.of_rows (known : Known history) {ledger : PromptLedger}
    (rows : ∀ row ∈ ledger.tables.cards, row ∈ history.ledger.tables.cards) :
    Known { history with ledger := ledger } :=
  fun row member => known row (rows row member)

theorem Known.cardFor (known : Known history) (counted uncounted : List String)
    (minted : String) : Known (history.cardFor counted uncounted minted).2 := by
  rw [CardHistory.cardFor]
  split
  next => exact known
  next promptId tables isCard =>
    intro row member
    rcases (cardFor_eq_some isCard).2.mem row member with old | new
    · obtain ⟨card, isReturned, isId⟩ := known row old
      exact ⟨card, mem_append_left _ isReturned, isId⟩
    · exact ⟨_, mem_append_right _ mem_cons_self, new.symm⟩

theorem Known.next (history : CardHistory) (call : CardCall) (known : Known history) :
    Known (cardMachine.next history call) := by
  cases call with
  | recordListed entryKeys instant =>
    unfold Machine.next cardMachine
    dsimp only
    split
    · exact known
    next entries tables isRecorded =>
      obtain ⟨recorded, -, same⟩ := Option.map_eq_some_iff.mp isRecorded
      obtain ⟨-, rfl⟩ := Prod.mk.inj same
      exact known.of_rows fun row member => member
  | cardFor counted uncounted minted => exact known.cardFor counted uncounted minted
  | acknowledgePrompt promptId response instant => exact known.of_rows fun row member => member
  | deleteExpiredEntries cutoff limit =>
    exact known.of_rows fun row member => mem_of_mem_filter member
  | deleteExpiredNotifications cutoff limit => exact known.of_rows fun row member => member

/-- The card that was returned last is the latest one, with its rows. -/
def ReturnedWhole (history : CardHistory) : Prop :=
  ∃ last ∈ history.returned.getLast?, Counts history.ledger.tables last.promptId last.counted

/-- A card is reused only while the card that was returned last is whole. -/
def ReusesWhole (history : CardHistory) : CardCall → Prop
  | .cardFor counted uncounted _ =>
    Reuses history.ledger.tables counted uncounted → ReturnedWhole history
  | _ => True

theorem returnedWhole_iff {promptId : String} {counted : List String}
    (counts : Counts history.ledger.tables promptId counted) :
    (∃ last ∈ history.returned.getLast?,
      SameCard last { promptId := promptId, counted := counted }) ↔ ReturnedWhole history := by
  have isSet := of_decide_eq_true counts.2
  apply exists_congr
  intro last
  apply and_congr_right
  intro _
  constructor
  · rintro ⟨rfl, same⟩
    exact ⟨counts.1, decide_eq_true (isSet.trans same.symm)⟩
  · rintro ⟨isLatest, isLastSet⟩
    have sameId : last.promptId = promptId := Option.some.inj (isLatest.symm.trans counts.1)
    refine ⟨sameId, ?_⟩
    rw [← isSet, ← of_decide_eq_true isLastSet, sameId]

theorem namesOneSet_next (known : Known history) (names : NamesOneSet history.returned)
    {call : CardCall} (draws : DrawsNew history call) :
    NamesOneSet (cardMachine.next history call).returned ↔ ReusesWhole history call := by
  cases call with
  | recordListed entryKeys instant =>
    unfold Machine.next cardMachine
    dsimp only
    split <;> exact iff_of_true names trivial
  | acknowledgePrompt promptId response instant => exact iff_of_true names trivial
  | deleteExpiredEntries cutoff limit => exact iff_of_true names trivial
  | deleteExpiredNotifications cutoff limit => exact iff_of_true names trivial
  | cardFor counted uncounted minted =>
    show NamesOneSet (history.cardFor counted uncounted minted).2.returned ↔
      (Reuses history.ledger.tables counted uncounted → ReturnedWhole history)
    rw [CardHistory.cardFor]
    split
    next isNone =>
      exact iff_of_true names fun reuses => absurd isNone (cardFor_of_reuses reuses)
    next promptId tables isCard =>
      have isRows := (cardFor_eq_some isCard).2
      generalize tables.cards = cards at isRows
      cases isRows with
      | reused counts reuses below all =>
        have again := @NamesOneSet.again _ ⟨promptId, counted⟩ names
          (known.returned_of_latest counts.1)
        rw [CardHistory.returns, again, returnedWhole_iff counts]
        exact ⟨fun whole _ => whole, fun keeps => keeps reuses⟩
      | minted none_counts below all =>
        refine iff_of_true (names.new draws) fun reuses => ?_
        obtain ⟨latest, counts, -⟩ := reuses
        exact absurd counts (none_counts latest)

end Known

/-- Every card id names one set, and none comes back, exactly in the runs that reuse a card only
while the card returned last is the latest one and has all its counted rows. -/
theorem card_id_names_one_set_iff (calls : List CardCall)
    (drawsNew : cardMachine.Meets DrawsNew .initial calls) :
    (∀ earlier, earlier <+: calls →
        NamesOneSet (cardMachine.run .initial earlier).returned) ↔
      cardMachine.Meets ReusesWhole .initial calls :=
  cardMachine.forall_prefix_iff_meets_of_admitted
    (fun history call known _ => Known.next history call known)
    (fun _ _ known draws names => namesOneSet_next known names draws) known_initial
    namesOneSet_nil drawsNew

def siteKey (digit : Char) : String := "site:" ++ String.ofList (List.replicate 64 digit)

def drawnId (digit : Char) : String := String.ofList (List.replicate 64 digit)

def repeatedCalls : List CardCall :=
  [.recordListed [siteKey 'a', siteKey 'b'] 0,
    .cardFor [siteKey 'a', siteKey 'b'] [] (drawnId '1'),
    .cardFor [siteKey 'b', siteKey 'a'] [] (drawnId '2')]

/-- The same entries in another order are the same card. -/
theorem repeated_card_keeps_its_id :
    NamesOneSet (cardMachine.run .initial repeatedCalls).returned := by
  have drawsNew : cardMachine.Meets DrawsNew .initial repeatedCalls := by
    refine ⟨trivial, ?_, ?_, trivial⟩
    · intro card member
      cases member
    · unfold DrawsNew
      decide +kernel
  refine (card_id_names_one_set_iff repeatedCalls drawsNew).mpr ⟨trivial, ?_, ?_, trivial⟩
    repeatedCalls (prefix_refl _)
  · rintro ⟨latest, counts, -⟩
    cases counts.1
  · intro _
    refine ⟨{ promptId := drawnId '1', counted := [siteKey 'a', siteKey 'b'] }, ?_, ?_, ?_⟩ <;>
      decide +kernel

def expiringCalls : List CardCall :=
  [.recordListed [siteKey 'a', siteKey 'b'] 0,
    .cardFor [siteKey 'a', siteKey 'b'] [] (drawnId '1'),
    .recordListed [siteKey 'a'] (Duration.days 10),
    .deleteExpiredEntries (Duration.days 1) 100,
    .cardFor [siteKey 'a'] [] (drawnId '2')]

/-- The id of the card for both entries is returned for one of them. -/
theorem expired_entry_leaves_its_id :
    cardMachine.Meets DrawsNew .initial expiringCalls ∧
      (cardMachine.run .initial expiringCalls).returned =
        [{ promptId := drawnId '1', counted := [siteKey 'a', siteKey 'b'] },
          { promptId := drawnId '1', counted := [siteKey 'a'] }] ∧
      ¬ NamesOneSet (cardMachine.run .initial expiringCalls).returned := by
  have returned : (cardMachine.run .initial expiringCalls).returned =
      [{ promptId := drawnId '1', counted := [siteKey 'a', siteKey 'b'] },
        { promptId := drawnId '1', counted := [siteKey 'a'] }] := by
    decide +kernel
  refine ⟨⟨trivial, ?_, trivial, trivial, ?_, trivial⟩, returned, ?_⟩
  · intro card member
    cases member
  · unfold DrawsNew
    decide +kernel
  · rw [returned]
    intro names
    have sets := (pairwise_cons.mp names.oneSet).1 _ mem_cons_self rfl
    exact absurd sets (by decide +kernel)

end Velvt.CategoryLedger
