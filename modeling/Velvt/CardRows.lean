import Velvt.CategoryPromptLedger

/-!
# The rows of a card

A call for a card reuses the latest one, or mints one and keeps the rows of the latest next to its
own.
-/

namespace Velvt.CategoryLedger

open List Option

section Rows

variable {entries : List CategoryPromptEntry} {cards later : List CategoryPromptCardEntry}
  {keys : List String} {promptId : String}

def Recorded (entries : List CategoryPromptEntry) (key : String) : Prop :=
  ∃ entry ∈ entries, entry.entryKey = key

/-- The entry has a row under the card. -/
def Filed (cards : List CategoryPromptCardEntry) (promptId key : String) : Prop :=
  ∃ row ∈ cards, row.promptId = promptId ∧ row.entryKey = key

theorem filed_append {others : List CategoryPromptCardEntry} {key : String} :
    Filed (cards ++ others) promptId key ↔
      Filed cards promptId key ∨ Filed others promptId key := by
  simp only [Filed, mem_append, or_and_right, exists_or]

def countedRow (promptId key : String) : CategoryPromptCardEntry where
  promptId := promptId
  entryKey := key
  counted := true

/-- Rows of a card for entries that it does not count. -/
structure Below (promptId : String) (keys : List String) (rows : List CategoryPromptCardEntry) :
    Prop where
  card : ∀ row ∈ rows, row.promptId = promptId
  uncounted : ∀ row ∈ rows, row.counted = false
  listed : ∀ row ∈ rows, row.entryKey ∈ keys

theorem fileCounted_eq (isFiled : fileCounted entries promptId keys cards = some later) :
    later = cards ++ keys.map (countedRow promptId) := by
  induction keys generalizing cards with
  | nil => simpa using (Option.some.inj isFiled).symm
  | cons key keys ih =>
    rw [fileCounted] at isFiled
    split at isFiled
    · rw [ih isFiled, append_assoc, map_cons, singleton_append, countedRow]
    · cases isFiled

theorem fileUncounted_eq (isFiled : fileUncounted entries promptId keys cards = some later) :
    ∃ rows, later = cards ++ rows ∧ Below promptId keys rows ∧
      ∀ key ∈ keys, Filed later promptId key := by
  induction keys generalizing cards with
  | nil =>
    obtain rfl := Option.some.inj isFiled
    exact ⟨[], by simp, ⟨by simp, by simp, by simp⟩, by simp⟩
  | cons key keys ih =>
    rw [fileUncounted] at isFiled
    split at isFiled
    next already =>
      obtain ⟨rows, rfl, below, all⟩ := ih isFiled
      have isListed : ∀ row ∈ rows, row.entryKey ∈ key :: keys :=
        fun row member => mem_cons_of_mem _ (below.listed row member)
      refine ⟨rows, rfl, ⟨below.card, below.uncounted, isListed⟩, ?_⟩
      exact forall_mem_cons.mpr ⟨filed_append.mpr (Or.inl (by simpa [Filed] using already)), all⟩
    next =>
      split at isFiled
      · obtain ⟨rows, rfl, below, all⟩ := ih isFiled
        refine ⟨{ promptId := promptId, entryKey := key, counted := false } :: rows, ?_,
          ⟨?_, ?_, ?_⟩, ?_⟩
        · rw [append_assoc, singleton_append]
        · exact forall_mem_cons.mpr ⟨rfl, below.card⟩
        · exact forall_mem_cons.mpr ⟨rfl, below.uncounted⟩
        · exact forall_mem_cons.mpr ⟨mem_cons_self,
            fun row member => mem_cons_of_mem _ (below.listed row member)⟩
        · refine forall_mem_cons.mpr ⟨?_, all⟩
          exact ⟨_, mem_append_left _ (mem_append_right _ mem_cons_self), rfl, rfl⟩
      · cases isFiled

/-- A key may be filed below the counted ones if it is on record, or filed already. -/
def MayFile (entries : List CategoryPromptEntry) (promptId : String)
    (cards : List CategoryPromptCardEntry) (key : String) : Prop :=
  Recorded entries key ∨ Filed cards promptId key

theorem mayFile_concat {key other : String} (recorded : Recorded entries key) :
    MayFile entries promptId
        (cards ++ [{ promptId := promptId, entryKey := key, counted := false }]) other ↔
      MayFile entries promptId cards other := by
  constructor
  · rintro (onRecord | filed)
    · exact Or.inl onRecord
    · rcases filed_append.mp filed with old | ⟨row, new, -, isKey⟩
      · exact Or.inr old
      · rw [mem_singleton.mp new] at isKey
        exact Or.inl (isKey ▸ recorded)
  · rintro (onRecord | filed)
    · exact Or.inl onRecord
    · exact Or.inr (filed_append.mpr (Or.inl filed))

theorem fileUncounted_isSome_iff : (fileUncounted entries promptId keys cards).isSome = true ↔
      ∀ key ∈ keys, MayFile entries promptId cards key := by
  induction keys generalizing cards with
  | nil => simp [fileUncounted]
  | cons key keys ih =>
    rw [fileUncounted, forall_mem_cons]
    split
    next filed =>
      have may : MayFile entries promptId cards key := Or.inr (by simpa [Filed] using filed)
      rw [ih, and_iff_right may]
    next unfiled =>
      split
      next onRecord =>
        have recorded : Recorded entries key := by simpa [Recorded] using onRecord
        have may : MayFile entries promptId cards key := Or.inl recorded
        rw [ih, and_iff_right may]
        simp only [mayFile_concat recorded]
      next unknown =>
        have mayNot : ¬ MayFile entries promptId cards key := by
          rintro (recorded | filed)
          · exact unknown (by simpa [Recorded] using recorded)
          · exact unfiled (by simpa [Filed] using filed)
        simp [mayNot]

end Rows

section Cards

variable {tables filed : CardTables} {counted uncounted : List String} {promptId minted : String}

/-- The latest card counts exactly some keys. -/
def Counts (tables : CardTables) (latest : String) (counted : List String) : Prop :=
  tables.latestCard = some latest ∧ tables.countsExactly latest counted = true

theorem cardFor_of_counts {latest : String} (counts : Counts tables latest counted) :
    tables.cardFor counted uncounted minted =
      (fileUncounted tables.entries latest uncounted tables.cards).map fun cards =>
        (latest, { tables with cards := cards }) := by
  rw [CardTables.cardFor, counts.1]
  simp only [counts.2, if_true, bind_some]

theorem cardFor_of_not_counts (none_counts : ∀ latest, ¬ Counts tables latest counted) :
    tables.cardFor counted uncounted minted = (tables.mintCard counted minted).bind fun filed =>
        (fileUncounted filed.entries minted uncounted filed.cards).map fun cards =>
          (minted, { filed with cards := cards }) := by
  rw [CardTables.cardFor]
  cases isLatest : tables.latestCard with
  | none =>
    simp only [map_eq_bind, bind_assoc]
    rfl
  | some latest =>
    have differs : ¬ tables.countsExactly latest counted = true :=
      fun counts => none_counts latest ⟨isLatest, counts⟩
    simp only [differs, Bool.false_eq_true, if_false, map_eq_bind, bind_assoc]
    rfl

/-- The call finds the latest card counting exactly its keys, and can file the others. -/
def Reuses (tables : CardTables) (counted uncounted : List String) : Prop :=
  ∃ latest, Counts tables latest counted ∧
    ∀ key ∈ uncounted, MayFile tables.entries latest tables.cards key

theorem cardFor_of_reuses (reuses : Reuses tables counted uncounted) :
    tables.cardFor counted uncounted minted ≠ none := by
  obtain ⟨latest, counts, mayFile⟩ := reuses
  rw [cardFor_of_counts counts, ← isSome_iff_ne_none, isSome_map]
  exact fileUncounted_isSome_iff.mpr mayFile

def CardTables.latestRows (tables : CardTables) : List CategoryPromptCardEntry :=
  tables.cards.filter fun row => decide (tables.latestCard = some row.promptId)

/-- A card is reused, or minted with rows of its own. -/
inductive CardRows (tables : CardTables) (counted uncounted : List String) (minted : String) :
    String → List CategoryPromptCardEntry → Prop
  | reused {latest : String} {rows : List CategoryPromptCardEntry}
      (counts : Counts tables latest counted) (reuses : Reuses tables counted uncounted)
      (below : Below latest uncounted rows)
      (all : ∀ key ∈ uncounted, Filed (tables.cards ++ rows) latest key) :
      CardRows tables counted uncounted minted latest (tables.cards ++ rows)
  | minted {rows : List CategoryPromptCardEntry}
      (none_counts : ∀ latest, ¬ Counts tables latest counted)
      (below : Below minted uncounted rows)
      (all : ∀ key ∈ uncounted,
        Filed (tables.latestRows ++ counted.map (countedRow minted) ++ rows) minted key) :
      CardRows tables counted uncounted minted minted
        (tables.latestRows ++ counted.map (countedRow minted) ++ rows)

theorem cardFor_eq_some
    (isCard : tables.cardFor counted uncounted minted = some (promptId, filed)) :
    filed.entries = tables.entries ∧
      CardRows tables counted uncounted minted promptId filed.cards := by
  by_cases reused : ∃ latest, Counts tables latest counted
  · obtain ⟨latest, counts⟩ := reused
    rw [cardFor_of_counts counts] at isCard
    obtain ⟨cards, isFiled, same⟩ := map_eq_some_iff.mp isCard
    obtain ⟨rfl, rfl⟩ := Prod.mk.inj same
    have mayFile := fileUncounted_isSome_iff.mp (isSome_of_eq_some isFiled)
    obtain ⟨rows, rfl, below, all⟩ := fileUncounted_eq isFiled
    exact ⟨rfl, .reused counts ⟨latest, counts, mayFile⟩ below all⟩
  · push Not at reused
    rw [cardFor_of_not_counts reused] at isCard
    obtain ⟨minting, isMinted, isCard⟩ := bind_eq_some_iff.mp isCard
    obtain ⟨cards, isFiled, same⟩ := map_eq_some_iff.mp isCard
    obtain ⟨rfl, rfl⟩ := Prod.mk.inj same
    obtain ⟨counting, isCounting, rfl⟩ := map_eq_some_iff.mp isMinted
    obtain ⟨rows, rfl, below, all⟩ := fileUncounted_eq isFiled
    rw [fileCounted_eq isCounting] at all ⊢
    exact ⟨rfl, .minted reused below all⟩

theorem CardRows.mem {cards : List CategoryPromptCardEntry}
    (isRows : CardRows tables counted uncounted minted promptId cards) :
    ∀ row ∈ cards, row ∈ tables.cards ∨ row.promptId = promptId := by
  cases isRows with
  | reused counts reuses below all =>
    intro row member
    exact (mem_append.mp member).imp_right fun new => below.card row new
  | minted none_counts below all =>
    intro row member
    rcases mem_append.mp member with before | new
    · rcases mem_append.mp before with old | isCounted
      · exact Or.inl (mem_of_mem_filter old)
      · obtain ⟨key, -, rfl⟩ := mem_map.mp isCounted
        exact Or.inr rfl
    · exact Or.inr (below.card row new)

end Cards

end Velvt.CategoryLedger
