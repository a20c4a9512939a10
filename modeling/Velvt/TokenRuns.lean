import Mathlib.Data.List.DropRight
import Mathlib.Data.List.Infix

/-!
# Tokens between separators

A text is read as the tokens that stand between its separators.  A separator cuts a text into two
that are read apart, and everything about the tokens follows from that: where a text stands
between separators inside another, its tokens stand in a row among the tokens of the other.
-/

namespace TokenRuns

open List

variable {α : Type*}

def tokens (isSeparator : α → Bool) (text : List α) : List (List α) :=
  (text.splitOnP isSeparator).filter fun token => !token.isEmpty

/-- A text that is one token. -/
structure IsToken (isSeparator : α → Bool) (token : List α) : Prop where
  nonempty : token ≠ []
  letters : ∀ letter ∈ token, isSeparator letter = false

variable {isSeparator : α → Bool} {separator : α} {text front rest token : List α}
  {words others : List (List α)}

@[simp]
theorem tokens_nil : tokens isSeparator [] = [] := rfl

theorem tokens_append_cons (isSep : isSeparator separator = true) (front rest : List α) :
    tokens isSeparator (front ++ separator :: rest) =
      tokens isSeparator front ++ tokens isSeparator rest := by
  rw [tokens, splitOnP_append_cons front rest isSep, filter_append, tokens, tokens]

theorem tokens_cons (isSep : isSeparator separator = true) (rest : List α) :
    tokens isSeparator (separator :: rest) = tokens isSeparator rest :=
  tokens_append_cons isSep [] rest

theorem IsToken.tokens (isToken : IsToken isSeparator token) :
    tokens isSeparator token = [token] := by
  rw [TokenRuns.tokens, splitOnP_eq_singleton isToken.letters]
  simp [isToken.nonempty]

theorem tokens_append_left (areSeps : ∀ letter ∈ front, isSeparator letter = true) :
    tokens isSeparator (front ++ text) = tokens isSeparator text := by
  induction front with
  | nil => rfl
  | cons first front ih =>
    obtain ⟨isSep, areOthers⟩ := forall_mem_cons.mp areSeps
    rw [cons_append, tokens_cons isSep, ih areOthers]

theorem tokens_append_right (areSeps : ∀ letter ∈ rest, isSeparator letter = true) :
    tokens isSeparator (text ++ rest) = tokens isSeparator text := by
  cases rest with
  | nil => rw [append_nil]
  | cons first rest =>
    obtain ⟨isSep, areOthers⟩ := forall_mem_cons.mp areSeps
    have none : tokens isSeparator rest = [] := by
      simpa using (tokens_append_left areOthers : tokens isSeparator (rest ++ []) = _)
    rw [tokens_append_cons isSep, none, append_nil]

theorem letters_of_mem_splitOnP (isPiece : token ∈ text.splitOnP isSeparator) :
    ∀ letter ∈ token, letter ∈ text ∧ isSeparator letter = false := by
  induction text generalizing token with
  | nil =>
    rw [splitOnP_nil, mem_singleton] at isPiece
    subst isPiece
    exact fun letter isLetter => absurd isLetter not_mem_nil
  | cons first text ih =>
    have later {piece : List α} (isPiece : piece ∈ text.splitOnP isSeparator) :
        ∀ letter ∈ piece, letter ∈ first :: text ∧ isSeparator letter = false :=
      fun letter isLetter => (ih isPiece letter isLetter).imp_left (mem_cons_of_mem _)
    rw [splitOnP_cons_eq_if_modifyHead] at isPiece
    split at isPiece
    · rcases mem_cons.mp isPiece with rfl | isLater
      · exact fun letter isLetter => absurd isLetter not_mem_nil
      · exact later isLater
    · rename_i notSep
      obtain ⟨piece, pieces, split⟩ :=
        exists_cons_of_ne_nil (splitOnP_ne_nil isSeparator text)
      rw [split, modifyHead_cons] at isPiece
      rcases mem_cons.mp isPiece with rfl | isLater
      · intro letter isLetter
        rcases mem_cons.mp isLetter with rfl | isOld
        · exact ⟨mem_cons_self, Bool.not_eq_true _ ▸ notSep⟩
        · exact later (split ▸ mem_cons_self) letter isOld
      · exact later (split ▸ mem_cons_of_mem _ isLater)

theorem isToken_of_mem (isOne : token ∈ tokens isSeparator text) : IsToken isSeparator token := by
  obtain ⟨isPiece, nonempty⟩ := mem_filter.mp isOne
  exact ⟨by simpa using nonempty,
    fun letter isLetter => (letters_of_mem_splitOnP isPiece letter isLetter).2⟩

theorem mem_text_of_mem_token {letter : α} (isOne : token ∈ tokens isSeparator text)
    (isLetter : letter ∈ token) : letter ∈ text :=
  (letters_of_mem_splitOnP (mem_of_mem_filter isOne) letter isLetter).1

theorem tokens_map {isOther : α → Bool} {change : α → α}
    (same : ∀ letter, isOther (change letter) = isSeparator letter)
    (keeps : ∀ letter, isSeparator letter = false → change letter = letter) (text : List α) :
    tokens isOther (text.map change) = tokens isSeparator text := by
  have split : (text.map change).splitOnP isOther = text.splitOnP isSeparator := by
    induction text with
    | nil => rfl
    | cons letter text ih =>
      rw [map_cons, splitOnP_cons_eq_if_modifyHead, ih, same, splitOnP_cons_eq_if_modifyHead]
      split
      · rfl
      · rename_i notSep
        rw [keeps letter (Bool.not_eq_true _ ▸ notSep)]
  rw [tokens, split, tokens]

theorem tokens_intercalate (isSep : isSeparator separator = true)
    (areTokens : ∀ word ∈ words, IsToken isSeparator word) :
    tokens isSeparator ([separator].intercalate words) = words := by
  induction words with
  | nil => rfl
  | cons word words ih =>
    obtain ⟨isToken, areOthers⟩ := forall_mem_cons.mp areTokens
    cases words with
    | nil => rw [intercalate_singleton, isToken.tokens]
    | cons next words =>
      rw [intercalate_cons_cons, append_assoc, singleton_append,
        tokens_append_cons isSep, ih areOthers, isToken.tokens, singleton_append]

theorem mem_of_mem_intercalate {letter : α} (isLetter : letter ∈ [separator].intercalate words) :
    letter = separator ∨ ∃ word ∈ words, letter ∈ word := by
  induction words with
  | nil => exact absurd isLetter not_mem_nil
  | cons word words ih =>
    cases words with
    | nil =>
      rw [intercalate_singleton] at isLetter
      exact .inr ⟨word, mem_cons_self, isLetter⟩
    | cons next words =>
      rw [intercalate_cons_cons, mem_append, mem_append, mem_singleton] at isLetter
      rcases isLetter with (inWord | isSep) | later
      · exact .inr ⟨word, mem_cons_self, inWord⟩
      · exact .inl isSep
      · refine (ih later).imp_right ?_
        rintro ⟨other, isOther, inOther⟩
        exact ⟨other, mem_cons_of_mem _ isOther, inOther⟩

def padded (separator : α) (words : List (List α)) : List α :=
  separator :: [separator].intercalate words ++ [separator]

theorem padded_eq_flatMap (nonempty : words ≠ []) :
    padded separator words = (words.flatMap fun word => separator :: word) ++ [separator] := by
  induction words with
  | nil => exact absurd rfl nonempty
  | cons word words ih =>
    cases words with
    | nil => rw [padded, intercalate_singleton, flatMap_singleton]
    | cons next words =>
      rw [flatMap_cons, append_assoc, ← ih (cons_ne_nil _ _), padded, padded, intercalate_cons_cons]
      simp only [cons_append, append_assoc, nil_append]

theorem exists_flatMap_eq_cons (words : List (List α)) :
    ∃ rest, (words.flatMap fun word => separator :: word) ++ [separator] = separator :: rest := by
  cases words with
  | nil => exact ⟨[], rfl⟩
  | cons word words => exact ⟨_, rfl⟩

theorem padded_infix_iff (isSep : isSeparator separator = true) (nonempty : words ≠ [])
    (areTokens : ∀ word ∈ words, IsToken isSeparator word)
    (areOthers : ∀ word ∈ others, IsToken isSeparator word) :
    padded separator words <:+: padded separator others ↔ words <:+: others := by
  constructor
  · rintro ⟨front, rest, whole⟩
    have read : tokens isSeparator (padded separator others) = others := by
      rw [padded, cons_append, tokens_cons isSep, tokens_append_cons isSep,
        tokens_intercalate isSep areOthers, tokens_nil, append_nil]
    have cut : front ++ padded separator words ++ rest =
        front ++ separator :: ([separator].intercalate words ++ separator :: rest) := by
      simp only [padded, cons_append, append_assoc, nil_append]
    refine ⟨tokens isSeparator front, tokens isSeparator rest, ?_⟩
    rw [← read, ← whole, cut, tokens_append_cons isSep, tokens_append_cons isSep,
      tokens_intercalate isSep areTokens, append_assoc]
  · rintro ⟨front, rest, rfl⟩
    obtain ⟨after, follows⟩ := @exists_flatMap_eq_cons α separator rest
    refine ⟨front.flatMap fun word => separator :: word, after, ?_⟩
    rw [padded_eq_flatMap nonempty, padded_eq_flatMap (by simp [nonempty]), flatMap_append,
      flatMap_append, append_assoc _ _ [separator], follows]
    simp only [append_assoc, singleton_append]

end TokenRuns
