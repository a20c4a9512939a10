import Mathlib.Tactic.IntervalCases
import Velvt.TokenRuns
import Velvt.WindowKeys

/-!
# Phrases in a normalised text

A normalised text is its tokens, the lowercase letters and digits between everything else, with a
space between one and the next.
-/

namespace Velvt.Rules

open TokenRuns List

section Letters

variable {letter : Char}

theorem isAlphanum_iff : letter.isAlphanum = true ↔
    65 ≤ letter.toNat ∧ letter.toNat ≤ 90 ∨ 97 ≤ letter.toNat ∧ letter.toNat ≤ 122 ∨
      48 ≤ letter.toNat ∧ letter.toNat ≤ 57 := by
  unfold Char.isAlphanum Char.isAlpha Char.isUpper Char.isLower Char.isDigit
  simp only [Bool.or_eq_true, Bool.and_eq_true, decide_eq_true_eq, or_assoc]
  rfl

theorem isWhiteSpace_of_isAlphanum (isAlphanum : letter.isAlphanum = true) :
    isWhiteSpace letter = false := by
  rw [isAlphanum_iff] at isAlphanum
  simp only [isWhiteSpace, Bool.or_eq_false_iff, Bool.and_eq_false_iff, decide_eq_false_iff_not,
    beq_eq_false_iff_ne]
  omega

/-- A letter or digit of a lowercased text. -/
def IsLowerAlphanum (letter : Char) : Prop :=
  'a' ≤ letter ∧ letter ≤ 'z' ∨ '0' ≤ letter ∧ letter ≤ '9'

theorem isLowerAlphanum_iff : IsLowerAlphanum letter ↔
    97 ≤ letter.toNat ∧ letter.toNat ≤ 122 ∨ 48 ≤ letter.toNat ∧ letter.toNat ≤ 57 := Iff.rfl

theorem toLower_of_not_upper (notUpper : ¬(65 ≤ letter.toNat ∧ letter.toNat ≤ 90)) :
    letter.toLower = letter :=
  dif_neg notUpper

theorem isLowerAlphanum_of_toLower (isAlphanum : letter.toLower.isAlphanum = true) :
    IsLowerAlphanum letter.toLower := by
  by_cases upper : 65 ≤ letter.toNat ∧ letter.toNat ≤ 90
  · obtain ⟨first, last⟩ := upper
    rw [← Char.ofNat_toNat letter]
    interval_cases letter.toNat <;> exact isLowerAlphanum_iff.mpr (by decide)
  · rw [toLower_of_not_upper upper] at isAlphanum ⊢
    exact isLowerAlphanum_iff.mpr ((isAlphanum_iff.mp isAlphanum).resolve_left upper)

theorem IsLowerAlphanum.isAlphanum (lower : IsLowerAlphanum letter) :
    letter.isAlphanum = true :=
  isAlphanum_iff.mpr (.inr (isLowerAlphanum_iff.mp lower))

theorem IsLowerAlphanum.toLower (lower : IsLowerAlphanum letter) : letter.toLower = letter := by
  rw [isLowerAlphanum_iff] at lower
  exact toLower_of_not_upper (by omega)

theorem toLower_of_isWhiteSpace (space : isWhiteSpace letter = true) :
    letter.toLower = letter := by
  refine toLower_of_not_upper fun upper => ?_
  rw [isWhiteSpace_of_isAlphanum (isAlphanum_iff.mpr (.inl upper))] at space
  cases space

end Letters

section Normalizing

variable (value : String)

def tokenList (normalized : List Char) : List (List Char) := tokens (· == ' ') normalized

def separates (letter : Char) : Bool := !letter.isAlphanum

def textTokens (value : String) : List (List Char) := tokens separates (asciiLower value.toList)

theorem trim_split (text : String) : ∃ front rest,
    text.toList = front ++ trimmedLetters text ++ rest ∧
      (∀ letter ∈ front, isWhiteSpace letter = true) ∧
      ∀ letter ∈ rest, isWhiteSpace letter = true := by
  obtain ⟨kept, isKept⟩ : ∃ kept, kept = text.toList.dropWhile isWhiteSpace := ⟨_, rfl⟩
  refine ⟨text.toList.takeWhile isWhiteSpace, (kept.reverse.takeWhile isWhiteSpace).reverse,
    ?_, ?_, ?_⟩
  · have trimmed : trimmedLetters text = (kept.reverse.dropWhile isWhiteSpace).reverse := by
      rw [trimmedLetters, trimText, String.toList_ofList, isKept]
    rw [trimmed, append_assoc, ← reverse_append, takeWhile_append_dropWhile,
      reverse_reverse, isKept, takeWhile_append_dropWhile]
  · exact fun letter isLetter => mem_takeWhile_imp isLetter
  · exact fun letter isLetter => mem_takeWhile_imp (mem_reverse.mp isLetter)

theorem separates_of_isWhiteSpace {letter : Char} (space : isWhiteSpace letter = true) :
    separates letter.toLower = true := by
  rw [toLower_of_isWhiteSpace space, separates, Bool.not_eq_true']
  by_contra isAlphanum
  rw [Bool.not_eq_false] at isAlphanum
  rw [isWhiteSpace_of_isAlphanum isAlphanum] at space
  cases space

theorem normalizeClassifierText_eq :
    normalizeClassifierText value = [' '].intercalate (textTokens value) := by
  have spaced : ∀ letter : Char, isWhiteSpace
      (if letter.isAlphanum || isWhiteSpace letter then letter else ' ') = separates letter := by
    intro letter
    rw [separates]
    cases isAlphanum : letter.isAlphanum with
    | true => simp [isWhiteSpace_of_isAlphanum isAlphanum]
    | false =>
      cases space : isWhiteSpace letter with
      | true => simp [space]
      | false =>
        simp only [Bool.or_self, Bool.false_eq_true, if_false, Bool.not_false]
        decide
  have keeps : ∀ letter : Char, separates letter = false →
      (if letter.isAlphanum || isWhiteSpace letter then letter else ' ') = letter := by
    intro letter isKept
    rw [separates, Bool.not_eq_false'] at isKept
    simp [isKept]
  obtain ⟨front, rest, whole, areFront, areRest⟩ := trim_split value
  have trimmed : textTokens value = tokens separates (asciiLower (trimmedLetters value)) := by
    rw [textTokens, whole, asciiLower, map_append, map_append, tokens_append_right,
      tokens_append_left, asciiLower]
    · intro letter isLetter
      obtain ⟨original, isOriginal, rfl⟩ := mem_map.mp isLetter
      exact separates_of_isWhiteSpace (areFront original isOriginal)
    · intro letter isLetter
      obtain ⟨original, isOriginal, rfl⟩ := mem_map.mp isLetter
      exact separates_of_isWhiteSpace (areRest original isOriginal)
  rw [trimmed, ← tokens_map spaced keeps]
  rfl

variable {value}

theorem isLowerAlphanum_of_token {token : List Char} (isOne : token ∈ textTokens value)
    {letter : Char} (isLetter : letter ∈ token) : IsLowerAlphanum letter := by
  have isAlphanum : letter.isAlphanum = true := by
    simpa [separates] using (isToken_of_mem isOne).letters letter isLetter
  obtain ⟨original, -, rfl⟩ := mem_map.mp (mem_text_of_mem_token isOne isLetter)
  exact isLowerAlphanum_of_toLower isAlphanum

theorem isToken_space {token : List Char} (isOne : token ∈ textTokens value) :
    IsToken (· == ' ') token := by
  refine ⟨(isToken_of_mem isOne).nonempty, ?_⟩
  intro letter isLetter
  have isAlphanum := (isLowerAlphanum_of_token isOne isLetter).isAlphanum
  rw [beq_eq_false_iff_ne]
  rintro rfl
  exact absurd isAlphanum (by decide)

variable (value) in
theorem tokenList_normalizeClassifierText :
    tokenList (normalizeClassifierText value) = textTokens value := by
  rw [normalizeClassifierText_eq, tokenList]
  exact tokens_intercalate rfl fun token isOne => isToken_space isOne

variable (value) in
theorem normalizeClassifierText_idempotent :
    normalizeClassifierText (String.ofList (normalizeClassifierText value)) =
      normalizeClassifierText value := by
  have lower : asciiLower (normalizeClassifierText value) = normalizeClassifierText value := by
    refine (map_congr_left fun letter isLetter => ?_).trans (map_id _)
    rw [normalizeClassifierText_eq] at isLetter
    rcases mem_of_mem_intercalate isLetter with rfl | ⟨token, isOne, inToken⟩
    · rfl
    · exact (isLowerAlphanum_of_token isOne inToken).toLower
  rw [normalizeClassifierText_eq (String.ofList _), textTokens, String.toList_ofList, lower,
    normalizeClassifierText_eq value]
  have readBack : tokens separates ([' '].intercalate (textTokens value)) = textTokens value :=
    tokens_intercalate rfl fun token isOne => isToken_of_mem isOne
  rw [readBack]

theorem textTokens_append (first second : String) :
    textTokens (first ++ " " ++ second) = textTokens first ++ textTokens second := by
  have letters : asciiLower (first ++ " " ++ second).toList =
      asciiLower first.toList ++ ' ' :: asciiLower second.toList := by
    simp [asciiLower]
  rw [textTokens, letters]
  exact tokens_append_cons rfl _ _

end Normalizing

theorem containsTokenPhrase_iff (value phrase : String) :
    containsTokenPhrase (normalizeClassifierText value) phrase = true ↔
      textTokens phrase ≠ [] ∧ textTokens phrase <:+: textTokens value := by
  rw [containsTokenPhrase, Bool.and_eq_true, decide_eq_true_eq]
  by_cases empty : textTokens phrase = []
  · rw [normalizeClassifierText_eq phrase, empty]
    simp
  · have nonempty : normalizeClassifierText phrase ≠ [] := by
      intro nothing
      rw [← tokenList_normalizeClassifierText, nothing] at empty
      exact empty rfl
    have padding : padded ' ' (textTokens phrase) <:+: padded ' ' (textTokens value) ↔
        textTokens phrase <:+: textTokens value :=
      padded_infix_iff (rfl : separates ' ' = true) empty
        (fun token isOne => isToken_of_mem isOne) fun token isOne => isToken_of_mem isOne
    rw [padded, padded, ← normalizeClassifierText_eq, ← normalizeClassifierText_eq] at padding
    exact and_congr (by simp [nonempty, empty]) padding

/-- In a normalised text a phrase is found just where its tokens stand in a row; normalising again
changes nothing; the tokens are lowercase letters and digits, one space apart; and those of
two texts with a space between are those of the one and then those of the other. -/
theorem phrases_are_runs_of_tokens (value phrase other : String) :
    (containsTokenPhrase (normalizeClassifierText value) phrase = true ↔
      tokenList (normalizeClassifierText phrase) ≠ [] ∧
        tokenList (normalizeClassifierText phrase) <:+:
          tokenList (normalizeClassifierText value)) ∧
      normalizeClassifierText (String.ofList (normalizeClassifierText value)) =
        normalizeClassifierText value ∧
      (normalizeClassifierText value =
          [' '].intercalate (tokenList (normalizeClassifierText value)) ∧
        ∀ token ∈ tokenList (normalizeClassifierText value),
          token ≠ [] ∧ ∀ letter ∈ token, IsLowerAlphanum letter) ∧
      tokenList (normalizeClassifierText (value ++ " " ++ other)) =
        tokenList (normalizeClassifierText value) ++ tokenList (normalizeClassifierText other) := by
  simp only [tokenList_normalizeClassifierText]
  exact ⟨containsTokenPhrase_iff value phrase, normalizeClassifierText_idempotent value,
    ⟨normalizeClassifierText_eq value, fun token isOne => ⟨(isToken_of_mem isOne).nonempty,
      fun letter isLetter => isLowerAlphanum_of_token isOne isLetter⟩⟩,
    textTokens_append value other⟩

end Velvt.Rules
