import Velvt.ClassifierPlugins

/-!
# Seed patterns as globs

A pattern is literal parts with a star between every two.
-/

namespace Velvt.Rules

open List Option

section Globs

/-- Some parts stand in a text, in order and with any text before each, and this is left after
them. -/
def Leaves : List (List Char) → List Char → List Char → Prop
  | [], text, rest => text = rest
  | part :: parts, text, rest =>
    ∃ gap after, text = gap ++ part ++ after ∧ Leaves parts after rest

/-- The first part and the others with any text in the place of each star. -/
def Glob : List (List Char) → List Char → Prop
  | [], text => text = []
  | first :: parts, text => ∃ after, text = first ++ after ∧ Leaves parts after []

def literalParts (pattern : String) : List (List Char) :=
  (pattern.toList.splitOn '*').map fun part => normalizeClassifierText (String.ofList part)

variable {text rest after more : List Char} {parts : List (List Char)}

theorem Leaves.extend (leaves : Leaves parts after rest) :
    ∃ longer, Leaves parts (more ++ after) longer ∧ rest.length ≤ longer.length := by
  cases parts with
  | nil =>
    refine ⟨more ++ after, rfl, ?_⟩
    rw [← show after = rest from leaves, length_append]
    omega
  | cons part parts =>
    obtain ⟨gap, later, rfl, isLeft⟩ := leaves
    exact ⟨rest, ⟨more ++ gap, later, by simp, isLeft⟩, le_rfl⟩

theorem leaves_iff :
    Leaves parts text rest ↔ ∃ front, text = front ++ rest ∧ Leaves parts front [] := by
  induction parts generalizing text with
  | nil =>
    constructor
    · intro same
      exact ⟨[], same, rfl⟩
    · rintro ⟨front, rfl, isNil⟩
      rw [show front = [] from isNil, nil_append]
      exact rfl
  | cons part parts ih =>
    constructor
    · rintro ⟨gap, after, rfl, leaves⟩
      obtain ⟨front, rfl, isFront⟩ := ih.mp leaves
      exact ⟨gap ++ part ++ front, by simp, gap, front, rfl, isFront⟩
    · rintro ⟨front, rfl, gap, after, rfl, leaves⟩
      exact ⟨gap, after ++ rest, by simp, ih.mpr ⟨after, rfl, leaves⟩⟩

theorem Leaves.nil_of_last (leaves : Leaves (parts ++ [[]]) text rest) :
    Leaves (parts ++ [[]]) text [] := by
  induction parts generalizing text with
  | nil => exact ⟨text, [], by simp, rfl⟩
  | cons part parts ih =>
    obtain ⟨gap, after, rfl, isLeft⟩ := leaves
    exact ⟨gap, after, rfl, ih isLeft⟩

end Globs

section Places

variable {part text rest after gap : List Char} {parts : List (List Char)} {letter : Char}
  {position found : Nat}

theorem exists_gap_tail (notPrefix : ¬part <+: letter :: text)
    (stands : letter :: text = gap ++ part ++ after) :
    ∃ later, text = later ++ part ++ after := by
  cases gap with
  | nil => exact absurd ⟨after, stands.symm⟩ notPrefix
  | cons first later =>
    rw [cons_append, cons_append] at stands
    exact ⟨later, (List.cons.inj stands).2⟩

theorem findText_spec (isFound : findText part position text = some (found, rest)) :
    (∃ front, text = front ++ part ++ rest ∧ found = position + front.length) ∧
      ∀ gap after, text = gap ++ part ++ after → ∃ more, rest = more ++ after := by
  induction text generalizing position with
  | nil =>
    rw [findText, ite_none_right_eq_some, some_inj, Prod.mk.injEq, List.isEmpty_iff] at isFound
    obtain ⟨rfl, rfl, rfl⟩ := isFound
    refine ⟨⟨[], rfl, rfl⟩, ?_⟩
    intro gap after stands
    exact ⟨gap, by simpa using stands⟩
  | cons letter text ih =>
    rw [findText] at isFound
    split at isFound
    next atStart =>
      obtain ⟨tail, isTail⟩ := isPrefixOf_iff_prefix.mp atStart
      rw [← isTail, drop_left, some_inj, Prod.mk.injEq] at isFound
      obtain ⟨rfl, rfl⟩ := isFound
      refine ⟨⟨[], isTail.symm, rfl⟩, ?_⟩
      -- Whatever follows another place of the part is no longer than what follows the first.
      intro gap after stands
      have shorter : after.length ≤ tail.length := by
        have lengths := congrArg List.length (isTail.trans stands)
        simp only [length_append] at lengths
        omega
      obtain ⟨more, isMore⟩ := suffix_of_suffix_length_le
        ⟨gap ++ part, stands.symm⟩ ⟨part, isTail⟩ shorter
      exact ⟨more, isMore.symm⟩
    next notStart =>
      rw [ isPrefixOf_iff_prefix] at notStart
      obtain ⟨⟨front, split, isFirst⟩, isLongest⟩ := ih isFound
      refine ⟨⟨letter :: front, by rw [split]; rfl, ?_⟩, ?_⟩
      · rw [isFirst, length_cons]
        omega
      · intro gap after stands
        obtain ⟨later, isLater⟩ := exists_gap_tail notStart stands
        exact isLongest later after isLater

theorem findText_eq_none (isNone : findText part position text = none) (gap after : List Char) :
    text ≠ gap ++ part ++ after := by
  induction text generalizing position gap with
  | nil =>
    intro stands
    rw [findText] at isNone
    split at isNone
    next => cases isNone
    next nonempty =>
      rw [eq_comm, append_eq_nil_iff, append_eq_nil_iff] at stands
      exact nonempty (isEmpty_iff.mpr stands.1.2)
  | cons letter text ih =>
    intro stands
    rw [findText] at isNone
    split at isNone
    next => cases isNone
    next notStart =>
      rw [ isPrefixOf_iff_prefix] at notStart
      obtain ⟨later, isLater⟩ := exists_gap_tail notStart stands
      exact ih isNone later isLater

theorem matchesParts_cons_nil (isFirst : Bool) :
    matchesParts isFirst ([] :: parts) text = matchesParts false parts text := by
  rw [matchesParts, if_pos isEmpty_nil]

theorem matchesParts_cons (nonempty : part ≠ []) : matchesParts false (part :: parts) text =
      (findText part 0 text).bind fun place => matchesParts false parts place.2 := by
  have notEmpty : ¬part.isEmpty = true := by rwa [List.isEmpty_iff]
  rw [matchesParts, if_neg notEmpty]
  cases findText part 0 text <;> rfl

theorem leaves_cons_nil {other : List Char} (leaves : Leaves ([] :: parts) text other) :
    ∃ longer, Leaves parts text longer ∧ other.length ≤ longer.length := by
  obtain ⟨gap, after, rfl, isLeft⟩ := leaves
  rw [append_nil]
  exact isLeft.extend

theorem matchesParts_spec (isLeft : matchesParts false parts text = some rest) :
    Leaves parts text rest ∧ ∀ other, Leaves parts text other → other.length ≤ rest.length := by
  induction parts generalizing text with
  | nil =>
    obtain rfl : text = rest := some_inj.mp isLeft
    refine ⟨rfl, ?_⟩
    intro other same
    rw [show text = other from same]
  | cons part parts ih =>
    by_cases isEmpty : part = []
    · subst isEmpty
      rw [matchesParts_cons_nil] at isLeft
      obtain ⟨leaves, longest⟩ := ih isLeft
      refine ⟨⟨[], text, rfl, leaves⟩, ?_⟩
      intro other isOther
      obtain ⟨longer, isLonger, le⟩ := leaves_cons_nil isOther
      exact le.trans (longest longer isLonger)
    · rw [matchesParts_cons isEmpty, bind_eq_some_iff] at isLeft
      obtain ⟨⟨position, after⟩, isFound, isLeft⟩ := isLeft
      obtain ⟨⟨front, split, -⟩, isLongest⟩ := findText_spec isFound
      obtain ⟨leaves, longest⟩ := ih isLeft
      refine ⟨⟨front, after, split, leaves⟩, ?_⟩
      rintro other ⟨gap, later, stands, isOther⟩
      obtain ⟨more, rfl⟩ := isLongest gap later stands
      obtain ⟨longer, isLonger, le⟩ := isOther.extend
      exact le.trans (longest longer isLonger)

theorem matchesParts_eq_none (isNone : matchesParts false parts text = none) (rest : List Char) :
    ¬Leaves parts text rest := by
  induction parts generalizing text rest with
  | nil => cases isNone
  | cons part parts ih =>
    intro leaves
    by_cases isEmpty : part = []
    · subst isEmpty
      rw [matchesParts_cons_nil] at isNone
      obtain ⟨longer, isLonger, -⟩ := leaves_cons_nil leaves
      exact ih isNone longer isLonger
    · rw [matchesParts_cons isEmpty, bind_eq_none_iff] at isNone
      obtain ⟨gap, later, stands, isLeft⟩ := leaves
      cases isFound : findText part 0 text with
      | none => exact findText_eq_none isFound gap later stands
      | some place =>
        obtain ⟨more, isMore⟩ := (findText_spec isFound).2 gap later stands
        obtain ⟨longer, isLonger, -⟩ := isLeft.extend
        rw [← isMore] at isLonger
        exact ih (isNone place isFound) longer isLonger

theorem matchesParts_first {first : List Char} :
    matchesParts true (first :: parts) text = some rest ↔
      ∃ after, text = first ++ after ∧ matchesParts false parts after = some rest := by
  by_cases isEmpty : first = []
  · subst isEmpty
    rw [matchesParts_cons_nil]
    simp
  have notEmpty : ¬first.isEmpty = true := by rwa [List.isEmpty_iff]
  rw [matchesParts, if_neg notEmpty]
  cases isFound : findText first 0 text with
  | none =>
    simp only [reduceCtorEq, false_iff, not_exists, not_and]
    intro after stands
    exact absurd stands (findText_eq_none isFound [] after)
  | some place =>
    obtain ⟨position, later⟩ := place
    obtain ⟨⟨front, split, isPlace⟩, isLongest⟩ := findText_spec isFound
    rw [Nat.zero_add] at isPlace
    simp only [Bool.true_and, bne_iff_ne, ite_none_left_eq_some, not_not]
    constructor
    · rintro ⟨atStart, isLeft⟩
      obtain rfl : front = [] := eq_nil_of_length_eq_zero (isPlace.symm.trans atStart)
      exact ⟨later, split, isLeft⟩
    · rintro ⟨after, stands, isLeft⟩
      -- The first place leaves no less than the start does.
      obtain ⟨more, isMore⟩ := isLongest [] after stands
      have lengths := congrArg List.length (split.symm.trans stands)
      simp only [isMore, length_append] at lengths
      obtain rfl : more = [] := eq_nil_of_length_eq_zero (by omega)
      exact ⟨by omega, isMore ▸ isLeft⟩

end Places

section Patterns

variable {pattern value : String}

/-- The end of the pattern is settled: it ends with a star, but for what normalizing drops, or a
name that the pattern covers is not covered up to an earlier place too. -/
def EndsOnce (pattern value : String) : Prop :=
  (literalParts pattern).getLastD [] = [] ∨
    ¬(Glob (literalParts pattern) (normalizeClassifierText value) ∧
      ∃ shorter, shorter <+: normalizeClassifierText value ∧
        shorter ≠ normalizeClassifierText value ∧ Glob (literalParts pattern) shorter)

theorem literalParts_ne_nil : literalParts pattern ≠ [] := by
  rw [literalParts, Ne, map_eq_nil_iff]
  exact splitOn_ne_nil _ _

theorem patternMatches_iff {first second : List Char} {parts : List (List Char)}
    (split : literalParts pattern = first :: second :: parts) :
    patternMatches pattern value = true ↔ ∃ after, normalizeClassifierText value = first ++ after ∧
        ∃ rest, matchesParts false (second :: parts) after = some rest ∧
          ((literalParts pattern).getLastD [] = [] ∨ rest = []) := by
  have loop : patternMatches pattern value = true ↔
      ∃ rest, matchesParts true (first :: second :: parts) (normalizeClassifierText value) =
        some rest ∧ ((literalParts pattern).getLastD [] = [] ∨ rest = []) := by
    simp only [patternMatches]
    rw [← literalParts, split]
    cases isLeft : matchesParts true (first :: second :: parts) (normalizeClassifierText value) with
    | none => simp [isLeft]
    | some rest => simp [isLeft]
  rw [loop]
  constructor
  · rintro ⟨rest, isLeft, ends⟩
    obtain ⟨after, starts, isLeft⟩ := matchesParts_first.mp isLeft
    exact ⟨after, starts, rest, isLeft, ends⟩
  · rintro ⟨after, starts, rest, isLeft, ends⟩
    exact ⟨rest, matchesParts_first.mpr ⟨after, starts, isLeft⟩, ends⟩

theorem patternMatches_single {only : List Char} (split : literalParts pattern = [only]) :
    patternMatches pattern value = true ↔ only = normalizeClassifierText value := by
  simp only [patternMatches]
  rw [← literalParts, split]
  exact beq_iff_eq

theorem exists_shorter_iff {first after : List Char} {parts : List (List Char)} :
    (∃ shorter, shorter <+: first ++ after ∧ shorter ≠ first ++ after ∧
        Glob (first :: parts) shorter) ↔ ∃ rest, rest ≠ [] ∧ Leaves parts after rest := by
  constructor
  · rintro ⟨shorter, ⟨rest, isWhole⟩, differs, front, rfl, leaves⟩
    rw [append_assoc] at isWhole
    refine ⟨rest, ?_, leaves_iff.mpr ⟨front, (append_cancel_left isWhole).symm, leaves⟩⟩
    rintro rfl
    rw [append_nil] at isWhole
    exact differs isWhole
  · rintro ⟨rest, nonempty, leaves⟩
    obtain ⟨front, rfl, isFront⟩ := leaves_iff.mp leaves
    refine ⟨first ++ front, ⟨rest, append_assoc _ _ _⟩, ?_, front, rfl, isFront⟩
    intro same
    exact nonempty (self_eq_append_right.mp (append_cancel_left same))

/-- A pattern covers the names that it stands for exactly where the place of its last part is
settled. -/
theorem patternMatches_iff_glob :
    (patternMatches pattern value = true ↔
      Glob (literalParts pattern) (normalizeClassifierText value)) ↔ EndsOnce pattern value := by
  rcases split : literalParts pattern with - | ⟨first, - | ⟨second, parts⟩⟩
  · exact absurd split literalParts_ne_nil
  · -- Without a star there is one name, and no shorter one.
    have covers : ∀ text, Glob [first] text ↔ text = first := by
      intro text
      constructor
      · rintro ⟨after, rfl, isNil⟩
        rw [show after = [] from isNil, append_nil]
      · rintro rfl
        exact ⟨[], (append_nil _).symm, rfl⟩
    rw [patternMatches_single split, covers, eq_comm, EndsOnce, split]
    simp only [covers, true_iff]
    right
    rintro ⟨same, shorter, -, differs, rfl⟩
    exact differs same.symm
  · rw [patternMatches_iff split, EndsOnce, split]
    by_cases starts : ∃ after, normalizeClassifierText value = first ++ after
    · obtain ⟨after, starts⟩ := starts
      rw [starts, exists_shorter_iff, Glob]
      simp only [append_cancel_left_eq, exists_eq_left']
      cases isLeft : matchesParts false (second :: parts) after with
      | none =>
        have nothing := matchesParts_eq_none isLeft
        simp [nothing]
      | some rest =>
        obtain ⟨leaves, longest⟩ := matchesParts_spec isLeft
        simp only [some_inj, exists_eq_left']
        by_cases star : (first :: second :: parts).getLastD [] = []
        · -- A last part that is empty leaves nothing.
          have nothingLeft : Leaves (second :: parts) after [] := by
            rcases eq_nil_or_concat (second :: parts) with isNil | ⟨front, last, isConcat⟩
            · cases isNil
            · rw [isConcat, concat_eq_append] at leaves star ⊢
              rw [← cons_append, getLastD_concat] at star
              rw [star] at leaves ⊢
              exact leaves.nil_of_last
          simp only [star, nothingLeft, true_or]
        · -- What the loop leaves is empty exactly where nothing else can be left.
          have ends_iff : rest = [] ↔
              ¬∃ other, other ≠ [] ∧ Leaves (second :: parts) after other := by
            constructor
            · rintro rfl ⟨other, nonempty, isOther⟩
              have short := longest other isOther
              exact nonempty (eq_nil_of_length_eq_zero (Nat.le_zero.mp short))
            · intro nothing
              by_contra nonempty
              exact nothing ⟨rest, nonempty, leaves⟩
          have covered : rest = [] → Leaves (second :: parts) after [] := by
            rintro rfl
            exact leaves
          rw [ends_iff] at covered
          simp only [star, false_or, ends_iff]
          constructor
          · rintro same ⟨covers, beyond⟩
            exact same.mpr covers beyond
          · intro settled
            exact ⟨covered, fun covers beyond => settled ⟨covers, beyond⟩⟩
    · -- A name that does not begin with the first part is not covered either way.
      have notCovered : ¬Glob (first :: second :: parts) (normalizeClassifierText value) := by
        rintro ⟨after, isWhole, -⟩
        exact starts ⟨after, isWhole⟩
      simp only [notCovered, false_and, not_false_eq_true, or_true, iff_true, iff_false]
      rintro ⟨after, isWhole, -⟩
      exact starts ⟨after, isWhole⟩

/-- A name that holds the last part twice is refused at the first. -/
theorem repeated_part_is_not_covered :
    ¬(patternMatches "*Docs" "Docs - Google Docs" = true ↔
      Glob (literalParts "*Docs") (normalizeClassifierText "Docs - Google Docs")) := by
  have refused : patternMatches "*Docs" "Docs - Google Docs" = false := by decide +kernel
  have parts : literalParts "*Docs" = [[], "docs".toList] := by decide +kernel
  have name : normalizeClassifierText "Docs - Google Docs" =
      "docs google ".toList ++ "docs".toList := by decide +kernel
  have covered : Glob (literalParts "*Docs") (normalizeClassifierText "Docs - Google Docs") := by
    rw [parts, name]
    exact ⟨"docs google ".toList ++ "docs".toList, (nil_append _).symm, "docs google ".toList,
      [], (append_nil _).symm, rfl⟩
  rw [refused]
  simp [covered]

end Patterns

end Velvt.Rules
