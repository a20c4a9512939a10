import Velvt.RuleTables
import Velvt.TextSubstitution

/-!
# Putting local names into an insight

An insight is a template with placeholders that refers to activities by label.  The names that the
labels have on this device are put in one reference after another: each placeholder is looked for
in the text that the earlier references have left, names and all.
-/

namespace Velvt.Rehydration

open Rules TextSubstitution List

structure InsightLabelReference where
  token : String
  label : String

/-- `generic_label`, chosen by what stands before the first colon. -/
def genericLabel (label : String) : String :=
  match String.ofList (label.toList.takeWhile (· != ':')) with
  | "communication" => "a communication app"
  | "meeting" => "a meeting app"
  | "document" => "document work"
  | "video" => "video activity"
  | "audio" => "audio activity"
  | "social" => "a social feed"
  | "task" => "task management"
  | "reference" => "reference work"
  | "design" => "design work"
  | "creative" => "creative work"
  | "system" => "system activity"
  | _ => "an activity"

/-- `AbstractionMapRepo::display_name_for_label`, over the stored mappings. -/
def displayNameForLabel (tables : Tables) (label : String) : Option String :=
  (((tables.abstractionMap.filter fun row =>
    row.label == label && row.displayName.isSome).insertionSort fun first second =>
      second.updatedAt < first.updatedAt ∨ (second.updatedAt = first.updatedAt ∧
        ¬ second.stableId < first.stableId)).head?).bind (·.displayName)

/-- What the repository answers for a label. -/
abbrev Mappings := String → Except PersistenceError (Option String)

/-- A repository that fails, or has no name, leaves the generic one. -/
def replacementFor (mappings : Mappings) (reference : InsightLabelReference) : String :=
  match mappings reference.label with
  | .ok (some name) => name
  | .ok none => genericLabel reference.label
  | .error _ => genericLabel reference.label

section Rehydrating

/-- `str::replace`, of a pattern that is not empty. -/
def replaceText (text pattern replacement : String) : String :=
  String.ofList (replace id pattern.toList replacement.toList text.toList)

def placeholder (token : String) : String := "\x7b" ++ token ++ "\x7d"

variable (mappings : Mappings) (template : String) (references : List InsightLabelReference)

def rehydrate : String :=
  references.foldl (fun rendered reference =>
    replaceText rendered (placeholder reference.token) (replacementFor mappings reference)) template

theorem placeholder_ne_nil (token : String) : (placeholder token).toList ≠ [] := by
  simp [placeholder]

def ruleOf (reference : InsightLabelReference) : Rule Char where
  pattern := (placeholder reference.token).toList
  replacement := (replacementFor mappings reference).toList
  nonempty := placeholder_ne_nil reference.token

def substitute : String :=
  String.ofList (atOnce template.toList (references.map (ruleOf mappings)))

theorem rehydrate_eq_oneByOne : rehydrate mappings template references =
      String.ofList (oneByOne template.toList (references.map (ruleOf mappings))) := by
  induction references using List.reverseRecOn with
  | nil => simp [rehydrate, oneByOne]
  | append_singleton before reference ih =>
    rw [rehydrate] at ih ⊢
    rw [foldl_concat, ih, replaceText, map_append, oneByOne, oneByOne,
      map_singleton, foldl_concat, String.toList_ofList]
    rfl

/-- Whatever order the references come in, the result is the template with all names put in at
once, and what is replaced for a reference on the way is every placeholder of it in the template and
no other piece of the text. -/
structure SubstitutesAtOnce : Prop where
  result : ∀ others, references.Perm others →
    rehydrate mappings template others = substitute mappings template references
  replaced : ∀ earlier reference later, references.Perm (earlier ++ reference :: later) →
    found Cell.letter (placeholder reference.token).toList
        (cellsOneByOne template.toList (earlier.map (ruleOf mappings))) =
      standing template.toList (placeholder reference.token).toList

/-- Where the names of some references are put in at once, the placeholder of any other reference is
found where it stands in the template, and nowhere else. -/
def PlaceholdersStand : Prop :=
  ∀ earlier reference later, references.Perm (earlier ++ reference :: later) →
    found Cell.letter (placeholder reference.token).toList
        (fill template.toList (earlier.map (ruleOf mappings))) =
      standing template.toList (placeholder reference.token).toList

theorem forall_perm_iff_findsOwn (made : List (Rule Char) → List (Cell Char)) :
    (∀ earlier reference later, references.Perm (earlier ++ reference :: later) →
        found Cell.letter (placeholder reference.token).toList
            (made (earlier.map (ruleOf mappings))) =
          standing template.toList (placeholder reference.token).toList) ↔
      ∀ others, references.Perm others →
        FindsOwn template.toList made (others.map (ruleOf mappings)) := by
  constructor
  · intro own others perm before rule after split
    obtain ⟨earlier, rest, rfl, rfl, isRest⟩ := map_eq_append_iff.mp split
    obtain ⟨reference, later, rfl, rfl, -⟩ := map_eq_cons_iff.mp isRest
    exact own earlier reference later perm
  · intro own earlier reference later perm
    apply own _ perm _ (ruleOf mappings reference) (later.map (ruleOf mappings))
    rw [map_append, map_cons]

/-- Rehydration is simultaneous substitution exactly where names put in at once neither make a
placeholder of another reference nor take one away. -/
theorem substitutes_at_once_iff :
    SubstitutesAtOnce mappings template references ↔
      PlaceholdersStand mappings template references := by
  rw [PlaceholdersStand, forall_perm_iff_findsOwn]
  constructor
  · rintro ⟨-, replaced⟩ others perm
    have own := (forall_perm_iff_findsOwn mappings template references _).mp replaced others perm
    exact (findsOwn_iff template.toList _).1.mp own
  · intro own
    have apart := pairwise_of_findsOwn (own references (List.Perm.refl _))
    constructor
    · intro others perm
      rw [rehydrate_eq_oneByOne, oneByOne_eq_atOnce (own others perm), substitute,
        atOnce_perm apart (perm.map _)]
    · rw [forall_perm_iff_findsOwn mappings template references]
      intro others perm
      exact (findsOwn_iff template.toList _).1.mpr (own others perm)

end Rehydrating

/-- Document windows that the user has named after the second placeholder. -/
def namedWindow : AbstractionMapping where
  keyHash := "1a"
  stableId := "abs_1a"
  label := "document:inferred"
  category := "FOCUS_WORK"
  classificationTier := .exactMatch
  classificationStatus := .classified
  classificationConfidence := .high
  classificationSource := .userRule
  displayName := some "{label_1}"
  updatedAt := 0

def slackWindow : AbstractionMapping where
  keyHash := "1b"
  stableId := "abs_1b"
  label := "communication:inferred"
  category := "COMMUNICATION"
  classificationTier := .exactMatch
  classificationStatus := .classified
  classificationConfidence := .high
  classificationSource := .seed
  displayName := some "Slack"
  updatedAt := 0

def renamedTables : Tables := { Tables.empty with abstractionMap := [namedWindow, slackWindow] }

def twoLabels : List InsightLabelReference :=
  [{ token := "label_0", label := "document:inferred" },
    { token := "label_1", label := "communication:inferred" }]

def renamedMappings : Mappings := fun label => .ok (displayNameForLabel renamedTables label)

/-- A name is taken for a placeholder: the window's name is lost, and the order makes a
difference. -/
theorem name_is_taken_for_placeholder :
    (twoLabels.map (·.token)).Nodup ∧
      rehydrate renamedMappings "{label_0} and {label_1}" twoLabels = "Slack and Slack" ∧
      rehydrate renamedMappings "{label_0} and {label_1}" twoLabels.reverse =
        "{label_1} and Slack" ∧
      substitute renamedMappings "{label_0} and {label_1}" twoLabels = "{label_1} and Slack" ∧
      ¬ SubstitutesAtOnce renamedMappings "{label_0} and {label_1}" twoLabels := by
  have once : rehydrate renamedMappings "{label_0} and {label_1}" twoLabels =
      "Slack and Slack" := by
    decide +kernel
  have atOnce : substitute renamedMappings "{label_0} and {label_1}" twoLabels =
      "{label_1} and Slack" := by
    decide +kernel
  refine ⟨by decide, once, by decide +kernel, atOnce, fun same => ?_⟩
  have result := same.result twoLabels (List.Perm.refl _)
  rw [once, atOnce] at result
  exact absurd result (by decide)

end Velvt.Rehydration
