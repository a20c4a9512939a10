import Mathlib

/-!
# Disjoint spans

Half-open spans of integers that do not overlap, within a window, are together no
longer than the window.
-/

namespace DisjointSpans

/-- One of two spans ends before the other starts. -/
def Apart (first second : Int × Int) : Prop :=
  first.2 ≤ second.1 ∨ second.2 ≤ first.1

noncomputable def cover : List (Int × Int) → Finset Int
  | [] => ∅
  | span :: spans => Finset.Ico span.1 span.2 ∪ cover spans

def total (spans : List (Int × Int)) : Int :=
  (spans.map fun span => span.2 - span.1).sum

@[simp]
theorem total_nil : total [] = 0 :=
  rfl

@[simp]
theorem total_cons (span : Int × Int) (spans : List (Int × Int)) :
    total (span :: spans) = span.2 - span.1 + total spans := by
  simp [total]

@[simp]
theorem total_append (first second : List (Int × Int)) :
    total (first ++ second) = total first + total second := by
  simp [total]

variable {spans : List (Int × Int)}

theorem mem_cover {point : Int} :
    point ∈ cover spans ↔ ∃ span ∈ spans, span.1 ≤ point ∧ point < span.2 := by
  induction spans with
  | nil => simp [cover]
  | cons span spans ih => simp [cover, ih]

theorem card_cover (proper : ∀ span ∈ spans, span.1 ≤ span.2)
    (apart : spans.Pairwise Apart) : ((cover spans).card : Int) = total spans := by
  induction spans with
  | nil => rfl
  | cons span spans ih =>
    obtain ⟨first, rest⟩ := List.pairwise_cons.mp apart
    have properRest := ih (fun other member => proper other (List.mem_cons_of_mem _ member)) rest
    have disjoint : Disjoint (Finset.Ico span.1 span.2) (cover spans) := by
      rw [Finset.disjoint_left]
      intro point inSpan inRest
      obtain ⟨other, member, start, finish⟩ := mem_cover.mp inRest
      obtain ⟨spanStart, spanFinish⟩ := Finset.mem_Ico.mp inSpan
      rcases first other member with before | after <;> omega
    have positive := proper span List.mem_cons_self
    rw [cover, Finset.card_union_of_disjoint disjoint, Int.card_Ico, Nat.cast_add, properRest,
      total_cons]
    omega

theorem total_le {first last : Int} (ordered : first ≤ last)
    (proper : ∀ span ∈ spans, span.1 ≤ span.2) (apart : spans.Pairwise Apart)
    (within : ∀ span ∈ spans, first ≤ span.1 ∧ span.2 ≤ last) :
    total spans ≤ last - first := by
  have inWindow : cover spans ⊆ Finset.Ico first last := by
    intro point inCover
    obtain ⟨span, member, start, finish⟩ := mem_cover.mp inCover
    obtain ⟨from_le, le_until⟩ := within span member
    exact Finset.mem_Ico.mpr ⟨from_le.trans start, finish.trans_le le_until⟩
  have covered := Finset.card_le_card inWindow
  rw [Int.card_Ico] at covered
  rw [← card_cover proper apart]
  omega

end DisjointSpans
