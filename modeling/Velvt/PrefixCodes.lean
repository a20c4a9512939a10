import Mathlib.Data.List.Infix

/-!
# Codes that are read from the front

In a prefix code no codeword begins another.
-/

namespace Velvt.PrefixCodes

open List

variable {α β : Type*}

/-- No codeword begins another. -/
def PrefixCode (code : β → List α) : Prop :=
  ∀ ⦃first second⦄, code first <+: code second → first = second

namespace PrefixCode

variable {code : β → List α}

theorem append_inj (prefixCode : PrefixCode code) {first second : β} {rest others : List α}
    (same : code first ++ rest = code second ++ others) : first = second ∧ rest = others := by
  have agree : first = second := by
    have begins : code first <+: code second ++ others := ⟨rest, same⟩
    rcases prefix_or_prefix_of_prefix begins (prefix_append _ _) with within | within
    · exact prefixCode within
    · exact (prefixCode within).symm
  subst agree
  exact ⟨rfl, append_cancel_left same⟩

theorem flatMap_injective (prefixCode : PrefixCode code) (nonempty : ∀ value, code value ≠ []) :
    Function.Injective (List.flatMap code) := by
  intro first
  induction first with
  | nil =>
    intro second same
    cases second with
    | nil => rfl
    | cons value values =>
      rw [flatMap_nil, flatMap_cons, nil_eq, append_eq_nil_iff] at same
      exact absurd same.1 (nonempty value)
  | cons value values ih =>
    intro second same
    cases second with
    | nil =>
      rw [flatMap_nil, flatMap_cons, append_eq_nil_iff] at same
      exact absurd same.1 (nonempty value)
    | cons other others =>
      rw [flatMap_cons, flatMap_cons] at same
      obtain ⟨rfl, rest⟩ := prefixCode.append_inj same
      rw [ih rest]

theorem with_length {bound width : Nat} {header : Nat → List α}
    (length : ∀ count, (header count).length = width)
    (injective : ∀ first < bound, ∀ second < bound, header first = header second → first = second) :
    PrefixCode fun text : { text : List α // text.length < bound } =>
      header text.1.length ++ text.1 := by
  rintro ⟨first, firstWithin⟩ ⟨second, secondWithin⟩ ⟨rest, same⟩
  rw [append_assoc] at same
  obtain ⟨headers, texts⟩ := List.append_inj same (by rw [length, length])
  have begins : first <+: second := ⟨rest, texts⟩
  have lengths := injective _ firstWithin _ secondWithin headers
  exact Subtype.ext (begins.eq_of_length lengths)

end PrefixCode

end Velvt.PrefixCodes
