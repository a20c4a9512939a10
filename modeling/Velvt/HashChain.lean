import Mathlib.Data.List.Basic
import Mathlib.Data.List.Induction

/-!
# Hash chains

A list of entries in which each names the digest of the one before it.
-/

namespace HashChain

variable {Entry Hash : Type*} (prev digest : Entry → Hash)

/-- Each entry names the digest of the entry before it, and the first one names the
anchor. -/
def Linked : Hash → List Entry → Prop
  | _, [] => True
  | anchor, entry :: entries => prev entry = anchor ∧ Linked (digest entry) entries

def head (anchor : Hash) (entries : List Entry) : Hash :=
  entries.foldl (fun _ entry => digest entry) anchor

@[simp]
theorem linked_nil (anchor : Hash) : Linked prev digest anchor [] :=
  trivial

@[simp]
theorem linked_cons (anchor : Hash) (entry : Entry) (entries : List Entry) :
    Linked prev digest anchor (entry :: entries) ↔
      prev entry = anchor ∧ Linked prev digest (digest entry) entries :=
  Iff.rfl

@[simp]
theorem head_nil (anchor : Hash) : head digest anchor [] = anchor :=
  rfl

@[simp]
theorem head_cons (anchor : Hash) (entry : Entry) (entries : List Entry) :
    head digest anchor (entry :: entries) = head digest (digest entry) entries :=
  rfl

@[simp]
theorem head_append (anchor : Hash) (first second : List Entry) :
    head digest anchor (first ++ second) = head digest (head digest anchor first) second := by
  simp [head]

@[simp]
theorem linked_append (anchor : Hash) (first second : List Entry) :
    Linked prev digest anchor (first ++ second) ↔ Linked prev digest anchor first ∧
        Linked prev digest (head digest anchor first) second := by
  induction first generalizing anchor with
  | nil => simp
  | cons entry entries ih => simp [ih, and_assoc]

theorem head_eq_getLast (anchor : Hash) (entries : List Entry) :
    head digest anchor entries = (entries.getLast?.map digest).getD anchor := by
  induction entries using List.reverseRecOn with
  | nil => rfl
  | append_singleton entries entry _ => simp

theorem eq_of_head_eq {anchor : Hash} {first second : List Entry}
    (collisionFree : ∀ left ∈ first, ∀ right ∈ second, digest left = digest right → left = right)
    (firstLinked : Linked prev digest anchor first)
    (secondLinked : Linked prev digest anchor second) (sameLength : first.length = second.length)
    (sameHead : head digest anchor first = head digest anchor second) : first = second := by
  induction first using List.reverseRecOn generalizing second with
  | nil => exact (List.length_eq_zero_iff.mp sameLength.symm).symm
  | append_singleton entries entry ih =>
    rcases List.eq_nil_or_concat' second with rfl | ⟨others, other, rfl⟩
    · simp at sameLength
    simp only [head_append, head_cons, head_nil] at sameHead
    -- the last entries have one digest, so they are one entry, and name one head
    have same : entry = other := collisionFree entry (by simp) other (by simp) sameHead
    subst same
    rw [linked_append] at firstLinked secondLinked
    have before : entries = others := by
      apply ih
      · intro left leftMem right rightMem
        exact collisionFree left (List.mem_append_left _ leftMem) right
          (List.mem_append_left _ rightMem)
      · exact firstLinked.1
      · exact secondLinked.1
      · simpa using sameLength
      · exact firstLinked.2.1.symm.trans secondLinked.2.1
    rw [before]

end HashChain
