import Mathlib.Data.Bool.AllAny
import WebScript.Text.Half

namespace WebScript.Text

variable {c : Char} {text t s : List Char}

theorem isWhole_iff : isWhole text = true ↔ ∀ c ∈ text, isHalfMark c = false := by
  simp [isWhole]

theorem isWhole_append : isWhole (s ++ t) = true ↔ isWhole s = true ∧ isWhole t = true := by
  rw [isWhole, List.all_append, Bool.and_eq_true]
  rfl

theorem halfAt?_of_whole (h : isHalfMark c = false) (text : List Char) :
    halfAt? (c :: text) = none := by
  rw [halfAt?.eq_def]
  split
  · next same =>
    obtain ⟨rfl, -⟩ := List.cons.inj same
    rw [h]
    rfl
  · rfl

/-- Nothing is joined in a text without halves of characters. -/
theorem joined_of_isWhole (h : isWhole text = true) : joined text = text := by
  induction text with
  | nil => rfl
  | cons c text ih =>
    rw [isWhole_iff, List.forall_mem_cons] at h
    have later : joined text = text := ih (isWhole_iff.2 h.2)
    rw [joined, List.foldr_cons, ← joined, later, withPair, halfAt?_of_whole h.1]

end WebScript.Text
