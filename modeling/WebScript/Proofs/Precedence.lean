import Mathlib.Data.List.Basic

namespace WebScript

variable {α : Type} {P Q : α → Prop} {l : List α} {a b : α}

structure IsFirst (P : α → Prop) (l : List α) (a : α) : Prop where
  holds : P a
  split : ∃ before after, l = before ++ a :: after ∧ ∀ b ∈ before, ¬P b

structure IsLast (P : α → Prop) (l : List α) (a : α) : Prop where
  holds : P a
  split : ∃ before after, l = before ++ a :: after ∧ ∀ b ∈ after, ¬P b

theorem IsFirst.mem (h : IsFirst P l a) : a ∈ l := by
  obtain ⟨before, after, rfl, _⟩ := h.split
  exact List.mem_append_right _ List.mem_cons_self

theorem IsLast.mem (h : IsLast P l a) : a ∈ l := by
  obtain ⟨before, after, rfl, _⟩ := h.split
  exact List.mem_append_right _ List.mem_cons_self

theorem isFirst_cons : IsFirst P (a :: l) b ↔ P a ∧ b = a ∨ ¬P a ∧ IsFirst P l b := by
  constructor
  · intro h
    obtain ⟨before, after, hl, none⟩ := h.split
    cases before with
    | nil =>
      cases hl
      exact .inl ⟨h.holds, rfl⟩
    | cons c before =>
      cases hl
      obtain ⟨hc, none⟩ := List.forall_mem_cons.1 none
      exact .inr ⟨hc, h.holds, before, after, rfl, none⟩
  · rintro (⟨ha, rfl⟩ | ⟨ha, h⟩)
    · exact ⟨ha, [], l, rfl, nofun⟩
    · obtain ⟨before, after, rfl, none⟩ := h.split
      exact ⟨h.holds, a :: before, after, rfl, List.forall_mem_cons.2 ⟨ha, none⟩⟩

theorem isLast_reverse : IsLast P l.reverse a ↔ IsFirst P l a := by
  constructor
  · intro h
    obtain ⟨before, after, hl, none⟩ := h.split
    have hl : l = after.reverse ++ a :: before.reverse := by
      rw [← List.reverse_reverse l, hl]
      simp
    exact ⟨h.holds, _, _, hl, fun b hb => none b (List.mem_reverse.1 hb)⟩
  · intro h
    obtain ⟨before, after, rfl, none⟩ := h.split
    exact ⟨h.holds, after.reverse, before.reverse, by simp,
      fun b hb => none b (List.mem_reverse.1 hb)⟩

theorem IsLast.congr (same : ∀ b ∈ l, P b ↔ Q b) (h : IsLast P l a) : IsLast Q l a := by
  have mem := h.mem
  obtain ⟨before, after, rfl, none⟩ := h.split
  refine ⟨(same a mem).1 h.holds, before, after, rfl, ?_⟩
  intro b hb holds
  apply none b hb
  apply (same b _).2 holds
  exact List.mem_append_right _ (List.mem_cons_of_mem _ hb)

section Decidable

variable [DecidablePred P]

theorem isFirst_iff_find? : IsFirst P l a ↔ l.find? (fun b => decide (P b)) = some a := by
  rw [List.find?_eq_some_iff_append]
  constructor
  · intro h
    obtain ⟨before, after, hl, none⟩ := h.split
    exact ⟨decide_eq_true h.holds, before, after, hl, fun b hb => by simpa using none b hb⟩
  · rintro ⟨holds, before, after, hl, none⟩
    exact ⟨of_decide_eq_true holds, before, after, hl, fun b hb => by simpa using none b hb⟩

theorem isLast_iff_find? : IsLast P l a ↔ l.reverse.find? (fun b => decide (P b)) = some a := by
  rw [← isFirst_iff_find?, ← isLast_reverse, List.reverse_reverse]

theorem find?_eq_none_iff : l.find? (fun b => decide (P b)) = none ↔ ∀ b ∈ l, ¬P b := by
  simp only [List.find?_eq_none, decide_eq_true_eq]

end Decidable

theorem IsFirst.unique (h : IsFirst P l a) (h' : IsFirst P l b) : a = b := by
  classical
  have ha := isFirst_iff_find?.1 h
  have hb := isFirst_iff_find?.1 h'
  exact Option.some.inj (ha.symm.trans hb)

theorem exists_isFirst (h : ∃ a ∈ l, P a) : ∃ a, IsFirst P l a := by
  classical
  cases found : l.find? fun c => decide (P c) with
  | some a => exact ⟨a, isFirst_iff_find?.2 found⟩
  | none =>
    obtain ⟨a, ha, holds⟩ := h
    exact absurd holds (find?_eq_none_iff.1 found a ha)

end WebScript
