import Mathlib.Data.List.Sort
import WebScript.XPath.Eval

namespace WebScript.XPath

variable {t : Tree} {f : Focus} {r : Result} {ns : List Nat} {name : String} {args : List Result}

/-- Nodes are numbered in document order. -/
def Ordered (ns : List Nat) : Prop :=
  ns.Pairwise (· < ·)

theorem ordered_eraseReps_loop {n : Nat} {ns acc : List Nat} (sorted : (n :: ns).Pairwise (· ≤ ·))
    (before : acc.reverse.Pairwise (· < ·)) (less : ∀ m ∈ acc, m < n) :
    Ordered (List.eraseRepsBy.loop (· == ·) n ns acc) := by
  induction ns generalizing n acc with
  | nil =>
    rw [List.eraseRepsBy.loop, List.reverse_cons]
    apply List.pairwise_append.2
    refine ⟨before, List.pairwise_singleton _ _, ?_⟩
    intro m hm k hk
    rw [List.mem_singleton.1 hk]
    exact less m (List.mem_reverse.1 hm)
  | cons m ns ih =>
    obtain ⟨above, sorted⟩ := List.pairwise_cons.1 sorted
    have le : n ≤ m := above m List.mem_cons_self
    rw [List.eraseRepsBy.loop]
    split
    · next same =>
      have same : n = m := by simpa using same
      subst same
      exact ih sorted before less
    · next other =>
      have lt : n < m := Nat.lt_of_le_of_ne le (by simpa using other)
      apply ih sorted
      · rw [List.reverse_cons]
        apply List.pairwise_append.2
        refine ⟨before, List.pairwise_singleton _ _, ?_⟩
        intro k hk l hl
        rw [List.mem_singleton.1 hl]
        exact less k (List.mem_reverse.1 hk)
      · intro k hk
        rcases List.mem_cons.1 hk with rfl | hk
        · exact lt
        · exact Nat.lt_trans (less k hk) lt

theorem ordered_inOrder (ns : List Nat) : Ordered (inOrder ns) := by
  have sorted : (ns.mergeSort (· ≤ ·)).Pairwise (· ≤ ·) := List.pairwise_mergeSort' (· ≤ ·) ns
  rw [inOrder]
  cases ms : ns.mergeSort (· ≤ ·) with
  | nil => exact List.Pairwise.nil
  | cons m rest =>
    rw [ms] at sorted
    exact ordered_eraseReps_loop sorted List.Pairwise.nil nofun

theorem callOnValues_ne_nodes : callOnValues t name args ≠ some (.nodes ns) := by
  intro h
  unfold callOnValues at h
  dsimp only at h
  split at h
  all_goals cases h

theorem callFunction_eq_nodes (h : callFunction t f name args = some (.nodes ns)) :
    ∃ r, ns = identified t r := by
  unfold callFunction at h
  split at h
  case h_7 r =>
    cases h
    exact ⟨r, rfl⟩
  case h_21 => exact absurd h callOnValues_ne_nodes
  all_goals simp at h

theorem map_of_mapM {α β γ : Type} {g : α → Option β} {u : α → γ} {v : β → γ}
    (keeps : ∀ a b, g a = some b → v b = u a) {l : List α} {bs : List β} (h : l.mapM g = some bs) :
    bs.map v = l.map u := by
  induction l generalizing bs with
  | nil =>
    cases h
    rfl
  | cons a l ih =>
    rw [List.mapM_cons] at h
    obtain ⟨b, ha, h⟩ := Option.bind_eq_some_iff.1 h
    obtain ⟨rest, hl, h⟩ := Option.bind_eq_some_iff.1 h
    cases h
    rw [List.map_cons, List.map_cons, keeps a b ha, ih hl]

/-- What a predicate leaves of some nodes stands in their order. -/
theorem sublist_of_kept {g : Nat × Nat → Option (Nat × Bool)} {kept : List (Nat × Bool)}
    (keeps : ∀ a b, g a = some b → b.1 = a.1) (h : ns.zipIdx.mapM g = some kept) :
    ((kept.filter (·.2)).map (·.1)).Sublist ns := by
  have all : kept.map (·.1) = ns := by
    rw [map_of_mapM keeps h, List.zipIdx_map_fst]
  rw [← all]
  exact (List.filter_sublist).map _

theorem eval_ordered : (e : Expr) → {ns : List Nat} → eval t f e = some (.nodes ns) → Ordered ns
  | .number _, _, h => by cases h
  | .literal _, _, h => by cases h
  | .variable _, _, h => by cases h
  | .signed _ e, _, h => by
    rw [eval] at h
    obtain ⟨_, _, h⟩ := Option.bind_eq_some_iff.1 h
    cases h
  | .root, _, h => by
    cases h
    exact List.pairwise_singleton _ _
  | .context, _, h => by
    cases h
    exact List.pairwise_singleton _ _
  | .call space name args, _, h => by
    rw [eval] at h
    obtain ⟨rs, _, h⟩ := Option.bind_eq_some_iff.1 h
    split at h
    · cases h
    · obtain ⟨r, rfl⟩ := callFunction_eq_nodes h
      exact ordered_inOrder _
  | .binary op a b, _, h => by
    rw [eval] at h
    obtain ⟨x, _, h⟩ := Option.bind_eq_some_iff.1 h
    split at h
    · cases h
    · split at h
      · cases h
      · obtain ⟨y, _, h⟩ := Option.bind_eq_some_iff.1 h
        split at h
        case h_3 =>
          split at h
          · cases h
            exact ordered_inOrder _
          · cases h
        all_goals cases h
  | .step base axis test predicates, _, h => by
    rw [eval] at h
    obtain ⟨r, _, h⟩ := Option.bind_eq_some_iff.1 h
    split at h
    · split at h
      · cases h
      · obtain ⟨found, _, h⟩ := Option.bind_eq_some_iff.1 h
        cases h
        exact ordered_inOrder _
    · cases h
  | .filter base predicate, _, h => by
    rw [eval] at h
    obtain ⟨r, hb, h⟩ := Option.bind_eq_some_iff.1 h
    split at h
    · obtain ⟨kept, hk, h⟩ := Option.bind_eq_some_iff.1 h
      cases h
      apply List.Pairwise.sublist _ (eval_ordered base hb)
      apply sublist_of_kept _ hk
      rintro a b hab
      obtain ⟨_, _, hab⟩ := Option.bind_eq_some_iff.1 hab
      cases hab
      rfl
    · cases h

end WebScript.XPath
