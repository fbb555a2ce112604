import WebScript.Proofs.Run.Inlining
import WebScript.Proofs.Run.Lockstep
import WebScript.Proofs.Run.Preparation
import WebScript.Proofs.Script.WellFormed

namespace WebScript

variable {σ : Type}

theorem filter_key_eq_find? {α κ : Type} [DecidableEq κ] {key : α → κ} {l : List α}
    (h : (l.map key).Nodup) (k : κ) :
    l.filter (fun x => key x = k) = (l.find? fun x => key x = k).toList := by
  induction l with
  | nil => rfl
  | cons x rest ih =>
    obtain ⟨fresh, h⟩ := List.nodup_cons.1 h
    by_cases hx : key x = k
    · have none : rest.filter (fun x => key x = k) = [] := by
        apply List.filter_eq_nil_iff.2
        intro y hy same
        have same : key y = k := by simpa using same
        exact fresh (List.mem_map.2 ⟨y, hy, same.trans hx.symm⟩)
      simp [hx, none]
    · simpa [hx] using ih h

namespace Script

variable {script shuffled : Script}

/-- At most one target has a name, without regard to case, and that is the one found by it. -/
theorem NamesDiffer.filter_eq_find? (h : script.NamesDiffer) (name : String) :
    script.targets.filter (fun t => Text.fold t.name = Text.fold name) =
      (script.find? name).toList :=
  filter_key_eq_find? h _

/-- Targets in another order are found by the same names. -/
theorem NamesDiffer.find?_eq_of_perm (h : script.NamesDiffer)
    (perm : shuffled.targets.Perm script.targets) (name : String) :
    shuffled.find? name = script.find? name := by
  have h' : shuffled.NamesDiffer := (perm.map _).nodup_iff.2 h
  have found := perm.filter fun t => Text.fold t.name = Text.fold name
  rw [h.filter_eq_find?, h'.filter_eq_find?] at found
  cases hs : script.find? name with
  | none =>
    rw [hs] at found
    simpa using found
  | some t =>
    rw [hs] at found
    simpa using found

end Script

namespace Runner

variable {r : Runner σ} {script shuffled : Script}

/-- What can be told of a run that is over: the requests it has sent, in order, its result, and the
state in which it has left what answers them. -/
def Finished.told (fin : Finished σ) : List Request × Except Failure Report × σ :=
  (fin.session.requests, fin.result, fin.session.remote)

theorem told_eq_of_like {x y : Option (Finished σ)} (h : Option.Rel (Finished.Like Eq) x y) :
    y.map Finished.told = x.map Finished.told := by
  cases h with
  | none => rfl
  | some like =>
    have requests := Request.forall₂_like_eq.1 like.requests
    rw [Option.map_some, Option.map_some, Finished.told, Finished.told, ← requests, like.result,
      like.remote]

theorem entry_eq_of_find? (found : ∀ name, shuffled.find? name = script.find? name)
    (same : shuffled.defaultTarget = script.defaultTarget) (target : Option String) :
    entry shuffled target = entry script target := by
  simp only [entry, same, found]

theorem prepare_ok_of_perm {ts us : List Target} (perm : us.Perm ts)
    (ok : (r.prepare ts).1 = .ok ()) : (r.prepare us).1 = .ok () := by
  rw [prepare_eq_ok] at ok ⊢
  intro rules hm
  exact ok rules ((perm.flatMap_right _).mem_iff.1 hm)

theorem forall₂_like_refl (actions : List Action) :
    List.Forall₂ (Action.Like Eq) actions actions :=
  List.forall₂_same.2 fun action _ => .refl action

/-- Runners that are ready for the targets of a script in two orders are in step. -/
theorem inStep_of_perm (names : script.NamesDiffer)
    (perm : shuffled.targets.Perm script.targets) (ok : (r.prepare script.targets).1 = .ok ()) :
    InStep Eq (r.prepared script) (r.prepared shuffled) script shuffled where
  accessor := by rw [prepared_accessor, prepared_accessor]
  overlooks := Accessor.overlooks_eq _
  limit := by rw [prepared_maxJumpDepth, prepared_maxJumpDepth]
  found := names.find?_eq_of_perm perm
  actions t ht := by
    have names' : shuffled.NamesDiffer := (perm.map _).nodup_iff.2 names
    have ok' := prepare_ok_of_perm perm ok
    obtain ⟨actions, ready⟩ := exists_actionsOf_prepared ok ht
    -- Each of the two has for the target what the runner has had for it alone.
    have own := (actionsOf_prepared_eq names ok ht).symm.trans ready
    have ready' := (actionsOf_prepared_eq names' ok' (perm.mem_iff.2 ht)).trans own
    exact ⟨actions, actions, ready, ready', forall₂_like_refl actions⟩

/-- A script that has been read from data is well formed. So at most one of its targets has a given
name, which is the one found by it, and the order of the targets makes no difference to any run. -/
theorem run_permuted {v : Value} (loaded : Script.ofValue v = .ok script) :
    script.WellFormed ∧
    (∀ name, script.targets.filter (fun t => Text.fold t.name = Text.fold name) =
      (script.find? name).toList) ∧
    ∀ ts : List Target, ts.Perm script.targets → ∀ r : Runner σ,
      (r.prepare script.targets).1 = .ok () → ∀ inputs target remote,
        (r.run { script with targets := ts } inputs target remote).map Finished.told =
          (r.run script inputs target remote).map Finished.told := by
  have wellFormed := Script.ofValue_wellFormed loaded
  have names := wellFormed.namesDiffer
  refine ⟨wellFormed, names.filter_eq_find?, ?_⟩
  intro ts perm r ok inputs target remote
  have found (name) : Script.find? name { script with targets := ts } = script.find? name :=
    names.find?_eq_of_perm perm name
  have ready := (prepare_ok_of_perm perm ok).trans ok.symm
  apply told_eq_of_like
  apply run_like (entry_eq_of_find? found rfl target) ready
  intro ok
  exact inStep_of_perm names perm ok

def errandData : Value :=
  .map [(.text "default_target", .text "Main"), (.text "targets", .list [
    .map [(.text "name", .text "Main"), (.text "actions", .list [
      .map [(.text "jump", .map [(.text "target", .text "side")])]])],
    .map [(.text "name", .text "Side"), (.text "actions", .list [
      .map [(.text "fetch", .map [(.text "url", .text "http://shop/")])]])]])]

/-- The target of the jump comes first, and the run ends as before. -/
theorem errand_permuted : Script.ofValue errandData = .ok errand ∧
    [errandSide, errandMain].Perm errand.targets ∧
    ((blank 1).prepare errand.targets).1 = .ok () ∧ errand.WellFormed ∧
    ∃ fin, (blank 1).run errand [] none () = some fin ∧
      ((blank 1).run { errand with targets := [errandSide, errandMain] } [] none ()).map
        Finished.told = some fin.told := by
  have loaded : Script.ofValue errandData = .ok errand := by decide +kernel
  have perm : [errandSide, errandMain].Perm errand.targets := .swap _ _ _
  have ready : ((blank 1).prepare errand.targets).1 = .ok () := rfl
  obtain ⟨wellFormed, _, permuted⟩ := run_permuted loaded
  obtain ⟨s, run⟩ := errand_run
  have same := permuted _ perm (blank 1) ready [] none ()
  rw [run, Option.map_some] at same
  exact ⟨loaded, perm, ready, wellFormed, _, run, same⟩

end Runner
end WebScript
