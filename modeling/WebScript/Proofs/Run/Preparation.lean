import WebScript.Proofs.Page.Rules
import WebScript.Proofs.Run.Faults
import WebScript.Proofs.Run.Ready

namespace WebScript

def Step.rules : Step → List Rule
  | .fetch _ x => x.rules
  | .submit _ _ x => x.rules
  | .branch _ _ inner => inner.rules
  | .jump _ => []

def Target.ruleLists (t : Target) : List (List Rule) :=
  t.steps.map Step.rules

/-- The rules of all steps of a script, step by step. -/
def Script.ruleLists (script : Script) : List (List Rule) :=
  script.targets.flatMap Target.ruleLists

variable {step : Step} {t u : Target} {f : Failure}

theorem Action.ofStep_eq_error :
    ofStep step = .error f ↔ Extractor.ofRules step.rules = .error f := by
  induction step with
  | fetch url x =>
    rw [ofStep, Except.bind_pure_eq_error]
    rfl
  | submit choice overrides x =>
    rw [ofStep, Except.bind_pure_eq_error]
    rfl
  | branch property value inner ih =>
    rw [ofStep, Except.bind_pure_eq_error, ih]
    rfl
  | jump target => exact ⟨nofun, nofun⟩

theorem Action.exists_ofStep_eq_ok :
    (∃ action, ofStep step = .ok action) ↔ ∃ x, Extractor.ofRules step.rules = .ok x :=
  Except.exists_eq_ok_congr fun _ => ofStep_eq_error

theorem Target.actions_eq_error :
    t.actions = .error f ↔ t.ruleLists.mapM Extractor.ofRules = .error f := by
  rw [actions, ruleLists, List.mapM_map]
  exact Except.mapM_error_congr (fun _ _ _ => Action.ofStep_eq_error) f

theorem Exchange.rules_eq_of_same {x y : Exchange} (h : x.same y = true) : x.rules = y.rules := by
  simp only [same, Bool.and_eq_true, decide_eq_true_eq] at h
  exact h.1.1

theorem Step.Same.rules_eq {step step' : Step} (h : step.Same step') :
    step.rules = step'.rules := by
  induction h with
  | fetch h => exact Exchange.rules_eq_of_same h
  | submit h => exact Exchange.rules_eq_of_same h
  | branch _ ih => exact ih
  | jump => rfl

theorem Target.ruleLists_eq_of_same (h : t.same u = true) : t.ruleLists = u.ruleLists :=
  map_eq_of_same (fun _ _ => Step.Same.rules_eq) h

namespace Runner

variable {σ : Type} {r : Runner σ}

theorem prepareTarget_eq_error :
    (r.prepareTarget t).1 = .error f ↔ t.ruleLists.mapM Extractor.ofRules = .error f := by
  rw [← Target.actions_eq_error]
  refine ⟨prepareTarget_error, fun h => ?_⟩
  rw [prepareTarget]
  split
  · next known hk =>
    -- A target that is the same has been made ready, so this one has no fault.
    rw [Target.actions_eq_error, ← Target.ruleLists_eq_of_same (known?_mem hk).2,
      ← Target.actions_eq_error, known.made] at h
    cases h
  · cases hr : Ready.ofTarget t with
    | ok known =>
      have made := known.made
      rw [Ready.target_of_ofTarget hr, h] at made
      cases made
    | error f' =>
      cases h.symm.trans (Ready.actions_of_ofTarget_error hr)
      rfl

/-- Targets are made ready up to the first rules that are refused, whatever the runner knows. -/
theorem prepare_eq_error {ts : List Target} :
    (r.prepare ts).1 = .error f ↔
      (ts.flatMap Target.ruleLists).mapM Extractor.ofRules = .error f := by
  rw [Except.mapM_flatMap_eq_error]
  induction ts generalizing r with
  | nil => exact ⟨nofun, nofun⟩
  | cons t rest ih =>
    rw [List.mapM_cons, Except.bind_eq_error, ← prepareTarget_eq_error]
    cases ht : (r.prepareTarget t).1 with
    | error f' =>
      rw [prepare_cons_error ht]
      have refused := prepareTarget_eq_error.1 ht
      exact (or_iff_left fun ⟨_, ok, _⟩ => by cases refused.symm.trans ok).symm
    | ok =>
      rw [prepare_cons_ok ht, ih]
      cases rules : t.ruleLists.mapM Extractor.ofRules with
      | error f' => cases ht.symm.trans (prepareTarget_eq_error.2 rules)
      | ok xs =>
        constructor
        · intro h
          exact .inr ⟨xs, rfl, Except.bind_eq_error.2 (.inl h)⟩
        · rintro (h | ⟨_, _, h⟩)
          · cases h
          · rcases Except.bind_eq_error.1 h with h | ⟨_, _, h⟩
            · exact h
            · cases h

theorem prepare_eq_ok {ts : List Target} :
    (r.prepare ts).1 = .ok () ↔
      ∀ rules ∈ ts.flatMap Target.ruleLists, ∃ x, Extractor.ofRules rules = .ok x := by
  rw [← Except.exists_mapM_eq_ok_iff]
  cases h : (r.prepare ts).1 with
  | error f => simp [prepare_eq_error.1 h]
  | ok =>
    cases rules : (ts.flatMap Target.ruleLists).mapM Extractor.ofRules with
    | error f => cases h.symm.trans (prepare_eq_error.2 rules)
    | ok xs => simp

end Runner
end WebScript
