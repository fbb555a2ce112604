import Mathlib.Data.List.Forall2
import WebScript.Proofs.Script.Jumps

namespace WebScript

variable {t u : Target}

theorem Exchange.same_refl (x : Exchange) : x.same x = true := by
  simp [same, List.isPerm_iff]

theorem Step.same_refl (step : Step) : step.same step = true := by
  induction step with
  | fetch url x => simp [same, x.same_refl]
  | submit choice overrides x => simp [same, x.same_refl]
  | branch property value inner ih => simp [same, ih]
  | jump target => simp [same]

theorem Target.same_refl (t : Target) : t.same t = true := by
  have h (steps : List Step) : ((steps.zip steps).all fun p => p.1.same p.2) = true := by
    induction steps with
    | nil => rfl
    | cons step rest ih => simpa [step.same_refl] using ih
  simp [same, h]

theorem Target.name_eq_of_same (h : t.same u = true) : t.name = u.name := by
  simp only [same, Bool.and_eq_true, decide_eq_true_eq] at h
  exact h.1.1

/-- Steps that are the same kind by kind, up to the order of options, also inside their branches. -/
inductive Step.Same : Step → Step → Prop
  | fetch {url x x'} (h : x.same x' = true) : Same (.fetch url x) (.fetch url x')
  | submit {choice overrides x x'} (h : x.same x' = true) :
      Same (.submit choice overrides x) (.submit choice overrides x')
  | branch {property value inner inner'} (h : Same inner inner') :
      Same (.branch property value inner) (.branch property value inner')
  | jump {target} : Same (.jump target) (.jump target)

theorem Step.Same.of_same {step step' : Step} (h : step.same step' = true) : Same step step' := by
  induction step generalizing step' with
  | fetch url x =>
    cases step' with
    | fetch url' x' =>
      simp only [same, Bool.and_eq_true, decide_eq_true_eq] at h
      obtain ⟨rfl, hx⟩ := h
      exact .fetch hx
    | _ => cases h
  | submit choice overrides x =>
    cases step' with
    | submit choice' overrides' x' =>
      simp only [same, Bool.and_eq_true, decide_eq_true_eq] at h
      obtain ⟨⟨rfl, rfl⟩, hx⟩ := h
      exact .submit hx
    | _ => cases h
  | branch property value inner ih =>
    cases step' with
    | branch property' value' inner' =>
      simp only [same, Bool.and_eq_true, decide_eq_true_eq] at h
      obtain ⟨⟨rfl, rfl⟩, hi⟩ := h
      exact .branch (ih hi)
    | _ => cases h
  | jump target =>
    cases step' with
    | jump target' =>
      simp only [same, decide_eq_true_eq] at h
      subst h
      exact .jump
    | _ => cases h

theorem Exchange.same_iff {x y : Exchange} :
    x.same y = true ↔ x.rules = y.rules ∧ x.accepted = y.accepted ∧ x.options.Perm y.options := by
  simp only [same, Bool.and_eq_true, decide_eq_true_eq, List.isPerm_iff, and_assoc]

theorem Exchange.same_symm {x y : Exchange} (h : x.same y = true) : y.same x = true := by
  obtain ⟨rules, accepted, options⟩ := same_iff.1 h
  exact same_iff.2 ⟨rules.symm, accepted.symm, options.symm⟩

theorem Exchange.same_trans {x y z : Exchange} (h : x.same y = true) (h' : y.same z = true) :
    x.same z = true := by
  obtain ⟨rules, accepted, options⟩ := same_iff.1 h
  obtain ⟨rules', accepted', options'⟩ := same_iff.1 h'
  exact same_iff.2 ⟨rules.trans rules', accepted.trans accepted', options.trans options'⟩

theorem Step.Same.symm {step step' : Step} (h : step.Same step') : step'.Same step := by
  induction h with
  | fetch h => exact .fetch (Exchange.same_symm h)
  | submit h => exact .submit (Exchange.same_symm h)
  | branch _ ih => exact .branch ih
  | jump => exact .jump

theorem Step.Same.trans {step step' step'' : Step} (h : step.Same step') (h' : step'.Same step'') :
    step.Same step'' := by
  induction h generalizing step'' with
  | fetch h =>
    cases h' with
    | fetch h' => exact .fetch (Exchange.same_trans h h')
  | submit h =>
    cases h' with
    | submit h' => exact .submit (Exchange.same_trans h h')
  | branch _ ih =>
    cases h' with
    | branch h' => exact .branch (ih h')
  | jump => exact h'

theorem Target.steps_of_same (h : t.same u = true) : List.Forall₂ Step.Same t.steps u.steps := by
  simp only [same, Bool.and_eq_true, decide_eq_true_eq] at h
  obtain ⟨⟨_, length⟩, all⟩ := h
  rw [List.forall₂_iff_zip]
  exact ⟨length, fun hm => .of_same (List.all_eq_true.1 all _ hm)⟩

/-- What steps have in common that are the same, targets that are the same have step by step. -/
theorem Target.map_eq_of_same {α : Type} {g : Step → α}
    (hg : ∀ step step' : Step, step.Same step' → g step = g step') (h : t.same u = true) :
    t.steps.map g = u.steps.map g := by
  rw [← List.forall₂_eq_eq_eq, List.forall₂_map_left_iff, List.forall₂_map_right_iff]
  exact (steps_of_same h).imp hg

theorem Target.steps_of_both_same {v : Target} (h : u.same t = true) (h' : v.same t = true) :
    List.Forall₂ Step.Same u.steps v.steps := by
  obtain ⟨length, each⟩ := List.forall₂_iff_get.1 (steps_of_same h)
  obtain ⟨length', each'⟩ := List.forall₂_iff_get.1 (steps_of_same h')
  refine List.forall₂_iff_get.2 ⟨length.trans length'.symm, fun i hu hv => ?_⟩
  have ht : i < t.steps.length := length ▸ hu
  exact (each i hu ht).trans (each' i hv ht).symm

theorem Step.Same.jumpTarget?_eq {step step' : Step} (h : step.Same step') :
    step.jumpTarget? = step'.jumpTarget? := by
  induction h with
  | fetch => rfl
  | submit => rfl
  | branch _ ih => rw [jumpTarget?, jumpTarget?, ih]
  | jump => rfl

theorem Target.hasJump_iff {name : String} :
    t.HasJump name ↔ some name ∈ t.steps.map Step.jumpTarget? := by
  simp only [HasJump, List.mem_map, Step.jumpTarget?_eq_some]

theorem Target.HasJump.of_same {name : String} (h : t.HasJump name) (same : t.same u = true) :
    u.HasJump name := by
  rw [hasJump_iff, ← map_eq_of_same (fun _ _ => Step.Same.jumpTarget?_eq) same]
  exact hasJump_iff.1 h

end WebScript
