import WebScript.Proofs.Script.Names
import WebScript.Run.Action
import WebScript.Script.Jumps

namespace WebScript

/-- A jump of a script that names its target literally. -/
structure Inlining (script : Script) where
  target : Target
  before : List Step
  jump : String
  after : List Step
  callee : Target
  mem : target ∈ script.targets
  steps : target.steps = before ++ .jump jump :: after
  literal : Template.hasOpener jump = false
  found : script.find? jump = some callee

namespace Inlining

variable {script : Script} (i : Inlining script)

/-- The target with the steps in the place of the jump. -/
def inlined : Target :=
  { i.target with steps := i.before ++ i.callee.steps ++ i.after }

def replace (t : Target) : Target :=
  if t = i.target then i.inlined else t

/-- The script with that target in the place of the one with the jump. -/
def result : Script :=
  { script with targets := script.targets.map i.replace }

theorem replace_target : i.replace i.target = i.inlined :=
  if_pos rfl

theorem replace_other {t : Target} (h : t ≠ i.target) : i.replace t = t :=
  if_neg h

theorem replace_name (t : Target) : (i.replace t).name = t.name := by
  by_cases h : t = i.target
  · rw [h, replace_target, inlined]
  · rw [i.replace_other h]

theorem result_find? (name : String) :
    i.result.find? name = (script.find? name).map i.replace := by
  rw [Script.find?, result, List.find?_map, Script.find?]
  simp only [Function.comp_def, replace_name]

theorem result_namesDiffer (h : script.NamesDiffer) : i.result.NamesDiffer := by
  rw [Script.NamesDiffer, result, List.map_map]
  simp only [Function.comp_def, replace_name]
  exact h

/-- The actions of the target fall into those around the jump, and with those of the other target
between them they are the actions of the new one. -/
theorem inlined_actions {actions inner : List Action} (h : i.target.actions = .ok actions)
    (hc : i.callee.actions = .ok inner) :
    ∃ before after, actions = before ++ .jump i.jump :: after ∧
      i.inlined.actions = .ok (before ++ (inner ++ after)) := by
  rw [Target.actions, i.steps] at h
  obtain ⟨before, others, hb, ho, rfl⟩ := Except.mapM_append_eq_ok h
  rw [List.mapM_cons] at ho
  obtain ⟨_, hj, ho⟩ := Except.bind_eq_ok.1 ho
  obtain ⟨after, ha, ho⟩ := Except.bind_eq_ok.1 ho
  cases hj
  cases ho
  refine ⟨before, after, rfl, ?_⟩
  rw [Target.actions, inlined, List.append_assoc]
  exact Except.mapM_append_of_ok hb (Except.mapM_append_of_ok hc ha)

theorem replace_actions (h : ∀ t ∈ script.targets, ∃ actions, t.actions = .ok actions) {t : Target}
    (ht : t ∈ i.result.targets) : ∃ actions, t.actions = .ok actions := by
  obtain ⟨u, hu, rfl⟩ := List.mem_map.1 ht
  by_cases he : u = i.target
  · obtain ⟨actions, hactions⟩ := h _ i.mem
    obtain ⟨inner, hinner⟩ := h _ (Script.find?_mem i.found)
    obtain ⟨before, after, _, hresult⟩ := i.inlined_actions hactions hinner
    rw [he, replace_target]
    exact ⟨_, hresult⟩
  · rw [i.replace_other he]
    exact h u hu

end Inlining
end WebScript
