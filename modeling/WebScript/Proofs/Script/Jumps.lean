import Mathlib.Tactic.Common
import WebScript.Script.Jumps

namespace WebScript

/-- A step holds a jump: it is that jump, or a branch around a step that holds it. -/
inductive Step.HasJump (name : String) : Step → Prop
  | jump : HasJump name (.jump name)
  | branch {property value inner} (h : HasJump name inner) :
      HasJump name (.branch property value inner)

theorem Step.jumpTarget?_eq_some {step : Step} {name : String} :
    step.jumpTarget? = some name ↔ step.HasJump name := by
  induction step with
  | fetch url x => exact ⟨nofun, nofun⟩
  | submit choice overrides x => exact ⟨nofun, nofun⟩
  | branch property value inner ih =>
    rw [jumpTarget?, ih]
    exact ⟨.branch, fun h => by cases h; assumption⟩
  | jump target =>
    constructor
    · intro h
      cases h
      exact .jump
    · intro h
      cases h
      rfl

def Target.HasJump (t : Target) (name : String) : Prop :=
  ∃ step ∈ t.steps, step.HasJump name

namespace Script

variable {script : Script}

/-- Every jump without a placeholder leads to a target that there is. -/
def JumpsDeclared (script : Script) : Prop :=
  ∀ t ∈ script.targets, ∀ name, t.HasJump name → Template.hasOpener name = false →
    ∃ callee, script.find? name = some callee

theorem isMissing_iff {name : String} :
    script.isMissing name = true ↔ Template.hasOpener name = false ∧ script.find? name = none := by
  simp [isMissing]

/-- The jumps that are found stand in the targets they are found with, have no placeholder, and lead
nowhere; and all such jumps are found. -/
theorem mem_unresolvedJumps {owner name : String} :
    (owner, name) ∈ script.unresolvedJumps ↔
      ∃ t ∈ script.targets, t.name = owner ∧ t.HasJump name ∧
        Template.hasOpener name = false ∧ script.find? name = none := by
  rw [unresolvedJumps, List.mem_flatMap]
  refine exists_congr fun t => and_congr_right fun _ => ?_
  rw [List.mem_map]
  constructor
  · rintro ⟨_, hn, he⟩
    cases he
    obtain ⟨hjump, missing⟩ := List.mem_filter.1 hn
    obtain ⟨step, hstep, hjump⟩ := List.mem_filterMap.1 hjump
    exact ⟨rfl, ⟨step, hstep, Step.jumpTarget?_eq_some.1 hjump⟩, isMissing_iff.1 missing⟩
  · rintro ⟨rfl, ⟨step, hstep, hjump⟩, missing⟩
    refine ⟨name, List.mem_filter.2 ⟨?_, isMissing_iff.2 missing⟩, rfl⟩
    exact List.mem_filterMap.2 ⟨step, hstep, Step.jumpTarget?_eq_some.2 hjump⟩

theorem unresolvedJumps_eq_nil : script.unresolvedJumps = [] ↔ script.JumpsDeclared := by
  constructor
  · intro h t ht name hjump literal
    cases found : script.find? name with
    | some callee => exact ⟨callee, rfl⟩
    | none =>
      have hm := mem_unresolvedJumps.2 ⟨t, ht, rfl, hjump, literal, found⟩
      rw [h] at hm
      cases hm
  · intro h
    refine List.eq_nil_iff_forall_not_mem.2 fun ⟨owner, name⟩ hm => ?_
    obtain ⟨t, ht, _, hjump, literal, missing⟩ := mem_unresolvedJumps.1 hm
    obtain ⟨callee, found⟩ := h t ht name hjump literal
    cases missing.symm.trans found

end Script
end WebScript
