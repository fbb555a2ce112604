import WebScript.Proofs.Run.JumpCheck
import WebScript.Proofs.Template.Placeholder

namespace WebScript

variable {σ : Type}

/-- The jump that an action executes is the one that stands in its step. -/
theorem Action.Jumps.resolves {action : Action} {step : Step} {s : Session σ} {text name : String}
    (h : action.Jumps s name) (made : ofStep step = .ok action) (holds : step.HasJump text) :
    Template.resolve? s.scope text = some name := by
  induction h generalizing step with
  | jump resolved =>
    cases ofStep_eq_jump made
    cases holds
    exact resolved
  | branch _ _ _ ih =>
    obtain ⟨inside, rfl, madeInside⟩ := ofStep_eq_branch made
    cases holds with
    | branch inner => exact ih madeInside inner

namespace Runner

variable {r : Runner σ} {script : Script} {inputs : Dict} {target : Option String} {remote : σ}
  {p : Point σ} {t : Target} {step : Step} {name : String}

/-- The next action of a point is that of a step, and to perform it executes the jump in there. -/
def Point.Executes (p : Point σ) (step : Step) : Prop :=
  ∃ action rest name, p.actions = action :: rest ∧ Action.ofStep step = .ok action ∧
    action.Jumps p.session name

/-- The next action of a point halts for want of a target. -/
def Point.LosesTarget (r : Runner σ) (script : Script) (p : Point σ) : Prop :=
  ∃ action rest e s, p.actions = action :: rest ∧
    r.step script p.target action p.session = some (.halt (.error (.script e)) s) ∧
    e.kind = .targetNotFound

theorem Point.Executes.jumps (h : p.Executes step) (holds : step.HasJump name)
    (plain : Template.Plain name) :
    ∃ action rest, p.actions = action :: rest ∧ action.Jumps p.session name := by
  obtain ⟨action, rest, found, upcoming, made, jumps⟩ := h
  cases plain.resolve?.symm.trans (jumps.resolves made holds)
  exact ⟨action, rest, upcoming, jumps⟩

/-- A jump without placeholders halts for want of a target exactly if the script has none of its
name. -/
theorem Point.Executes.losesTarget_iff (r : Runner σ) (script : Script) (h : p.Executes step)
    (holds : step.HasJump name) (plain : Template.Plain name) :
    p.LosesTarget r script ↔ name ≠ "" ∧ script.find? name = none := by
  obtain ⟨action, rest, upcoming, jumps⟩ := h.jumps holds plain
  constructor
  · rintro ⟨action', rest', e, s, upcoming', halted, kind⟩
    cases upcoming.symm.trans upcoming'
    by_cases named : name = ""
    · cases (step_jump_unnamed jumps named).symm.trans halted
    refine ⟨named, ?_⟩
    cases found : script.find? name with
    | none => rfl
    | some callee =>
      by_cases deep : r.maxJumpDepth ≤ p.session.depth
      · cases (step_jump_tooDeep jumps named found deep).symm.trans halted
        cases kind
      · cases (step_jump_call jumps named found (Int.not_le.1 deep)).symm.trans halted
  · rintro ⟨named, lost⟩
    exact ⟨action, rest, _, _, upcoming, step_jump_notFound jumps named lost, rfl⟩

theorem Visits.run_lost (visited : r.Visits script inputs target remote p) (h : p.Executes step)
    (holds : step.HasJump name) (plain : Template.Plain name)
    (loses : p.LosesTarget (r.prepared script) script) :
    ∃ fin, r.run script inputs target remote = some fin ∧
      fin.result = .error (.script (.jumpTargetNotFound name)) := by
  obtain ⟨named, lost⟩ := (h.losesTarget_iff _ script holds plain).1 loses
  obtain ⟨action, rest, upcoming, jumps⟩ := h.jumps holds plain
  exact visited.run_error (endsWith_of_halt upcoming (step_jump_notFound jumps named lost))

/-- A jump whose text has no placeholder stands for that text in every state. The check reports it
exactly if the script has no target of this name and no opener stands in it; executing it ends the
run for want of a target exactly if there is none of this name, whatever openers stand in it. So the
two agree but where an opener stands in the name of a target that there is not, or where there is no
name at all. -/
theorem jump_reported_iff (ht : t ∈ script.targets) (hstep : step ∈ t.steps)
    (holds : step.HasJump name) (plain : Template.Plain name) :
    (∀ scope, Template.resolve? scope name = some name) ∧
    ((t.name, name) ∈ script.unresolvedJumps ↔
      Template.hasOpener name = false ∧ script.find? name = none) ∧
    ∀ p, r.Visits script inputs target remote p → p.Executes step →
      (p.LosesTarget (r.prepared script) script ↔ name ≠ "" ∧ script.find? name = none) ∧
      (p.LosesTarget (r.prepared script) script →
        ∃ fin, r.run script inputs target remote = some fin ∧
          fin.result = .error (.script (.jumpTargetNotFound name))) ∧
      (((t.name, name) ∈ script.unresolvedJumps ↔ p.LosesTarget (r.prepared script) script) ↔
        ¬((Template.hasOpener name = true ∨ name = "") ∧ script.find? name = none)) := by
  have reported : (t.name, name) ∈ script.unresolvedJumps ↔
      Template.hasOpener name = false ∧ script.find? name = none := by
    rw [Script.mem_unresolvedJumps]
    constructor
    · rintro ⟨_, _, _, _, missing⟩
      exact missing
    · intro missing
      exact ⟨t, ht, rfl, ⟨step, hstep, holds⟩, missing⟩
  refine ⟨fun _ => plain.resolve?, reported, fun p visited executes => ?_⟩
  have loses := executes.losesTarget_iff (r.prepared script) script holds plain
  refine ⟨loses, visited.run_lost executes holds plain, ?_⟩
  rw [reported, loses]
  by_cases unnamed : name = ""
  · subst unnamed
    have : Template.hasOpener "" = false := by decide
    simp [this]
  · cases Template.hasOpener name <;> simp [unnamed]

section Alley

def alleyMain (name : String) : Target := ⟨"Main", [.branch "on" "ON" (.jump name)]⟩

def alley (name : String) : Script :=
  { targets := [alleyMain name], defaultTarget := some "Main" }

def alleyData (name : String) : Value :=
  .map [(.text "default_target", .text "Main"),
    (.text "targets", .list [.map [(.text "name", .text "Main"),
      (.text "actions", .list [.map [(.text "branch", .map [
        (.text "property", .text "on"), (.text "value", .text "ON"),
        (.text "action", .map [(.text "jump", .map [(.text "target", .text name)])])])]])]])]

def alleyStart (name : String) : Point Unit :=
  ⟨[], alleyMain name, [.branch "on" "ON" (.jump name)], start [] ()⟩

variable {name : String}

theorem alley_visits (enters : entry (alley name) none = .ok (alleyMain name))
    (ready : ((blank 64).prepared (alley name)).actionsOf (alleyMain name) =
      .ok [.branch "on" "ON" (.jump name)]) :
    (blank 64).Visits (alley name) [] none () (alleyStart name) :=
  ⟨_, ⟨enters, rfl, ready, rfl, rfl⟩, .refl⟩

theorem alley_executes (plain : Template.Plain name) :
    (alleyStart name).Executes (.branch "on" "ON" (.jump name)) :=
  ⟨_, [], name, rfl, rfl, .branch (Template.resolve?_of_no_opener (by decide)) (by decide)
    (.jump plain.resolve?)⟩

/-- Without an opener in its name, the jump that ends the run is one that the check reports. -/
theorem alley_reported : Template.Plain "Ghost" ∧
    ("Main", "Ghost") ∈ (alley "Ghost").unresolvedJumps ∧
    (alleyStart "Ghost").LosesTarget ((blank 64).prepared (alley "Ghost")) (alley "Ghost") := by
  have plain : Template.Plain "Ghost" := Template.next?_eq_none.1 (by decide)
  have main : alleyMain "Ghost" ∈ (alley "Ghost").targets := List.mem_singleton_self _
  have only : .branch "on" "ON" (.jump "Ghost") ∈ (alleyMain "Ghost").steps :=
    List.mem_singleton_self _
  obtain ⟨_, reported, executed⟩ := @jump_reported_iff _ (blank 64) (alley "Ghost") [] none () _ _ _
    main only (.branch .jump) plain
  obtain ⟨loses, _⟩ := executed _ (alley_visits rfl rfl) (alley_executes plain)
  have lost : (alley "Ghost").find? "Ghost" = none := by decide
  exact ⟨plain, reported.2 ⟨by decide, lost⟩, loses.2 ⟨by decide, lost⟩⟩

/-- The run ends for want of the target, and the check has not reported the jump. -/
theorem alley_unreported : Script.ofValue (alleyData "$(next") = .ok (alley "$(next") ∧
    alleyMain "$(next" ∈ (alley "$(next").targets ∧ (alleyMain "$(next").HasJump "$(next" ∧
    Template.Plain "$(next" ∧ ("Main", "$(next") ∉ (alley "$(next").unresolvedJumps ∧
    (blank 64).Visits (alley "$(next") [] none () (alleyStart "$(next") ∧
    (alleyStart "$(next").Executes (.branch "on" "ON" (.jump "$(next")) ∧
    (alleyStart "$(next").LosesTarget ((blank 64).prepared (alley "$(next")) (alley "$(next") ∧
    ∃ fin, (blank 64).run (alley "$(next") [] none () = some fin ∧
      fin.result = .error (.script (.jumpTargetNotFound "$(next")) := by
  have plain : Template.Plain "$(next" := Template.next?_eq_none.1 (by decide)
  have executes := alley_executes plain
  have visits : (blank 64).Visits (alley "$(next") [] none () _ := alley_visits rfl rfl
  have lost : (alley "$(next").find? "$(next" = none := by decide
  have loses := (executes.losesTarget_iff ((blank 64).prepared (alley "$(next")) _
    (.branch .jump) plain).2 ⟨by decide, lost⟩
  exact ⟨by with_unfolding_all rfl, List.mem_singleton_self _,
    ⟨_, List.mem_singleton_self _, .branch .jump⟩, plain, by decide, visits, executes, loses,
    visits.run_lost executes (.branch .jump) plain loses⟩

end Alley

end Runner
end WebScript
