import WebScript.Proofs.Run.Causes
import WebScript.Proofs.Script.Sameness

namespace WebScript

variable {σ : Type}

def Script.JumpsLiteral (script : Script) : Prop :=
  ∀ t ∈ script.targets, ∀ name, t.HasJump name → Template.hasOpener name = false

/-- An accessor that does not itself raise the fault of a target that cannot be found. -/
def Accessor.NeverLost (a : Accessor σ) : Prop :=
  ∀ request state e, (a.send request state).1 = .error (.script e) → e.kind ≠ .targetNotFound

theorem Action.ofStep_eq_jump {step : Step} {target : String}
    (h : ofStep step = .ok (.jump target)) : step = .jump target := by
  cases step with
  | jump target' =>
    cases h
    rfl
  | _ =>
    obtain ⟨_, _, h⟩ := Except.bind_eq_ok.1 h
    cases h

theorem Action.ofStep_eq_branch {step : Step} {property value : String} {inner : Action}
    (h : ofStep step = .ok (.branch property value inner)) :
    ∃ inside, step = .branch property value inside ∧ ofStep inside = .ok inner := by
  cases step with
  | branch property' value' inside =>
    obtain ⟨_, made, h⟩ := Except.bind_eq_ok.1 h
    cases h
    exact ⟨inside, rfl, made⟩
  | jump target => cases h
  | _ =>
    obtain ⟨_, _, h⟩ := Except.bind_eq_ok.1 h
    cases h

/-- A jump without placeholders leads where the step says, whatever the state is. -/
theorem Action.Jumps.hasJump {action : Action} {step : Step} {s : Session σ} {name : String}
    (h : action.Jumps s name) (made : ofStep step = .ok action)
    (literal : ∀ target, step.HasJump target → Template.hasOpener target = false) :
    step.HasJump name := by
  induction h generalizing step with
  | jump resolved =>
    cases ofStep_eq_jump made
    rw [Template.resolve?_of_no_opener (literal _ .jump)] at resolved
    cases resolved
    exact .jump
  | branch _ _ _ ih =>
    obtain ⟨inside, rfl, madeInside⟩ := ofStep_eq_branch made
    exact .branch (ih madeInside fun target h => literal target (.branch h))

namespace Runner

variable {r : Runner σ} {script : Script} {inputs : Dict} {target : Option String} {remote : σ}
  {p : Point σ} {t : Target} {action : Action} {actions rest : List Action} {name : String}

theorem actionsOf_eq_ok (h : r.actionsOf t = .ok actions) :
    ∃ u : Target, u.same t = true ∧ u.actions = .ok actions := by
  rw [actionsOf] at h
  split at h
  · next known hk =>
    cases h
    exact ⟨known.target, (known?_mem hk).2, known.made⟩
  · exact ⟨t, t.same_refl, h⟩

/-- The jumps that a run executes stand in its script. -/
theorem Visits.hasJump (h : r.Visits script inputs target remote p)
    (upcoming : p.actions = action :: rest) (jumps : action.Jumps p.session name)
    (literal : script.JumpsLiteral) : ∃ t ∈ script.targets, t.HasJump name := by
  have hm : action ∈ p.actions := upcoming ▸ List.mem_cons_self
  obtain ⟨t, ht, actions, ready, hm⟩ := h.action_mem hm
  obtain ⟨u, same, made⟩ := actionsOf_eq_ok ready
  obtain ⟨step, hstep, made⟩ := (Except.mem_of_mapM_eq_ok made).1 hm
  refine ⟨t, ht, .of_same ⟨step, hstep, jumps.hasJump made fun target hjump => ?_⟩ same⟩
  exact literal t ht target (.of_same ⟨step, hstep, hjump⟩ same)

/-- A run of a script whose jumps have been checked, from a target that there is, does not end for
want of a target. -/
theorem run_finds_targets (literal : script.JumpsLiteral) (checked : script.unresolvedJumps = [])
    (fair : r.accessor.NeverLost) (declared : entry script target = .ok t) {fin : Finished σ}
    (h : r.run script inputs target remote = some fin) (e : ScriptError)
    (hres : fin.result = .error (.script e)) : e.kind ≠ .targetNotFound := by
  intro kind
  rcases exists_faults_of_run h hres with early | early | ⟨p, visited, faults⟩
  · cases declared.symm.trans early
  · cases (prepare_error_kind early).symm.trans kind
  · cases faults with
    | raised answer => exact fair _ _ _ answer kind
    | shown shown => simp [ScriptError.ofPage, kind] at shown
    | notFound upcoming jumps named lost =>
      obtain ⟨u, hu, hjump⟩ := visited.hasJump upcoming jumps literal
      obtain ⟨callee, found⟩ :=
        Script.unresolvedJumps_eq_nil.1 checked u hu _ hjump (literal u hu _ hjump)
      cases lost.symm.trans found
    | tooDeep => cases kind

def relayMain : Target := ⟨"Main", [.branch "on" "ON" (.jump "visit")]⟩

/-- A script with a jump inside a branch, which names its target in another case. -/
def relay : Script :=
  { targets := [relayMain, ⟨"Visit", []⟩], defaultTarget := some "Main" }

theorem relay_begins (limit : Int) :
    (blank limit).Begins relay [] none ()
      ⟨[], relayMain, [.branch "on" "ON" (.jump "visit")], start [] ()⟩ where
  entry := by rfl
  prepared := rfl
  ready := rfl
  callers := rfl
  session := rfl

theorem blank_neverLost (limit : Int) : (blank limit).accessor.NeverLost := by
  intro request state e answer
  cases answer

/-- The jump is too deep, but its target is found. -/
theorem relay_finds_targets : relay.JumpsLiteral ∧ relay.unresolvedJumps = [] ∧
    (blank 0).accessor.NeverLost ∧ entry relay none = .ok relayMain ∧
    ∃ fin e, (blank 0).run relay [] none () = some fin ∧ fin.result = .error (.script e) ∧
      e = .jumpTooDeep "Main" "Visit" 0 ∧ e.kind ≠ .targetNotFound := by
  have literal : relay.JumpsLiteral := by
    intro t ht name hjump
    have hn : name = "visit" := by
      rw [Target.hasJump_iff] at hjump
      rcases List.mem_cons.1 ht with rfl | ht
      · simpa [relayMain, Step.jumpTarget?] using hjump
      · cases List.mem_singleton.1 ht
        cases hjump
    subst hn
    decide
  have checked : relay.unresolvedJumps = [] := by decide
  have begins := relay_begins 0
  have jumps : Action.Jumps (start [] ()) (.branch "on" "ON" (.jump "visit")) "visit" :=
    .branch (Template.resolve?_of_no_opener (by decide)) (by decide)
      (.jump (Template.resolve?_of_no_opener (by decide)))
  have halted := step_jump_tooDeep (r := (blank 0).prepared relay) (t := relayMain) jumps
    (by decide) (by decide : relay.find? "visit" = some ⟨"Visit", []⟩) (by decide)
  have ended := begins.run
  rw [inTurn_halt halted] at ended
  have fair := blank_neverLost 0
  exact ⟨literal, checked, fair, begins.entry, _, _, ended, rfl, rfl,
    run_finds_targets literal checked fair begins.entry ended _ rfl⟩

end Runner
end WebScript
