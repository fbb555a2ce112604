import WebScript.Proofs.Run.JumpCheck
import WebScript.Proofs.Run.Lockstep
import WebScript.Proofs.Run.Preparation

namespace WebScript

variable {σ : Type}

/-- An accessor that reads options as mappings: it makes no difference in which order they come. -/
def Accessor.ReadsMappings (a : Accessor σ) : Prop :=
  a.Overlooks List.Perm

theorem Step.Same.actions_like {step step' : Step} {action action' : Action}
    (h : step.Same step') (made : Action.ofStep step = .ok action)
    (made' : Action.ofStep step' = .ok action') : action.Like List.Perm action' := by
  induction h generalizing action action' with
  | fetch h =>
    obtain ⟨rules, accepted, options⟩ := Exchange.same_iff.1 h
    obtain ⟨x, hx, made⟩ := Except.bind_eq_ok.1 made
    obtain ⟨x', hx', made'⟩ := Except.bind_eq_ok.1 made'
    rw [← rules, hx] at hx'
    cases hx'
    cases made
    cases made'
    exact .fetch accepted options
  | submit h =>
    obtain ⟨rules, accepted, options⟩ := Exchange.same_iff.1 h
    obtain ⟨x, hx, made⟩ := Except.bind_eq_ok.1 made
    obtain ⟨x', hx', made'⟩ := Except.bind_eq_ok.1 made'
    rw [← rules, hx] at hx'
    cases hx'
    cases made
    cases made'
    exact .submit accepted options
  | branch _ ih =>
    obtain ⟨inner, hi, made⟩ := Except.bind_eq_ok.1 made
    obtain ⟨inner', hi', made'⟩ := Except.bind_eq_ok.1 made'
    cases made
    cases made'
    exact .branch (ih hi hi')
  | jump =>
    cases made
    cases made'
    exact .jump

namespace Runner

variable {r r' : Runner σ} {script : Script} {inputs : Dict} {target : Option String} {remote : σ}
  {t : Target} {actions actions' : List Action}

/-- What a runner becomes by runs of any scripts. A run that is given up before it has come to an
end leaves its targets ready. -/
inductive After (r : Runner σ) : Runner σ → Prop
  | none : After r r
  | run {r' : Runner σ} {script inputs target remote} {fin : Finished σ} (h : After r r')
      (ended : r'.run script inputs target remote = some fin) : After r fin.runner
  | givenUp {r' : Runner σ} {script} (h : After r r') : After r (r'.prepared script)

theorem runner_of_run {fin : Finished σ} (h : r.run script inputs target remote = some fin) :
    fin.runner = r ∨ fin.runner = r.prepared script := by
  cases he : entry script target with
  | error f =>
    rw [run_of_entry_error he] at h
    cases h
    exact .inl rfl
  | ok t =>
    cases hp : (r.prepare script.targets).1 with
    | error f =>
      rw [run_of_prepare_error he hp] at h
      cases h
      exact .inr rfl
    | ok =>
      rw [run_of_prepare_ok he hp] at h
      obtain ⟨⟨result, s⟩, _, rfl⟩ := Option.map_eq_some_iff.1 h
      cases result with
      | error f => exact .inr rfl
      | ok outcome => exact .inr rfl

/-- No run changes the accessor of its runner, or how deep jumps may nest. -/
theorem After.keeps (h : r.After r') :
    r'.accessor = r.accessor ∧ r'.maxJumpDepth = r.maxJumpDepth := by
  induction h with
  | none => exact ⟨rfl, rfl⟩
  | run _ ended ih =>
    rcases runner_of_run ended with same | same
    · rwa [same]
    · rwa [same, prepared_accessor, prepared_maxJumpDepth]
  | givenUp _ ih => rwa [prepared_accessor, prepared_maxJumpDepth]

/-- How making targets ready ends does not hang on what is known. -/
theorem prepare_verdict (r r' : Runner σ) (ts : List Target) :
    (r'.prepare ts).1 = (r.prepare ts).1 := by
  cases h : (r.prepare ts).1 with
  | ok =>
    have made := prepare_eq_ok.1 h
    exact prepare_eq_ok.2 made
  | error f =>
    have refused := prepare_eq_error.1 h
    exact prepare_eq_error.2 refused

/-- Whatever targets a runner has met before, its actions for a target are those of any other
runner. -/
theorem actionsOf_like (h : r.actionsOf t = .ok actions) (h' : r'.actionsOf t = .ok actions') :
    List.Forall₂ (Action.Like List.Perm) actions actions' := by
  -- Both actions have been made of targets that are the same as this one.
  obtain ⟨u, same, made⟩ := actionsOf_eq_ok h
  obtain ⟨v, same', made'⟩ := actionsOf_eq_ok h'
  have steps := Target.steps_of_both_same same same'
  apply Except.forall₂_mapM ?_ steps made made'
  intro step step' action action' alike
  exact alike.actions_like

theorem inStep_of_prepared (mappings : r.accessor.ReadsMappings)
    (accessor : r'.accessor = r.accessor) (limit : r'.maxJumpDepth = r.maxJumpDepth)
    (ok : (r.prepare script.targets).1 = .ok ()) :
    InStep List.Perm (r.prepared script) (r'.prepared script) script script where
  accessor := by rw [prepared_accessor, prepared_accessor, accessor]
  overlooks := by
    rw [prepared_accessor]
    exact mappings
  limit := by rw [prepared_maxJumpDepth, prepared_maxJumpDepth, limit]
  found name := rfl
  actions t ht := by
    have ok' : (r'.prepare script.targets).1 = .ok () := (prepare_verdict r r' _).trans ok
    obtain ⟨actions, ready⟩ := exists_actionsOf_prepared ok ht
    obtain ⟨actions', ready'⟩ := exists_actionsOf_prepared ok' ht
    exact ⟨actions, actions', ready, ready', actionsOf_like ready ready'⟩

/-- Earlier runs make no difference: whatever they were and however they ended, the next run sends
the requests that it sends with a new runner, up to the order of options, and comes to the same
result. -/
theorem run_after_runs (a : Accessor σ) (limit : Int) (mappings : a.ReadsMappings)
    (h : (new a limit).After r) (script : Script) (inputs : Dict) (target : Option String)
    (remote : σ) :
    Option.Rel (Finished.Like List.Perm) ((new a limit).run script inputs target remote)
      (r.run script inputs target remote) := by
  obtain ⟨accessor, depth⟩ := h.keeps
  apply run_like rfl (prepare_verdict _ _ _)
  intro ok
  exact inStep_of_prepared mappings accessor depth ok

section Calling

def callingMain (options : Dict) : Target :=
  ⟨"Main", [.fetch "http://shop/" { options }]⟩

def calling (options : Dict) : Script :=
  { targets := [callingMain options], defaultTarget := some "Main" }

def callingAction (options : Dict) : Action :=
  .fetch "http://shop/" { options } ⟨[], [], []⟩

/-- The request goes out with the options that have been made ready for the target. -/
theorem calling_run (r : Runner Unit) (options ready : Dict)
    (accessor : r.accessor = (blank 64).accessor)
    (begins : r.Begins (calling options) [] none ()
      ⟨[], callingMain options, [callingAction ready], start [] ()⟩) :
    ∃ fin, r.run (calling options) [] none () = some fin ∧
      fin.runner = r.prepared (calling options) ∧
      fin.session.requests = [.fetch "http://shop/" ready] := by
  have same : (r.prepared (calling options)).accessor = (blank 64).accessor := by
    rw [prepared_accessor, accessor]
  have done : ∃ s, (r.prepared (calling options)).step (calling options) (callingMain options)
      (callingAction ready) (start [] ()) = some (.goOn .done s) ∧
        s.requests = [.fetch "http://shop/" ready] := by
    rw [step, same, callingAction, perform_fetch (by decide)]
    exact ⟨_, rfl, rfl⟩
  obtain ⟨s, done, requests⟩ := done
  rw [begins.run, inTurn_goOn done, inTurn_nil]
  exact ⟨_, rfl, rfl, requests⟩

theorem blank_readsMappings (limit : Int) : (blank limit).accessor.ReadsMappings := by
  intro request request' like
  rfl

/-- The second script differs from the first in the order of options, and performs its action. -/
theorem calling_after_calling :
    ∃ r fin fin', (blank 64).After r ∧ (blank 64).accessor.ReadsMappings ∧
      (blank 64).run (calling [("b", "2"), ("a", "1")]) [] none () = some fin ∧
      r.run (calling [("b", "2"), ("a", "1")]) [] none () = some fin' ∧
      fin.session.requests = [.fetch "http://shop/" [("b", "2"), ("a", "1")]] ∧
      fin'.session.requests = [.fetch "http://shop/" [("a", "1"), ("b", "2")]] ∧
      fin.Like List.Perm fin' := by
  let first := calling [("a", "1"), ("b", "2")]
  let second := calling [("b", "2"), ("a", "1")]
  obtain ⟨early, ended, runner, _⟩ := calling_run (blank 64) [("a", "1"), ("b", "2")]
    [("a", "1"), ("b", "2")] rfl ⟨by rfl, rfl, rfl, rfl, rfl⟩
  have after : (blank 64).After ((blank 64).prepared first) := by
    rw [← runner]
    exact .run .none ended
  obtain ⟨fin, run, _, requests⟩ := calling_run (blank 64) [("b", "2"), ("a", "1")]
    [("b", "2"), ("a", "1")] rfl ⟨by rfl, rfl, rfl, rfl, rfl⟩
  obtain ⟨fin', run', _, requests'⟩ := calling_run ((blank 64).prepared first)
    [("b", "2"), ("a", "1")] [("a", "1"), ("b", "2")] rfl ⟨by rfl, rfl, rfl, rfl, rfl⟩
  have mappings := blank_readsMappings 64
  have like := run_after_runs (blank 64).accessor 64 mappings after second [] none ()
  change Option.Rel _ ((blank 64).run second [] none ()) _ at like
  rw [run, run'] at like
  cases like with
  | some like => exact ⟨_, fin, fin', after, mappings, run, run', requests, requests', like⟩

end Calling

end Runner
end WebScript
