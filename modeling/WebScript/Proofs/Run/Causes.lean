import WebScript.Proofs.Run.Faults
import WebScript.Proofs.Run.Point

namespace WebScript.Runner

variable {σ : Type} {r : Runner σ} {script : Script} {inputs : Dict} {target : Option String}
  {remote : σ} {p : Point σ} {e : ScriptError}

inductive Point.Faults (r : Runner σ) (script : Script) (p : Point σ) : ScriptError → Prop
  | raised {request state fault}
      (answer : (r.accessor.send request state).1 = .error (.script fault)) :
      Faults r script p fault
  | shown {fault} (h : fault.ofPage) : Faults r script p fault
  | notFound {action rest name} (upcoming : p.actions = action :: rest)
      (jumps : action.Jumps p.session name) (named : name ≠ "")
      (lost : script.find? name = none) : Faults r script p (.jumpTargetNotFound name)
  | tooDeep {action rest name callee} (upcoming : p.actions = action :: rest)
      (jumps : action.Jumps p.session name) (named : name ≠ "")
      (found : script.find? name = some callee) (deep : r.maxJumpDepth ≤ p.session.depth) :
      Faults r script p (.jumpTooDeep p.target.name callee.name r.maxJumpDepth)

theorem Visits.faults (h : r.Visits script inputs target remote p)
    (halted : p.HaltsWith (r.prepared script) script (.error (.script e))) :
    p.Faults r script e := by
  cases halted with
  | unready hs faulty =>
    -- All targets have been made ready before the run began.
    obtain ⟨_, _, _, found, _⟩ := step_call hs
    obtain ⟨actions, ready⟩ := exists_actionsOf_prepared h.prepared (Script.find?_mem found)
    cases ready.symm.trans faulty
  | action hs =>
    obtain ⟨result, performed, halts⟩ := step_halt hs
    rw [prepared_accessor] at performed
    cases halts with
    | error =>
      rcases perform_error performed with ⟨_, _, answer⟩ | shown
      · exact .raised answer
      · exact .shown shown
    | notFound named lost =>
      obtain ⟨jumps, _⟩ := perform_jump_iff.1 performed
      exact .notFound rfl jumps named lost
    | tooDeep named found deep =>
      obtain ⟨jumps, rfl⟩ := perform_jump_iff.1 performed
      rw [Session.note_depth] at deep
      simp only [prepared_maxJumpDepth] at deep ⊢
      exact .tooDeep rfl jumps named found deep

/-- A run that ends with a fault has met it at its entry, among its rules, or at one of its points.
-/
theorem exists_faults_of_run {fin : Finished σ}
    (h : r.run script inputs target remote = some fin)
    (hres : fin.result = .error (.script e)) :
    entry script target = .error (.script e) ∨
      (r.prepare script.targets).1 = .error (.script e) ∨
      ∃ p, r.Visits script inputs target remote p ∧ p.Faults r script e := by
  rcases run_begins_or_fails r script inputs target remote with
    ⟨f, fin', hrun, hres', _, early⟩ | ⟨p, begins⟩
  · cases h.symm.trans hrun
    cases hres.symm.trans hres'
    rcases early with early | early
    · exact .inl early
    · exact .inr (.inl early)
  · rw [begins.run] at h
    obtain ⟨⟨result, s⟩, hend, rfl⟩ := Option.map_eq_some_iff.1 h
    cases result with
    | ok outcome => cases hres
    | error f =>
      cases hres
      obtain ⟨q, hq, halted⟩ := (runs_of_inTurn hend).1.exists_haltsWith rfl rfl p.callers
      have visits : r.Visits script inputs target remote q := ⟨p, begins, hq⟩
      exact .inr (.inr ⟨q, visits, visits.faults halted⟩)

/-- A fault of the rules is the fault of one of them. -/
theorem prepare_error_kind {ts : List Target} (h : (r.prepare ts).1 = .error (.script e)) :
    e.kind = .outputRule := by
  obtain ⟨t, _, ht⟩ := prepare_error h
  exact Target.actions_error_kind ht

end WebScript.Runner
