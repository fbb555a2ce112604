import WebScript.Proofs.Run.Point

namespace WebScript.Runner

variable {σ : Type}

/-- A target that waits for the target of a jump, with the actions that it goes on with. -/
structure Waiting where
  target : Target
  rest : List Action

/-- A moment of a run: the targets that wait, the last to jump first, the current target with the
actions that are left of it, how the action before has ended, and the state. -/
structure Moment (σ : Type) where
  waiting : List Waiting
  target : Target
  actions : List Action
  last : Outcome
  session : Session σ

/-- The moment after a moment: past an action, in the target of a jump, or back from there. -/
inductive Follows (r : Runner σ) (script : Script) : Moment σ → Moment σ → Prop
  | goOn {waiting t action rest last s last' s'}
      (h : r.step script t action s = some (.goOn last' s')) :
      Follows r script ⟨waiting, t, action :: rest, last, s⟩ ⟨waiting, t, rest, last', s'⟩
  | enter {waiting t action rest last s callee s' actions}
      (h : r.step script t action s = some (.call callee s'))
      (ready : r.actionsOf callee = .ok actions) :
      Follows r script ⟨waiting, t, action :: rest, last, s⟩
        ⟨⟨t, rest⟩ :: waiting, callee, actions, .done, s'.enter callee⟩
  | back {waiting t rest callee last s} (ok : last.ok = true) :
      Follows r script ⟨⟨t, rest⟩ :: waiting, callee, [], last, s⟩
        ⟨waiting, t, rest, last, s.leave callee⟩

abbrev Precedes (r : Runner σ) (script : Script) : Moment σ → Moment σ → Prop :=
  Relation.ReflTransGen (r.Follows script)

/-- All targets that wait return, without going on. -/
def unwind : Target → List Waiting → Session σ → Session σ
  | _, [], s => s
  | t, w :: waiting, s => unwind w.target waiting (s.leave t)

/-- The last moment of a course, and the end that it takes: no action is left in the first target,
or the current one halts and with it all that wait. -/
inductive Moment.Ends (r : Runner σ) (script : Script) : Moment σ → Ended σ Outcome → Prop
  | finished {t last s} : Ends r script ⟨[], t, [], last, s⟩ (.ok last, s)
  | halt {waiting t action rest last s result s'}
      (h : r.step script t action s = some (.halt result s')) :
      Ends r script ⟨waiting, t, action :: rest, last, s⟩ (result, unwind t waiting s')
  | unready {waiting t action rest last s callee s' f}
      (h : r.step script t action s = some (.call callee s'))
      (faulty : r.actionsOf callee = .error f) :
      Ends r script ⟨waiting, t, action :: rest, last, s⟩
        (.error f, unwind t waiting ((s'.enter callee).leave callee))

/-- What the targets that wait make of the end of the current one. -/
def resume (r : Runner σ) (script : Script) :
    Target → List Waiting → Ended σ Outcome → Option (Ended σ Outcome)
  | _, [], e => some e
  | t, w :: waiting, e =>
    (andThen (r.inTurn script w.target w.rest) (left t e)).bind
      (r.resume script w.target waiting)

def remaining (r : Runner σ) (script : Script) (m : Moment σ) : Option (Ended σ Outcome) :=
  (r.inTurn script m.target m.actions m.last m.session).bind
    (r.resume script m.target m.waiting)

variable {r : Runner σ} {script : Script} {m m' m'' : Moment σ} {e : Ended σ Outcome}

theorem unwind_keeps {α : Type} {f : Session σ → α}
    (h : ∀ (s : Session σ) callee, f (s.leave callee) = f s) (t : Target) (waiting : List Waiting)
    (s : Session σ) : f (unwind t waiting s) = f s := by
  induction waiting generalizing t s with
  | nil => rfl
  | cons w waiting ih => rw [unwind, ih, h]

theorem unwind_requests (t : Target) (waiting : List Waiting) (s : Session σ) :
    (unwind t waiting s).requests = s.requests :=
  unwind_keeps Session.leave_requests t waiting s

theorem unwind_inputs (t : Target) (waiting : List Waiting) (s : Session σ) :
    (unwind t waiting s).inputs = s.inputs :=
  unwind_keeps Session.leave_inputs t waiting s

theorem unwind_outputs (t : Target) (waiting : List Waiting) (s : Session σ) :
    (unwind t waiting s).outputs = s.outputs :=
  unwind_keeps Session.leave_outputs t waiting s

theorem unwind_remote (t : Target) (waiting : List Waiting) (s : Session σ) :
    (unwind t waiting s).remote = s.remote :=
  unwind_keeps Session.leave_remote t waiting s

theorem resume_of_halts {t : Target} {waiting : List Waiting} {result : Except Failure Outcome}
    {s : Session σ} (h : halts result = true) :
    r.resume script t waiting (result, s) = some (result, unwind t waiting s) := by
  induction waiting generalizing t s with
  | nil => rfl
  | cons w waiting ih =>
    rw [resume, left, andThen_of_halts h]
    exact ih

theorem Follows.remaining_eq (h : r.Follows script m m') :
    r.remaining script m = r.remaining script m' := by
  cases h with
  | goOn h => simp only [remaining, inTurn_goOn h]
  | enter h ready =>
    simp only [remaining, inTurn_call h, runTarget_of_ok ready, Option.bind_assoc]
    rfl
  | back ok =>
    simp only [remaining, inTurn_nil, Option.bind_some, resume, left]
    rw [andThen_of_ok ok]

theorem Precedes.remaining_eq (h : r.Precedes script m m') :
    r.remaining script m = r.remaining script m' := by
  induction h with
  | refl => rfl
  | tail _ h ih => exact ih.trans h.remaining_eq

theorem Moment.Ends.remaining_eq (h : m.Ends r script e) : r.remaining script m = some e := by
  cases h with
  | finished => simp only [remaining, inTurn_nil, Option.bind_some, resume]
  | halt h =>
    obtain ⟨_, _, hh⟩ := step_halt h
    simp only [remaining, inTurn_halt h, Option.bind_some, resume_of_halts hh.halts]
  | unready h faulty =>
    simp only [remaining, inTurn_call h, runTarget_of_error faulty, Option.bind_some, left]
    rw [andThen_of_halts rfl]
    exact resume_of_halts rfl

theorem Runs.precedes {t : Target} {actions : List Action} {last last' : Outcome} {s : Session σ}
    (h : Runs r script t actions last s e) (he : e.1 = .ok last') (ok : last'.ok = true)
    (waiting : List Waiting) :
    r.Precedes script ⟨waiting, t, actions, last, s⟩ ⟨waiting, t, [], last', e.2⟩ := by
  induction h generalizing waiting last' with
  | nil =>
    cases he
    exact .refl
  | halt h =>
    obtain ⟨_, _, hh⟩ := step_halt h
    have stops := hh.halts
    simp only at he
    simp [he, halts, ok] at stops
  | goOn h _ ih => exact .head (.goOn h) (ih he ok waiting)
  | unready => cases he
  | stop _ _ _ stops =>
    simp only at he
    simp [he, halts, ok] at stops
  | @back t _ rest _ _ _ _ _ _ _ _ h ready _ body_ok _ ih ih' =>
    have body := ih rfl body_ok (⟨t, rest⟩ :: waiting)
    exact .head (.enter h ready) (body.trans (.head (.back body_ok) (ih' he ok waiting)))

theorem Runs.exists_ends {t : Target} {actions : List Action} {last : Outcome} {s : Session σ}
    (h : Runs r script t actions last s e) (ok : last.ok = true) (stops : halts e.1 = true)
    (waiting : List Waiting) :
    ∃ m, r.Precedes script ⟨waiting, t, actions, last, s⟩ m ∧
      m.Ends r script (e.1, unwind t waiting e.2) := by
  induction h generalizing waiting with
  | nil => simp [halts, ok] at stops
  | halt h => exact ⟨_, .refl, .halt h⟩
  | goOn h _ ih =>
    obtain ⟨m, hm, ends⟩ := ih (step_goOn_ok h) stops waiting
    exact ⟨m, .head (.goOn h) hm, ends⟩
  | unready h faulty => exact ⟨_, .refl, .unready h faulty⟩
  | @stop t _ rest _ _ _ _ _ _ _ h ready _ _ ih =>
    obtain ⟨m, hm, ends⟩ := ih rfl stops (⟨t, rest⟩ :: waiting)
    exact ⟨m, .head (.enter h ready) hm, ends⟩
  | @back t _ rest _ _ _ _ _ _ _ _ h ready body body_ok _ _ ih =>
    obtain ⟨m, hm, ends⟩ := ih body_ok stops waiting
    have returns := (body.precedes rfl body_ok (⟨t, rest⟩ :: waiting)).tail (.back body_ok)
    exact ⟨m, .head (.enter h ready) (returns.trans hm), ends⟩

theorem exists_ends_of_inTurn {t : Target} {actions : List Action} {last : Outcome} {s : Session σ}
    (h : r.inTurn script t actions last s = some e) (ok : last.ok = true) :
    ∃ m, r.Precedes script ⟨[], t, actions, last, s⟩ m ∧ m.Ends r script e := by
  have runs := (runs_of_inTurn h).1
  cases stops : halts e.1 with
  | true => exact runs.exists_ends ok stops []
  | false =>
    obtain ⟨last', he, ok'⟩ := ok_of_halts_false stops
    refine ⟨_, runs.precedes he ok' [], ?_⟩
    rw [show e = (.ok last', e.2) from Prod.ext he rfl]
    exact .finished

theorem follows_unique (r : Runner σ) (script : Script) :
    Relator.RightUnique (r.Follows script) := by
  intro m m₁ m₂ h₁ h₂
  cases h₁ with
  | goOn h =>
    cases h₂ with
    | goOn h' =>
      cases h.symm.trans h'
      rfl
    | enter h' => cases h.symm.trans h'
  | enter h ready =>
    cases h₂ with
    | goOn h' => cases h.symm.trans h'
    | enter h' ready' =>
      cases h.symm.trans h'
      cases ready.symm.trans ready'
      rfl
  | back => cases h₂; rfl

theorem Moment.Ends.not_follows (h : m.Ends r script e) : ¬r.Follows script m m' := by
  intro hf
  cases h with
  | finished => cases hf
  | halt h =>
    cases hf with
    | goOn h' => cases h.symm.trans h'
    | enter h' => cases h.symm.trans h'
  | unready h faulty =>
    cases hf with
    | goOn h' => cases h.symm.trans h'
    | enter h' ready =>
      cases h.symm.trans h'
      cases faulty.symm.trans ready

theorem Moment.Ends.precedes {m₀ : Moment σ} (h : m.Ends r script e) (hm : r.Precedes script m₀ m)
    (hm' : r.Precedes script m₀ m') : r.Precedes script m' m := by
  -- A course does not fork, so one of two moments precedes the other; none follows the last one.
  rcases Relation.ReflTransGen.total_of_right_unique (follows_unique r script) hm hm' with hl | hl
  · rcases Relation.ReflTransGen.cases_head hl with rfl | ⟨m₁, hf, _⟩
    · exact .refl
    · exact absurd hf h.not_follows
  · exact hl

@[simp] theorem finish_session (r : Runner σ) (e : Ended σ Outcome) :
    (r.finish e).session = e.2 := by
  obtain ⟨result, s⟩ := e
  cases result <;> rfl

@[simp] theorem finish_result (r : Runner σ) (e : Ended σ Outcome) :
    (r.finish e).result = e.1.map fun outcome => ⟨outcome, e.2.outputs⟩ := by
  obtain ⟨result, s⟩ := e
  cases result <;> rfl

section Run

variable {inputs : Dict} {target : Option String} {remote : σ}

/-- The moment in which a run begins, if it gets as far as its first target. -/
structure Opens (r : Runner σ) (script : Script) (inputs : Dict) (target : Option String)
    (remote : σ) (m : Moment σ) : Prop where
  begins : r.Begins script inputs target remote ⟨[], m.target, m.actions, m.session⟩
  waiting : m.waiting = []
  last : m.last = .done

def ComesTo (r : Runner σ) (script : Script) (inputs : Dict) (target : Option String) (remote : σ)
    (m : Moment σ) : Prop :=
  ∃ m₀, r.Opens script inputs target remote m₀ ∧ (r.prepared script).Precedes script m₀ m

theorem Opens.session (h : r.Opens script inputs target remote m) :
    m.session = start inputs remote :=
  h.begins.session

theorem Opens.unique (h : r.Opens script inputs target remote m)
    (h' : r.Opens script inputs target remote m') : m = m' := by
  obtain ⟨waiting, t, actions, last, s⟩ := m
  obtain ⟨waiting', t', actions', last', s'⟩ := m'
  obtain ⟨begins, rfl, rfl⟩ := h
  obtain ⟨begins', rfl, rfl⟩ := h'
  cases begins.entry.symm.trans begins'.entry
  cases begins.ready.symm.trans begins'.ready
  cases begins.session.trans begins'.session.symm
  rfl

theorem Opens.run (h : r.Opens script inputs target remote m) :
    r.run script inputs target remote =
      ((r.prepared script).remaining script m).map (r.prepared script).finish := by
  rw [h.begins.run, remaining, h.last, h.waiting]
  simp only [resume, Option.bind_fun_some]

/-- The end of a course is the end of the run. -/
theorem ComesTo.run (h : r.ComesTo script inputs target remote m)
    (ends : m.Ends (r.prepared script) script e) :
    r.run script inputs target remote = some ((r.prepared script).finish e) := by
  obtain ⟨m₀, opens, hm⟩ := h
  rw [opens.run, hm.remaining_eq, ends.remaining_eq]
  rfl

theorem ComesTo.precedes (h : r.ComesTo script inputs target remote m)
    (ends : m.Ends (r.prepared script) script e) (h' : r.ComesTo script inputs target remote m') :
    (r.prepared script).Precedes script m' m := by
  obtain ⟨m₀, opens, hm⟩ := h
  obtain ⟨m₁, opens', hm'⟩ := h'
  cases opens.unique opens'
  exact ends.precedes hm hm'

/-- A run that comes to an end has either failed before its first action, without a request, or it
has taken its course to a last moment. -/
theorem exists_ends_of_run {fin : Finished σ}
    (h : r.run script inputs target remote = some fin) :
    (∃ f, fin.result = .error f ∧ fin.session = start inputs remote ∧
        (entry script target = .error f ∨ (r.prepare script.targets).1 = .error f) ∧
        ∀ m, ¬r.ComesTo script inputs target remote m) ∨
      ∃ m e, r.ComesTo script inputs target remote m ∧ m.Ends (r.prepared script) script e ∧
        fin = (r.prepared script).finish e := by
  rcases run_begins_or_fails r script inputs target remote with
    ⟨f, fin', hrun, hres, hs, failed⟩ | ⟨p, begins⟩
  · cases h.symm.trans hrun
    refine .inl ⟨f, hres, hs, failed, ?_⟩
    rintro m ⟨m₀, opens, _⟩
    rcases failed with failed | failed
    · cases failed.symm.trans opens.begins.entry
    · cases failed.symm.trans opens.begins.prepared
  · obtain ⟨callers, t, actions, s⟩ := p
    cases begins.callers
    rw [begins.run] at h
    obtain ⟨e, he, rfl⟩ := Option.map_eq_some_iff.1 h
    obtain ⟨m, hm, ends⟩ := exists_ends_of_inTurn he rfl
    exact .inr ⟨m, e, ⟨_, ⟨begins, rfl, rfl⟩, hm⟩, ends, rfl⟩

end Run

end WebScript.Runner
