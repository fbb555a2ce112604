import Mathlib.Logic.Relation
import WebScript.Proofs.Run.Derivation
import WebScript.Proofs.Run.Ready
import WebScript.Proofs.Template.Resolution

namespace WebScript.Runner

variable {σ : Type}

/-- A point of a run: the targets that wait for the current one to come back, the current target
with the actions that are left of it, and the state. -/
structure Point (σ : Type) where
  callers : List Target
  target : Target
  actions : List Action
  session : Session σ

/-- A point leads to another: past an action, into the target of a jump, or back from there. -/
inductive Leads (r : Runner σ) (script : Script) : Point σ → Point σ → Prop
  | goOn {callers t action rest s last s'}
      (h : r.step script t action s = some (.goOn last s')) :
      Leads r script ⟨callers, t, action :: rest, s⟩ ⟨callers, t, rest, s'⟩
  | enter {callers t action rest s callee s' actions}
      (h : r.step script t action s = some (.call callee s'))
      (ready : r.actionsOf callee = .ok actions) :
      Leads r script ⟨callers, t, action :: rest, s⟩
        ⟨t :: callers, callee, actions, s'.enter callee⟩
  | back {callers t action rest s callee s' last s''}
      (h : r.step script t action s = some (.call callee s'))
      (ended : r.runTarget script callee (s'.enter callee) = some (.ok last, s''))
      (ok : last.ok = true) :
      Leads r script ⟨callers, t, action :: rest, s⟩ ⟨callers, t, rest, s''.leave callee⟩

/-- A point comes after another. -/
abbrev Reaches (r : Runner σ) (script : Script) : Point σ → Point σ → Prop :=
  Relation.ReflTransGen (r.Leads script)

/-- The point where a run begins, if it gets as far as its first target. -/
structure Begins (r : Runner σ) (script : Script) (inputs : Dict) (target : Option String)
    (remote : σ) (p : Point σ) : Prop where
  entry : entry script target = .ok p.target
  prepared : (r.prepare script.targets).1 = .ok ()
  ready : (r.prepared script).actionsOf p.target = .ok p.actions
  callers : p.callers = []
  session : p.session = start inputs remote

def Visits (r : Runner σ) (script : Script) (inputs : Dict) (target : Option String) (remote : σ)
    (p : Point σ) : Prop :=
  ∃ p₀, r.Begins script inputs target remote p₀ ∧ (r.prepared script).Reaches script p₀ p

/-- A run ends with the fault of a jump too deep. -/
def EndsTooDeep (r : Runner σ) (script : Script) (inputs : Dict) (target : Option String)
    (remote : σ) : Prop :=
  ∃ fin e, r.run script inputs target remote = some fin ∧ fin.result = .error (.script e) ∧
    e.kind = .jumpDepth

variable {r : Runner σ} {script : Script} {p q : Point σ}

theorem step_depth {t callee : Target} {action : Action} {s s' : Session σ}
    (h : r.step script t action s = some (.call callee s')) :
    s'.depth = s.depth ∧ s.depth < r.maxJumpDepth := by
  obtain ⟨name, hp, _, _, hlt⟩ := step_call h
  have hd : s'.depth = s.depth := (perform_onward hp).depth
  rw [hd] at hlt
  exact ⟨hd, hlt⟩

theorem leave_depth_of_runTarget {callee : Target} {s : Session σ} {e : Ended σ Outcome}
    (h : r.runTarget script callee (s.enter callee) = some e) :
    (e.2.leave callee).depth = s.depth := by
  rw [Session.leave_depth, runTarget_depth h, Session.enter_depth, Nat.add_sub_cancel]

theorem inTurn_call_map {t callee : Target} {action : Action} {rest : List Action} {last : Outcome}
    {s s' : Session σ} (h : r.step script t action s = some (.call callee s')) :
    r.inTurn script t (action :: rest) last s =
      ((r.runTarget script callee (s'.enter callee)).map (left callee)).bind
        (andThen (r.inTurn script t rest)) := by
  rw [inTurn_call h, Option.bind_map]
  rfl

theorem returned_depth {callee : Target} {s s' : Session σ} {result : Except Failure Outcome}
    (h : (r.runTarget script callee (s.enter callee)).map (left callee) = some (result, s')) :
    s'.depth = s.depth := by
  obtain ⟨⟨result', u⟩, hrun, hleft⟩ := Option.map_eq_some_iff.1 h
  cases hleft
  exact leave_depth_of_runTarget hrun

/-- The jumps that may still be nested at a point, and the actions that are left of its target. -/
def Point.ahead (r : Runner σ) (p : Point σ) : Nat × Nat :=
  ((r.maxJumpDepth - p.session.depth).toNat, p.actions.length)

theorem Leads.ahead_lt (h : r.Leads script p q) :
    Prod.Lex (· < ·) (· < ·) (q.ahead r) (p.ahead r) := by
  cases h with
  | goOn h =>
    rw [Point.ahead, (perform_onward (step_goOn h).1).depth]
    exact .right _ (Nat.lt_succ_self _)
  | enter h ready =>
    obtain ⟨hd, hlt⟩ := step_depth h
    apply Prod.Lex.left
    simp only [Session.enter_depth, hd]
    omega
  | back h ended ok =>
    rw [Point.ahead, leave_depth_of_runTarget ended, (step_depth h).1]
    exact .right _ (Nat.lt_succ_self _)

/-- No run goes from point to point without end. -/
theorem leads_wellFounded (r : Runner σ) (script : Script) :
    WellFounded fun q p => r.Leads script p q :=
  Subrelation.wf Leads.ahead_lt
    (InvImage.wf (Point.ahead r) (Prod.lex Nat.lt_wfRel Nat.lt_wfRel).wf)

/-- What is left of the current target comes to an end with a result. -/
def Point.EndsWith (r : Runner σ) (script : Script) (p : Point σ)
    (result : Except Failure Outcome) : Prop :=
  ∀ last, ∃ s, r.inTurn script p.target p.actions last p.session = some (result, s)

theorem Leads.endsWith {result : Except Failure Outcome} (h : r.Leads script p q)
    (halts : halts result = true) (hq : q.EndsWith r script result) :
    p.EndsWith r script result := by
  intro last
  cases h with
  | goOn h =>
    obtain ⟨s, hs⟩ := hq _
    exact ⟨s, (inTurn_goOn h).trans hs⟩
  | enter h ready =>
    obtain ⟨s, hs⟩ := hq .done
    rw [inTurn_call h, runTarget_of_ok ready, hs]
    exact ⟨_, andThen_of_halts halts⟩
  | back h ended ok =>
    obtain ⟨s, hs⟩ := hq _
    rw [inTurn_call h, ended]
    exact ⟨s, (andThen_of_ok ok).trans hs⟩

theorem Reaches.endsWith {result : Except Failure Outcome} (h : r.Reaches script p q)
    (halts : halts result = true) (hq : q.EndsWith r script result) :
    p.EndsWith r script result := by
  induction h using Relation.ReflTransGen.head_induction_on with
  | refl => exact hq
  | head h _ ih => exact h.endsWith halts ih

theorem endsWith_of_halt {result : Except Failure Outcome} {action : Action} {rest : List Action}
    {s : Session σ} (hp : p.actions = action :: rest)
    (h : r.step script p.target action p.session = some (.halt result s)) :
    p.EndsWith r script result := by
  intro last
  rw [hp]
  exact ⟨s, inTurn_halt h⟩

/-- A point at which the current target halts: by its next action, or because the target that this
action jumps to cannot be made ready. -/
inductive Point.HaltsWith (r : Runner σ) (script : Script) :
    Point σ → Except Failure Outcome → Prop
  | action {callers t action rest s result s'}
      (h : r.step script t action s = some (.halt result s')) :
      HaltsWith r script ⟨callers, t, action :: rest, s⟩ result
  | unready {callers t action rest s callee s' f}
      (h : r.step script t action s = some (.call callee s'))
      (faulty : r.actionsOf callee = .error f) :
      HaltsWith r script ⟨callers, t, action :: rest, s⟩ (.error f)

theorem Runs.exists_haltsWith {t : Target} {actions : List Action} {last : Outcome}
    {s : Session σ} {e : Ended σ Outcome} (h : Runs r script t actions last s e)
    (ok : last.ok = true) (halts : halts e.1 = true) (callers : List Target) :
    ∃ q, r.Reaches script ⟨callers, t, actions, s⟩ q ∧ q.HaltsWith r script e.1 := by
  induction h generalizing callers with
  | nil => simp [Runner.halts, ok] at halts
  | halt h => exact ⟨_, .refl, .action h⟩
  | goOn h _ ih =>
    obtain ⟨q, hq, hh⟩ := ih (step_goOn_ok h) halts callers
    exact ⟨q, .head (.goOn h) hq, hh⟩
  | unready h faulty => exact ⟨_, .refl, .unready h faulty⟩
  | stop h ready _ stops ih =>
    obtain ⟨q, hq, hh⟩ := ih rfl stops (_ :: callers)
    exact ⟨q, .head (.enter h ready) hq, hh⟩
  | back h ready body back_ok _ _ ih =>
    obtain ⟨q, hq, hh⟩ := ih back_ok halts callers
    exact ⟨q, .head (.back h ((runTarget_of_ok ready).trans body.inTurn) back_ok) hq, hh⟩

section Run

variable {inputs : Dict} {target : Option String} {remote : σ}

theorem entry_mem {t : Target} (h : entry script target = .ok t) : t ∈ script.targets := by
  rw [entry] at h
  split at h
  · cases h
  · split at h
    · cases h
    · next hf => cases h; exact Script.find?_mem hf

theorem run_of_entry_error {f : Failure} (h : entry script target = .error f) :
    r.run script inputs target remote = some ⟨.error f, start inputs remote, r⟩ := by
  rw [Runner.run, h]

theorem run_of_prepare_error {t : Target} {f : Failure} (h : entry script target = .ok t)
    (hp : (r.prepare script.targets).1 = .error f) :
    r.run script inputs target remote =
      some ⟨.error f, start inputs remote, r.prepared script⟩ := by
  have hp : r.prepare script.targets = (.error f, r.prepared script) := Prod.ext hp rfl
  rw [Runner.run, h]
  simp only [hp]

theorem run_of_prepare_ok {t : Target} (h : entry script target = .ok t)
    (hp : (r.prepare script.targets).1 = .ok ()) :
    r.run script inputs target remote =
      ((r.prepared script).runTarget script t (start inputs remote)).map
        (r.prepared script).finish := by
  have hp : r.prepare script.targets = (.ok (), r.prepared script) := Prod.ext hp rfl
  rw [Runner.run, h]
  simp only [hp]

/-- Either a run ends before its first target, with a fault of its entry or of the rules, or it
begins there. -/
theorem run_begins_or_fails (r : Runner σ) (script : Script) (inputs : Dict)
    (target : Option String) (remote : σ) :
    (∃ f fin, r.run script inputs target remote = some fin ∧ fin.result = .error f ∧
      fin.session = start inputs remote ∧
      (entry script target = .error f ∨ (r.prepare script.targets).1 = .error f)) ∨
    ∃ p, r.Begins script inputs target remote p := by
  cases hentry : entry script target with
  | error f => exact .inl ⟨f, _, run_of_entry_error hentry, rfl, rfl, .inl rfl⟩
  | ok t =>
    cases hp : (r.prepare script.targets).1 with
    | error f => exact .inl ⟨f, _, run_of_prepare_error hentry hp, rfl, rfl, .inr rfl⟩
    | ok =>
      obtain ⟨actions, ready⟩ := exists_actionsOf_prepared hp (entry_mem hentry)
      exact .inr ⟨⟨[], t, actions, start inputs remote⟩, hentry, hp, ready, rfl, rfl⟩

theorem Begins.run (h : r.Begins script inputs target remote p) :
    r.run script inputs target remote =
      ((r.prepared script).inTurn script p.target p.actions .done p.session).map
        (r.prepared script).finish := by
  rw [run_of_prepare_ok h.entry h.prepared, runTarget_of_ok h.ready, h.session]

theorem Visits.prepared (h : r.Visits script inputs target remote p) :
    (r.prepare script.targets).1 = .ok () := by
  obtain ⟨_, hb, _⟩ := h
  exact hb.prepared

theorem Leads.action_mem (h : r.Leads script p q) {action : Action} (ha : action ∈ q.actions) :
    action ∈ p.actions ∨
      ∃ t ∈ script.targets, ∃ actions, r.actionsOf t = .ok actions ∧ action ∈ actions := by
  cases h with
  | goOn h => exact .inl (List.mem_cons_of_mem _ ha)
  | enter h ready =>
    obtain ⟨name, _, _, hf, _⟩ := step_call h
    exact .inr ⟨_, Script.find?_mem hf, _, ready, ha⟩
  | back h ended ok => exact .inl (List.mem_cons_of_mem _ ha)

theorem Visits.action_mem (h : r.Visits script inputs target remote p) {action : Action}
    (ha : action ∈ p.actions) :
    ∃ t ∈ script.targets, ∃ actions,
      (r.prepared script).actionsOf t = .ok actions ∧ action ∈ actions := by
  obtain ⟨p₀, hb, hr⟩ := h
  induction hr with
  | refl => exact ⟨_, entry_mem hb.entry, _, hb.ready, ha⟩
  | tail _ h ih =>
    rcases h.action_mem ha with ha | ha
    · exact ih ha
    · exact ha

theorem Visits.run_error {f : Failure} (h : r.Visits script inputs target remote p)
    (hp : p.EndsWith (r.prepared script) script (.error f)) :
    ∃ fin, r.run script inputs target remote = some fin ∧ fin.result = .error f := by
  obtain ⟨p₀, hb, hr⟩ := h
  obtain ⟨s, hs⟩ := hr.endsWith rfl hp .done
  rw [hb.run, hs]
  exact ⟨_, rfl, rfl⟩

end Run

section Blank

def loop : Target := ⟨"Loop", [.jump "Loop"]⟩

def circle : Script :=
  { targets := [loop], defaultTarget := some "Loop" }

/-- A runner for which every page is empty. -/
def blank (maxJumpDepth : Int) : Runner Unit :=
  new ⟨fun _ s => (.ok ⟨200, "", "", none⟩, s)⟩ maxJumpDepth

theorem circle_begins (limit : Int) :
    (blank limit).Begins circle [] none () ⟨[], loop, [.jump "Loop"], start [] ()⟩ where
  entry := by rfl
  prepared := rfl
  ready := rfl
  callers := rfl
  session := rfl

def nameless : Target := ⟨"", [.fetch "http://shop/" {}]⟩

def silentMain : Target := ⟨"Main", [.jump ""]⟩

/-- A script with a target that has no name, and a jump to it. -/
def silent : Script :=
  { targets := [silentMain, nameless], defaultTarget := some "Main" }

theorem silent_begins (limit : Int) :
    (blank limit).Begins silent [] none () ⟨[], silentMain, [.jump ""], start [] ()⟩ where
  entry := by rfl
  prepared := rfl
  ready := rfl
  callers := rfl
  session := rfl

theorem blank_fetch (limit : Int) (script : Script) (t : Target) (s : Session Unit) :
    ∃ s', ((blank limit).prepared script).step script t (.fetch "http://shop/" {} ⟨[], [], []⟩) s =
        some (.goOn .done s') ∧
      s'.outputs = s.outputs ∧ s'.requests = s.requests ++ [.fetch "http://shop/" []] := by
  rw [step, prepared_accessor, perform_fetch (by decide)]
  refine ⟨_, rfl, rfl, ?_⟩
  simp [Session.requests, Session.note, Event.request?]

end Blank

end WebScript.Runner
