import Mathlib.Tactic.Common
import WebScript.Proofs.Run.Perform
import WebScript.Run.Runner

namespace WebScript.Runner

variable {σ : Type}

/-- The ways for an action to end its target. -/
inductive Halts (r : Runner σ) (script : Script) (t : Target) :
    Ended σ Outcome → Except Failure Outcome → Prop
  | error {f s} : Halts r script t (.error f, s) (.error f)
  | failed {m s} : Halts r script t (.ok (.failed m), s) (.ok (.failed m))
  | notFound {name s} (named : name ≠ "") (h : script.find? name = none) :
      Halts r script t (.ok (.jump name), s) (.error (.script (.jumpTargetNotFound name)))
  | tooDeep {name callee s} (named : name ≠ "") (h : script.find? name = some callee)
      (deep : r.maxJumpDepth ≤ s.depth) :
      Halts r script t (.ok (.jump name), s)
        (.error (.script (.jumpTooDeep t.name callee.name r.maxJumpDepth)))

/-- How the actions of a target come to an end. -/
inductive Runs (r : Runner σ) (script : Script) :
    Target → List Action → Outcome → Session σ → Ended σ Outcome → Prop
  | nil {t last s} : Runs r script t [] last s (.ok last, s)
  | halt {t action rest last s result s'} (h : r.step script t action s = some (.halt result s')) :
      Runs r script t (action :: rest) last s (result, s')
  | goOn {t action rest last s last' s' e}
      (h : r.step script t action s = some (.goOn last' s'))
      (onward : Runs r script t rest last' s' e) : Runs r script t (action :: rest) last s e
  | unready {t action rest last s callee s' f}
      (h : r.step script t action s = some (.call callee s'))
      (faulty : r.actionsOf callee = .error f) :
      Runs r script t (action :: rest) last s (.error f, (s'.enter callee).leave callee)
  | stop {t action rest last s callee s' actions result s''}
      (h : r.step script t action s = some (.call callee s'))
      (ready : r.actionsOf callee = .ok actions)
      (body : Runs r script callee actions .done (s'.enter callee) (result, s''))
      (stops : halts result = true) :
      Runs r script t (action :: rest) last s (result, s''.leave callee)
  | back {t action rest last s callee s' actions last' s'' e}
      (h : r.step script t action s = some (.call callee s'))
      (ready : r.actionsOf callee = .ok actions)
      (body : Runs r script callee actions .done (s'.enter callee) (.ok last', s''))
      (ok : last'.ok = true) (onward : Runs r script t rest last' (s''.leave callee) e) :
      Runs r script t (action :: rest) last s e

variable {r : Runner σ} {script : Script} {t callee : Target} {action : Action}
  {actions rest : List Action} {last last' : Outcome} {result : Except Failure Outcome}
  {s s' s'' : Session σ} {e : Ended σ Outcome}

theorem destination_eq_ok {name : String} {depth : Nat} :
    r.destination script t name depth = .ok callee ↔
      script.find? name = some callee ∧ depth < r.maxJumpDepth := by
  rw [destination]
  split
  · simp_all
  · split <;> simp_all

theorem destination_eq_error {name : String} {depth : Nat} {f : ScriptError}
    (h : r.destination script t name depth = .error f) :
    (script.find? name = none ∧ f = .jumpTargetNotFound name) ∨
      ∃ callee, script.find? name = some callee ∧ r.maxJumpDepth ≤ depth ∧
        f = .jumpTooDeep t.name callee.name r.maxJumpDepth := by
  rw [destination] at h
  split at h
  · next hf => cases h; exact .inl ⟨hf, rfl⟩
  · next callee hf =>
    split at h
    · next hd => cases h; exact .inr ⟨callee, hf, hd, rfl⟩
    · cases h

theorem next_halt (h : r.next script t e = .halt result s') :
    Halts r script t e result ∧ e.2 = s' := by
  obtain ⟨result', s⟩ := e
  cases result' with
  | error f => cases h; exact ⟨.error, rfl⟩
  | ok outcome =>
    cases outcome with
    | done => cases h
    | failed m => cases h; exact ⟨.failed, rfl⟩
    | jump name =>
      rw [next] at h
      split at h
      · cases h
      · next hn =>
        split at h
        · next f hd =>
          cases h
          rcases destination_eq_error hd with ⟨hf, rfl⟩ | ⟨callee, hf, hdeep, rfl⟩
          · exact ⟨.notFound hn hf, rfl⟩
          · exact ⟨.tooDeep hn hf hdeep, rfl⟩
        · cases h

theorem next_goOn (h : r.next script t e = .goOn last s') :
    e = (.ok last, s') ∧ (last = .done ∨ last = .jump "") := by
  obtain ⟨result', s⟩ := e
  cases result' with
  | error f => cases h
  | ok outcome =>
    cases outcome with
    | done => cases h; exact ⟨rfl, .inl rfl⟩
    | failed m => cases h
    | jump name =>
      rw [next] at h
      split at h
      · next hn => cases h; subst hn; exact ⟨rfl, .inr rfl⟩
      · split at h <;> cases h

theorem next_call (h : r.next script t e = .call callee s') :
    ∃ name, e = (.ok (.jump name), s') ∧ name ≠ "" ∧ script.find? name = some callee ∧
      s'.depth < r.maxJumpDepth := by
  obtain ⟨result', s⟩ := e
  cases result' with
  | error f => cases h
  | ok outcome =>
    cases outcome with
    | done => cases h
    | failed m => cases h
    | jump name =>
      rw [next] at h
      split at h
      · cases h
      · next hn =>
        split at h
        · cases h
        · next callee hd =>
          cases h
          obtain ⟨hf, hlt⟩ := destination_eq_ok.1 hd
          exact ⟨name, rfl, hn, hf, hlt⟩

theorem step_halt (h : r.step script t action s = some (.halt result s')) :
    ∃ result', perform r.accessor action s = some (result', s') ∧
      Halts r script t (result', s') result := by
  obtain ⟨⟨result', s''⟩, hp, hn⟩ := Option.map_eq_some_iff.1 h
  obtain ⟨hh, rfl⟩ := next_halt hn
  exact ⟨result', hp, hh⟩

theorem step_goOn (h : r.step script t action s = some (.goOn last s')) :
    perform r.accessor action s = some (.ok last, s') ∧ (last = .done ∨ last = .jump "") := by
  obtain ⟨e, hp, hn⟩ := Option.map_eq_some_iff.1 h
  obtain ⟨rfl, hl⟩ := next_goOn hn
  exact ⟨hp, hl⟩

theorem step_call (h : r.step script t action s = some (.call callee s')) :
    ∃ name, perform r.accessor action s = some (.ok (.jump name), s') ∧ name ≠ "" ∧
      script.find? name = some callee ∧ s'.depth < r.maxJumpDepth := by
  obtain ⟨e, hp, hn⟩ := Option.map_eq_some_iff.1 h
  obtain ⟨name, rfl, hname, hf, hd⟩ := next_call hn
  exact ⟨name, hp, hname, hf, hd⟩

theorem next_of_halts (h : halts result = true) : r.next script t (result, s) = .halt result s := by
  cases result with
  | error f => rfl
  | ok outcome =>
    cases outcome with
    | failed text => rfl
    | done => cases h
    | jump name => cases h

theorem step_of_halts (hp : perform r.accessor action s = some (result, s'))
    (h : halts result = true) : r.step script t action s = some (.halt result s') := by
  rw [step, hp, Option.map_some, next_of_halts h]

theorem step_of_done (hp : perform r.accessor action s = some (.ok .done, s')) :
    r.step script t action s = some (.goOn .done s') := by
  rw [step, hp]
  rfl

section Jumps

variable {name : String} (h : action.Jumps s name)

include h

theorem step_of_jumps :
    r.step script t action s =
      some (r.next script t (.ok (.jump name), s.note (.performed (.jump name)))) := by
  rw [step, perform_jump_iff.2 ⟨h, rfl⟩, Option.map_some]

theorem step_jump_unnamed (unnamed : name = "") :
    r.step script t action s =
      some (.goOn (.jump name) (s.note (.performed (.jump name)))) := by
  rw [step_of_jumps h, next, if_pos unnamed]

theorem step_jump_notFound (named : name ≠ "") (lost : script.find? name = none) :
    r.step script t action s =
      some (.halt (.error (.script (.jumpTargetNotFound name)))
        (s.note (.performed (.jump name)))) := by
  rw [step_of_jumps h, next, if_neg named, destination, lost]

theorem step_jump_tooDeep (named : name ≠ "") (found : script.find? name = some callee)
    (deep : r.maxJumpDepth ≤ s.depth) :
    r.step script t action s =
      some (.halt (.error (.script (.jumpTooDeep t.name callee.name r.maxJumpDepth)))
        (s.note (.performed (.jump name)))) := by
  rw [step_of_jumps h, next, if_neg named, destination, found]
  simp only [Session.note_depth, deep, if_true]

theorem step_jump_call (named : name ≠ "") (found : script.find? name = some callee)
    (shallow : s.depth < r.maxJumpDepth) :
    r.step script t action s = some (.call callee (s.note (.performed (.jump name)))) := by
  rw [step_of_jumps h, next, if_neg named, destination, found]
  simp only [Session.note_depth, Int.not_le.2 shallow, if_false]

end Jumps

theorem Halts.halts (h : Halts r script t e result) : halts result = true := by
  cases h <;> rfl

theorem step_goOn_ok (h : r.step script t action s = some (.goOn last s')) : last.ok = true := by
  rcases (step_goOn h).2 with rfl | rfl <;> rfl

theorem ok_of_halts_false (h : halts result = false) :
    ∃ last, result = .ok last ∧ last.ok = true := by
  cases result with
  | error f => cases h
  | ok last => exact ⟨last, rfl, by simpa [Runner.halts] using h⟩

/-- Induction on how much deeper jumps may still go and then on the actions that are left. Every
recursion of a run is of this kind: it either drops an action or takes a jump. -/
@[elab_as_elim]
theorem depth_induction (limit : Int) {Q : List Action → Session σ → Prop}
    (nil : ∀ s, Q [] s)
    (cons : ∀ action rest s, (∀ s', s'.depth = s.depth → Q rest s') →
      (∀ actions s', s.depth < limit → s.depth < s'.depth → Q actions s') →
      Q (action :: rest) s) (actions : List Action) (s : Session σ) : Q actions s := by
  generalize hn : (limit - s.depth).toNat = n
  induction n using Nat.strongRecOn generalizing actions s with
  | ind n ih =>
    induction actions generalizing s with
    | nil => exact nil s
    | cons action rest ihr =>
      apply cons
      · intro s' hs
        exact ihr s' (by rw [hs, hn])
      · intro actions s' hl hs
        exact ih _ (by omega) actions s' rfl

theorem Runs.inTurn (h : Runs r script t actions last s e) :
    r.inTurn script t actions last s = some e := by
  induction h with
  | nil => exact inTurn_nil
  | halt h => exact inTurn_halt h
  | goOn h _ ih => rw [inTurn_goOn h, ih]
  | unready h faulty => rw [inTurn_call h, runTarget_of_error faulty]; rfl
  | stop h ready _ stops ih =>
    rw [inTurn_call h, runTarget_of_ok ready, ih]
    exact andThen_of_halts stops
  | back h ready _ ok _ ih ih' =>
    rw [inTurn_call h, runTarget_of_ok ready, ih]
    exact (andThen_of_ok ok).trans ih'

/-- The end of the actions of a target is derived, and at the depth where they began. -/
theorem runs_of_inTurn (h : r.inTurn script t actions last s = some e) :
    Runs r script t actions last s e ∧ e.2.depth = s.depth := by
  induction actions, s using depth_induction r.maxJumpDepth generalizing t last e with
  | nil s =>
    rw [inTurn_nil] at h
    cases h
    exact ⟨.nil, rfl⟩
  | cons action rest s ihrest ihcall =>
    cases hs : r.step script t action s with
    | none => rw [inTurn_none hs] at h; cases h
    | some next =>
      cases next with
      | halt result s' =>
        rw [inTurn_halt hs] at h
        cases h
        obtain ⟨result', hp, _⟩ := step_halt hs
        exact ⟨.halt hs, (perform_onward hp).depth⟩
      | goOn last' s' =>
        rw [inTurn_goOn hs] at h
        have hd : s'.depth = s.depth := (perform_onward (step_goOn hs).1).depth
        obtain ⟨hr, hd'⟩ := ihrest s' hd h
        exact ⟨.goOn hs hr, hd'.trans hd⟩
      | call callee s' =>
        obtain ⟨name, hp, _, _, hlt⟩ := step_call hs
        have hd : s'.depth = s.depth := (perform_onward hp).depth
        rw [hd] at hlt
        rw [inTurn_call hs] at h
        obtain ⟨⟨result, s''⟩, hrun, h⟩ := Option.bind_eq_some_iff.1 h
        cases hready : r.actionsOf callee with
        | error f =>
          rw [runTarget_of_error hready] at hrun
          cases hrun
          cases h
          exact ⟨.unready hs hready, by simp [hd]⟩
        | ok actions =>
          rw [runTarget_of_ok hready] at hrun
          have hd' : (s'.enter callee).depth = s.depth + 1 := by rw [Session.enter_depth, hd]
          obtain ⟨hbody, hdepth⟩ := ihcall actions _ hlt (hd' ▸ Nat.lt_succ_self _) hrun
          have hback : (s''.leave callee).depth = s.depth := by
            rw [Session.leave_depth, hdepth, hd', Nat.add_sub_cancel]
          cases hstop : halts result with
          | true =>
            rw [left, andThen_of_halts hstop] at h
            cases h
            exact ⟨.stop hs hready hbody hstop, hback⟩
          | false =>
            obtain ⟨last', rfl, hok⟩ := ok_of_halts_false hstop
            rw [left, andThen_of_ok hok] at h
            obtain ⟨hr, hd''⟩ := ihrest _ hback h
            exact ⟨.back hs hready hbody hok hr, hd''.trans hback⟩

theorem inTurn_eq_some_iff :
    r.inTurn script t actions last s = some e ↔ Runs r script t actions last s e :=
  ⟨fun h => (runs_of_inTurn h).1, Runs.inTurn⟩

theorem andThen_congr {f g : Outcome → Run σ Outcome}
    (h : ∀ last s, last.ok = true → f last s = g last s) : andThen f e = andThen g e := by
  obtain ⟨result, s⟩ := e
  cases hstop : halts result with
  | true => rw [andThen_of_halts hstop, andThen_of_halts hstop]
  | false =>
    obtain ⟨last, rfl, ok⟩ := ok_of_halts_false hstop
    rw [andThen_of_ok ok, andThen_of_ok ok, h last s ok]

theorem andThen_bind {f g : Outcome → Run σ Outcome} :
    (andThen f e).bind (andThen g) = andThen (fun last s => (f last s).bind (andThen g)) e := by
  obtain ⟨result, s⟩ := e
  cases hstop : halts result with
  | true =>
    rw [andThen_of_halts hstop, andThen_of_halts hstop, Option.bind_some, andThen_of_halts hstop]
  | false =>
    obtain ⟨last, rfl, ok⟩ := ok_of_halts_false hstop
    rw [andThen_of_ok ok, andThen_of_ok ok]

theorem inTurn_append {more : List Action} (ok : last.ok = true) :
    r.inTurn script t (actions ++ more) last s =
      (r.inTurn script t actions last s).bind (andThen (r.inTurn script t more)) := by
  induction actions generalizing last s with
  | nil =>
    rw [inTurn_nil, Option.bind_some, andThen_of_ok ok]
    rfl
  | cons action rest ih =>
    rw [List.cons_append]
    cases hs : r.step script t action s with
    | none => rw [inTurn_none hs, inTurn_none hs, Option.bind_none]
    | some next =>
      cases next with
      | halt result s' =>
        obtain ⟨_, _, hh⟩ := step_halt hs
        rw [inTurn_halt hs, inTurn_halt hs, Option.bind_some, andThen_of_halts hh.halts]
      | goOn last' s' => rw [inTurn_goOn hs, inTurn_goOn hs, ih (step_goOn_ok hs)]
      | call callee s' =>
        rw [inTurn_call hs, inTurn_call hs, Option.bind_assoc]
        refine congrArg (Option.bind _) (funext fun e => ?_)
        rw [andThen_bind]
        exact andThen_congr fun last' s'' ok' => ih ok'

theorem runTarget_depth (h : r.runTarget script t s = some e) : e.2.depth = s.depth := by
  cases ready : r.actionsOf t with
  | error f => rw [runTarget_of_error ready] at h; cases h; rfl
  | ok actions =>
    rw [runTarget_of_ok ready] at h
    exact (runs_of_inTurn h).2

end WebScript.Runner
