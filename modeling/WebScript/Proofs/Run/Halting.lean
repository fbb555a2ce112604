import WebScript.Proofs.Run.Course
import WebScript.Proofs.Run.Messages

namespace WebScript.Runner

variable {σ : Type} {r : Runner σ} {script : Script} {inputs : Dict} {target : Option String}
  {remote : σ} {m m' : Moment σ} {e : Ended σ Outcome} {s : Session σ}

def Moment.Performs (a : Accessor σ) (m : Moment σ) (e : Ended σ Outcome) : Prop :=
  ∃ action rest, m.actions = action :: rest ∧ perform a action m.session = some e

/-- A run stops at a moment: no other comes after it, the run comes to this result, and no request
is sent after those of this state. -/
structure StopsAt (r : Runner σ) (script : Script) (inputs : Dict) (target : Option String)
    (remote : σ) (m : Moment σ) (s : Session σ) (result : Except Failure Report) : Prop where
  comes : r.ComesTo script inputs target remote m
  final : ∀ m', ¬(r.prepared script).Follows script m m'
  last : ∀ m', r.ComesTo script inputs target remote m' → (r.prepared script).Precedes script m' m
  run : ∃ fin, r.run script inputs target remote = some fin ∧ fin.result = result ∧
    fin.session.requests = s.requests ∧ fin.session.remote = s.remote

theorem Moment.Performs.ends {result : Except Failure Outcome}
    (h : m.Performs r.accessor (result, s)) (stops : halts result = true) :
    m.Ends r script (result, unwind m.target m.waiting s) := by
  obtain ⟨waiting, t, actions, last, s'⟩ := m
  obtain ⟨action, rest, rfl, hp⟩ := h
  exact .halt (step_of_halts hp stops)

theorem Moment.Ends.stopsAt (h : m.Ends (r.prepared script) script e)
    (comes : r.ComesTo script inputs target remote m) (requests : e.2.requests = s.requests)
    (same : e.2.remote = s.remote) :
    r.StopsAt script inputs target remote m s (e.1.map fun outcome => ⟨outcome, e.2.outputs⟩) where
  comes := comes
  final _ := h.not_follows
  last _ := comes.precedes h
  run := ⟨_, comes.run h, by simp, by simp [requests], by simp [same]⟩

theorem ComesTo.stopsAt {result : Except Failure Outcome}
    (h : r.ComesTo script inputs target remote m) (hp : m.Performs r.accessor (result, s))
    (stops : halts result = true) :
    r.StopsAt script inputs target remote m s (result.map fun outcome => ⟨outcome, s.outputs⟩) := by
  have ends : m.Ends (r.prepared script) script (result, unwind m.target m.waiting s) := by
    apply Moment.Performs.ends _ stops
    rwa [prepared_accessor]
  have hs := ends.stopsAt h (unwind_requests m.target m.waiting s)
    (unwind_remote m.target m.waiting s)
  rwa [unwind_outputs] at hs

theorem StopsAt.result_eq {result : Except Failure Report} {fin : Finished σ}
    (h : r.StopsAt script inputs target remote m s result)
    (hrun : r.run script inputs target remote = some fin) : fin.result = result := by
  obtain ⟨fin', hrun', hres, _⟩ := h.run
  cases hrun.symm.trans hrun'
  exact hres

/-- Between the jumps that enter a target, no other is the outcome of an action before. -/
theorem ComesTo.last (h : r.ComesTo script inputs target remote m) :
    m.last = .done ∨ m.last = .jump "" := by
  obtain ⟨m₀, opens, hm⟩ := h
  induction hm with
  | refl => exact .inl opens.last
  | tail _ h ih =>
    cases h with
    | goOn h => exact (step_goOn h).2
    | enter => exact .inl rfl
    | back =>
      -- What the target of a jump comes back with was the last outcome in there.
      exact ih

/-- Where a course ends, either no action is left at all, or the next one has been performed and no
request has been sent since. -/
theorem Moment.Ends.over_or_performs (h : m.Ends r script e) :
    e.1 = .ok m.last ∨ ∃ result s, m.Performs r.accessor (result, s) ∧
      e.2.requests = s.requests ∧ e.2.remote = s.remote ∧
      ∀ outcome, e.1 = .ok outcome → result = .ok outcome ∧ outcome.ok = false := by
  cases h with
  | finished => exact .inl rfl
  | halt hs =>
    obtain ⟨result, hp, hh⟩ := step_halt hs
    refine .inr ⟨result, _, ⟨_, _, rfl, hp⟩, unwind_requests .., unwind_remote .., ?_⟩
    intro outcome he
    cases hh with
    | failed =>
      cases he
      exact ⟨rfl, rfl⟩
    | error => cases he
    | notFound => cases he
    | tooDeep => cases he
  | unready hs =>
    obtain ⟨name, hp, _⟩ := step_call hs
    refine .inr ⟨_, _, ⟨_, _, rfl, hp⟩, ?_, ?_, nofun⟩
    · rw [unwind_requests, Session.leave_requests, Session.enter_requests]
    · rw [unwind_remote, Session.leave_remote, Session.enter_remote]

section Finished

variable {fin : Finished σ}

/-- A run that comes to its end has performed all actions well, or has stopped at one. -/
theorem over_or_stops (h : r.run script inputs target remote = some fin) :
    (∃ f, fin.result = .error f ∧ fin.session = start inputs remote ∧
        ∀ m, ¬r.ComesTo script inputs target remote m) ∨
      (∃ last, fin.result = .ok last ∧ (last.outcome = .done ∨ last.outcome = .jump "")) ∨
      ∃ m result s, m.Performs r.accessor (result, s) ∧
        r.StopsAt script inputs target remote m s fin.result ∧
        ∀ report, fin.result = .ok report →
          result = .ok report.outcome ∧ report.outcome.ok = false := by
  rcases exists_ends_of_run h with ⟨f, hres, hs, _, none⟩ | ⟨m, e, comes, ends, rfl⟩
  · exact .inl ⟨f, hres, hs, none⟩
  · rcases ends.over_or_performs with he | ⟨result, s, hp, requests, same, failed⟩
    · refine .inr (.inl ⟨⟨m.last, e.2.outputs⟩, ?_, comes.last⟩)
      rw [finish_result, he]
      rfl
    · rw [prepared_accessor] at hp
      refine .inr (.inr ⟨m, result, s, hp, ?_, ?_⟩)
      · rw [finish_result]
        exact ends.stopsAt comes requests same
      · intro report hres
        rw [finish_result] at hres
        obtain ⟨outcome, he, rfl⟩ := Except.map_eq_ok.1 hres
        exact failed outcome he

theorem run_error (h : r.run script inputs target remote = some fin) {f : Failure}
    (hres : fin.result = .error f) :
    ((∀ m, ¬r.ComesTo script inputs target remote m) ∧ fin.session.requests = []) ∨
      ∃ m e, m.Performs r.accessor e ∧ r.StopsAt script inputs target remote m e.2 (.error f) := by
  rcases over_or_stops h with ⟨_, _, hs, none⟩ | ⟨last, hok, _⟩ | ⟨m, result, s, hp, stops, _⟩
  · refine .inl ⟨none, ?_⟩
    rw [hs]
    rfl
  · cases hok.symm.trans hres
  · rw [hres] at stops
    exact .inr ⟨m, _, hp, stops⟩

theorem run_ok (h : r.run script inputs target remote = some fin) {report : Report}
    (hres : fin.result = .ok report) (ok : report.outcome.ok = true)
    (comes : r.ComesTo script inputs target remote m) (hp : m.Performs r.accessor e) :
    ∃ outcome, e.1 = .ok outcome ∧ outcome.ok = true := by
  obtain ⟨result, s⟩ := e
  apply ok_of_halts_false
  by_contra hstop
  have halted := (comes.stopsAt hp (by simpa using hstop)).result_eq h
  rw [hres] at halted
  cases result with
  | error f => cases halted
  | ok outcome =>
    cases halted
    simp [halts, ok] at hstop

end Finished

/-- An action that fails or raises an error is the last of its run, which comes to that result and
sends no further request. Every run that ends with an error has stopped so, if it has begun at all.
A run that ends with a report has either performed all of its actions well, and then has neither a
message nor a jump to ask for, or has stopped at the one that failed. -/
theorem nothing_after_failure (r : Runner σ) (script : Script) (inputs : Dict)
    (target : Option String) (remote : σ) :
    (∀ m text s, r.ComesTo script inputs target remote m →
      m.Performs r.accessor (.ok (.failed text), s) →
      r.StopsAt script inputs target remote m s (.ok ⟨.failed text, s.outputs⟩) ∧
        (r.accessor.NamesKinds → text ≠ "")) ∧
    (∀ m f s, r.ComesTo script inputs target remote m → m.Performs r.accessor (.error f, s) →
      r.StopsAt script inputs target remote m s (.error f)) ∧
    (∀ fin f, r.run script inputs target remote = some fin → fin.result = .error f →
      ((∀ m, ¬r.ComesTo script inputs target remote m) ∧ fin.session.requests = []) ∨
        ∃ m e, m.Performs r.accessor e ∧ r.StopsAt script inputs target remote m e.2 (.error f)) ∧
    (∀ fin report, r.run script inputs target remote = some fin → fin.result = .ok report →
      (report.outcome.ok = true ∧ report.outcome.message? = none ∧
        (report.outcome.target? = none ∨ report.outcome.target? = some "") ∧
        ∀ m e, r.ComesTo script inputs target remote m → m.Performs r.accessor e →
          ∃ outcome, e.1 = .ok outcome ∧ outcome.ok = true) ∨
      (report.outcome.ok = false ∧ report.outcome.target? = none ∧
        ∃ m text s, report.outcome.message? = some text ∧
          m.Performs r.accessor (.ok (.failed text), s) ∧
          r.StopsAt script inputs target remote m s (.ok report))) := by
  refine ⟨fun m text s comes hp => ⟨comes.stopsAt hp rfl, fun named => ?_⟩,
    fun m f s comes hp => comes.stopsAt hp rfl, fun fin f h hres => run_error h hres, ?_⟩
  · obtain ⟨_, _, _, hperform⟩ := hp
    exact perform_failed_ne_empty named hperform
  · intro fin report h hres
    rcases over_or_stops h with ⟨_, herror, _⟩ | ⟨_, hok, hlast⟩ | ⟨m, result, s, hp, stops, failed⟩
    · cases herror.symm.trans hres
    · cases hok.symm.trans hres
      left
      have ok : report.outcome.ok = true := by
        rcases hlast with hl | hl <;> rw [hl] <;> rfl
      refine ⟨ok, ?_, ?_, fun m e comes hp => run_ok h hres ok comes hp⟩
      · rcases hlast with hl | hl <;> rw [hl] <;> rfl
      · rcases hlast with hl | hl <;> rw [hl]
        · exact .inl rfl
        · exact .inr rfl
    · right
      rw [hres] at stops
      obtain ⟨rfl, bad⟩ := failed report hres
      obtain ⟨outcome, outputs⟩ := report
      cases outcome with
      | failed text => exact ⟨rfl, rfl, m, text, s, rfl, hp, stops⟩
      | done => cases bad
      | jump name => cases bad

def outingMain : Target := ⟨"Main", [.jump "Side", .fetch "http://shop/" {}]⟩

def outingSide : Target := ⟨"Side", [.fetch "http://shop/cart" {}]⟩

def outing : Script :=
  { targets := [outingMain, outingSide], defaultTarget := some "Main" }

def refusing : Runner Unit :=
  new ⟨fun _ s => (.ok ⟨404, "", "", none⟩, s)⟩ 64

theorem refusing_fetch (s : Session Unit) :
    ∃ s', perform refusing.accessor (.fetch "http://shop/cart" {} ⟨[], [], []⟩) s =
        some (.ok (.failed "NotFound"), s') ∧
      s'.outputs = s.outputs ∧ s'.requests = s.requests ++ [.fetch "http://shop/cart" []] := by
  rw [perform_fetch (by decide)]
  refine ⟨_, rfl, rfl, ?_⟩
  simp [Session.requests, Session.note, Event.request?]

/-- The moment in the second target, with the rest of the first waiting. -/
def outingMoment : Moment Unit where
  waiting := [⟨outingMain, [.fetch "http://shop/" {} ⟨[], [], []⟩]⟩]
  target := outingSide
  actions := [.fetch "http://shop/cart" {} ⟨[], [], []⟩]
  last := .done
  session := ((start [] ()).note (.performed (.jump "Side"))).enter outingSide

theorem outing_stops : ∃ s,
    outingMoment.Performs refusing.accessor (.ok (.failed "NotFound"), s) ∧
    s.requests = [.fetch "http://shop/cart" []] ∧
    refusing.StopsAt outing [] none () outingMoment s (.ok ⟨.failed "NotFound", ∅⟩) ∧
    "NotFound" ≠ "" := by
  have begins : refusing.Begins outing [] none ()
      ⟨[], outingMain, [.jump "Side", .fetch "http://shop/" {} ⟨[], [], []⟩], start [] ()⟩ :=
    ⟨by rfl, rfl, rfl, rfl, rfl⟩
  have jumps : Action.Jumps (start [] ()) (.jump "Side") "Side" :=
    .jump (Template.resolve?_of_no_opener (by decide))
  have called := step_jump_call (r := refusing.prepared outing) (t := outingMain) jumps (by decide)
    (show outing.find? "Side" = some outingSide by decide) (by decide)
  have comes : refusing.ComesTo outing [] none () outingMoment :=
    ⟨⟨[], outingMain, _, .done, _⟩, ⟨begins, rfl, rfl⟩, .single (.enter called rfl)⟩
  obtain ⟨s, fetched, houtputs, hrequests⟩ :=
    refusing_fetch outingMoment.session
  have performs : outingMoment.Performs refusing.accessor (.ok (.failed "NotFound"), s) :=
    ⟨_, _, rfl, fetched⟩
  obtain ⟨stops, named⟩ :=
    (nothing_after_failure refusing outing [] none ()).1 outingMoment "NotFound" s comes performs
  rw [houtputs] at stops
  exact ⟨s, performs, hrequests, stops, named nofun⟩

end WebScript.Runner
