import WebScript.Proofs.Run.Causes

namespace WebScript

/-- An accessor that does not itself raise the fault of a jump too deep. -/
def Accessor.NeverTooDeep {σ : Type} (a : Accessor σ) : Prop :=
  ∀ request state e, (a.send request state).1 = .error (.script e) → e.kind ≠ .jumpDepth

namespace Runner

variable {σ : Type} {r : Runner σ} {script : Script} {inputs : Dict} {target : Option String}
  {remote : σ} {p q : Point σ}

theorem Leads.depth (h : r.Leads script p q) (hp : p.session.depth = p.callers.length) :
    q.session.depth = q.callers.length := by
  cases h with
  | goOn h => exact (perform_onward (step_goOn h).1).depth.trans hp
  | enter h ready => rw [Session.enter_depth, (step_depth h).1, hp, List.length_cons]
  | back h ended ok => rw [leave_depth_of_runTarget ended, (step_depth h).1, hp]

theorem Leads.callers_le (h : r.Leads script p q) (hd : p.session.depth = p.callers.length)
    (hp : p.callers.length ≤ max 0 r.maxJumpDepth) : q.callers.length ≤ max 0 r.maxJumpDepth := by
  cases h with
  | goOn h => exact hp
  | enter h ready =>
    have hlt := (step_depth h).2
    simp only at hd
    simp only [List.length_cons]
    omega
  | back h ended ok => exact hp

theorem Visits.depth (h : r.Visits script inputs target remote p) :
    p.session.depth = p.callers.length ∧ p.callers.length ≤ max 0 r.maxJumpDepth := by
  obtain ⟨p₀, hb, hr⟩ := h
  induction hr with
  | refl =>
    rw [hb.session, hb.callers]
    exact ⟨rfl, Int.le_max_left _ _⟩
  | tail _ h ih =>
    have hle := h.callers_le ih.1
    rw [prepared_maxJumpDepth] at hle
    exact ⟨h.depth ih.1, hle ih.2⟩

/-- At a point of a run, a jump to a target of the script is executed while as many targets wait as
the runner allows. -/
def Point.JumpsTooDeep (r : Runner σ) (script : Script) (p : Point σ) (name : String) : Prop :=
  ∃ action rest callee, p.actions = action :: rest ∧ action.Jumps p.session name ∧
    script.find? name = some callee ∧ r.maxJumpDepth ≤ p.callers.length

theorem Visits.too_deep {name : String} (h : r.Visits script inputs target remote p)
    (named : name ≠ "") (deep : p.JumpsTooDeep r script name) :
    r.EndsTooDeep script inputs target remote := by
  obtain ⟨action, rest, callee, ha, hj, hf, hdeep⟩ := deep
  have hmax : (r.prepared script).maxJumpDepth = r.maxJumpDepth := prepared_maxJumpDepth
  rw [← h.depth.1, ← hmax] at hdeep
  obtain ⟨fin, hrun, hres⟩ :=
    h.run_error (endsWith_of_halt ha (step_jump_tooDeep hj named hf hdeep))
  exact ⟨fin, _, hrun, hres, rfl⟩

theorem entry_error_kind {e : ScriptError} (h : entry script target = .error (.script e)) :
    e.kind ≠ .jumpDepth := by
  rw [entry] at h
  split at h
  · cases h
    intro kind
    cases kind
  · split at h <;> cases h
    intro kind
    cases kind

/-- Where a run ends too deep, a jump at one of its points is one too many. -/
theorem exists_jumpsTooDeep (fair : r.accessor.NeverTooDeep)
    (h : r.EndsTooDeep script inputs target remote) :
    ∃ p name, r.Visits script inputs target remote p ∧ name ≠ "" ∧
      p.JumpsTooDeep r script name := by
  obtain ⟨fin, e, hrun, hres, hkind⟩ := h
  rcases exists_faults_of_run hrun hres with early | early | ⟨p, hp, faults⟩
  · exact absurd hkind (entry_error_kind early)
  · cases (prepare_error_kind early).symm.trans hkind
  · cases faults with
    | raised answer => exact absurd hkind (fair _ _ _ answer)
    | shown shown => simp [ScriptError.ofPage, hkind] at shown
    | notFound => cases hkind
    | tooDeep upcoming jumps named found deep =>
      rw [hp.depth.1] at deep
      exact ⟨p, _, hp, named, _, _, _, upcoming, jumps, found, deep⟩

/-- At every point of a run the depth counts the targets that wait, which are never more than the
runner allows, also while an action is performed there; a jump leaves the depth as it was however
its target ends; and the run ends too deep exactly if a jump at one of its points is one too many.
Without a name, which only a script with a nameless target could find, a jump is none. -/
theorem depth_of_run (r : Runner σ) (script : Script) (inputs : Dict) (target : Option String)
    (remote : σ) :
    (∀ p, r.Visits script inputs target remote p →
      p.session.depth = p.callers.length ∧ p.callers.length ≤ max 0 r.maxJumpDepth ∧
      ∀ action rest e, p.actions = action :: rest →
        perform r.accessor action p.session = some e →
        e.2.depth = p.callers.length ∧
          ∀ x ∈ e.2.journal, x ∈ p.session.journal ∨ x.depth = p.callers.length) ∧
    (∀ (callee : Target) (s : Session σ) (e : Ended σ Outcome),
      (r.prepared script).runTarget script callee (s.enter callee) = some e →
        (e.2.leave callee).depth = s.depth) ∧
    (r.accessor.NeverTooDeep →
      (r.EndsTooDeep script inputs target remote ↔
        ∃ p name, r.Visits script inputs target remote p ∧ name ≠ "" ∧
          p.JumpsTooDeep r script name) ∧
      (script.Named →
        (r.EndsTooDeep script inputs target remote ↔
          ∃ p name, r.Visits script inputs target remote p ∧ p.JumpsTooDeep r script name))) := by
  refine ⟨fun p hp => ⟨hp.depth.1, hp.depth.2, fun action rest e _ he => ?_⟩,
    fun callee s e he => leave_depth_of_runTarget he,
    fun fair => ⟨⟨exists_jumpsTooDeep fair, ?_⟩, fun named => ⟨fun h => ?_, ?_⟩⟩⟩
  · obtain ⟨hd, _, new, hj, hn⟩ := perform_onward he
    refine ⟨hd.trans hp.depth.1, fun x hx => ?_⟩
    rw [hj] at hx
    rcases List.mem_append.1 hx with hx | hx
    · exact .inl hx
    · exact .inr ((hn x hx).trans hp.depth.1)
  · rintro ⟨p, name, hp, hne, deep⟩
    exact hp.too_deep hne deep
  · obtain ⟨p, name, hp, _, deep⟩ := exists_jumpsTooDeep fair h
    exact ⟨p, name, hp, deep⟩
  · rintro ⟨p, name, hp, deep⟩
    obtain ⟨_, _, _, _, _, found, _⟩ := id deep
    exact hp.too_deep (named.ne_empty found) deep

theorem circle_too_deep : (blank 1).EndsTooDeep circle [] none () := by
  have named : circle.Named := by
    intro t ht
    cases List.mem_singleton.1 ht
    decide
  have found : circle.find? "Loop" = some loop := by decide
  have jumps (s : Session Unit) : Action.Jumps s (.jump "Loop") "Loop" :=
    .jump (Template.resolve?_of_no_opener (by decide))
  have called := step_jump_call (r := (blank 1).prepared circle) (t := loop)
    (jumps (start [] ())) (by decide) found (by decide)
  have again : (blank 1).Visits circle [] none () _ :=
    ⟨_, circle_begins 1, .single (.enter called rfl)⟩
  exact (((depth_of_run (blank 1) circle [] none ()).2.2 nofun).2 named).2
    ⟨_, "Loop", again, _, _, loop, rfl, jumps _, found, by decide⟩

theorem silent_jumps : Action.Jumps (start [] ()) (.jump "") "" :=
  .jump (Template.resolve?_of_no_opener (by decide))

theorem silent_run (limit : Int) : (blank limit).run silent [] none () =
    some (((blank limit).prepared silent).finish
      (.ok (.jump ""), (start [] ()).note (.performed (.jump "")))) := by
  rw [(silent_begins limit).run, inTurn_goOn (step_jump_unnamed silent_jumps rfl), inTurn_nil]
  rfl

/-- A jump to a target without a name: where no jump may be nested it is one too many, and yet the
run does not end too deep. -/
theorem silent_not_too_deep : (blank 0).accessor.NeverTooDeep ∧
    ¬((blank 0).EndsTooDeep silent [] none () ↔
      ∃ p name, (blank 0).Visits silent [] none () p ∧ p.JumpsTooDeep (blank 0) silent name) := by
  have visited : (blank 0).Visits silent [] none () _ := ⟨_, silent_begins 0, .refl⟩
  have found : silent.find? "" = some nameless := by decide
  refine ⟨nofun, fun same => ?_⟩
  obtain ⟨fin, e, run, result, _⟩ :=
    same.2 ⟨_, "", visited, _, _, nameless, rfl, silent_jumps, found, by decide⟩
  rw [silent_run] at run
  cases run
  cases result

end Runner
end WebScript
