import WebScript.Proofs.Run.JumpDepth

namespace WebScript.Runner

variable {σ : Type} {r : Runner σ} {script : Script} {inputs : Dict} {target : Option String}
  {remote : σ} {p : Point σ} {action : Action} {rest : List Action} {name : String}

/-- The next action of a point is a jump that enters a target with the name it asks for. -/
def Point.Enters (r : Runner σ) (script : Script) (p : Point σ) (name : String) : Prop :=
  ∃ callee actions, callee ∈ script.targets ∧ Text.fold callee.name = Text.fold name ∧
    r.Leads script p
      ⟨p.target :: p.callers, callee, actions,
        (p.session.note (.performed (.jump name))).enter callee⟩

/-- The next action of a point is a jump, and the run goes on with the action after it at once. -/
def Point.PassesOver (r : Runner σ) (script : Script) (p : Point σ) (name : String) : Prop :=
  ∃ action rest, p.actions = action :: rest ∧
    r.step script p.target action p.session =
      some (.goOn (.jump name) (p.session.note (.performed (.jump name))))

theorem Visits.jump_named (h : r.Visits script inputs target remote p)
    (ha : p.actions = action :: rest) (jumps : action.Jumps p.session name) (named : name ≠ "") :
    p.Enters (r.prepared script) script name ∨
      ∃ fin e, r.run script inputs target remote = some fin ∧ fin.result = .error (.script e) ∧
        (e = .jumpTargetNotFound name ∨
          ∃ callee ∈ script.targets,
            e = .jumpTooDeep p.target.name callee.name r.maxJumpDepth) := by
  have hmax : (r.prepared script).maxJumpDepth = r.maxJumpDepth := prepared_maxJumpDepth
  cases found : script.find? name with
  | none =>
    obtain ⟨fin, hrun, hres⟩ :=
      h.run_error (endsWith_of_halt ha (step_jump_notFound jumps named found))
    exact .inr ⟨fin, _, hrun, hres, .inl rfl⟩
  | some callee =>
    have hmem := Script.find?_mem found
    by_cases deep : (r.prepared script).maxJumpDepth ≤ p.session.depth
    · obtain ⟨fin, hrun, hres⟩ :=
        h.run_error (endsWith_of_halt ha (step_jump_tooDeep jumps named found deep))
      rw [hmax] at hres
      exact .inr ⟨fin, _, hrun, hres, .inr ⟨callee, hmem, rfl⟩⟩
    · obtain ⟨actions, ready⟩ := exists_actionsOf_prepared h.prepared hmem
      have called := step_jump_call (t := p.target) jumps named found (Int.not_le.1 deep)
      obtain ⟨callers, t, _, s⟩ := p
      cases ha
      exact .inl ⟨callee, actions, hmem, Script.find?_fold found, .enter called ready⟩

/-- A jump that a run executes is passed over exactly if its template resolves to the empty text. In
every other case it enters a target with the name it asks for, or the run ends because there is none
or because it would lie too deep. -/
theorem jump_passed_over_iff (visited : r.Visits script inputs target remote p)
    (upcoming : p.actions = action :: rest) (jumps : action.Jumps p.session name) :
    (p.PassesOver (r.prepared script) script name ↔ name = "") ∧
    (name ≠ "" →
      p.Enters (r.prepared script) script name ∨
        ∃ fin e, r.run script inputs target remote = some fin ∧ fin.result = .error (.script e) ∧
          (e = .jumpTargetNotFound name ∨
            ∃ callee ∈ script.targets,
              e = .jumpTooDeep p.target.name callee.name r.maxJumpDepth)) := by
  refine ⟨⟨?_, ?_⟩, visited.jump_named upcoming jumps⟩
  · rintro ⟨_, _, _, hs⟩
    rcases (step_goOn hs).2 with h | h <;> cases h
    rfl
  · intro unnamed
    exact ⟨action, rest, upcoming, step_jump_unnamed jumps unnamed⟩

/-- A script that jumps to a target named by an input before it fetches a page. -/
def detourData : Value :=
  .map [(.text "default_target", .text "Main"),
    (.text "targets", .list [.map [(.text "name", .text "Main"),
      (.text "actions", .list [
        .map [(.text "jump", .map [(.text "target", .text "$(next)")])],
        .map [(.text "fetch", .map [(.text "url", .text "http://shop/")])]])]])]

def detourMain : Target := ⟨"Main", [.jump "$(next)", .fetch "http://shop/" {}]⟩

def detour : Script :=
  { targets := [detourMain], defaultTarget := some "Main" }

def detourStart : Point Unit :=
  ⟨[], detourMain, [.jump "$(next)", .fetch "http://shop/" {} ⟨[], [], []⟩], start [] ()⟩

theorem detour_begins : (blank 64).Begins detour [] none () detourStart where
  entry := by rfl
  prepared := rfl
  ready := rfl
  callers := rfl
  session := rfl

theorem detour_jumps : Action.Jumps detourStart.session (.jump "$(next)") "" := by
  apply Action.Jumps.jump
  rw [Template.resolve?, Template.resolveList?_of_some rfl,
    Template.resolveList?_of_none (by decide)]
  rfl

theorem detour_passes_over :
    detourStart.PassesOver ((blank 64).prepared detour) detour "" := by
  have visited : (blank 64).Visits detour [] none () detourStart := ⟨_, detour_begins, .refl⟩
  exact (jump_passed_over_iff visited rfl detour_jumps).1.2 rfl

/-- The run executes the jump, which has no target to enter, and ends well after all. -/
theorem detour_ends_well : Script.ofValue detourData = .ok detour ∧
    (blank 64).Visits detour [] none () detourStart ∧
    Action.Jumps detourStart.session (.jump "$(next)") "" ∧ detour.find? "" = none ∧
    ∃ fin, (blank 64).run detour [] none () = some fin ∧ fin.result = .ok ⟨.done, ∅⟩ ∧
      fin.session.requests = [.fetch "http://shop/" []] := by
  refine ⟨by with_unfolding_all rfl, ⟨_, detour_begins, .refl⟩, detour_jumps, by decide, ?_⟩
  obtain ⟨s, fetched, houtputs, hrequests⟩ :=
    blank_fetch 64 detour detourMain (detourStart.session.note (.performed (.jump "")))
  have ended : ((blank 64).prepared detour).inTurn detour detourStart.target detourStart.actions
      .done detourStart.session = some (.ok .done, s) :=
    (inTurn_goOn (step_jump_unnamed detour_jumps rfl)).trans
      ((inTurn_goOn fetched).trans inTurn_nil)
  rw [detour_begins.run, ended]
  exact ⟨_, rfl, by rw [finish, houtputs]; rfl, hrequests⟩

end WebScript.Runner
