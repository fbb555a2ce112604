import WebScript.Proofs.Run.Alike
import WebScript.Proofs.Run.JumpDepth
import WebScript.Proofs.Run.Point
import WebScript.Proofs.Script.Inlining

namespace WebScript.Runner

/-- Results that are the same but for the last action: equal where they halt, and otherwise both
well. -/
inductive SameEnd : Except Failure Outcome → Except Failure Outcome → Prop
  | halt {result : Except Failure Outcome} (halts : halts result = true) : SameEnd result result
  | ok {last last' : Outcome} (ok : last.ok = true) (ok' : last'.ok = true) :
      SameEnd (.ok last) (.ok last')

/-- The second of two parts of runs goes like the first, unless that jumps too deep. -/
inductive Agree {σ : Type} : Option (Ended σ Outcome) → Option (Ended σ Outcome) → Prop
  | tooDeep {e : ScriptError} {s : Session σ} {y : Option (Ended σ Outcome)}
      (kind : e.kind = .jumpDepth) : Agree (some (.error (.script e), s)) y
  | endless : Agree none none
  | ended {result result' : Except Failure Outcome} {s s' : Session σ}
      (same : SameEnd result result') (alike : s.Alike s') :
      Agree (some (result, s)) (some (result', s'))

/-- The same for what comes after an action. -/
inductive NextAgree {σ : Type} (r : Runner σ) {script : Script} (i : Inlining script) :
    Next σ → Next σ → Prop
  | tooDeep {e : ScriptError} {s : Session σ} {y : Next σ} (kind : e.kind = .jumpDepth) :
      NextAgree r i (.halt (.error (.script e)) s) y
  | halt {result : Except Failure Outcome} {s s' : Session σ} (halts : halts result = true)
      (alike : s.Alike s') : NextAgree r i (.halt result s) (.halt result s')
  | goOn {last : Outcome} {s s' : Session σ} (alike : s.Alike s') :
      NextAgree r i (.goOn last s) (.goOn last s')
  | call {callee : Target} {s s' : Session σ} (mem : callee ∈ script.targets)
      (alike : s.Alike s') : NextAgree r i (.call callee s) (.call (i.replace callee) s')

variable {σ : Type} {r r' : Runner σ} {script : Script} {i : Inlining script}
  {x y : Option (Ended σ Outcome)} {t t' callee : Target} {action : Action} {actions : List Action}
  {last last' : Outcome} {s s' : Session σ}

theorem Agree.andThen {f g : Outcome → Run σ Outcome} (h : Agree x y)
    (hfg : ∀ last s last' s', x = some (.ok last, s) → y = some (.ok last', s') →
      last.ok = true → last'.ok = true → s.Alike s' → Agree (f last s) (g last' s')) :
    Agree (x.bind (andThen f)) (y.bind (andThen g)) := by
  cases h with
  | tooDeep kind => exact .tooDeep kind
  | endless => exact .endless
  | ended same alike =>
    rw [Option.bind_some, Option.bind_some]
    cases same with
    | halt halts =>
      rw [andThen_of_halts halts, andThen_of_halts halts]
      exact .ended (.halt halts) alike
    | ok ok ok' =>
      rw [andThen_of_ok ok, andThen_of_ok ok']
      exact hfg _ _ _ _ rfl rfl ok ok' alike

theorem Agree.left_left (h : Agree x y) (callee : Target) : Agree (x.map (left callee)) y := by
  cases h with
  | tooDeep kind => exact .tooDeep kind
  | endless => exact .endless
  | ended same alike => exact .ended same ((Session.Alike.leave _ callee).trans alike)

theorem Agree.left_right (h : Agree x y) (callee : Target) : Agree x (y.map (left callee)) := by
  cases h with
  | tooDeep kind => exact .tooDeep kind
  | endless => exact .endless
  | ended same alike => exact .ended same (alike.trans (Session.Alike.leave _ callee).symm)

/-- Runners of the same kind, ready for a script and for the script with a jump inlined. -/
structure Inlines (r r' : Runner σ) (i : Inlining script) : Prop where
  accessor : r'.accessor = r.accessor
  limit : r'.maxJumpDepth = r.maxJumpDepth
  other : ∀ t ∈ script.targets, t ≠ i.target → ∃ actions,
    r.actionsOf t = .ok actions ∧ r'.actionsOf t = .ok actions
  target : ∃ before after inner, r.actionsOf i.target = .ok (before ++ .jump i.jump :: after) ∧
    r.actionsOf i.callee = .ok inner ∧ r'.actionsOf i.inlined = .ok (before ++ (inner ++ after))

/-- Actions go on in the one script as in the other, from states that are alike and not deeper in
the other. -/
def Agrees (r r' : Runner σ) (i : Inlining script) (actions : List Action) (s : Session σ) : Prop :=
  ∀ ⦃t t' last last' s'⦄, s.Alike s' → s'.depth ≤ s.depth → last.ok = true → last'.ok = true →
    Agree (r.inTurn script t actions last s) (r'.inTurn i.result t' actions last' s')

theorem next_agree (h : Inlines r r' i) {result : Except Failure Outcome} (alike : s.Alike s')
    (depth : s'.depth ≤ s.depth) :
    NextAgree r i (r.next script t (result, s)) (r'.next i.result t' (result, s')) := by
  rcases result with f | ⟨⟩ | m | name
  · exact .halt rfl alike
  · exact .goOn alike
  · exact .halt rfl alike
  · by_cases unnamed : name = ""
    · rw [next, next, if_pos unnamed, if_pos unnamed]
      exact .goOn alike
    · rw [next, next, if_neg unnamed, if_neg unnamed, destination, destination, i.result_find?]
      cases found : script.find? name with
      | none => exact .halt rfl alike
      | some callee =>
        by_cases deep : r.maxJumpDepth ≤ s.depth
        · simp only [deep, if_true]
          exact .tooDeep rfl
        · have shallow : ¬ r'.maxJumpDepth ≤ s'.depth := by
            rw [h.limit]
            omega
          simp only [deep, shallow, if_false, Option.map_some]
          exact .call (Script.find?_mem found) alike

theorem step_agree (h : Inlines r r' i) (t t' : Target) (action : Action) (alike : s.Alike s')
    (depth : s'.depth ≤ s.depth) :
    Option.Rel (NextAgree r i) (r.step script t action s) (r'.step i.result t' action s') := by
  have hperform := perform_alike (a := r.accessor) alike action
  rw [step, step, h.accessor]
  cases hs : perform r.accessor action s <;> cases hs' : perform r.accessor action s' <;>
    rw [hs, hs'] at hperform <;> cases hperform
  · exact .none
  · next hxy =>
    obtain @⟨result, u, v, huv⟩ := hxy
    have hu : u.depth = s.depth := (perform_onward hs).depth
    have hv : v.depth = s'.depth := (perform_onward hs').depth
    exact .some (next_agree h huv (by rw [hu, hv]; exact depth))

/-- A jump goes on like the actions of its target in its place. -/
theorem jump_agree {inner after : List Action} (named : i.jump ≠ "")
    (ready : r.actionsOf i.callee = .ok inner)
    (deeper : ∀ actions s₁, s.depth ≤ s₁.depth → Agrees r r' i actions s₁) (alike : s.Alike s')
    (depth : s'.depth ≤ s.depth) (ok' : last'.ok = true) :
    Agree (r.inTurn script t (.jump i.jump :: after) last s)
      (r'.inTurn i.result t' (inner ++ after) last' s') := by
  have jumps : Action.Jumps s (.jump i.jump) i.jump :=
    .jump (Template.resolve?_of_no_opener i.literal)
  by_cases deep : r.maxJumpDepth ≤ s.depth
  · rw [inTurn_halt (step_jump_tooDeep jumps named i.found deep)]
    exact .tooDeep rfl
  · rw [inTurn_call_map (step_jump_call jumps named i.found (Int.not_le.1 deep)),
      inTurn_append ok']
    -- the jump takes up one depth for as long as its target runs, the actions in its place none
    have entered : Session.Alike ((s.note (.performed (.jump i.jump))).enter i.callee) s' :=
      ((Session.Alike.enter _ _).trans (.performed _ _)).trans alike
    have body : Agree
        (r.runTarget script i.callee ((s.note (.performed (.jump i.jump))).enter i.callee))
        (r'.inTurn i.result t' inner last' s') := by
      rw [runTarget_of_ok ready]
      exact deeper inner _ (Nat.le_succ _) entered (Nat.le_succ_of_le depth) rfl ok'
    apply Agree.andThen (body.left_left i.callee)
    intro last₁ s₁ last₁' s₁' hs₁ hs₁' ok₁ ok₁' alike₁
    have hd : s₁.depth = s.depth := (returned_depth hs₁).trans (Session.note_depth _ _)
    have hd' : s₁'.depth = s'.depth := (runs_of_inTurn hs₁').2
    exact deeper after s₁ (Nat.le_of_eq hd.symm) alike₁ (by rw [hd, hd']; exact depth) ok₁ ok₁'

/-- A target goes on like the one in its place, where actions do that are at least as deep. -/
theorem runTarget_agree (h : Inlines r r' i) (named : i.jump ≠ "") (mem : t ∈ script.targets)
    (deeper : ∀ actions s₁, s.depth ≤ s₁.depth → Agrees r r' i actions s₁) (alike : s.Alike s')
    (depth : s'.depth ≤ s.depth) :
    Agree (r.runTarget script t s) (r'.runTarget i.result (i.replace t) s') := by
  by_cases ht : t = i.target
  · obtain ⟨before, after, inner, ready, callee_ready, ready'⟩ := h.target
    rw [ht, i.replace_target, runTarget_of_ok ready, runTarget_of_ok ready', inTurn_append rfl,
      inTurn_append rfl]
    apply Agree.andThen (deeper before s (Nat.le_refl _) alike depth rfl rfl)
    intro last₁ s₁ last₁' s₁' hs₁ hs₁' ok₁ ok₁' alike₁
    have hd : s₁.depth = s.depth := (runs_of_inTurn hs₁).2
    have hd' : s₁'.depth = s'.depth := (runs_of_inTurn hs₁').2
    rw [← hd] at deeper
    exact jump_agree named callee_ready deeper alike₁ (by rw [hd, hd']; exact depth) ok₁'
  · obtain ⟨actions, ready, ready'⟩ := h.other t mem ht
    rw [i.replace_other ht, runTarget_of_ok ready, runTarget_of_ok ready']
    exact deeper actions s (Nat.le_refl _) alike depth rfl rfl

theorem inTurn_agrees (h : Inlines r r' i) (named : i.jump ≠ "") (actions : List Action)
    (s : Session σ) : Agrees r r' i actions s := by
  induction actions, s using depth_induction r.maxJumpDepth with
  | nil s =>
    intro t t' last last' s' alike _ ok ok'
    rw [inTurn_nil, inTurn_nil]
    exact .ended (.ok ok ok') alike
  | cons action rest s ihrest ihcall =>
    intro t t' last last' s' alike depth ok ok'
    have hstep := step_agree h t t' action alike depth
    cases hs : r.step script t action s <;> cases hs' : r'.step i.result t' action s' <;>
      rw [hs, hs'] at hstep <;> cases hstep
    · rw [inTurn_none hs, inTurn_none hs']
      exact .endless
    · next hnext =>
      cases hnext with
      | tooDeep kind =>
        rw [inTurn_halt hs]
        exact .tooDeep kind
      | halt halts alike₁ =>
        rw [inTurn_halt hs, inTurn_halt hs']
        exact .ended (.halt halts) alike₁
      | @goOn last₁ s₁ s₁' alike₁ =>
        have hd : s₁.depth = s.depth := (perform_onward (step_goOn hs).1).depth
        have hd' : s₁'.depth = s'.depth := (perform_onward (step_goOn hs').1).depth
        have ok₁ := step_goOn_ok hs
        rw [inTurn_goOn hs, inTurn_goOn hs']
        exact ihrest s₁ hd alike₁ (by rw [hd, hd']; exact depth) ok₁ ok₁
      | @call callee s₁ s₁' mem alike₁ =>
        obtain ⟨hd, hlt⟩ := step_depth hs
        obtain ⟨hd', _⟩ := step_depth hs'
        have entered : (s₁.enter callee).Alike (s₁'.enter (i.replace callee)) :=
          ((Session.Alike.enter _ _).trans alike₁).trans (Session.Alike.enter _ _).symm
        have body := runTarget_agree h named mem
          (fun actions s₂ hs₂ => ihcall actions s₂ hlt (by simp [hd] at hs₂; omega)) entered
          (by simp [hd, hd', depth])
        rw [inTurn_call_map hs, inTurn_call_map hs']
        apply Agree.andThen ((body.left_left callee).left_right (i.replace callee))
        intro last₂ s₂ last₂' s₂' hs₂ hs₂' ok₂ ok₂' alike₂
        have hd₂ : s₂.depth = s.depth := (returned_depth hs₂).trans hd
        have hd₂' : s₂'.depth = s'.depth := (returned_depth hs₂').trans hd'
        exact ihrest s₂ hd₂ alike₂ (by rw [hd₂, hd₂']; exact depth) ok₂ ok₂'

theorem entry_result (i : Inlining script) (target : Option String) :
    entry i.result target = (entry script target).map i.replace := by
  rw [entry, entry]
  have hdefault : i.result.defaultTarget = script.defaultTarget := rfl
  rw [hdefault]
  cases (filled? target).or (filled? script.defaultTarget) with
  | none => rfl
  | some name =>
    simp only [i.result_find?]
    cases script.find? name <;> rfl

theorem prepare_result (i : Inlining script) (new : r.ready = []) (names : script.NamesDiffer)
    (ok : (r.prepare script.targets).1 = .ok ()) : (r.prepare i.result.targets).1 = .ok () := by
  apply prepare_of_actions
  intro t ht
  refine i.replace_actions (fun u hu => ?_) ht
  obtain ⟨actions, hactions, _⟩ := actionsOf_prepared new names ok hu
  exact ⟨actions, hactions⟩

theorem inlines_prepared (i : Inlining script) (new : r.ready = []) (names : script.NamesDiffer)
    (ok : (r.prepare script.targets).1 = .ok ()) :
    Inlines (r.prepared script) (r.prepared i.result) i := by
  have ready {t : Target} (ht : t ∈ script.targets) := actionsOf_prepared new names ok ht
  have ready' {t : Target} (ht : t ∈ script.targets) :=
    actionsOf_prepared new (i.result_namesDiffer names) (prepare_result i new names ok)
      (List.mem_map_of_mem (f := i.replace) ht)
  refine ⟨?_, ?_, fun t ht hne => ?_, ?_⟩
  · rw [prepared_accessor, prepared_accessor]
  · rw [prepared_maxJumpDepth, prepared_maxJumpDepth]
  · obtain ⟨actions, own, h⟩ := ready ht
    obtain ⟨actions', own', h'⟩ := ready' ht
    rw [i.replace_other hne] at own' h'
    rw [own] at own'
    cases own'
    exact ⟨actions, h, h'⟩
  · obtain ⟨actions, own, h⟩ := ready i.mem
    obtain ⟨inner, callee_own, hcallee⟩ := ready (Script.find?_mem i.found)
    obtain ⟨actions', own', h'⟩ := ready' i.mem
    obtain ⟨before, after, rfl, hinlined⟩ := i.inlined_actions own callee_own
    rw [i.replace_target] at own' h'
    rw [hinlined] at own'
    cases own'
    exact ⟨before, after, inner, h, hcallee, h'⟩

/-- What a run shows: the requests it has sent, in order, and its error or whether it has ended
well, with its message and its outputs. -/
def Finished.observed (fin : Finished σ) :
    List Request × Except Failure (Bool × Option String × NameMap) :=
  (fin.session.requests, fin.result.map fun report =>
    (report.outcome.ok, report.outcome.message?, report.outputs))

theorem finish_observed {result result' : Except Failure Outcome} (same : SameEnd result result')
    (alike : s.Alike s') :
    (r.finish (result, s)).observed = (r'.finish (result', s')).observed := by
  cases same with
  | halt =>
    cases result <;> simp [finish, Finished.observed, Except.map, alike.requests, alike.outputs]
  | @ok last last' ok ok' =>
    have message {last : Outcome} (ok : last.ok = true) : last.message? = none := by
      cases last with
      | failed m => cases ok
      | _ => rfl
    simp [finish, Finished.observed, Except.map, alike.requests, alike.outputs, ok, ok', message]

/-- A run of a script with a jump inlined shows what the run with the jump does, if that has no jump
too deep. -/
theorem run_inline (a : Accessor σ) (maxJumpDepth : Int) (script : Script)
    (names : script.NamesDiffer)
    (ready : ((new a maxJumpDepth).prepare script.targets).1 = .ok ()) (i : Inlining script)
    (named : i.jump ≠ "") (inputs : Dict) (target : Option String) (remote : σ)
    (shallow : ¬(new a maxJumpDepth).EndsTooDeep script inputs target remote) :
    ((new a maxJumpDepth).run i.result inputs target remote).map Finished.observed =
      ((new a maxJumpDepth).run script inputs target remote).map Finished.observed := by
  have hentry := entry_result i target
  cases he : entry script target with
  | error f =>
    rw [he] at hentry
    rw [run_of_entry_error he, run_of_entry_error hentry]
  | ok t =>
    rw [he] at hentry
    have h := inlines_prepared (r := new a maxJumpDepth) i rfl names ready
    have agree := runTarget_agree h named (entry_mem he)
      (fun actions s _ => inTurn_agrees h named actions s)
      (Session.Alike.refl (start inputs remote)) (Nat.le_refl _)
    rw [EndsTooDeep, run_of_prepare_ok he ready] at shallow
    rw [run_of_prepare_ok he ready]
    rw [run_of_prepare_ok hentry (prepare_result i rfl names ready)]
    generalize ((new a maxJumpDepth).prepared script).runTarget script t (start inputs remote) = x,
      ((new a maxJumpDepth).prepared i.result).runTarget i.result (i.replace t)
        (start inputs remote) = y at agree shallow ⊢
    cases agree with
    | tooDeep kind => exact absurd ⟨_, _, rfl, rfl, kind⟩ shallow
    | endless => rfl
    | ended same alike => exact congrArg some (finish_observed same alike).symm

def errandMain : Target := ⟨"Main", [.jump "side"]⟩

def errandSide : Target := ⟨"Side", [.fetch "http://shop/" {}]⟩

def errand : Script :=
  { targets := [errandMain, errandSide], defaultTarget := some "Main" }

/-- The jump of the first target, to the second. -/
def errandJump : Inlining errand where
  target := errandMain
  before := []
  jump := "side"
  after := []
  callee := errandSide
  mem := List.mem_cons_self
  steps := rfl
  literal := by decide
  found := by decide

theorem errand_run : ∃ s : Session Unit, (blank 1).run errand [] none () =
    some (((blank 1).prepared errand).finish (.ok .done, s)) := by
  have begins : (blank 1).Begins errand [] none () ⟨[], errandMain, [.jump "side"], start [] ()⟩ :=
    ⟨by rfl, rfl, rfl, rfl, rfl⟩
  have jumps : Action.Jumps (start [] ()) (.jump "side") "side" :=
    .jump (Template.resolve?_of_no_opener (by decide))
  have found : errand.find? "side" = some errandSide := by decide
  have called := step_jump_call (r := (blank 1).prepared errand) (t := errandMain) jumps (by decide)
    found (by decide)
  have ready : ((blank 1).prepared errand).actionsOf errandSide =
    .ok [.fetch "http://shop/" {} ⟨[], [], []⟩] := rfl
  obtain ⟨s, fetched, _, _⟩ := blank_fetch 1 errand errandSide
    (((start [] ()).note (.performed (.jump "side"))).enter errandSide)
  refine ⟨s.leave errandSide, ?_⟩
  rw [begins.run, inTurn_call called, runTarget_of_ok ready, inTurn_goOn fetched,
    inTurn_nil, Option.bind_some, left, andThen_of_ok rfl, inTurn_nil]
  rfl

theorem errand_inline : ((blank 1).run errandJump.result [] none ()).map Finished.observed =
    ((blank 1).run errand [] none ()).map Finished.observed := by
  have names : errand.NamesDiffer := by
    unfold Script.NamesDiffer
    decide
  have shallow : ¬(blank 1).EndsTooDeep errand [] none () := by
    rintro ⟨fin, e, hrun, hres, _⟩
    obtain ⟨s, hs⟩ := errand_run
    rw [hs] at hrun
    cases hrun
    cases hres
  exact run_inline _ 1 errand names rfl errandJump (by decide) [] none () shallow

/-- The jump to a target without a name. -/
def silentJump : Inlining silent where
  target := silentMain
  before := []
  jump := ""
  after := []
  callee := nameless
  mem := List.mem_cons_self
  steps := rfl
  literal := by decide
  found := by decide

/-- A jump without a name is passed over, so that the steps in its place do more than it does. -/
theorem silent_inline_differs : silent.NamesDiffer ∧
    ((blank 1).prepare silent.targets).1 = .ok () ∧ ¬(blank 1).EndsTooDeep silent [] none () ∧
    ((blank 1).run silentJump.result [] none ()).map Finished.observed ≠
      ((blank 1).run silent [] none ()).map Finished.observed := by
  refine ⟨by unfold Script.NamesDiffer; decide, rfl, ?_, ?_⟩
  · rintro ⟨fin, e, run, result, _⟩
    rw [silent_run] at run
    cases run
    cases result
  · have begins : (blank 1).Begins silentJump.result [] none ()
        ⟨[], silentJump.inlined, [.fetch "http://shop/" {} ⟨[], [], []⟩], start [] ()⟩ :=
      ⟨by rfl, rfl, rfl, rfl, rfl⟩
    obtain ⟨s, fetched, _, requests⟩ :=
      blank_fetch 1 silentJump.result silentJump.inlined (start [] ())
    rw [begins.run, inTurn_goOn fetched, inTurn_nil, silent_run]
    intro same
    have sent := congrArg Prod.fst (Option.some.inj same)
    cases requests.symm.trans sent

end WebScript.Runner
