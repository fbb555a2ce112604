import WebScript.Proofs.Run.Likeness
import WebScript.Proofs.Run.Point

namespace WebScript.Runner

variable {σ : Type} {P : Dict → Dict → Prop}

/-- Runners of the same kind that perform actions that are alike for the targets of two scripts,
which are found by the same names. -/
structure InStep (P : Dict → Dict → Prop) (r r' : Runner σ) (script script' : Script) : Prop where
  accessor : r'.accessor = r.accessor
  overlooks : r.accessor.Overlooks P
  limit : r'.maxJumpDepth = r.maxJumpDepth
  found : ∀ name, script'.find? name = script.find? name
  actions : ∀ t ∈ script.targets, ∃ actions actions', r.actionsOf t = .ok actions ∧
    r'.actionsOf t = .ok actions' ∧ List.Forall₂ (Action.Like P) actions actions'

inductive NextLike (P : Dict → Dict → Prop) (script : Script) : Next σ → Next σ → Prop
  | halt {result s s'} (like : Session.Like P s s') :
      NextLike P script (.halt result s) (.halt result s')
  | goOn {last s s'} (like : Session.Like P s s') : NextLike P script (.goOn last s) (.goOn last s')
  | call {callee s s'} (mem : callee ∈ script.targets) (like : Session.Like P s s') :
      NextLike P script (.call callee s) (.call callee s')

/-- Runs that have ended in the same way, after requests that are alike. -/
structure Finished.Like (P : Dict → Dict → Prop) (fin fin' : Finished σ) : Prop where
  requests : List.Forall₂ (Request.Like P) fin.session.requests fin'.session.requests
  result : fin'.result = fin.result
  remote : fin'.session.remote = fin.session.remote

variable {r r' : Runner σ} {script script' : Script} {t : Target} {action action' : Action}
  {actions actions' : List Action} {last : Outcome} {s s' : Session σ}
  {x y : Option (Ended σ Outcome)}

theorem next_like (h : InStep P r r' script script') (like : s.Like P s')
    (depth : s'.depth = s.depth) (result : Except Failure Outcome) :
    NextLike P script (r.next script t (result, s)) (r'.next script' t (result, s')) := by
  rcases result with f | ⟨⟩ | m | name
  · exact .halt like
  · exact .goOn like
  · exact .halt like
  · by_cases unnamed : name = ""
    · rw [next, next, if_pos unnamed, if_pos unnamed]
      exact .goOn like
    · have same : r'.destination script' t name s'.depth = r.destination script t name s.depth := by
        rw [destination, destination, h.found, h.limit, depth]
      rw [next, next, if_neg unnamed, if_neg unnamed, same]
      cases leads : r.destination script t name s.depth with
      | error e => exact .halt like
      | ok callee =>
        have mem : callee ∈ script.targets := Script.find?_mem (destination_eq_ok.1 leads).1
        exact .call mem like

theorem step_like (h : InStep P r r' script script') (like : s.Like P s')
    (depth : s'.depth = s.depth) (same : action.Like P action') :
    Option.Rel (NextLike P script) (r.step script t action s) (r'.step script' t action' s') := by
  have performed := perform_like h.overlooks like same
  rw [step, step, h.accessor]
  cases hs : perform r.accessor action s <;> cases hs' : perform r.accessor action' s' <;>
    rw [hs, hs'] at performed <;> cases performed
  · exact .none
  · next ended =>
    obtain @⟨result, u, v, huv⟩ := ended
    have hu : u.depth = s.depth := (perform_onward hs).depth
    have hv : v.depth = s'.depth := (perform_onward hs').depth
    have level : v.depth = u.depth := by rw [hu, hv, depth]
    exact .some (next_like h huv level result)

theorem left_like (h : Option.Rel (Ended.Like P) x y) (callee : Target) :
    Option.Rel (Ended.Like P) (x.map (left callee)) (y.map (left callee)) := by
  cases h with
  | none => exact .none
  | some like =>
    obtain ⟨like⟩ := like
    exact .some (.intro (like.leave callee))

theorem andThen_like {f g : Outcome → Run σ Outcome} (h : Option.Rel (Ended.Like P) x y)
    (hfg : ∀ last s s', x = some (.ok last, s) → y = some (.ok last, s') → s.Like P s' →
      Option.Rel (Ended.Like P) (f last s) (g last s')) :
    Option.Rel (Ended.Like P) (x.bind (andThen f)) (y.bind (andThen g)) := by
  cases h with
  | none => exact .none
  | some like =>
    obtain @⟨result, s, s', like⟩ := like
    rw [Option.bind_some, Option.bind_some]
    cases stops : halts result with
    | true =>
      rw [andThen_of_halts stops, andThen_of_halts stops]
      exact .some (.intro like)
    | false =>
      obtain ⟨last, rfl, ok⟩ := ok_of_halts_false stops
      rw [andThen_of_ok ok, andThen_of_ok ok]
      exact hfg last s s' rfl rfl like

/-- Actions that are alike come to the same end in turn, from states that are alike. -/
theorem inTurn_like (h : InStep P r r' script script')
    (same : List.Forall₂ (Action.Like P) actions actions') (like : s.Like P s')
    (depth : s'.depth = s.depth) :
    Option.Rel (Ended.Like P) (r.inTurn script t actions last s)
      (r'.inTurn script' t actions' last s') := by
  induction actions, s using depth_induction r.maxJumpDepth generalizing t actions' last s' with
  | nil s =>
    cases same
    rw [inTurn_nil, inTurn_nil]
    exact .some (.intro like)
  | cons action rest s ihrest ihcall =>
    obtain ⟨action', rest', one, others, rfl⟩ := List.forall₂_cons_left_iff.1 same
    have stepped := step_like (t := t) h like depth one
    cases hs : r.step script t action s <;> cases hs' : r'.step script' t action' s' <;>
      rw [hs, hs'] at stepped <;> cases stepped
    · rw [inTurn_none hs, inTurn_none hs']
      exact .none
    · next onward =>
      cases onward with
      | halt like₁ =>
        rw [inTurn_halt hs, inTurn_halt hs']
        exact .some (.intro like₁)
      | @goOn last₁ s₁ s₁' like₁ =>
        have hd : s₁.depth = s.depth := (perform_onward (step_goOn hs).1).depth
        have hd' : s₁'.depth = s'.depth := (perform_onward (step_goOn hs').1).depth
        rw [inTurn_goOn hs, inTurn_goOn hs']
        exact ihrest s₁ hd others like₁ (by rw [hd, hd', depth])
      | @call callee s₁ s₁' mem like₁ =>
        obtain ⟨hd, shallow⟩ := step_depth hs
        obtain ⟨hd', _⟩ := step_depth hs'
        have body : Option.Rel (Ended.Like P) (r.runTarget script callee (s₁.enter callee))
            (r'.runTarget script' callee (s₁'.enter callee)) := by
          obtain ⟨inner, inner', ready, ready', inside⟩ := h.actions callee mem
          rw [runTarget_of_ok ready, runTarget_of_ok ready']
          have deeper : s.depth < (s₁.enter callee).depth := by
            rw [Session.enter_depth, hd]
            exact Nat.lt_succ_self _
          apply ihcall inner _ shallow deeper inside (like₁.enter callee)
          rw [Session.enter_depth, Session.enter_depth, hd, hd', depth]
        rw [inTurn_call_map hs, inTurn_call_map hs']
        apply andThen_like (left_like body callee)
        intro last₂ s₂ s₂' hs₂ hs₂' like₂
        have hd₂ : s₂.depth = s.depth := (returned_depth hs₂).trans hd
        have hd₂' : s₂'.depth = s'.depth := (returned_depth hs₂').trans hd'
        exact ihrest s₂ hd₂ others like₂ (by rw [hd₂, hd₂', depth])

theorem finish_like {e e' : Ended σ Outcome} (h : Ended.Like P e e') :
    (r.finish e).Like P (r'.finish e') := by
  obtain @⟨result, s, s', like⟩ := h
  cases result with
  | error f => exact ⟨like.requests, rfl, like.remote⟩
  | ok outcome => exact ⟨like.requests, by rw [finish, finish, like.outputs], like.remote⟩

variable {inputs : Dict} {target : Option String} {remote : σ}

/-- Runs come to the same if they start at the same target, are ready alike, and are then in step.
-/
theorem run_like (entries : entry script' target = entry script target)
    (ready : (r'.prepare script'.targets).1 = (r.prepare script.targets).1)
    (h : (r.prepare script.targets).1 = .ok () →
      InStep P (r.prepared script) (r'.prepared script') script script') :
    Option.Rel (Finished.Like P) (r.run script inputs target remote)
      (r'.run script' inputs target remote) := by
  have begun : Session.Like P (start inputs remote) (start inputs remote) :=
    ⟨rfl, rfl, rfl, rfl, .nil⟩
  cases he : entry script target with
  | error f =>
    rw [he] at entries
    rw [run_of_entry_error he, run_of_entry_error entries]
    exact .some ⟨.nil, rfl, rfl⟩
  | ok t =>
    rw [he] at entries
    cases hp : (r.prepare script.targets).1 with
    | error f =>
      rw [hp] at ready
      rw [run_of_prepare_error he hp, run_of_prepare_error entries ready]
      exact .some ⟨.nil, rfl, rfl⟩
    | ok =>
      rw [hp] at ready
      have inStep := h hp
      obtain ⟨actions, actions', own, own', same⟩ := inStep.actions t (entry_mem he)
      have ended : Option.Rel (Ended.Like P)
          ((r.prepared script).inTurn script t actions .done (start inputs remote))
          ((r'.prepared script').inTurn script' t actions' .done (start inputs remote)) :=
        inTurn_like inStep same begun rfl
      rw [run_of_prepare_ok he hp, run_of_prepare_ok entries ready, runTarget_of_ok own,
        runTarget_of_ok own']
      generalize (r.prepared script).inTurn script t actions .done (start inputs remote) = x,
        (r'.prepared script').inTurn script' t actions' .done (start inputs remote) = y at ended ⊢
      cases ended with
      | none => exact .none
      | some like => exact .some (finish_like like)

end WebScript.Runner
