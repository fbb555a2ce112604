import WebScript.Run.Perform

namespace WebScript

variable {σ : Type}

/-- A target that has been made ready, with its actions. -/
structure Ready where
  target : Target
  actions : List Action
  made : target.actions = .ok actions

def Ready.ofTarget (t : Target) : Except Failure Ready :=
  match made : t.actions with
  | .ok actions => .ok ⟨t, actions, made⟩
  | .error f => .error f

/-- What runs scripts: the accessor, how deep jumps may nest, and the targets that have been made
ready before. -/
structure Runner (σ : Type) where
  accessor : Accessor σ
  maxJumpDepth : Int := 64
  ready : List Ready := []

namespace Runner

def known? (t : Target) (r : Runner σ) : Option Ready :=
  r.ready.find? fun known => known.target.same t

/-- The actions of a target, made ready now unless they have been before. -/
def actionsOf (t : Target) (r : Runner σ) : Except Failure (List Action) :=
  match r.known? t with
  | some known => .ok known.actions
  | none => t.actions

/-- Makes a target ready, unless it has been made so before. -/
def prepareTarget (t : Target) (r : Runner σ) : Except Failure Unit × Runner σ :=
  match r.known? t with
  | some _ => (.ok (), r)
  | none => match Ready.ofTarget t with
    | .ok known => (.ok (), { r with ready := known :: r.ready })
    | .error f => (.error f, r)

/-- Makes targets ready up to the first with a fault. -/
def prepare : List Target → Runner σ → Except Failure Unit × Runner σ
  | [], r => (.ok (), r)
  | t :: rest, r => match r.prepareTarget t with
    | (.ok (), r) => prepare rest r
    | (.error f, r) => (.error f, r)

/-- The target that a jump leads to: one that there is, and no deeper than allowed. -/
def destination (r : Runner σ) (script : Script) (caller : Target) (name : String) (depth : Nat) :
    Except ScriptError Target :=
  match script.find? name with
  | none => .error (.jumpTargetNotFound name)
  | some callee =>
    if r.maxJumpDepth ≤ depth then .error (.jumpTooDeep caller.name callee.name r.maxJumpDepth)
    else .ok callee

/-- What comes after an action: the target halts, goes on, or waits for the target of a jump. -/
inductive Next (σ : Type) where
  | halt (result : Except Failure Outcome) (s : Session σ)
  | goOn (last : Outcome) (s : Session σ)
  | call (callee : Target) (s : Session σ)

/-- What comes after an action that has ended. A jump without a name is passed over. -/
def next (r : Runner σ) (script : Script) (caller : Target) : Ended σ Outcome → Next σ
  | (.error f, s) => .halt (.error f) s
  | (.ok (.failed m), s) => .halt (.ok (.failed m)) s
  | (.ok .done, s) => .goOn .done s
  | (.ok (.jump name), s) =>
    if name = "" then .goOn (.jump name) s
    else match r.destination script caller name s.depth with
      | .error e => .halt (.error (.script e)) s
      | .ok callee => .call callee s

def step (r : Runner σ) (script : Script) (caller : Target) (action : Action) (s : Session σ) :
    Option (Next σ) :=
  (perform r.accessor action s).map (r.next script caller)

mutual

def runTarget (r : Runner σ) (script : Script) (t : Target) (s : Session σ) :
    Option (Ended σ Outcome) :=
  match r.actionsOf t with
  | .error f => some (.error f, s)
  | .ok actions => some .done >>= inTurn r script t actions (s := s)
partial_fixpoint

/-- Performs actions of a target in turn, up to the first that fails; a jump runs its target before
the next action. -/
def inTurn (r : Runner σ) (script : Script) (t : Target) (actions : List Action) (last : Outcome)
    (s : Session σ) : Option (Ended σ Outcome) :=
  match actions with
  | [] => some (.ok last, s)
  | action :: rest =>
    match r.step script t action s with
    | none => none
    | some (.halt result s) => some (result, s)
    | some (.goOn last s) => some last >>= inTurn r script t rest (s := s)
    | some (.call callee s) => do
      match ← some callee >>= runTarget r script (s := s.enter callee) with
      | (.error f, s) => some (.error f, s.leave callee)
      | (.ok (.failed m), s) => some (.ok (.failed m), s.leave callee)
      | (.ok last, s) => some last >>= inTurn r script t rest (s := s.leave callee)
partial_fixpoint

end

section Equations

variable {r : Runner σ} {script : Script} {t callee : Target} {action : Action}
  {actions rest : List Action} {last last' : Outcome} {result : Except Failure Outcome}
  {s s' : Session σ}

theorem runTarget_of_ok (h : r.actionsOf t = .ok actions) :
    r.runTarget script t s = r.inTurn script t actions .done s := by
  rw [runTarget, h]
  rfl

theorem runTarget_of_error {f : Failure} (h : r.actionsOf t = .error f) :
    r.runTarget script t s = some (.error f, s) := by
  rw [runTarget, h]

/-- Nothing of a target is performed after such a result. -/
def halts : Except Failure Outcome → Bool
  | .error _ => true
  | .ok outcome => !outcome.ok

/-- Goes on after a part of a run that has ended, unless it halts. -/
def andThen (rest : Outcome → Run σ Outcome) : Ended σ Outcome → Option (Ended σ Outcome)
  | (.error f, s) => some (.error f, s)
  | (.ok outcome, s) => if outcome.ok then rest outcome s else some (.ok outcome, s)

theorem andThen_of_halts {rest : Outcome → Run σ Outcome} (h : halts result = true) :
    andThen rest (result, s) = some (result, s) := by
  cases result with
  | error f => rfl
  | ok outcome => rw [halts, Bool.not_eq_true'] at h; rw [andThen, h]; rfl

theorem andThen_of_ok {rest : Outcome → Run σ Outcome} (h : last.ok = true) :
    andThen rest (.ok last, s) = rest last s := by
  rw [andThen, if_pos h]

/-- A jump that has come back from its target. -/
def left (callee : Target) (e : Ended σ Outcome) : Ended σ Outcome :=
  (e.1, e.2.leave callee)

theorem inTurn_nil : r.inTurn script t [] last s = some (.ok last, s) := by
  rw [inTurn]

theorem inTurn_none (h : r.step script t action s = none) :
    r.inTurn script t (action :: rest) last s = none := by
  rw [inTurn, h]

theorem inTurn_halt (h : r.step script t action s = some (.halt result s')) :
    r.inTurn script t (action :: rest) last s = some (result, s') := by
  rw [inTurn, h]

theorem inTurn_goOn (h : r.step script t action s = some (.goOn last' s')) :
    r.inTurn script t (action :: rest) last s = r.inTurn script t rest last' s' := by
  rw [inTurn, h]
  rfl

theorem inTurn_call (h : r.step script t action s = some (.call callee s')) :
    r.inTurn script t (action :: rest) last s =
      (r.runTarget script callee (s'.enter callee)).bind fun e =>
        andThen (r.inTurn script t rest) (left callee e) := by
  rw [inTurn, h]
  refine congrArg (Option.bind _) (funext fun e => ?_)
  obtain ⟨result, s⟩ := e
  cases result with
  | error f => rfl
  | ok outcome => cases outcome <;> rfl

end Equations

/-- The target that a run starts with: the one asked for, or the script's own. -/
def entry (script : Script) (target : Option String) : Except Failure Target :=
  match (filled? target).or (filled? script.defaultTarget) with
  | none => .error (.script .missingTarget)
  | some name => match script.find? name with
    | none => .error (.script (.entryNotFound name))
    | some t => .ok t

def start (inputs : Dict) (remote : σ) : Session σ :=
  { inputs := .ofPairs inputs, remote }

/-- What a run comes to: how its last action ended and the outputs it has gathered. -/
structure Report where
  outcome : Outcome
  outputs : NameMap
  deriving DecidableEq, Repr

/-- A run that is over: its result, its final state, and the runner for further runs. -/
structure Finished (σ : Type) where
  result : Except Failure Report
  session : Session σ
  runner : Runner σ

/-- A run whose first target has ended. -/
def finish (r : Runner σ) : Ended σ Outcome → Finished σ
  | (.error f, s) => ⟨.error f, s, r⟩
  | (.ok outcome, s) => ⟨.ok ⟨outcome, s.outputs⟩, s, r⟩

/-- Runs a script. All of its targets are made ready before the first request goes out. -/
def run (r : Runner σ) (script : Script) (inputs : Dict) (target : Option String) (remote : σ) :
    Option (Finished σ) :=
  match entry script target with
  | .error f => some ⟨.error f, start inputs remote, r⟩
  | .ok t => match r.prepare script.targets with
    | (.error f, r) => some ⟨.error f, start inputs remote, r⟩
    | (.ok (), r) => (r.runTarget script t (start inputs remote)).map r.finish

end Runner
end WebScript
