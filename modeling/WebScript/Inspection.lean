import WebScript.Run.Action
import WebScript.Script.Jumps
import WebScript.Script.Load

namespace WebScript

inductive Severity where
  | error
  | warning
  | info
  deriving DecidableEq, Repr

def Severity.name : Severity → String
  | error => "error"
  | warning => "warning"
  | info => "info"

/-- The place of a severity in reports, the gravest first. -/
def Severity.rank : Severity → Nat
  | error => 0
  | warning => 1
  | info => 2

/-- A finding about a part of a script. -/
structure Issue where
  severity : Severity
  field : String
  message : String
  deriving DecidableEq, Repr

def ScriptError.report (e : ScriptError) : String :=
  s!"{e.kind.name}: {e.message}"

/-- Findings about where a run starts by default. -/
def Script.entryIssues (s : Script) : List Issue :=
  match filled? s.defaultTarget with
  | none =>
    [⟨.warning, "default_target",
      "No default_target; runs must name an entry target with --target"⟩]
  | some name =>
    if (s.find? name).isSome then []
    else [⟨.error, "default_target", s!"default_target '{name}' is not a declared target"⟩]

/-- Findings about jumps that lead nowhere. -/
def Script.jumpIssues (s : Script) : List Issue :=
  s.unresolvedJumps.map fun (target, missing) =>
    ⟨.error, s!"targets.{target}", s!"Jump to unknown target '{missing}'"⟩

/-- The finding about a step that cannot be made ready. -/
def stepIssues (field : String) (step : Step) : Except Failure (List Issue) :=
  match Action.ofStep step with
  | .ok _ => .ok []
  | .error (.script e) => .ok [⟨.error, field, e.report⟩]
  | .error (.breakdown b) => .error (.breakdown b)

/-- Findings about the steps of a target. -/
def Target.issues (t : Target) : Except Failure (List Issue) := do
  let found ← t.steps.zipIdx.mapM fun (step, i) =>
    stepIssues s!"targets.{t.name}.actions[{i}]" step
  return found.flatten ++
    if t.steps.isEmpty then [⟨.info, s!"targets.{t.name}", "Target has no actions"⟩] else []

def Script.issues (s : Script) : Except Failure (List Issue) := do
  let targets ← s.targets.mapM Target.issues
  return s.entryIssues ++ s.jumpIssues ++ targets.flatten

/-- Findings about the script in a file; that there is none is one as well. -/
def inspect (path : String) (files : Files) : Except Failure (List Issue) :=
  match Script.ofFile path files with
  | .ok s => s.issues
  | .error (.script e) => .ok [⟨.error, "script", e.report⟩]
  | .error (.breakdown b) => .error (.breakdown b)

end WebScript
