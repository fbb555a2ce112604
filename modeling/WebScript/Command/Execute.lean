import WebScript.Command.Arguments
import WebScript.Config
import WebScript.Display.Json
import WebScript.Display.Lines
import WebScript.Inspection
import WebScript.Run.Runner

namespace WebScript.Command

/-- Why a run is refused, or how it broke off. -/
inductive Refusal where
  | format (name : String)
  | input (pair : String)
  | config (e : ConfigError)
  | script (e : ScriptError)
  deriving DecidableEq, Repr

def Refusal.title : Refusal → String
  | format _ => "Config Error"
  | input _ => "Input Error"
  | config _ => "Config Error"
  | script _ => "Script Error"

def Refusal.message : Refusal → String
  | format name => s!"Invalid output format: {name}\n\nValid formats: text, json"
  | input pair => s!"Invalid input: {pair}\n\nExpected format: KEY=VALUE"
  | config e => e.message
  | script e => e.report

/-- What keeps a command from its result: a refusal, which is reported, or a breakdown. -/
inductive Stop where
  | refused (r : Refusal)
  | broken (b : Breakdown)
  deriving DecidableEq, Repr

def Stop.ofFailure : Failure → Stop
  | .script e => refused (.script e)
  | .breakdown b => broken b

def Stop.ofConfig : ConfigFailure → Stop
  | .config e => refused (.config e)
  | .breakdown b => broken b

/-- The accessor of a run with the ways to release it; an orderly one is preferred to a plain one. A
way to release it is a call together with the wait for whatever the call leaves to be awaited. -/
structure Service (σ : Type) where
  accessor : Accessor σ
  orderlyClose : Option (σ → σ) := none
  close : Option (σ → σ) := none

def Service.release {σ : Type} (service : Service σ) (remote : σ) : σ :=
  match service.orderlyClose.or service.close with
  | some f => f remote
  | none => remote

/-- What a command has printed and the exit code it ends with, unless it has broken down. -/
structure Printed where
  out : List String := []
  err : List String := []
  document : Option Display.Document := none
  exit : Except Breakdown Nat := .ok 0

namespace Printed

def broken (b : Breakdown) (p : Printed) : Printed :=
  { p with exit := .error b }

/-- Adds lines to the report, or breaks off where they cannot be shown. -/
def addReport (lines : Except Breakdown (List String)) (p : Printed) : Printed :=
  match p.exit, lines with
  | .ok _, .ok ls => { p with err := p.err ++ ls }
  | .ok _, .error b => p.broken b
  | .error _, _ => p

def addResults (lines : Except Breakdown (List String)) (p : Printed) : Printed :=
  match p.exit, lines with
  | .ok _, .ok ls => { p with out := p.out ++ ls }
  | .ok _, .error b => p.broken b
  | .error _, _ => p

def ending (code : Nat) (p : Printed) : Printed :=
  match p.exit with
  | .ok _ => { p with exit := .ok code }
  | .error _ => p

end Printed

def Stop.printed [Display.Styling] : Stop → Printed
  | refused r =>
    (({} : Printed).addReport
      (Display.panel r.title ("[red]" ++ Display.escape r.message ++ "[/red]"))).ending 2
  | broken b => ({} : Printed).broken b

/-- The configuration file that is used where none is named. -/
def usualConfig : String := "netinteract.yaml"

/-- The configuration of a run; an accessor that the command names takes the place of its own. -/
def configOf (o : RunOptions) (files : Files) : Except Stop Config := do
  let usual := if (files.read? usualConfig).isSome then some usualConfig else none
  let config ← match o.config.or usual with
    | some path => (Config.ofFile path files).mapError Stop.ofConfig
    | none => .ok { projectDir := "." }
  match o.accessor with
  | none => return config
  | some name =>
    if accessorNames.contains name then return { config with accessor := name }
    else .error (.refused (.config (.unknownAccessor name)))

/-- The name and the value that an input of the command line gives. -/
def inputOf (pair : String) : Except Stop (String × String) :=
  match Text.cutAt? ['='] pair.toList with
  | some (c :: name, value) => .ok (.ofList (c :: name), .ofList value)
  | _ => .error (.refused (.input pair))

/-- The inputs of a run: those of the configuration with those of the command on top. -/
def inputsOf (config : Config) (pairs : List String) : Except Stop Dict := do
  let given ← pairs.mapM inputOf
  return given.foldl (fun d (n, v) => d.put n v) config.inputs

structure Setup where
  config : Config
  inputs : Dict
  script : Script

def Setup.runner {σ : Type} (needed : Setup) (service : Service σ) : Runner σ :=
  { accessor := service.accessor, maxJumpDepth := needed.config.maxJumpDepth }

/-- Everything that a run needs, or the first fault: of the format, of the configuration, of the
inputs and of the script, in this order. -/
def setup (o : RunOptions) (files : Files) : Except Stop Setup := do
  if o.format != "text" && o.format != "json" then .error (.refused (.format o.format))
  let config ← configOf o files
  let inputs ← inputsOf config o.inputs
  let script ← (Script.ofFile o.script files).mapError Stop.ofFailure
  return { config, inputs, script }

/-- The target that a report names: the one asked for, or the script's own. -/
def entryName (o : RunOptions) (s : Script) : String :=
  ((filled? o.target).or (filled? s.defaultTarget)).getD ""

/-- The markup that sums up a run. -/
def summary (path entry : String) (r : Runner.Report) : String :=
  let verdict := if r.outcome.ok then "[bold green]RUN SUCCEEDED[/bold green]"
    else "[bold red]RUN FAILED[/bold red]"
  let lines := [verdict, "", "  Script:   " ++ Display.escape path, "  Target:   " ++ entry,
    "  Outputs:  " ++ .ofList (Number.natText r.outputs.pairs.length)]
  let message := match filled? r.outcome.message? with
    | some m => ["  Message:  " ++ Display.escape m]
    | none => []
  "\n".intercalate (lines ++ message)

/-- Standard output takes no halves of characters. -/
def unencodable : Breakdown :=
  .remote "UnicodeEncodeError" ""

def outputTable [Display.Styling] (outputs : List (String × String)) :
    Except Breakdown (List String) := do
  if outputs.isEmpty then return []
  unless outputs.all fun (name, value) => Text.isWhole (name.toList ++ value.toList) do
    throw unencodable
  return "Outputs" :: (← Display.table ("Name", "Value") outputs)

def documentOf (entry : String) (r : Runner.Report) : Display.Document :=
  Display.Document.joined ⟨r.outcome.ok, r.outcome.message?, entry, r.outputs.pairs⟩

def printedReport [Display.Styling] (o : RunOptions) (s : Script) (r : Runner.Report) : Printed :=
  let entry := entryName o s
  let code := if r.outcome.ok then 0 else 1
  if o.format = "json" then
    let document := documentOf entry r
    if document.isWhole then { document := some document, exit := .ok code }
    else ({} : Printed).broken unencodable
  else
    ((({} : Printed).addReport (Display.block (summary (plainPath o.script) entry r))).addResults
      (outputTable r.outputs.pairs)).ending code

/-- A command that is over: what it has printed, what it has requested and what state it leaves. -/
structure Done (σ : Type) where
  printed : Printed
  requests : List WebScript.Request
  remote : σ

/-- The command after its run is over. The accessor is released however the run has ended. -/
def Done.ofRun [Display.Styling] {σ : Type} (o : RunOptions) (script : Script)
    (service : Service σ) (finished : Runner.Finished σ) : Done σ :=
  let printed := match finished.result with
    | .ok report => printedReport o script report
    | .error f => (Stop.ofFailure f).printed
  ⟨printed, finished.session.requests, service.release finished.session.remote⟩

/-- Runs a script. The command has no end where the run has none. -/
def runScript [Display.Styling] {σ : Type} (o : RunOptions) (files : Files)
    (browserInstalled : Bool) (service : Service σ) (remote : σ) : Option (Done σ) :=
  match setup o files with
  | .error stop => some ⟨stop.printed, [], remote⟩
  | .ok needed => match needed.config.accessorChoice browserInstalled with
    | .error e => some ⟨(Stop.refused (.config e)).printed, [], remote⟩
    | .ok _ => ((needed.runner service).run needed.script needed.inputs o.target remote).map
        (.ofRun o needed.script service)

def severityStyle : Severity → String
  | .error => "bold red"
  | .warning => "yellow"
  | .info => "dim"

def issueLine (i : Issue) : String :=
  let style := severityStyle i.severity
  let field := if i.field.isEmpty then "" else " [" ++ i.field ++ "]"
  "  [" ++ style ++ "]" ++ i.severity.name.toUpper ++ "[/" ++ style ++ "]" ++
    Display.escape field ++ " " ++ Display.escape i.message

def verdictPanel [Display.Styling] (errors warnings : Nat) : Except Breakdown (List String) :=
  let count (n : Nat) : String := .ofList (Number.natText n)
  if errors = 0 then
    Display.panel "Validation Passed"
      ("[bold green]Script is valid[/bold green] (" ++ count warnings ++ " warning(s))")
  else
    Display.panel "Validation Failed"
      ("[bold red]" ++ count errors ++ " error(s)[/bold red], " ++ count warnings ++ " warning(s)")

/-- Validates a script; findings are listed with the gravest first. -/
def validate [Display.Styling] (path : String) (files : Files) : Printed :=
  match inspect path files with
  | .error f => (Stop.ofFailure f).printed
  | .ok issues =>
    let sorted := issues.mergeSort fun i j => i.severity.rank ≤ j.severity.rank
    let count (s : Severity) : Nat := (issues.filter (·.severity = s)).length
    let start := ({} : Printed).addReport
      (Display.block ("[bold]Validating[/bold] " ++ Display.escape (plainPath path)))
    let listed := sorted.foldl (fun p i => p.addReport (Display.block (issueLine i))) start
    (listed.addReport (verdictPanel (count .error) (count .warning))).ending
      (if count .error = 0 then 0 else 1)

def Request.paths : Request → List String
  | .run o => o.script :: o.config.toList ++ [usualConfig]
  | .validate path => [path]
  | .version | .help => []

/-- The lines about the program's version. -/
def versionLines : List String :=
  ["netinteract v0.3.0", "Declarative, target-graph web interaction scripts."]

/-- Does what the command line asks for; arguments without sense end with exit code 2. -/
def execute [Display.Styling] {σ : Type} (args : List String) (files : Files)
    (browserInstalled : Bool) (service : Service σ) (remote : σ) : Option (Done σ) :=
  match Request.ofArguments? args with
  | none => some ⟨{ exit := .ok 2 }, [], remote⟩
  | some .help => some ⟨{}, [], remote⟩
  | some .version => some ⟨{ out := versionLines }, [], remote⟩
  | some (.run o) => runScript o files browserInstalled service remote
  | some (.validate path) => some ⟨validate path files, [], remote⟩

end WebScript.Command
