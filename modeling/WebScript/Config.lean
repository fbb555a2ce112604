import WebScript.Access
import WebScript.Files
import WebScript.Text.Case
import WebScript.Value.Show
import WebScript.Value.Whole
import WebScript.Yaml.Document

namespace WebScript

/-- Why there is no configuration, or none that can be used. -/
inductive ConfigError where
  | noFile (path : String)
  | notYaml (path : String)
  | notAMapping (path : String)
  | unknownAccessor (name : String)
  | accessorNotOffered (name : String)
  | notAnInteger (field shown : String)
  | badInputs
  | browserMissing
  deriving DecidableEq, Repr

def accessorNames : List String := ["http", "playwright"]

def ConfigError.message : ConfigError → String
  | noFile path => s!"Config file not found: {path}"
  | notYaml path => s!"Invalid YAML in {path}"
  | notAMapping path => s!"Config file must be a YAML mapping: {path}"
  | unknownAccessor name =>
    s!"Unknown accessor: {name}\n\nExpected one of: " ++ ", ".intercalate accessorNames
  | accessorNotOffered name => s!"Unknown accessor: {name}"
  | notAnInteger field shown => s!"'{field}' must be an integer, got {shown}"
  | badInputs => "'inputs' must be a mapping of name to value"
  | browserMissing =>
    "Playwright is not installed.\n\n" ++
      "Install with: pip install 'netinteract[browser]' && playwright install chromium"

/-- Whatever keeps a configuration from being read. -/
inductive ConfigFailure where
  | config (e : ConfigError)
  | breakdown (b : Breakdown)
  deriving DecidableEq, Repr

structure Config where
  projectDir : String
  accessor : String := "http"
  userAgent : String := defaultUserAgent
  timeout : Int := 30
  headless : Bool := true
  maxJumpDepth : Int := 64
  inputs : Dict := []
  deriving DecidableEq, Repr

namespace Config

abbrev Reader (α : Type) := Except ConfigFailure α

/-- What is read from a value that has to be written for it; one that cannot be breaks the reading
down. -/
def whereWritable {α : Type} (v : Value) (r : Reader α) : Reader α :=
  if v.isWritable then r else .error (.breakdown (.badValue ""))

def textOf (v : Value) : Reader String :=
  whereWritable v (.ok v.asText)

def wholeField (field : String) (v : Value) : Reader Int :=
  match v.whole with
  | .ok n => .ok n
  | .error .notANumber => whereWritable v (.error (.config (.notAnInteger field v.shown)))
  | .error .infinite => .error (.breakdown .tooLarge)

def setting {α : Type} (entries : List (Value × Value)) (field : String) (default : α)
    (read : Value → Reader α) : Reader α :=
  match Value.lookup field entries with
  | none => .ok default
  | some v => read v

def accessorOf (v : Value) : Reader String := do
  let text ← textOf v
  let name := Text.lower text
  if accessorNames.contains name then return name
  else .error (.config (.unknownAccessor text))

/-- Inputs as texts; whatever counts as false counts as none. -/
def inputsOf (v : Value) : Reader Dict :=
  if !v.truthy then .ok []
  else match v with
    | .map entries => do
      let pairs ← entries.mapM fun (k, v) => do
        let key ← textOf k
        return (key, ← match v with
          | .null => .ok ""
          | v => textOf v)
      return .ofPairs pairs
    | _ => .error (.config .badInputs)

/-- The configuration that a mapping describes; what it does not name stays as it is by default. -/
def ofEntries (projectDir : String) (entries : List (Value × Value)) : Reader Config := do
  let base : Config := { projectDir }
  let accessor ← setting entries "accessor" base.accessor accessorOf
  let userAgent ← setting entries "user_agent" base.userAgent textOf
  let timeout ← setting entries "timeout" base.timeout (wholeField "timeout")
  let headless ← setting entries "headless" base.headless fun v => .ok v.truthy
  let maxJumpDepth ←
    setting entries "max_jump_depth" base.maxJumpDepth (wholeField "max_jump_depth")
  let inputs ← setting entries "inputs" base.inputs inputsOf
  return { projectDir, accessor, userAgent, timeout, headless, maxJumpDepth, inputs }

/-- The value of a configuration's text; whatever counts as false counts as an empty mapping. -/
def documentOf (path text : String) : Reader Value :=
  match Yaml.loadFile text with
  | .ok v => .ok (if v.truthy then v else .map [])
  | .error f => match f.breakdown? with
    | some b => .error (.breakdown b)
    | none => .error (.config (.notYaml path))

/-- The configuration in a file; its folder is the project's. -/
def ofFile (path : String) (files : Files) : Reader Config := do
  let path := plainPath path
  match files.read? path with
  | none =>
    if files.isFolder path then .error (.breakdown (.directory path))
    else .error (.config (.noFile path))
  | some text => match ← documentOf path text with
    | .map entries => ofEntries (parentPath path) entries
    | _ => .error (.config (.notAMapping path))

end Config

inductive AccessorChoice where
  | http (userAgent : String) (timeout : Int)
  | browser (headless : Bool) (userAgent : String) (navigationTimeout : Int)
  deriving DecidableEq, Repr

/-- The accessor of a configuration. The browser's timeout is in milliseconds. -/
def Config.accessorChoice (browserInstalled : Bool) (c : Config) :
    Except ConfigError AccessorChoice :=
  if c.accessor = "http" then .ok (.http c.userAgent c.timeout)
  else if c.accessor = "playwright" then
    if browserInstalled then .ok (.browser c.headless c.userAgent (c.timeout * 1000))
    else .error .browserMissing
  else .error (.accessorNotOffered c.accessor)

end WebScript
