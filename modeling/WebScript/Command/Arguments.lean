import WebScript.Text.Find

namespace WebScript.Command

/-- An option: its long name, the letter of its short one, and whether a value follows it. -/
structure Spec where
  long : String
  short : Option Char := none
  takesValue : Bool := true
  deriving DecidableEq, Repr

/-- What an argument with options says: options that are set, and an option whose value is the next
argument. -/
structure Options where
  set : List (String × String)
  awaiting : Option String := none
  deriving DecidableEq, Repr

/-- The options of a long name, with a value after an equals sign if there is one. -/
def longOption? (specs : List Spec) (arg : String) : Option Options := do
  let (name, value) := match Text.cutAt? ['='] arg.toList with
    | some (name, value) => (String.ofList name, some (String.ofList value))
    | none => (arg, none)
  let spec ← specs.find? (·.long = name)
  match spec.takesValue, value with
  | true, some v => some ⟨[(spec.long, v)], none⟩
  | true, none => some ⟨[], some spec.long⟩
  | false, none => some ⟨[(spec.long, "")], none⟩
  | false, some _ => none

/-- The options of letters after a hyphen. What follows the letter of an option with a value is that
value. -/
def shortOptions? (specs : List Spec) : List Char → Option Options
  | [] => some ⟨[], none⟩
  | c :: rest => do
    let spec ← specs.find? (·.short = some c)
    if spec.takesValue then
      if rest.isEmpty then return ⟨[], some spec.long⟩
      else return ⟨[(spec.long, .ofList rest)], none⟩
    else
      let more ← shortOptions? specs rest
      return { more with set := (spec.long, "") :: more.set }

def options? (specs : List Spec) (arg : String) : Option Options :=
  match longOption? specs arg, arg.toList with
  | some o, _ => some o
  | none, '-' :: '-' :: _ => none
  | none, cs =>
    let name := cs.takeWhile (· != '=')
    if specs.any fun s => s.long = String.ofList name then none else shortOptions? specs (cs.drop 1)

def isOption (arg : String) : Bool :=
  match arg.toList with
  | '-' :: _ :: _ => true
  | _ => false

/-- The options among arguments and the other arguments. If `mixed`, options may follow those, and
else the first of them ends the options; two hyphens always do. -/
def scan (specs : List Spec) (mixed : Bool) : List String →
    Option (List (String × String) × List String)
  | [] => some ([], [])
  | "--" :: rest => some ([], rest)
  | arg :: rest =>
    if !isOption arg then
      if mixed then (scan specs mixed rest).map fun (set, others) => (set, arg :: others)
      else some ([], arg :: rest)
    else do
      let o ← options? specs arg
      match o.awaiting, rest with
      | none, rest =>
        let (set, others) ← scan specs mixed rest
        return (o.set ++ set, others)
      | some _, [] => none
      | some name, value :: rest =>
        let (set, others) ← scan specs mixed rest
        return (o.set ++ (name, value) :: set, others)

structure RunOptions where
  script : String
  target : Option String := none
  inputs : List String := []
  config : Option String := none
  accessor : Option String := none
  format : String := "text"
  deriving DecidableEq, Repr

inductive Request where
  | version
  | help
  | run (options : RunOptions)
  | validate (script : String)
  deriving DecidableEq, Repr

def helpOption : Spec :=
  { long := "--help", takesValue := false }

def mainSpecs : List Spec :=
  [{ long := "--version", short := some 'V', takesValue := false },
   { long := "--verbose", short := some 'v', takesValue := false }, helpOption]

def runSpecs : List Spec :=
  [{ long := "--target", short := some 't' }, { long := "--input", short := some 'i' },
   { long := "--config", short := some 'c' }, { long := "--accessor", short := some 'a' },
   { long := "--output", short := some 'o' }, helpOption]

def last? (name : String) (set : List (String × String)) : Option String :=
  set.reverse.lookup name

/-- The values of an option in turn. -/
def all (name : String) (set : List (String × String)) : List String :=
  (set.filter (·.1 = name)).map (·.2)

def oneArgument? (specs : List Spec) (args : List String) (request : List (String × String) →
    String → Request) : Option Request := do
  let (set, others) ← scan specs true args
  if set.any (·.1 = "--help") then return .help
  match others with
  | [script] => return request set script
  | _ => none

def runOptions (set : List (String × String)) (script : String) : RunOptions where
  script
  target := last? "--target" set
  inputs := all "--input" set
  config := last? "--config" set
  accessor := last? "--accessor" set
  format := (last? "--output" set).getD "text"

/-- What arguments ask for, if they make sense. -/
def Request.ofArguments? (args : List String) : Option Request := do
  let (set, others) ← scan mainSpecs false args
  match set.find? fun (name, _) => name = "--version" || name = "--help" with
  | some ("--version", _) => return .version
  | some _ => return .help
  | none =>
    match others with
    | "run" :: args => oneArgument? runSpecs args fun set script => .run (runOptions set script)
    | "validate" :: args => oneArgument? [helpOption] args fun _ script => .validate script
    | _ => none

end WebScript.Command
