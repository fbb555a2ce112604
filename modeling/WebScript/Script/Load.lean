import WebScript.Error
import WebScript.Files
import WebScript.Script.Basic
import WebScript.Text.Find
import WebScript.Value.Show
import WebScript.Value.Whole
import WebScript.Yaml.Document

namespace WebScript

abbrev Fields := List (Value × Value)

def LoadError.raise {α : Type} (e : LoadError) : Except Failure α :=
  .error (.script (.load e))

/-- The text of a value. A number that is too long to be written is no fault that a script is known
to have. -/
def Value.written (v : Value) : Except Failure String :=
  if v.isWritable then .ok v.asText else .error (.breakdown (.badValue ""))

/-- Raises an error whose message shows a value, if that can be written. -/
def Value.raiseShowing {α : Type} (v : Value) (e : String → LoadError) : Except Failure α :=
  if v.isWritable then (e v.shown).raise else .error (.breakdown (.badValue ""))

namespace Fields

def get? (key : String) (fields : Fields) : Option Value :=
  Value.lookup key fields

/-- The first value that is not null among those of some keys. -/
def given? (keys : List String) (fields : Fields) : Option Value :=
  keys.findSome? fun key => match fields.get? key with
    | none => none
    | some .null => none
    | some v => some v

/-- The text of the first value that is not null among those of some keys. -/
def text? (keys : List String) (fields : Fields) : Except Failure (Option String) :=
  match fields.given? keys with
  | none => .ok none
  | some v => v.written.map some

def first? (keys : List String) (fields : Fields) : Option Value :=
  keys.findSome? fields.get?

end Fields

/-- The entries of a mapping; null counts as an empty one. -/
def Value.fields? : Value → Option Fields
  | .null => some []
  | .map entries => some entries
  | _ => none

def Value.fields (part : Part) (v : Value) : Except Failure Fields :=
  match v.fields? with
  | some fields => .ok fields
  | none => (LoadError.notAMapping part v.kindName).raise

/-- The items of a list; a missing one or null counts as an empty one. -/
def Value.items (part : Part) : Option Value → Except Failure (List Value)
  | none => .ok []
  | some .null => .ok []
  | some (.list items) => .ok items
  | some v => (LoadError.notAList part v.kindName).raise

/-- Status codes that count as a success where a step lists none. -/
def defaultAccepted : List Int := [200]

/-- What a list of status codes consists of: the items of a list or the keys of a map, the parts of
a text between commas, or one number. -/
def statusItems? : Value → Option (List Value)
  | .text s => some ((Text.pieces ',' s.toList).map fun p => .text (.ofList p))
  | .int n => some [.int n]
  | .bool b => some [.bool b]
  | .list items => some items
  | .set items => some items
  | .map entries => some (entries.map (·.1))
  | .bytes b => some (b.map fun x => .int x.toNat)
  | .pair a b => some [a, b]
  | _ => none

def statusCodes (v : Value) : Except Failure (List Int) :=
  match v with
  | .null => .ok defaultAccepted
  | .text "" => .ok defaultAccepted
  | .list [] => .ok defaultAccepted
  | v =>
    match (statusItems? v).bind fun items =>
      items.mapM fun item => Number.read? (Text.trim item.asText).toList with
    | some codes => .ok codes
    | none => v.raiseShowing .badStatusCodes

/-- A truth value; of texts, `true`, `yes` and `1` are true in any case. -/
def Value.flag : Value → Bool
  | .text s => ["true", "yes", "1"].contains (Text.lower (Text.trim s))
  | v => v.truthy

def eachItem {α : Type} (read : Nat → Value → Except Failure α) :
    (index : Nat) → List Value → Except Failure (List α)
  | _, [] => .ok []
  | i, v :: rest => do
    let a ← read i v
    return a :: (← eachItem read (i + 1) rest)

def requiredText (key : String) (e : LoadError) (fields : Fields) : Except Failure String := do
  match ← fields.text? [key] with
  | some "" => e.raise
  | none => e.raise
  | some text => return text

def itemName (part : Part) : Fields → Except Failure String :=
  requiredText "name" (.withoutName part)

def Rule.ofValue (index : Nat) (v : Value) : Except Failure Rule := do
  let fields ← v.fields (.output index)
  let name ← itemName (.output index) fields
  let regex ← fields.text? ["regex"]
  let xpath ← fields.text? ["xpath"]
  let attr ← fields.text? ["attr"]
  let multiple := ((fields.first? ["multiple", "isMultipleValue"]).getD (.bool false)).flag
  let expected ← fields.text? ["expected_value", "expectedValue"]
  return { name, regex, xpath, attr, multiple, expected }

def Override.ofValue (index : Nat) (v : Value) : Except Failure Override := do
  let fields ← v.fields (.value index)
  let name ← itemName (.value index) fields
  let value ← fields.text? ["value"]
  let text ← fields.text? ["text"]
  return { name, value, text }

def optionText : Value → Except Failure String
  | .null => .ok ""
  | v => v.written

def optionOf (entry : Value × Value) : Except Failure (String × String) := do
  let name ← entry.1.written
  return (name, ← optionText entry.2)

def optionsOf (fields : Fields) : Except Failure Dict := do
  let options ← ((fields.get? "options").getD .null).fields .options
  return .ofPairs (← options.mapM optionOf)

def rulesOf (fields : Fields) : Except Failure (List Rule) := do
  eachItem Rule.ofValue 0 (← Value.items .outputs (fields.get? "outputs"))

def Exchange.ofFields (fields : Fields) : Except Failure Exchange := do
  let rules ← rulesOf fields
  let accepted ←
    statusCodes ((fields.first? ["expected_status", "expectedHttpStatusCodes"]).getD .null)
  let options ← optionsOf fields
  return { rules, accepted, options }

def required (kind field : String) : Fields → Except Failure String :=
  requiredText field (.missingField kind field)

def formIndex (fields : Fields) : Except Failure (Option Int) :=
  match fields.first? ["form_index", "formIndex"] with
  | none => .ok none
  | some .null => .ok none
  | some v => match v.whole with
    | .ok n => .ok (some n)
    | .error .notANumber => v.raiseShowing .badFormIndex
    | .error .infinite => .error (.breakdown .tooLarge)

def fetchOf (fields : Fields) : Except Failure Step := do
  let url ← required "fetch" "url" fields
  return .fetch url (← Exchange.ofFields fields)

def FormChoice.ofFields (fields : Fields) : Except Failure FormChoice := do
  let index ← formIndex fields
  let clientId ← fields.text? ["client_id", "clientID"]
  let formName ← fields.text? ["form_name", "formName"]
  let action ← fields.text? ["action"]
  return { clientId, formName, action, index }

def overridesOf (fields : Fields) : Except Failure (List Override) := do
  eachItem Override.ofValue 0 (← Value.items .values (fields.get? "values"))

def submitOf (fields : Fields) : Except Failure Step := do
  let overrides ← overridesOf fields
  let choice ← FormChoice.ofFields fields
  return .submit choice overrides (← Exchange.ofFields fields)

def jumpOf (fields : Fields) : Except Failure Step := do
  return .jump (← required "jump" "target" fields)

inductive StepKind where
  | fetch
  | submit
  | branch
  | jump
  deriving DecidableEq, Repr

/-- Each kind has two names, in any case. -/
def StepKind.ofName? (name : String) : Option StepKind :=
  match Text.lower name with
  | "fetch" | "get" => some .fetch
  | "submit" | "post" => some .submit
  | "branch" | "if" => some .branch
  | "jump" | "call" => some .jump
  | _ => none

def Value.isText (s : String) : Value → Bool
  | .text t => t == s
  | _ => false

def stepParts? : Value → Option (Value × Value)
  | .map entries => match Value.lookup "kind" entries with
    | some kind => some (kind, .map (entries.filter fun (k, _) => !k.isText "kind"))
    | none => match entries with
      | [(kind, parameters)] => some (kind, parameters)
      | _ => none
  | _ => none

theorem Value.exists_mem_of_lookup {key : String} {entries : Fields} {v : Value}
    (h : Value.lookup key entries = some v) : ∃ k, (k, v) ∈ entries := by
  induction entries with
  | nil => simp [Value.lookup] at h
  | cons e rest ih =>
    obtain ⟨k, w⟩ := e
    unfold Value.lookup at h
    split at h
    · simp at *
    · rename_i k' v' rest' heq
      obtain ⟨⟨rfl, rfl⟩, rfl⟩ : (k = .text k' ∧ w = v') ∧ rest = rest' := by simpa using heq
      split at h
      · cases h
        exact ⟨_, List.mem_cons_self ..⟩
      · obtain ⟨k, hk⟩ := ih h
        exact ⟨k, List.mem_cons_of_mem _ hk⟩
    · rename_i heq
      obtain ⟨rfl, rfl⟩ : (k, w) = _ ∧ rest = _ := by simpa using heq
      obtain ⟨k, hk⟩ := ih h
      exact ⟨k, List.mem_cons_of_mem _ hk⟩

theorem Value.sizeOf_lt_of_mem {entries : Fields} {k v : Value} (h : (k, v) ∈ entries) :
    sizeOf v < sizeOf (Value.map entries) := by
  have := List.sizeOf_lt_of_mem h
  simp only [Prod.mk.sizeOf_spec, Value.map.sizeOf_spec] at *
  omega

/-- A field of the parameters is smaller than the step. -/
theorem sizeOf_field_lt {v kind parameters inner : Value} {fields : Fields} {key : String}
    (hp : stepParts? v = some (kind, parameters)) (hf : parameters.fields? = some fields)
    (hi : fields.get? key = some inner) : sizeOf inner < sizeOf v := by
  obtain ⟨k, hk⟩ := Value.exists_mem_of_lookup hi
  have hparam : parameters = .map fields := by
    cases parameters <;> simp_all [Value.fields?]
  unfold stepParts? at hp
  split at hp
  · rename_i entries
    split at hp
    · obtain ⟨rfl, rfl⟩ : _ = kind ∧ _ = parameters := by simpa using hp
      obtain rfl : List.filter _ entries = fields := by simpa using hparam
      exact Value.sizeOf_lt_of_mem (List.mem_filter.mp hk).1
    · split at hp
      · obtain ⟨rfl, rfl⟩ : _ = kind ∧ _ = parameters := by simpa using hp
        have := Value.sizeOf_lt_of_mem hk
        subst hparam
        simp at *
        omega
      · simp at hp
  · simp at hp

def Step.ofValue (v : Value) : Except Failure Step :=
  match hp : stepParts? v with
  | none => v.raiseShowing .notAnAction
  | some (kind, parameters) => do
    let name ← kind.written
    match StepKind.ofName? name with
    | none => .error (.script (.unknownAction name))
    | some stepKind =>
      match hf : parameters.fields? with
      | none => (LoadError.notAMapping (.parameters name) parameters.kindName).raise
      | some fields =>
        match stepKind with
        | .fetch => fetchOf fields
        | .submit => submitOf fields
        | .jump => jumpOf fields
        | .branch =>
          match hi : fields.get? "action" with
          | none => LoadError.branchWithoutAction.raise
          | some .null => LoadError.branchWithoutAction.raise
          | some inner => do
            let property ← required "branch" "property" fields
            let value := (← fields.text? ["value"]).getD ""
            have := sizeOf_field_lt hp hf hi
            return .branch property value (← Step.ofValue inner)
termination_by sizeOf v

def targetName : Fields → Except Failure String :=
  requiredText "name" .targetWithoutName

def stepsOf (target : String) (fields : Fields) : Except Failure (List Step) := do
  eachItem (fun _ => Step.ofValue) 0 (← Value.items (.actions target) (fields.get? "actions"))

def Target.ofFields (fields : Fields) : Except Failure Target := do
  let name ← targetName fields
  let steps ← stepsOf name fields
  return { name, steps }

/-- The folded name of a target, which may not be in use already. -/
def freshName (seen : List String) (t : Target) : Except Failure String :=
  if seen.contains (Text.fold t.name) then .error (.script (.duplicateTarget t.name))
  else .ok (Text.fold t.name)

/-- Targets from their descriptions, with the folded names already in use. -/
def targetsOf (seen : List String) : (index : Nat) → List Value → Except Failure (List Target)
  | _, [] => .ok []
  | i, v :: rest => do
    let target ← Target.ofFields (← v.fields (.target i))
    let key ← freshName seen target
    return target :: (← targetsOf (key :: seen) (i + 1) rest)

namespace Script

/-- The script that a value describes, which may be wrapped in an entry `script`. -/
def ofValue (v : Value) : Except Failure Script := do
  let root ← v.fields .document
  let root ← ((root.get? "script").getD (.map root)).fields .script
  let defaultTarget ← root.text? ["default_target", "defaultTarget"]
  let targets ← targetsOf [] 0 (← Value.items .targets (root.get? "targets"))
  if targets.isEmpty then LoadError.noTargets.raise
  return { targets, defaultTarget }

def documentOf (text : String) : Except Failure Value :=
  match Yaml.load text with
  | .ok v => .ok v
  | .error f => match f.breakdown? with
    | some b => .error (.breakdown b)
    | none => LoadError.notYaml.raise

def ofText (text : String) : Except Failure Script := do
  ofValue (← documentOf text)

def ofFile (path : String) (files : Files) : Except Failure Script :=
  match files.read? path with
  | some text => ofText text
  | none => LoadError.raise (.noFile (plainPath path))

end Script
end WebScript
