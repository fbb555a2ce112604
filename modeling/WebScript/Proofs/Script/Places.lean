import WebScript.Proofs.Script.Loading

namespace WebScript

variable {α β : Type} {E : Failure → Failure → Prop} {R : Value → Value → Prop} {v w : Value}
  {before after fields fields' : Fields} {key name : String} {keys : List String}

section EndsAlike

/-- Readings that end alike: with the same result, or with failures that some relation takes for the
same. -/
inductive EndsAlike (E : Failure → Failure → Prop) : Except Failure α → Except Failure α → Prop
  | ok {a : α} : EndsAlike E (.ok a) (.ok a)
  | error {f f' : Failure} (h : E f f') : EndsAlike E (.error f) (.error f')

namespace EndsAlike

variable {x y z : Except Failure α} {f g : α → Except Failure β}

theorem refl (hE : ∀ f, E f f) (x : Except Failure α) : EndsAlike E x x := by
  cases x with
  | error f => exact .error (hE f)
  | ok a => exact .ok

theorem trans (hE : ∀ f g h, E f g → E g h → E f h) (hx : EndsAlike E x y) (hy : EndsAlike E y z) :
    EndsAlike E x z := by
  cases hx with
  | ok => exact hy
  | error h =>
    cases hy with
    | error h' => exact .error (hE _ _ _ h h')

theorem bind (hx : EndsAlike E x y) (hf : ∀ a, EndsAlike E (f a) (g a)) :
    EndsAlike E (x >>= f) (y >>= g) := by
  cases hx with
  | ok => exact hf _
  | error h => exact .error h

theorem of_eq (h : x = y) : EndsAlike Eq x y := by
  rw [h]
  exact refl (fun _ => rfl) y

theorem eq (h : EndsAlike Eq x y) : x = y := by
  cases h with
  | ok => rfl
  | error h => rw [h]

end EndsAlike

end EndsAlike

section Fields

namespace Fields

def value (key : String) (fields : Fields) : Value :=
  (fields.get? key).getD .null

/-- Mappings that differ in the value of one entry at most. -/
inductive AtEntry (key : String) (R : Value → Value → Prop) : Fields → Fields → Prop
  | intro {before after : Fields} {v w : Value} (h : R v w) :
      AtEntry key R (before ++ (.text key, v) :: after) (before ++ (.text key, w) :: after)

theorem get?_cons (key : String) (k v : Value) (fields : Fields) :
    get? key ((k, v) :: fields) = if k.isText key then some v else fields.get? key := by
  rw [get?, get?]
  cases k with
  | text s =>
    rw [Value.lookup, Value.isText]
    simp only [beq_iff_eq]
  | _ => rfl

theorem get?_append (key : String) (xs ys : Fields) :
    get? key (xs ++ ys) = (xs.get? key).or (ys.get? key) := by
  induction xs with
  | nil => rfl
  | cons e rest ih =>
    rw [List.cons_append, get?_cons, get?_cons]
    split
    · rfl
    · exact ih

theorem get?_eq_none (h : ∀ e ∈ fields, e.1.isText key = false) : fields.get? key = none := by
  induction fields with
  | nil => rfl
  | cons e rest ih =>
    obtain ⟨head, tail⟩ := List.forall_mem_cons.1 h
    rw [get?_cons, head]
    exact ih tail

theorem get?_text_cons (key name : String) (v : Value) (fields : Fields) :
    get? key ((.text name, v) :: fields) = if name = key then some v else fields.get? key :=
  rfl

theorem exists_get? (key : String) (v : Value) (before after : Fields) :
    ∃ w, get? key (before ++ (.text key, v) :: after) = some w := by
  rw [get?_append, get?_text_cons, if_pos rfl]
  cases before.get? key with
  | none => exact ⟨v, rfl⟩
  | some w => exact ⟨w, rfl⟩

theorem AtEntry.get?_of_ne (h : fields.AtEntry key R fields') (other : name ≠ key) :
    fields.get? name = fields'.get? name := by
  cases h with
  | intro =>
    rw [get?_append, get?_append, get?_text_cons, get?_text_cons, if_neg other.symm,
      if_neg other.symm]

theorem AtEntry.get?_cases (h : fields.AtEntry key R fields') :
    fields.get? key = fields'.get? key ∨
      ∃ v w, fields.get? key = some v ∧ fields'.get? key = some w ∧ R v w := by
  cases h with
  | @intro before after v w h =>
    rw [get?_append, get?_append, get?_text_cons, get?_text_cons, if_pos rfl, if_pos rfl]
    cases before.get? key with
    | none => exact .inr ⟨v, w, rfl, rfl, h⟩
    | some u => exact .inl rfl

theorem value_congr (h : fields.get? key = fields'.get? key) :
    fields.value key = fields'.value key := by
  rw [value, value, h]

theorem AtEntry.value_of_ne (h : fields.AtEntry key R fields') (other : name ≠ key) :
    fields.value name = fields'.value name :=
  value_congr (h.get?_of_ne other)

theorem given?_eq_some : fields.given? [key] = some v ↔ fields.value key = v ∧ v ≠ .null := by
  rw [given?, List.findSome?_singleton, value]
  cases fields.get? key with
  | none =>
    simp only [Option.getD_none, reduceCtorEq, false_iff]
    rintro ⟨rfl, notNull⟩
    exact notNull rfl
  | some u =>
    cases u with
    | null =>
      simp only [Option.getD_some, reduceCtorEq, false_iff]
      rintro ⟨rfl, notNull⟩
      exact notNull rfl
    | _ =>
      simp only [Option.some.injEq, Option.getD_some, iff_self_and]
      rintro rfl
      simp

theorem given?_cons (key : String) (keys : List String) (fields : Fields) :
    fields.given? (key :: keys) = (fields.given? [key]).or (fields.given? keys) := by
  rw [given?, given?, List.findSome?_cons, List.findSome?_singleton]
  split <;> simp_all [given?]

theorem given?_congr (h : ∀ key ∈ keys, fields.value key = fields'.value key) :
    fields.given? keys = fields'.given? keys := by
  induction keys with
  | nil => rfl
  | cons key rest ih =>
    obtain ⟨same, others⟩ := List.forall_mem_cons.1 h
    have first : fields.given? [key] = fields'.given? [key] := by
      apply Option.ext
      intro v
      rw [given?_eq_some, given?_eq_some, same]
    rw [given?_cons key rest fields, given?_cons key rest fields', first, ih others]

theorem text?_congr (h : ∀ key ∈ keys, fields.value key = fields'.value key) :
    fields.text? keys = fields'.text? keys := by
  rw [text?, text?, given?_congr h]

end Fields

theorem requiredText_congr {e : LoadError} (h : fields.value key = fields'.value key) :
    requiredText key e fields = requiredText key e fields' := by
  have text := Fields.text?_congr (List.forall_mem_singleton.2 h)
  rw [requiredText, requiredText, text]

theorem Value.items_congr {part : Part} (h : fields.value key = fields'.value key) :
    Value.items part (fields.get? key) = Value.items part (fields'.get? key) := by
  have items_value (v? : Option Value) : Value.items part v? =
      Value.items part (some (v?.getD .null)) := by
    cases v? <;> rfl
  rw [items_value, items_value (fields'.get? key)]
  exact congrArg (fun v => Value.items part (some v)) h

end Fields

section Items

/-- Lists that differ in one item at most. -/
inductive Value.AtItem (R : Value → Value → Prop) : Value → Value → Prop
  | intro {before after : List Value} {v w : Value} (h : R v w) :
      AtItem R (.list (before ++ v :: after)) (.list (before ++ w :: after))

variable {read : Nat → Value → Except Failure α}

theorem eachItem_endsAlike (hE : ∀ f, E f f) (h : ∀ i, EndsAlike E (read i v) (read i w))
    (before after : List Value) (i : Nat) :
    EndsAlike E (eachItem read i (before ++ v :: after))
    (eachItem read i (before ++ w :: after)) := by
  induction before generalizing i with
  | nil => exact (h i).bind fun a => .refl hE _
  | cons u before ih =>
    have first := EndsAlike.refl hE (read i u)
    exact first.bind fun a => (ih (i + 1)).bind fun as => .ok

theorem items_endsAlike (hE : ∀ f, E f f) (part : Part) (h : Value.AtItem R v w)
    (each : ∀ v w, R v w → ∀ i, EndsAlike E (read i v) (read i w)) :
    EndsAlike E (Value.items part (some v) >>= eachItem read 0)
      (Value.items part (some w) >>= eachItem read 0) := by
  cases h with
  | @intro before after v w h => exact eachItem_endsAlike hE (each v w h) before after 0

/-- Lists under a name that differ in one item at most are read alike where the item is. -/
theorem itemsOf_endsAlike (hE : ∀ f, E f f) (part : Part)
    (h : fields.AtEntry key (Value.AtItem R) fields')
    (each : ∀ v w, R v w → ∀ i, EndsAlike E (read i v) (read i w)) :
    EndsAlike E (Value.items part (fields.get? key) >>= eachItem read 0)
      (Value.items part (fields'.get? key) >>= eachItem read 0) := by
  rcases h.get?_cases with same | ⟨v, w, hv, hw, h⟩
  · rw [same]
    exact .refl hE _
  · rw [hv, hw]
    exact items_endsAlike hE part h each

end Items

section Steps

def StepKind.names : StepKind → List String
  | .fetch => ["fetch", "get"]
  | .submit => ["submit", "post"]
  | .branch => ["branch", "if"]
  | .jump => ["jump", "call"]

theorem StepKind.ofName?_eq_some {kind : StepKind} :
    StepKind.ofName? name = some kind ↔ Text.lower name ∈ kind.names := by
  rw [ofName?]
  generalize Text.lower name = text
  constructor
  · intro h
    split at h <;> cases h <;> simp [names]
  · intro h
    cases kind <;> rcases List.mem_pair.1 h with rfl | rfl <;> rfl

namespace Step

/-- A value is written as a step, with a key for its kind and with parameters: as a mapping of one
entry, or as the mapping of the parameters with one more entry for the kind. An entry named `kind`
alone is of the second notation. -/
inductive Written : Value → Value → Value → Prop
  | entry {key parameters : Value} (h : key.isText "kind" = false) :
      Written (.map [(key, parameters)]) key parameters
  | fields {before after : Fields} {key : Value}
      (h : ∀ e ∈ before ++ after, e.1.isText "kind" = false) :
      Written (.map (before ++ (.text "kind", key) :: after)) key (.map (before ++ after))

theorem Written.stepParts? {v key parameters : Value} (h : Written v key parameters) :
    stepParts? v = some (key, parameters) := by
  cases h with
  | entry h =>
    have none : Value.lookup "kind" [(key, parameters)] = none :=
      Fields.get?_eq_none (by simpa using h)
    rw [WebScript.stepParts?, none]
  | @fields before after key h =>
    obtain ⟨hbefore, hafter⟩ := List.forall_mem_append.1 h
    have found : Value.lookup "kind" (before ++ (.text "kind", key) :: after) = some key := by
      have first := Fields.get?_append "kind" before ((.text "kind", key) :: after)
      rwa [Fields.get?_eq_none hbefore, Option.none_or, Fields.get?_text_cons, if_pos rfl] at first
    have others : (before ++ (.text "kind", key) :: after).filter (fun e => !e.1.isText "kind") =
        before ++ after := by
      rw [List.filter_append,
        List.filter_cons_of_neg (by simp [Value.isText]), ← List.filter_append]
      exact List.filter_eq_self.2 fun e he => by simp [h e he]
    simp only [WebScript.stepParts?, found]
    exact congrArg (fun rest => some (key, Value.map rest)) others

theorem Written.ne_null {v key parameters : Value} (h : Written v key parameters) : v ≠ .null := by
  cases h with
  | entry => exact nofun
  | fields => exact nofun

theorem ofValue_of_written {kind : StepKind} (h : Written v (.text name) (.map fields))
    (named : Text.lower name ∈ kind.names) : ofValue v = kind.step fields := by
  have written : (Value.text name).written = .ok name := rfl
  rw [ofValue_of_some h.stepParts?, Except.bind_of_ok written, StepKind.ofName?_eq_some.2 named]
  rfl

/-- Branches that differ only in the step inside end alike where those steps do. -/
theorem branchOf_endsAlike (hE : ∀ f, E f f) (h : fields.AtEntry "action" R fields')
    (notNull : ∀ v w, R v w → v ≠ .null ∧ w ≠ .null)
    (inside : ∀ v w, R v w → EndsAlike E (ofValue v) (ofValue w)) :
    EndsAlike E (branchOf fields) (branchOf fields') := by
  have property : required "branch" "property" fields = required "branch" "property" fields' :=
    requiredText_congr (h.value_of_ne (by decide))
  have value : fields.text? ["value"] = fields'.text? ["value"] :=
    Fields.text?_congr (List.forall_mem_singleton.2 (h.value_of_ne (by decide)))
  rw [branchOf, branchOf, property, value]
  rcases h.get?_cases with same | ⟨v, w, hv, hw, related⟩
  · have given : fields.given? ["action"] = fields'.given? ["action"] :=
      Fields.given?_congr (List.forall_mem_singleton.2 (Fields.value_congr same))
    rw [given]
    exact .refl hE _
  · obtain ⟨hv', hw'⟩ := notNull v w related
    rw [Fields.given?_singleton hv hv', Fields.given?_singleton hw hw']
    refine (EndsAlike.refl hE _).bind fun property => ?_
    refine (EndsAlike.refl hE _).bind fun value? => ?_
    exact (inside v w related).bind fun step => .ok

/-- Steps that differ in one place: as a whole, or in the step inside a branch. -/
inductive Inside (R : Value → Value → Prop) : Value → Value → Prop
  | here {v w : Value} (h : R v w) : Inside R v w
  | branch {v w inner inner' : Value} {name : String} {before after : Fields}
      (hv : Written v (.text name) (.map (before ++ (.text "action", inner) :: after)))
      (hw : Written w (.text name) (.map (before ++ (.text "action", inner') :: after)))
      (named : Text.lower name ∈ StepKind.branch.names) (h : Inside R inner inner') : Inside R v w

theorem Inside.ne_null (notNull : ∀ v w, R v w → v ≠ .null ∧ w ≠ .null) (h : Inside R v w) :
    v ≠ .null ∧ w ≠ .null := by
  cases h with
  | here h => exact notNull _ _ h
  | branch hv hw => exact ⟨hv.ne_null, hw.ne_null⟩

/-- What reads a step alike in one place, reads it alike inside any branches. -/
theorem Inside.ofValue_endsAlike (hE : ∀ f, E f f) (notNull : ∀ v w, R v w → v ≠ .null ∧ w ≠ .null)
    (here : ∀ v w, R v w → EndsAlike E (ofValue v) (ofValue w)) (h : Inside R v w) :
    EndsAlike E (ofValue v) (ofValue w) := by
  induction h with
  | here h => exact here _ _ h
  | @branch v w inner inner' name before after hv hw named h ih =>
    rw [ofValue_of_written hv named, ofValue_of_written hw named]
    have differ : Fields.AtEntry "action" (fun u u' => u = inner ∧ u' = inner')
        (before ++ (.text "action", inner) :: after) (before ++
          (.text "action", inner') :: after) :=
      .intro ⟨rfl, rfl⟩
    apply branchOf_endsAlike hE differ
    · rintro _ _ ⟨rfl, rfl⟩
      exact h.ne_null notNull
    · rintro _ _ ⟨rfl, rfl⟩
      exact ih

end Step

end Steps

section Scripts

/-- Mappings, as values, that differ in the value of one entry at most. -/
inductive Value.AtEntry (key : String) (R : Value → Value → Prop) : Value → Value → Prop
  | intro {fields fields' : Fields} (h : fields.AtEntry key R fields') :
      AtEntry key R (.map fields) (.map fields')

/-- Descriptions of scripts that differ in one step of one target at most. -/
def Script.AtStep (R : Value → Value → Prop) : Fields → Fields → Prop :=
  Fields.AtEntry "targets" (Value.AtItem (Value.AtEntry "actions" (Value.AtItem R)))

/-- The script that the entries of a description make, once it is unwrapped. -/
def Script.ofRoot (root : Fields) : Except Failure Script := do
  let defaultTarget ← root.text? ["default_target", "defaultTarget"]
  let targets ← targetsOf [] 0 (← Value.items .targets (root.get? "targets"))
  if targets.isEmpty then LoadError.noTargets.raise
  return { targets, defaultTarget }

theorem Script.ofValue_eq_ofRoot (v : Value) : ofValue v = v.fields .document >>= fun outer =>
    ((outer.get? "script").getD (.map outer)).fields .script >>= ofRoot :=
  rfl

section

variable (hE : ∀ f, E f f) (steps : ∀ v w, R v w → EndsAlike E (Step.ofValue v) (Step.ofValue w))
include hE steps

theorem Target.ofFields_endsAlike (h : fields.AtEntry "actions" (Value.AtItem R) fields') :
    EndsAlike E (Target.ofFields fields) (Target.ofFields fields') := by
  have named : targetName fields = targetName fields' :=
    requiredText_congr (h.value_of_ne (by decide))
  rw [Target.ofFields, Target.ofFields, named]
  refine (EndsAlike.refl hE _).bind fun name => ?_
  have listed : EndsAlike E (stepsOf name fields) (stepsOf name fields') :=
    itemsOf_endsAlike hE (.actions name) h fun v w related _ => steps v w related
  exact listed.bind fun _ => .ok

theorem targetsOf_endsAlike (h : Value.AtEntry "actions" (Value.AtItem R) v w)
    (before after : List Value) (seen : List String) (i : Nat) :
    EndsAlike E (targetsOf seen i (before ++ v :: after))
    (targetsOf seen i (before ++ w :: after)) := by
  induction before generalizing seen i with
  | nil =>
    cases h with
    | intro h =>
      refine (Target.ofFields_endsAlike hE steps h).bind fun target => ?_
      exact .refl hE _
  | cons u before ih =>
    refine (EndsAlike.refl hE _).bind fun fields => ?_
    refine (EndsAlike.refl hE _).bind fun target => ?_
    refine (EndsAlike.refl hE _).bind fun key => ?_
    exact (ih (key :: seen) (i + 1)).bind fun targets => .ok

theorem Script.ofRoot_endsAlike (h : AtStep R fields fields') :
    EndsAlike E (ofRoot fields) (ofRoot fields') := by
  have entry : fields.text? ["default_target", "defaultTarget"] =
      fields'.text? ["default_target", "defaultTarget"] := by
    apply Fields.text?_congr
    intro key hkey
    apply h.value_of_ne
    rintro rfl
    exact absurd hkey (by decide)
  have targets : EndsAlike E
      (Value.items .targets (fields.get? "targets") >>= targetsOf [] 0)
      (Value.items .targets (fields'.get? "targets") >>= targetsOf [] 0) := by
    rcases h.get?_cases with same | ⟨_, _, hv, hw, ⟨related⟩⟩
    · rw [same]
      exact .refl hE _
    · rw [hv, hw]
      exact targetsOf_endsAlike hE steps related _ _ [] 0
  rw [ofRoot, ofRoot, entry]
  refine (EndsAlike.refl hE _).bind fun defaultTarget => ?_
  rw [← bind_assoc, ← bind_assoc]
  exact targets.bind fun _ => .refl hE _

end

end Scripts

end WebScript
