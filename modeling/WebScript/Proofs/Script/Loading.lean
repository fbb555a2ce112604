import WebScript.Proofs.Script.Parts

namespace WebScript

variable {b : Breakdown} {v : Value} {fields : Fields}

section Exchange

/-- Options break down at an entry whose name or value cannot be written. -/
def OptionsBreak (fields : Fields) (b : Breakdown) : Prop :=
  ∃ entries, ((fields.get? "options").getD .null).fields? = some entries ∧
    ∃ entry ∈ entries, entry.1.Unwritten b ∨ entry.2.Unwritten b

theorem optionText_eq_error {f : Failure} :
    optionText v = .error f ↔ ∃ b, f = .breakdown b ∧ v.Unwritten b := by
  cases v with
  | null => simp [optionText]
  | _ => exact Value.written_eq_error

theorem optionOf_eq_error {entry : Value × Value} {f : Failure} :
    optionOf entry = .error f ↔
      ∃ b, f = .breakdown b ∧ (entry.1.Unwritten b ∨ entry.2.Unwritten b) := by
  rw [optionOf, Except.bind_eq_error, Value.written_eq_error]
  simp only [Except.bind_pure_eq_error, optionText_eq_error]
  constructor
  · rintro (⟨b, rfl, h⟩ | ⟨_, _, b, rfl, h⟩)
    · exact ⟨b, rfl, .inl h⟩
    · exact ⟨b, rfl, .inr h⟩
  · rintro ⟨b, rfl, h | h⟩
    · exact .inl ⟨b, rfl, h⟩
    · cases named : entry.1.written with
      | ok name => exact .inr ⟨name, rfl, b, rfl, h⟩
      | error f =>
        obtain ⟨b', _, h'⟩ := Value.written_eq_error.1 named
        exact .inl ⟨b', by rw [h.eq_badValue, h'.eq_badValue], h'⟩

theorem optionsOf_loading : Loading (optionsOf fields) (OptionsBreak fields) := by
  have entries_loading (entries : Fields) : Loading (entries.mapM optionOf) fun b =>
      ∃ entry ∈ entries, entry.1.Unwritten b ∨ entry.2.Unwritten b := by
    refine .of_eq_error fun f => ⟨fun h => ?_, ?_⟩
    · obtain ⟨entry, hm, h⟩ := Except.mapM_eq_error h
      obtain ⟨b, rfl, broken⟩ := optionOf_eq_error.1 h
      exact ⟨b, rfl, entry, hm, broken⟩
    · rintro ⟨b, rfl, entry, hm, broken⟩
      -- Whichever entry is the first that cannot be written, it breaks down in the same way.
      obtain ⟨f, hf⟩ := Except.exists_mapM_eq_error hm (optionOf_eq_error.2 ⟨b, rfl, broken⟩)
      obtain ⟨_, _, refused⟩ := Except.mapM_eq_error hf
      obtain ⟨b', rfl, first⟩ := optionOf_eq_error.1 refused
      have hb := broken.elim Value.Unwritten.eq_badValue Value.Unwritten.eq_badValue
      have hb' := first.elim Value.Unwritten.eq_badValue Value.Unwritten.eq_badValue
      rw [hf, hb, hb']
  refine ((Value.fields_loading _).bind_of_not fun entries _ =>
    (entries_loading entries).bind_pure).congr fun b => ?_
  simp only [Value.fields_eq_ok, OptionsBreak]

/-- Status codes break down where they are refused and cannot be shown. -/
def StatusBreaks (v : Value) (b : Breakdown) : Prop :=
  (∀ codes, statusCodes v ≠ .ok codes) ∧ v.Unwritten b

theorem statusCodes_cases (v : Value) :
    (∃ codes, statusCodes v = .ok codes) ∨ statusCodes v = v.raiseShowing .badStatusCodes := by
  unfold statusCodes
  split
  · exact .inl ⟨_, rfl⟩
  · exact .inl ⟨_, rfl⟩
  · exact .inl ⟨_, rfl⟩
  · split
    · exact .inl ⟨_, rfl⟩
    · exact .inr rfl

theorem statusCodes_loading : Loading (statusCodes v) (StatusBreaks v) := by
  rcases statusCodes_cases v with ⟨codes, accepted⟩ | refused
  · rw [accepted]
    exact (Loading.ok codes).congr fun b => iff_of_false id fun h => h.1 codes accepted
  · have never (codes : List Int) : statusCodes v ≠ .ok codes :=
      refused.trans_ne (Value.raiseShowing_ne_ok codes)
    rw [refused]
    exact Value.raiseShowing_loading.congr fun b => (and_iff_right never).symm

/-- The value that lists the status codes of an exchange. -/
def Fields.status (fields : Fields) : Value :=
  (fields.first? ["expected_status", "expectedHttpStatusCodes"]).getD .null

inductive Exchange.Breaks (fields : Fields) (b : Breakdown) : Prop
  | rule (h : ListBreaks Rule.ofValue (ItemBreaks Rule.texts) .outputs (fields.get? "outputs") b)
  | status {rules} (made : rulesOf fields = .ok rules) (h : StatusBreaks fields.status b)
  | option {rules codes} (made : rulesOf fields = .ok rules)
      (accepted : statusCodes fields.status = .ok codes) (h : OptionsBreak fields b)

theorem Exchange.ofFields_loading : Loading (ofFields fields) (Breaks fields) := by
  have rules : Loading (rulesOf fields) _ := items_bind_loading Rule.ofValue_loading _ _
  have codes : Loading (statusCodes fields.status) _ := statusCodes_loading
  have options : Loading (optionsOf fields) _ := optionsOf_loading
  refine (rules.bind fun _ _ => codes.bind fun _ _ => options.bind_pure).congr fun b => ?_
  constructor
  · rintro (h | ⟨rules, made, h | ⟨codes, accepted, h⟩⟩)
    · exact .rule h
    · exact .status made h
    · exact .option made accepted h
  · rintro (h | ⟨made, h⟩ | ⟨made, accepted, h⟩)
    · exact .inl h
    · exact .inr ⟨_, made, .inl h⟩
    · exact .inr ⟨_, made, .inr ⟨_, accepted, h⟩⟩

end Exchange

section Step

/-- A form index breaks down if it is infinite, or if it is no number and cannot be shown. -/
inductive IndexBreaks (fields : Fields) : Breakdown → Prop
  | infinite {index : Value} (given : fields.first? ["form_index", "formIndex"] = some index)
      (h : index.whole = .error .infinite) : IndexBreaks fields .tooLarge
  | unwritten {index : Value} {b : Breakdown}
      (given : fields.first? ["form_index", "formIndex"] = some index)
      (refused : index.whole = .error .notANumber) (h : index.Unwritten b) : IndexBreaks fields b

theorem formIndex_loading : Loading (formIndex fields) (IndexBreaks fields) := by
  have breaks_iff {v : Value} (given : fields.first? ["form_index", "formIndex"] = some v) (b) :
      IndexBreaks fields b ↔ v.whole = .error .infinite ∧ b = .tooLarge ∨
        v.whole = .error .notANumber ∧ v.Unwritten b := by
    constructor
    · rintro (⟨given', h⟩ | ⟨given', refused, h⟩)
      · cases given.symm.trans given'
        exact .inl ⟨h, rfl⟩
      · cases given.symm.trans given'
        exact .inr ⟨refused, h⟩
    · rintro (⟨h, rfl⟩ | ⟨refused, h⟩)
      · exact .infinite given h
      · exact .unwritten given refused h
  unfold formIndex
  split
  · next missing =>
    refine (Loading.ok _).congr fun b => iff_of_false id ?_
    rintro (⟨given, _⟩ | ⟨given, _, _⟩) <;> cases missing.symm.trans given
  · next given =>
    refine (Loading.ok _).congr fun b => ?_
    simp [breaks_iff given, Value.whole]
  · next v _ given =>
    split
    · next n whole => exact (Loading.ok _).congr fun b => by simp [breaks_iff given, whole]
    · next whole =>
      exact Value.raiseShowing_loading.congr fun b => by simp [breaks_iff given, whole]
    · next whole =>
      refine .of_eq_error fun f => ?_
      simp [breaks_iff given, whole, eq_comm]

namespace FormChoice

def texts : List (List String) :=
  [["client_id", "clientID"], ["form_name", "formName"], ["action"]]

inductive Breaks (fields : Fields) (b : Breakdown) : Prop
  | index (h : IndexBreaks fields b)
  | text {index} (read : formIndex fields = .ok index) (h : fields.SomeUnwritten texts b)

open Fields in
theorem ofFields_loading : Loading (ofFields fields) (Breaks fields) := by
  refine (formIndex_loading.bind fun index _ => someUnwritten_cons_loading fun _ =>
    someUnwritten_cons_loading fun _ => someUnwritten_cons_loading fun _ =>
      someUnwritten_nil_loading _).congr fun b => ?_
  constructor
  · rintro (h | ⟨index, read, h⟩)
    · exact .index h
    · exact .text read h
  · rintro (h | ⟨read, h⟩)
    · exact .inl h
    · exact .inr ⟨_, read, h⟩

end FormChoice

inductive FetchBreaks (fields : Fields) (b : Breakdown) : Prop
  | url (h : fields.Unwritten ["url"] b)
  | exchange {url} (given : fields.Has "url" url) (h : Exchange.Breaks fields b)

theorem fetchOf_loading : Loading (fetchOf fields) (FetchBreaks fields) := by
  have url : Loading (required "fetch" "url" fields) _ := requiredText_loading _ _
  have exchange : Loading (Exchange.ofFields fields) _ := Exchange.ofFields_loading
  refine (url.bind fun _ _ => exchange.bind_pure).congr fun b => ?_
  simp only [required, requiredText_eq_ok]
  constructor
  · rintro (h | ⟨url, given, h⟩)
    · exact .url h
    · exact .exchange given h
  · rintro (h | ⟨given, h⟩)
    · exact .inl h
    · exact .inr ⟨_, given, h⟩

inductive SubmitBreaks (fields : Fields) (b : Breakdown) : Prop
  | override (h : ListBreaks Override.ofValue (ItemBreaks Override.texts) .values
      (fields.get? "values") b)
  | choice {overrides} (made : overridesOf fields = .ok overrides) (h : FormChoice.Breaks fields b)
  | exchange {overrides choice} (made : overridesOf fields = .ok overrides)
      (chosen : FormChoice.ofFields fields = .ok choice) (h : Exchange.Breaks fields b)

theorem submitOf_loading : Loading (submitOf fields) (SubmitBreaks fields) := by
  have overrides : Loading (overridesOf fields) _ := items_bind_loading Override.ofValue_loading _ _
  have choice : Loading (FormChoice.ofFields fields) _ := FormChoice.ofFields_loading
  have exchange : Loading (Exchange.ofFields fields) _ := Exchange.ofFields_loading
  refine (overrides.bind fun _ _ => choice.bind fun _ _ => exchange.bind_pure).congr fun b => ?_
  constructor
  · rintro (h | ⟨overrides, made, h | ⟨choice, chosen, h⟩⟩)
    · exact .override h
    · exact .choice made h
    · exact .exchange made chosen h
  · rintro (h | ⟨made, h⟩ | ⟨made, chosen, h⟩)
    · exact .inl h
    · exact .inr ⟨_, made, .inl h⟩
    · exact .inr ⟨_, made, .inr ⟨_, chosen, h⟩⟩

def Describes (v : Value) (kind : StepKind) (fields : Fields) : Prop :=
  ∃ key parameters, stepParts? v = some (key, parameters) ∧ key.isWritable = true ∧
    StepKind.ofName? key.asText = some kind ∧ parameters.fields? = some fields

inductive Step.Breaks : Value → Breakdown → Prop
  | notAnAction {v : Value} {b : Breakdown} (other : stepParts? v = none) (h : v.Unwritten b) :
      Breaks v b
  | kind {v key parameters : Value} {b : Breakdown} (parts : stepParts? v = some (key, parameters))
      (h : key.Unwritten b) : Breaks v b
  | fetch {v : Value} {fields : Fields} {b : Breakdown} (described : Describes v .fetch fields)
      (h : FetchBreaks fields b) : Breaks v b
  | submit {v : Value} {fields : Fields} {b : Breakdown} (described : Describes v .submit fields)
      (h : SubmitBreaks fields b) : Breaks v b
  | jump {v : Value} {fields : Fields} {b : Breakdown} (described : Describes v .jump fields)
      (h : fields.Unwritten ["target"] b) : Breaks v b
  | branch {v inner : Value} {fields : Fields} {b : Breakdown}
      (described : Describes v .branch fields) (given : fields.given? ["action"] = some inner)
      (h : fields.Unwritten ["property"] b) : Breaks v b
  | value {v inner : Value} {fields : Fields} {property : String} {b : Breakdown}
      (described : Describes v .branch fields) (given : fields.given? ["action"] = some inner)
      (has : fields.Has "property" property) (h : fields.Unwritten ["value"] b) : Breaks v b
  | inner {v inner : Value} {fields : Fields} {property : String} {value? : Option String}
      {b : Breakdown} (described : Describes v .branch fields)
      (given : fields.given? ["action"] = some inner) (has : fields.Has "property" property)
      (read : fields.text? ["value"] = .ok value?) (h : Breaks inner b) : Breaks v b

def branchOf (fields : Fields) : Except Failure Step :=
  match fields.given? ["action"] with
  | none => LoadError.branchWithoutAction.raise
  | some inner => do
    let property ← required "branch" "property" fields
    let value? ← fields.text? ["value"]
    return .branch property (value?.getD "") (← Step.ofValue inner)

def StepKind.step (fields : Fields) : StepKind → Except Failure Step
  | .fetch => fetchOf fields
  | .submit => submitOf fields
  | .branch => branchOf fields
  | .jump => jumpOf fields

theorem Fields.get?_of_given? {key : String} {v : Value} (h : fields.given? [key] = some v) :
    fields.get? key = some v := by
  rw [given?, List.findSome?_singleton] at h
  split at h
  · cases h
  · cases h
  · next present => rw [present, h]

theorem Fields.given?_singleton {key : String} {v : Value} (present : fields.get? key = some v)
    (notNull : v ≠ .null) : fields.given? [key] = some v := by
  cases v with
  | null => exact absurd rfl notNull
  | _ => simp [given?, present]

namespace Step

theorem ofValue_of_none (h : stepParts? v = none) : ofValue v = v.raiseShowing .notAnAction := by
  rw [ofValue]
  split
  · rfl
  · next parts => cases h.symm.trans parts

theorem ofValue_of_some {key parameters : Value} (h : stepParts? v = some (key, parameters)) :
    ofValue v = key.written >>= fun name => match StepKind.ofName? name with
      | none => .error (.script (.unknownAction name))
      | some kind => parameters.fields (.parameters name) >>= fun fields => kind.step fields := by
  rw [ofValue]
  split
  · next other => cases other.symm.trans h
  · next key' parameters' parts =>
    cases parts.symm.trans h
    refine congrArg _ (funext fun name => ?_)
    cases StepKind.ofName? name with
    | none => rfl
    | some kind =>
      dsimp only
      split
      · next other => simp [Value.fields, other, LoadError.raise, bind, Except.bind]
      · next fields mapping =>
        rw [Value.fields_eq_ok.2 mapping]
        cases kind with
        | branch =>
          simp only [StepKind.step, branchOf]
          split
          · next missing => simp [Fields.given?, missing, bind, Except.bind]
          · next null => simp [Fields.given?, null, bind, Except.bind]
          · next inner notNull present =>
            simp [Fields.given?_singleton present notNull, bind, Except.bind]
        | _ => rfl

/-- What breaks down in the description of a step, if it is known for each kind of them. -/
theorem ofValue_loading_of {breaks : StepKind → Fields → Breakdown → Prop}
    (h : ∀ kind fields, Describes v kind fields → Loading (kind.step fields) (breaks kind fields)) :
    Loading (ofValue v) fun b => stepParts? v = none ∧ v.Unwritten b ∨
      (∃ key parameters, stepParts? v = some (key, parameters) ∧ key.Unwritten b) ∨
      ∃ kind fields, Describes v kind fields ∧ breaks kind fields b := by
  cases parts : stepParts? v with
  | none =>
    rw [ofValue_of_none parts]
    refine Value.raiseShowing_loading.congr fun b => ?_
    simp [Describes, parts]
  | some p =>
    obtain ⟨key, parameters⟩ := p
    rw [ofValue_of_some parts]
    refine ((Value.written_loading key).bind fun name written =>
      show Loading _ fun b => ∃ kind, StepKind.ofName? name = some kind ∧
        ∃ fields, parameters.fields? = some fields ∧ breaks kind fields b from ?_).congr fun b => ?_
    · obtain ⟨writable, rfl⟩ := Value.written_eq_ok.1 written
      cases named : StepKind.ofName? key.asText with
      | none =>
        exact (Loading.script (by simp [ScriptError.ofLoading, ScriptError.kind])).congr
          fun b => by simp
      | some kind =>
        refine ((Value.fields_loading _).bind_of_not fun fields mapping =>
          h kind fields ⟨key, parameters, parts, writable, named, ?_⟩).congr fun b => ?_
        · exact Value.fields_eq_ok.1 mapping
        · simp [Value.fields_eq_ok]
    · simp only [Value.written_eq_ok, Describes, parts]
      constructor
      · rintro (h | ⟨_, ⟨writable, rfl⟩, kind, named, fields, mapping, h⟩)
        · exact .inr (.inl ⟨key, parameters, rfl, h⟩)
        · exact .inr (.inr ⟨kind, fields, ⟨key, parameters, rfl, writable, named, mapping⟩, h⟩)
      · rintro (⟨h, _⟩ | ⟨_, _, same, h⟩ | ⟨kind, fields,
          ⟨_, _, same, writable, named, mapping⟩, h⟩)
        · cases h
        · cases same
          exact .inl h
        · cases same
          exact .inr ⟨_, ⟨writable, rfl⟩, kind, named, fields, mapping, h⟩

def ParametersBreak (fields : Fields) (b : Breakdown) : StepKind → Prop
  | .fetch => FetchBreaks fields b
  | .submit => SubmitBreaks fields b
  | .jump => fields.Unwritten ["target"] b
  | .branch => ∃ inner, fields.given? ["action"] = some inner ∧
    (fields.Unwritten ["property"] b ∨ ∃ property, fields.Has "property" property ∧
      (fields.Unwritten ["value"] b ∨ ∃ value?, fields.text? ["value"] = .ok value? ∧
        Breaks inner b))

theorem breaks_iff :
    Breaks v b ↔ stepParts? v = none ∧ v.Unwritten b ∨
      (∃ key parameters, stepParts? v = some (key, parameters) ∧ key.Unwritten b) ∨
      ∃ kind fields, Describes v kind fields ∧ ParametersBreak fields b kind := by
  constructor
  · intro h
    cases h with
    | notAnAction other h => exact .inl ⟨other, h⟩
    | kind parts h => exact .inr (.inl ⟨_, _, parts, h⟩)
    | fetch described h => exact .inr (.inr ⟨_, _, described, h⟩)
    | submit described h => exact .inr (.inr ⟨_, _, described, h⟩)
    | jump described h => exact .inr (.inr ⟨_, _, described, h⟩)
    | branch described given h => exact .inr (.inr ⟨_, _, described, _, given, .inl h⟩)
    | value described given has h =>
      exact .inr (.inr ⟨_, _, described, _, given, .inr ⟨_, has, .inl h⟩⟩)
    | inner described given has read h =>
      exact .inr (.inr ⟨_, _, described, _, given, .inr ⟨_, has, .inr ⟨_, read, h⟩⟩⟩)
  · rintro (⟨other, h⟩ | ⟨_, _, parts, h⟩ | ⟨kind, fields, described, h⟩)
    · exact .notAnAction other h
    · exact .kind parts h
    · cases kind with
      | fetch => exact .fetch described h
      | submit => exact .submit described h
      | jump => exact .jump described h
      | branch =>
        obtain ⟨inner, given, h | ⟨property, has, h | ⟨value?, read, h⟩⟩⟩ := h
        · exact .branch described given h
        · exact .value described given has h
        · exact .inner described given has read h

theorem branchOf_loading
    (h : ∀ inner, fields.given? ["action"] = some inner → Loading (ofValue inner) (Breaks inner)) :
    Loading (branchOf fields) fun b => ParametersBreak fields b .branch := by
  simp only [branchOf, ParametersBreak]
  cases given : fields.given? ["action"] with
  | none => exact (Loading.raise _).congr fun b => by simp
  | some inner =>
    have property : Loading (required "branch" "property" fields) _ := requiredText_loading _ _
    have value := fields.text?_loading ["value"]
    have step := h inner given
    refine (property.bind fun _ _ => value.bind fun _ _ => step.bind_pure).congr fun b => ?_
    simp [required, requiredText_eq_ok]

theorem ofValue_loading (v : Value) : Loading (ofValue v) (Breaks v) := by
  refine (ofValue_loading_of fun kind fields described => ?_).congr fun b => breaks_iff.symm
  cases kind with
  | fetch => exact fetchOf_loading
  | submit => exact submitOf_loading
  | jump => exact (requiredText_loading _ _).bind_pure
  | branch =>
    refine branchOf_loading fun inner given => ?_
    obtain ⟨_, _, parts, _, _, mapping⟩ := described
    -- The step inside a branch is smaller than the branch.
    have := sizeOf_field_lt parts mapping (Fields.get?_of_given? given)
    exact ofValue_loading inner
termination_by sizeOf v

end Step
end Step

section Target

inductive Target.Breaks (fields : Fields) (b : Breakdown) : Prop
  | name (h : fields.Unwritten ["name"] b)
  | step {name : String} (named : fields.Has "name" name)
      (h : ListBreaks (fun _ => Step.ofValue) Step.Breaks (.actions name) (fields.get? "actions") b)

theorem Target.ofFields_loading : Loading (ofFields fields) (Breaks fields) := by
  have name : Loading (targetName fields) _ := requiredText_loading "name" _
  have steps (name) : Loading (stepsOf name fields) _ :=
    items_bind_loading (fun _ => Step.ofValue_loading) (.actions name) _
  refine (name.bind fun name _ => (steps name).bind_pure).congr fun b => ?_
  simp only [targetName, requiredText_eq_ok]
  constructor
  · rintro (h | ⟨name, named, h⟩)
    · exact .name h
    · exact .step named h
  · rintro (h | ⟨named, h⟩)
    · exact .inl h
    · exact .inr ⟨_, named, h⟩

/-- Descriptions of targets break down at one before which all are read, and with names that differ.
-/
def TargetsBreak (seen : List String) (i : Nat) (vs : List Value) (b : Breakdown) : Prop :=
  ∃ before v after ts fields, vs = before ++ v :: after ∧ targetsOf seen i before = .ok ts ∧
    v.fields? = some fields ∧ Target.Breaks fields b

theorem freshName_loading (seen : List String) (t : Target) :
    Loading (freshName seen t) fun _ => False := by
  rw [freshName]
  split
  · exact .script (by simp [ScriptError.ofLoading, ScriptError.kind])
  · exact .ok _

theorem targetsOf_loading (seen : List String) (i : Nat) (vs : List Value) :
    Loading (targetsOf seen i vs) (TargetsBreak seen i vs) := by
  induction vs generalizing seen i with
  | nil => exact (Loading.ok _).congr fun b => by simp [TargetsBreak]
  | cons v rest ih =>
    have mapping := v.fields_loading (.target i)
    have target (fields : Fields) : Loading (Target.ofFields fields) _ := Target.ofFields_loading
    have others (key) := ih (key :: seen) (i + 1)
    refine (mapping.bind_of_not fun fields _ => (target fields).bind fun t _ =>
      (freshName_loading seen t).bind_of_not fun key _ => (others key).bind_pure).congr fun b => ?_
    constructor
    · rintro ⟨fields, hf, h | ⟨t, ht, key, hk, before, w, after, ts, wf, rfl, hts, mapping, h⟩⟩
      · exact ⟨[], v, rest, [], fields, rfl, rfl, Value.fields_eq_ok.1 hf, h⟩
      · refine ⟨v :: before, w, after, t :: ts, wf, rfl, ?_, mapping, h⟩
        exact Except.bind_eq_ok.2 ⟨fields, hf, Except.bind_eq_ok.2 ⟨t, ht,
          Except.bind_eq_ok.2 ⟨key, hk, Except.bind_eq_ok.2 ⟨ts, hts, rfl⟩⟩⟩⟩
    · rintro ⟨before, w, after, ts, wf, hl, hts, mapping, h⟩
      cases before with
      | nil =>
        cases hl
        exact ⟨wf, Value.fields_eq_ok.2 mapping, .inl h⟩
      | cons u before =>
        cases hl
        obtain ⟨fields, hf, hts⟩ := Except.bind_eq_ok.1 hts
        obtain ⟨t, ht, hts⟩ := Except.bind_eq_ok.1 hts
        obtain ⟨key, hk, hts⟩ := Except.bind_eq_ok.1 hts
        obtain ⟨ts', hts, _⟩ := Except.bind_eq_ok.1 hts
        exact ⟨fields, hf, .inr ⟨t, ht, key, hk, before, w, after, ts', wf, rfl, hts, mapping, h⟩⟩

end Target

namespace Script

/-- The entries of a script's description, which may be wrapped. -/
def Root (v : Value) (root : Fields) : Prop :=
  ∃ outer, v.fields? = some outer ∧ ((outer.get? "script").getD (.map outer)).fields? = some root

inductive Breaks (v : Value) (b : Breakdown) : Prop
  | entry {root : Fields} (rooted : Root v root)
      (h : root.Unwritten ["default_target", "defaultTarget"] b)
  | target {root : Fields} {name? : Option String} {targets : List Value} (rooted : Root v root)
      (read : root.text? ["default_target", "defaultTarget"] = .ok name?)
      (listed : Value.items .targets (root.get? "targets") = .ok targets)
      (h : TargetsBreak [] 0 targets b)

theorem ofValue_loading (v : Value) : Loading (ofValue v) (Breaks v) := by
  have outer := v.fields_loading .document
  have inner (outer : Fields) :=
    ((outer.get? "script").getD (.map outer)).fields_loading .script
  have entry (root : Fields) := root.text?_loading ["default_target", "defaultTarget"]
  have listed (root : Fields) := Value.items_loading .targets (root.get? "targets")
  refine (outer.bind_of_not fun outer _ => (inner outer).bind_of_not fun root _ =>
    (entry root).bind fun name? _ => (listed root).bind_of_not fun targets _ =>
      (targetsOf_loading [] 0 targets).bind_never fun ts => ?_).congr fun b => ?_
  · split
    · exact .raise _
    · exact .ok _
  · simp only [Value.fields_eq_ok]
    constructor
    · rintro ⟨outer, ho, root, hr, h | ⟨name?, read, targets, listed, h⟩⟩
      · exact .entry ⟨outer, ho, hr⟩ h
      · exact .target ⟨outer, ho, hr⟩ read listed h
    · rintro (⟨⟨outer, ho, hr⟩, h⟩ | ⟨⟨outer, ho, hr⟩, read, listed, h⟩)
      · exact ⟨outer, ho, _, hr, .inl h⟩
      · exact ⟨outer, ho, _, hr, .inr ⟨_, read, _, listed, h⟩⟩

end Script
end WebScript
