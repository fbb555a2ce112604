import WebScript.Proofs.Script.Members

namespace WebScript

open Fields

variable {v w : Value} {fields fields' : Fields} {kind : StepKind}

section Readers

/-- Mappings that hold the same in some fields of one name and in some of two. -/
structure Fields.Agree (keys : List String) (pairs : List (String × String))
    (fields fields' : Fields) : Prop where
  value : ∀ key ∈ keys, fields.value key = fields'.value key
  choice : ∀ names ∈ pairs, fields.choice names = fields'.choice names

namespace Fields.Agree

variable {keys : List String} {pairs : List (String × String)}

theorem trimmed (differ : KeysDiffer fields) (apart : Apart pairs)
    (single : ∀ key ∈ keys, ∀ names ∈ pairs, names.2 ≠ key) :
    Agree keys pairs (fields.trimmed pairs) fields where
  value := fun key hk => value_trimmed differ (single key hk)
  choice := fun _ => choice_trimmed differ apart

theorem of_atEntry {R : Value → Value → Prop} {key : String} (h : fields.AtEntry key R fields')
    (other : key ∉ keys) (apart : ∀ names ∈ pairs, names.1 ≠ key ∧ names.2 ≠ key) :
    Agree keys pairs fields fields' where
  value := fun name hn => h.value_of_ne (ne_of_mem_of_not_mem hn other)
  choice := fun names hn => by
    obtain ⟨first, second⟩ := apart names hn
    rw [choice_eq, choice_eq, h.get?_of_ne first, h.get?_of_ne second]

theorem text? (h : Agree keys pairs fields fields') (names : List String) (hn : names ⊆ keys) :
    fields.text? names = fields'.text? names :=
  text?_congr fun key hk => h.value key (hn hk)

end Fields.Agree

/-- The fields of a rule of which there are two names and the first that is there counts. -/
def Rule.pairs : List (String × String) :=
  [("multiple", "isMultipleValue")]

def Rule.keys : List String :=
  ["name", "regex", "xpath", "attr", "expected_value", "expectedValue"]

def Override.keys : List String :=
  ["name", "value", "text"]

def Exchange.codes : String × String :=
  ("expected_status", "expectedHttpStatusCodes")

def FormChoice.indices : String × String :=
  ("form_index", "formIndex")

/-- The fields of a kind of step of which there are two names and the first that is there counts. -/
def StepKind.pairs : StepKind → List (String × String)
  | .fetch => [Exchange.codes]
  | .submit => [Exchange.codes, FormChoice.indices]
  | .branch | .jump => []

/-- The other fields of a kind of step, apart from its lists of rules and of overrides. -/
def StepKind.keys : StepKind → List String
  | .fetch => ["url", "options"]
  | .submit => ["client_id", "clientID", "form_name", "formName", "action", "options"]
  | .branch => ["property", "value", "action"]
  | .jump => ["target"]

theorem StepKind.pairs_apart (kind : StepKind) : Apart kind.pairs := by
  cases kind <;> decide

theorem StepKind.keys_apart (kind : StepKind) :
    ∀ key ∈ kind.keys, ∀ names ∈ kind.pairs, names.2 ≠ key := by
  cases kind <;> decide

theorem StepKind.lists_apart (kind : StepKind) : ∀ key ∈ ["outputs", "values"],
    key ∉ kind.keys ∧ ∀ names ∈ kind.pairs, names.1 ≠ key ∧ names.2 ≠ key := by
  cases kind <;> decide

/-- The lists of rules and of overrides are fields of their own. -/
theorem StepKind.agree_of_list {R : Value → Value → Prop} {key : String} (kind : StepKind)
    (list : key ∈ ["outputs", "values"]) (h : fields.AtEntry key R fields') :
    Agree kind.keys kind.pairs fields fields' := by
  obtain ⟨other, apart⟩ := kind.lists_apart key list
  exact .of_atEntry h other apart

theorem Rule.flag_eq (fields : Fields) :
    ((fields.first? ["multiple", "isMultipleValue"]).getD (.bool false)).flag =
      (fields.choice ("multiple", "isMultipleValue")).flag := by
  rw [choice]
  cases fields.first? ["multiple", "isMultipleValue"] <;> rfl

theorem ofMapping_congr {α : Type} {part : Part} {read : Fields → Except Failure α}
    (same : read fields = read fields') :
    ((Value.map fields).fields part >>= read) = ((Value.map fields').fields part >>= read) :=
  same

theorem Rule.ofValue_congr (h : Agree keys pairs fields fields') (index : Nat) :
    ofValue index (.map fields) = ofValue index (.map fields') := by
  have name : itemName (.output index) fields = itemName (.output index) fields' :=
    requiredText_congr (h.value "name" (by decide))
  have flag := congrArg Value.flag (h.choice _ List.mem_cons_self)
  rw [← flag_eq, ← flag_eq] at flag
  apply ofMapping_congr
  rw [name, h.text? ["regex"] (by decide), h.text? ["xpath"] (by decide),
    h.text? ["attr"] (by decide), h.text? ["expected_value", "expectedValue"] (by decide), flag]

theorem Override.ofValue_congr (h : Agree keys [] fields fields') (index : Nat) :
    ofValue index (.map fields) = ofValue index (.map fields') := by
  have name : itemName (.value index) fields = itemName (.value index) fields' :=
    requiredText_congr (h.value "name" (by decide))
  apply ofMapping_congr
  rw [name, h.text? ["value"] (by decide), h.text? ["text"] (by decide)]

theorem rulesOf_congr (h : fields.value "outputs" = fields'.value "outputs") :
    rulesOf fields = rulesOf fields' := by
  rw [rulesOf, rulesOf, Value.items_congr h]

theorem overridesOf_congr (h : fields.value "values" = fields'.value "values") :
    overridesOf fields = overridesOf fields' := by
  rw [overridesOf, overridesOf, Value.items_congr h]

theorem optionsOf_congr (h : fields.value "options" = fields'.value "options") :
    optionsOf fields = optionsOf fields' := by
  rw [value, value] at h
  rw [optionsOf, optionsOf, h]

theorem Exchange.ofFields_congr (status : fields.choice codes = fields'.choice codes)
    (options : fields.value "options" = fields'.value "options")
    (rules : rulesOf fields = rulesOf fields') :
    ofFields fields = ofFields fields' := by
  have of_choice (fields : Fields) : ofFields fields = do
      let rules ← rulesOf fields
      let accepted ← statusCodes (fields.choice codes)
      let options ← optionsOf fields
      return { rules, accepted, options } := rfl
  rw [of_choice, of_choice, rules, status, optionsOf_congr options]

theorem formIndex_congr (h : fields.choice FormChoice.indices = fields'.choice FormChoice.indices) :
    formIndex fields = formIndex fields' := by
  have same : (fields.first? ["form_index", "formIndex"]).getD .null =
      (fields'.first? ["form_index", "formIndex"]).getD .null := h
  rw [formIndex, formIndex]
  generalize fields.first? ["form_index", "formIndex"] = index at same ⊢
  generalize fields'.first? ["form_index", "formIndex"] = index' at same ⊢
  -- A missing index and a null one are read alike.
  cases index with
  | none =>
    cases index' with
    | none => rfl
    | some v =>
      cases same
      rfl
  | some v =>
    cases index' with
    | none =>
      cases same
      rfl
    | some w =>
      cases same
      rfl

theorem FormChoice.ofFields_congr
    (h : Agree StepKind.submit.keys StepKind.submit.pairs fields fields') :
    ofFields fields = ofFields fields' := by
  have index : formIndex fields = formIndex fields' :=
    formIndex_congr (h.choice indices (by decide))
  rw [ofFields, ofFields, index, h.text? ["client_id", "clientID"] (by decide),
    h.text? ["form_name", "formName"] (by decide), h.text? ["action"] (by decide)]

theorem Step.branchOf_congr (h : Agree StepKind.branch.keys [] fields fields') :
    branchOf fields = branchOf fields' := by
  have property : required "branch" "property" fields = required "branch" "property" fields' :=
    requiredText_congr (h.value "property" (by decide))
  have action : fields.given? ["action"] = fields'.given? ["action"] :=
    given?_congr (List.forall_mem_singleton.2 (h.value "action" (by decide)))
  rw [branchOf, branchOf, property, h.text? ["value"] (by decide), action]

theorem StepKind.step_congr (h : Agree kind.keys kind.pairs fields fields')
    (rules : rulesOf fields = rulesOf fields')
    (overrides : overridesOf fields = overridesOf fields') :
    kind.step fields = kind.step fields' := by
  cases kind with
  | fetch =>
    have url : required "fetch" "url" fields = required "fetch" "url" fields' :=
      requiredText_congr (h.value "url" (by decide))
    have exchange : Exchange.ofFields fields = Exchange.ofFields fields' :=
      Exchange.ofFields_congr (h.choice _ (by decide)) (h.value "options" (by decide)) rules
    rw [step, step, fetchOf, fetchOf, url, exchange]
  | submit =>
    have exchange : Exchange.ofFields fields = Exchange.ofFields fields' :=
      Exchange.ofFields_congr (h.choice _ (by decide)) (h.value "options" (by decide)) rules
    rw [step, step, submitOf, submitOf, overrides, FormChoice.ofFields_congr h, exchange]
  | branch => exact Step.branchOf_congr h
  | jump =>
    have target : required "jump" "target" fields = required "jump" "target" fields' :=
      requiredText_congr (h.value "target" (by decide))
    rw [step, step, jumpOf, jumpOf, target]

end Readers

section Steps

inductive Value.Replaces (fields fields' : Fields) : Value → Value → Prop
  | intro : Replaces fields fields' (.map fields) (.map fields')

theorem Rule.ofValue_trimmed (differ : KeysDiffer fields)
    (h : Value.Replaces fields (fields.trimmed pairs) v w)
    (index : Nat) : ofValue index w = ofValue index v := by
  cases h with
  | intro => exact ofValue_congr (.trimmed differ (by decide) (by decide)) index

theorem Override.ofValue_trimmed (differ : KeysDiffer fields)
    (h : Value.Replaces fields (fields.trimmed []) v w)
    (index : Nat) : ofValue index w = ofValue index v := by
  cases h with
  | intro => exact ofValue_congr (.trimmed differ (by decide) (by decide)) index

/-- Lists under a name that differ in one item at most are read to the same result where the item
is. -/
theorem itemsOf_eq {α : Type} {R : Value → Value → Prop} {key : String}
    {read : Nat → Value → Except Failure α}
    (part : Part) (h : fields.AtEntry key (Value.AtItem R) fields')
    (each : ∀ v w, R v w → ∀ i, read i w = read i v) :
    (Value.items part (fields.get? key) >>= eachItem read 0) =
      (Value.items part (fields'.get? key) >>= eachItem read 0) := by
  apply EndsAlike.eq
  apply itemsOf_endsAlike (fun _ => rfl) part h
  exact fun v w related i => .of_eq (each v w related i).symm

namespace Step

/-- A mapping in the description of a step is replaced by another: its parameters, a rule or an
override. Some of the fields that are read there have two names of which the first that is there
counts. -/
inductive Replaces (fields fields' : Fields) : List (String × String) → Value → Value → Prop
  | parameters {v w : Value} {name : String} {kind : StepKind}
      (hv : Written v (.text name) (.map fields))
      (hw : Written w (.text name) (.map fields')) (named : Text.lower name ∈ kind.names) :
      Replaces fields fields' kind.pairs v w
  | rule {v w : Value} {name : String} {kind : StepKind} {around around' : Fields}
      (hv : Written v (.text name) (.map around)) (hw : Written w (.text name) (.map around'))
      (named : Text.lower name ∈ kind.names)
      (h : around.AtEntry "outputs" (Value.AtItem (Value.Replaces fields fields')) around') :
      Replaces fields fields' Rule.pairs v w
  | override {v w : Value} {name : String} {kind : StepKind} {around around' : Fields}
      (hv : Written v (.text name) (.map around)) (hw : Written w (.text name) (.map around'))
      (named : Text.lower name ∈ kind.names)
      (h : around.AtEntry "values" (Value.AtItem (Value.Replaces fields fields')) around') :
      Replaces fields fields' [] v w

variable {pairs : List (String × String)}

theorem Replaces.ne_null (v w : Value) (h : Replaces fields fields' pairs v w) :
    v ≠ .null ∧ w ≠ .null := by
  cases h with
  | parameters hv hw => exact ⟨hv.ne_null, hw.ne_null⟩
  | rule hv hw => exact ⟨hv.ne_null, hw.ne_null⟩
  | override hv hw => exact ⟨hv.ne_null, hw.ne_null⟩

theorem Replaces.ofValue_trimmed (differ : KeysDiffer fields)
    (h : Replaces fields (fields.trimmed pairs) pairs v w) : ofValue v = ofValue w := by
  cases h with
  | @parameters v w name kind hv hw named =>
    rw [ofValue_of_written hv named, ofValue_of_written hw named]
    have agree : Agree kind.keys kind.pairs (fields.trimmed kind.pairs) fields :=
      .trimmed differ kind.pairs_apart kind.keys_apart
    have lists (key : String) (hk : key ∈ ["outputs", "values"]) :
        (fields.trimmed kind.pairs).value key = fields.value key :=
      value_trimmed differ fun names hn => ((kind.lists_apart key hk).2 names hn).2
    have rules := rulesOf_congr (lists "outputs" (by decide))
    have overrides := overridesOf_congr (lists "values" (by decide))
    exact (StepKind.step_congr agree rules overrides).symm
  | @rule v w name kind around around' hv hw named h =>
    rw [ofValue_of_written hv named, ofValue_of_written hw named]
    have rules : rulesOf around = rulesOf around' :=
      itemsOf_eq .outputs h fun v w => Rule.ofValue_trimmed differ
    have overrides := overridesOf_congr (h.value_of_ne (by decide))
    exact StepKind.step_congr (kind.agree_of_list (by decide) h) rules overrides
  | @override v w name kind around around' hv hw named h =>
    rw [ofValue_of_written hv named, ofValue_of_written hw named]
    have rules := rulesOf_congr (h.value_of_ne (by decide))
    have overrides : overridesOf around = overridesOf around' :=
      itemsOf_eq .values h fun v w => Override.ofValue_trimmed differ
    exact StepKind.step_congr (kind.agree_of_list (by decide) h) rules overrides

theorem Inside.ofValue_trimmed (differ : KeysDiffer fields)
    (h : Inside (Replaces fields (fields.trimmed pairs) pairs) v w) : ofValue v = ofValue w := by
  apply EndsAlike.eq
  apply h.ofValue_endsAlike (fun _ => rfl) Replaces.ne_null
  exact fun v w replaced => .of_eq (replaced.ofValue_trimmed differ)

/-- Leaving out the null members of the parameters of a step, of a rule or of an override, at any
depth of branches, makes no difference to the step that is read, unless a null under the first name
of a field hides what stands under the other: of the status codes, of the index of a form or of the
flag of a rule. Then the step is read as if what is hidden were not there, and that is in force once
the nulls are left out. Of texts with two names a null hides nothing. -/
theorem ofValue_withoutNulls (differ : KeysDiffer fields)
    (h : Inside (Replaces fields fields.withoutNulls pairs) v w) :
    ((∀ names ∈ pairs, ¬fields.Hides names) → ofValue w = ofValue v) ∧
    (∀ u, Inside (Replaces fields (fields.trimmed pairs) pairs) v u → ofValue u = ofValue v) ∧
    (∀ names ∈ pairs, fields.Hides names → fields.choice names = .null ∧
      fields.withoutNulls.choice names = fields.value names.2) ∧
    ∀ first other, fields.value first = .null →
      fields.text? [first, other] = fields.text? [other] := by
  refine ⟨fun nothing => ?_, fun u trimmed => ?_, fun names _ hides => hides.choice differ, ?_⟩
  · rw [← (trimmed_eq_withoutNulls differ).2 nothing] at h
    exact (h.ofValue_trimmed differ).symm
  · exact (trimmed.ofValue_trimmed differ).symm
  · exact fun first other => text?_of_null

def entry (kind : String) (fields : Fields) : Value :=
  .map [(.text kind, .map fields)]

/-- Parameters of a fetch, with a null in front of its status codes. -/
def hiddenCodes : Fields :=
  [(.text "url", .text "http://a"), (.text "expected_status", .null),
    (.text "expectedHttpStatusCodes", .list [.int 404])]

/-- Parameters of a fetch, with a null for codes that are not there under the other name either. -/
def nullCodes : Fields :=
  [(.text "url", .text "http://a"), (.text "expected_status", .null)]

/-- Parameters of a submit, with a null in front of the index of its form. -/
def hiddenIndex : Fields :=
  [(.text "form_index", .null), (.text "formIndex", .int 3)]

def hiddenFlag : Fields :=
  [(.text "name", .text "x"), (.text "multiple", .null), (.text "isMultipleValue", .bool true)]

def withRule (rule : Fields) : Fields :=
  [(.text "url", .text "http://a"), (.text "outputs", .list [.map rule])]

theorem fetch_replaces (fields fields' : Fields) :
    Inside (Replaces fields fields' StepKind.fetch.pairs) (entry "fetch" fields)
    (entry "fetch" fields') :=
  .here (.parameters (.entry rfl) (.entry rfl) (by decide))

/-- A null alone makes no difference; where it hides codes, these are what makes none. -/
theorem nullCodes_left_out :
    ofValue (entry "fetch" [(.text "url", .text "http://a")]) = ofValue (entry "fetch" nullCodes) ∧
    ofValue (entry "fetch" [(.text "url", .text "http://a")]) =
      ofValue (entry "fetch" hiddenCodes) ∧
    hiddenCodes.choice Exchange.codes = .null ∧
    hiddenCodes.withoutNulls.choice Exchange.codes = .list [.int 404] ∧
    hiddenCodes.text? ["expected_status", "expectedHttpStatusCodes"] =
      hiddenCodes.text? ["expectedHttpStatusCodes"] := by
  have hides : hiddenCodes.Hides Exchange.codes := ⟨rfl, nofun⟩
  have nothing : ∀ names ∈ StepKind.fetch.pairs, ¬nullCodes.Hides names := by
    intro names hn hides
    cases List.mem_singleton.1 hn
    exact hides.2 rfl
  obtain ⟨same, -⟩ :=
    ofValue_withoutNulls (by decide) (fetch_replaces nullCodes nullCodes.withoutNulls)
  obtain ⟨-, trimmed, hidden, texts⟩ :=
    ofValue_withoutNulls (by decide) (fetch_replaces hiddenCodes hiddenCodes.withoutNulls)
  obtain ⟨null, shown⟩ := hidden _ List.mem_cons_self hides
  exact ⟨same nothing, trimmed _ (fetch_replaces _ _), null, shown, texts _ _ rfl⟩

/-- A null in front of the status codes, of the index of a form or of the flag of a rule is not as
good as none. -/
theorem null_hides :
    ofValue (entry "fetch" hiddenCodes) = .ok (.fetch "http://a" { accepted := [200] }) ∧
    ofValue (entry "fetch" hiddenCodes.withoutNulls) =
      .ok (.fetch "http://a" { accepted := [404] }) ∧
    ofValue (entry "submit" hiddenIndex) = .ok (.submit {} [] {}) ∧
    ofValue (entry "submit" hiddenIndex.withoutNulls) = .ok (.submit { index := some 3 } [] {}) ∧
    ofValue (entry "fetch" (withRule hiddenFlag)) =
      .ok (.fetch "http://a" { rules := [{ name := "x" }] }) ∧
    ofValue (entry "fetch" (withRule hiddenFlag.withoutNulls)) =
      .ok (.fetch "http://a" { rules := [{ name := "x", multiple := true }] }) := by
  decide +kernel

end Step

end Steps
end WebScript
