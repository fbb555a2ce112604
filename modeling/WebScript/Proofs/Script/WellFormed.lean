import WebScript.Proofs.Script.Loading
import WebScript.Proofs.Script.Names

namespace WebScript

variable {α : Type} {v : Value} {fields : Fields} {step : Step} {script : Script}

/-- A step has an address, a property or a target, as its kind needs it, and names for its rules and
overrides; and so has the step inside a branch. -/
inductive Step.Filled : Step → Prop
  | fetch {url : String} {x : Exchange} (addressed : url ≠ "")
      (rules : ∀ rule ∈ x.rules, rule.name ≠ "") : Filled (.fetch url x)
  | submit {choice : FormChoice} {overrides : List Override} {x : Exchange}
      (fields : ∀ o ∈ overrides, o.name ≠ "") (rules : ∀ rule ∈ x.rules, rule.name ≠ "") :
      Filled (.submit choice overrides x)
  | branch {property value : String} {inner : Step} (compared : property ≠ "")
      (inside : Filled inner) : Filled (.branch property value inner)
  | jump {target : String} (named : target ≠ "") : Filled (.jump target)

structure Script.WellFormed (script : Script) : Prop where
  nonempty : script.targets ≠ []
  named : script.Named
  namesDiffer : script.NamesDiffer
  filled : ∀ t ∈ script.targets, ∀ step ∈ t.steps, step.Filled

theorem exists_of_mem_eachItem {read : Nat → Value → Except Failure α} {i : Nat} {vs : List Value}
    {as : List α} (h : eachItem read i vs = .ok as) {a : α} (hm : a ∈ as) :
    ∃ j, ∃ v ∈ vs, read j v = .ok a := by
  induction vs generalizing i as with
  | nil =>
    cases h
    cases hm
  | cons v rest ih =>
    obtain ⟨first, hfirst, h⟩ := Except.bind_eq_ok.1 h
    obtain ⟨others, hothers, h⟩ := Except.bind_eq_ok.1 h
    cases h
    rcases List.mem_cons.1 hm with rfl | hm
    · exact ⟨i, v, List.mem_cons_self, hfirst⟩
    · obtain ⟨j, w, hw, made⟩ := ih hothers hm
      exact ⟨j, w, List.mem_cons_of_mem _ hw, made⟩

theorem Rule.ofValue_name {index : Nat} {rule : Rule} (h : ofValue index v = .ok rule) :
    rule.name ≠ "" := by
  obtain ⟨_, _, h⟩ := Except.bind_eq_ok.1 h
  obtain ⟨name, hname, h⟩ := Except.bind_eq_ok.1 h
  have named : name ≠ "" := requiredText_ne_empty hname
  obtain ⟨_, _, h⟩ := Except.bind_eq_ok.1 h
  obtain ⟨_, _, h⟩ := Except.bind_eq_ok.1 h
  obtain ⟨_, _, h⟩ := Except.bind_eq_ok.1 h
  obtain ⟨_, _, h⟩ := Except.bind_eq_ok.1 h
  cases h
  exact named

theorem Override.ofValue_name {index : Nat} {o : Override} (h : ofValue index v = .ok o) :
    o.name ≠ "" := by
  obtain ⟨_, _, named, _⟩ := ofValue_eq_ok.1 h
  exact named.2

theorem Exchange.ofFields_rules {x : Exchange} (h : ofFields fields = .ok x) :
    ∀ rule ∈ x.rules, rule.name ≠ "" := by
  obtain ⟨rules, hrules, h⟩ := Except.bind_eq_ok.1 h
  obtain ⟨_, _, h⟩ := Except.bind_eq_ok.1 h
  obtain ⟨_, _, h⟩ := Except.bind_eq_ok.1 h
  cases h
  obtain ⟨_, _, read⟩ := Except.bind_eq_ok.1 hrules
  intro rule hm
  obtain ⟨_, _, _, made⟩ := exists_of_mem_eachItem read hm
  exact Rule.ofValue_name made

theorem overridesOf_names {overrides : List Override} (h : overridesOf fields = .ok overrides) :
    ∀ o ∈ overrides, o.name ≠ "" := by
  obtain ⟨_, _, read⟩ := Except.bind_eq_ok.1 h
  intro o hm
  obtain ⟨_, _, _, made⟩ := exists_of_mem_eachItem read hm
  exact Override.ofValue_name made

theorem fetchOf_filled (h : fetchOf fields = .ok step) : step.Filled := by
  obtain ⟨url, hurl, h⟩ := Except.bind_eq_ok.1 h
  obtain ⟨x, hx, h⟩ := Except.bind_eq_ok.1 h
  cases h
  exact .fetch (requiredText_ne_empty hurl) (Exchange.ofFields_rules hx)

theorem submitOf_eq_ok (h : submitOf fields = .ok step) : ∃ overrides choice x,
    overridesOf fields = .ok overrides ∧ FormChoice.ofFields fields = .ok choice ∧
      Exchange.ofFields fields = .ok x ∧ step = .submit choice overrides x := by
  obtain ⟨overrides, listed, h⟩ := Except.bind_eq_ok.1 h
  obtain ⟨choice, chosen, h⟩ := Except.bind_eq_ok.1 h
  obtain ⟨x, made, h⟩ := Except.bind_eq_ok.1 h
  cases h
  exact ⟨overrides, choice, x, listed, chosen, made, rfl⟩

theorem submitOf_filled (h : submitOf fields = .ok step) : step.Filled := by
  obtain ⟨overrides, choice, x, listed, -, made, rfl⟩ := submitOf_eq_ok h
  exact .submit (overridesOf_names listed) (Exchange.ofFields_rules made)

theorem jumpOf_filled (h : jumpOf fields = .ok step) : step.Filled := by
  obtain ⟨target, htarget, h⟩ := Except.bind_eq_ok.1 h
  cases h
  exact .jump (requiredText_ne_empty htarget)

theorem branchOf_filled (h : branchOf fields = .ok step)
    (inside : ∀ v inner, fields.given? ["action"] = some v → Step.ofValue v = .ok inner →
      inner.Filled) : step.Filled := by
  rw [branchOf] at h
  split at h
  · cases h
  · next v given =>
    obtain ⟨property, hproperty, h⟩ := Except.bind_eq_ok.1 h
    obtain ⟨_, _, h⟩ := Except.bind_eq_ok.1 h
    obtain ⟨inner, hinner, h⟩ := Except.bind_eq_ok.1 h
    cases h
    exact .branch (requiredText_ne_empty hproperty) (inside v inner given hinner)

theorem Describes.unique {kind kind' : StepKind} {fields' : Fields} (h : Describes v kind fields)
    (h' : Describes v kind' fields') : kind = kind' ∧ fields = fields' := by
  obtain ⟨key, parameters, parts, -, known, mapping⟩ := h
  obtain ⟨key', parameters', parts', -, known', mapping'⟩ := h'
  cases parts.symm.trans parts'
  cases known.symm.trans known'
  cases mapping.symm.trans mapping'
  exact ⟨rfl, rfl⟩

namespace Step

theorem exists_of_ofValue_eq_ok (h : ofValue v = .ok step) :
    ∃ kind fields, Describes v kind fields ∧ kind.step fields = .ok step := by
  cases parts : stepParts? v with
  | none =>
    rw [ofValue_of_none parts] at h
    exact absurd h (Value.raiseShowing_ne_ok step)
  | some p =>
    obtain ⟨key, parameters⟩ := p
    rw [ofValue_of_some parts] at h
    obtain ⟨name, written, h⟩ := Except.bind_eq_ok.1 h
    obtain ⟨writable, rfl⟩ := Value.written_eq_ok.1 written
    split at h
    · cases h
    · next kind known =>
      obtain ⟨fields, mapping, h⟩ := Except.bind_eq_ok.1 h
      have mapping := Value.fields_eq_ok.1 mapping
      exact ⟨kind, fields, ⟨key, parameters, parts, writable, known, mapping⟩, h⟩

theorem ofValue_filled (v : Value) {step : Step} (h : ofValue v = .ok step) : step.Filled := by
  obtain ⟨kind, fields, described, h⟩ := exists_of_ofValue_eq_ok h
  cases kind with
  | fetch => exact fetchOf_filled h
  | submit => exact submitOf_filled h
  | jump => exact jumpOf_filled h
  | branch =>
    apply branchOf_filled h
    intro w inner given made
    obtain ⟨_, _, parts, _, _, mapping⟩ := described
    -- The step inside a branch is smaller than the branch.
    have := sizeOf_field_lt parts mapping (Fields.get?_of_given? given)
    exact ofValue_filled w made
termination_by sizeOf v

end Step

theorem Target.ofFields_filled {t : Target} (h : ofFields fields = .ok t) :
    ∀ step ∈ t.steps, step.Filled := by
  obtain ⟨_, _, h⟩ := Except.bind_eq_ok.1 h
  obtain ⟨steps, hsteps, h⟩ := Except.bind_eq_ok.1 h
  cases h
  obtain ⟨_, _, read⟩ := Except.bind_eq_ok.1 hsteps
  intro step hm
  obtain ⟨_, w, _, made⟩ := exists_of_mem_eachItem read hm
  exact Step.ofValue_filled w made

theorem exists_of_mem_targetsOf {seen : List String} {i : Nat} {vs : List Value} {ts : List Target}
    (h : targetsOf seen i vs = .ok ts) {t : Target} (hm : t ∈ ts) :
    ∃ fields, Target.ofFields fields = .ok t := by
  induction vs generalizing seen i ts with
  | nil =>
    cases h
    cases hm
  | cons v rest ih =>
    obtain ⟨fields, _, h⟩ := Except.bind_eq_ok.1 h
    obtain ⟨first, hfirst, h⟩ := Except.bind_eq_ok.1 h
    obtain ⟨_, _, h⟩ := Except.bind_eq_ok.1 h
    obtain ⟨others, hothers, h⟩ := Except.bind_eq_ok.1 h
    cases h
    rcases List.mem_cons.1 hm with rfl | hm
    · exact ⟨fields, hfirst⟩
    · exact ih hothers hm

/-- What loading makes of data is well formed. -/
theorem Script.ofValue_wellFormed (h : ofValue v = .ok script) : script.WellFormed := by
  obtain ⟨named, namesDiffer⟩ := ofValue_names h
  obtain ⟨_, _, h⟩ := Except.bind_eq_ok.1 h
  obtain ⟨_, _, h⟩ := Except.bind_eq_ok.1 h
  obtain ⟨_, _, h⟩ := Except.bind_eq_ok.1 h
  obtain ⟨_, _, h⟩ := Except.bind_eq_ok.1 h
  obtain ⟨targets, htargets, h⟩ := Except.bind_eq_ok.1 h
  dsimp only at h
  split at h
  · cases h
  · next some =>
    cases h
    have nonempty : targets ≠ [] := by simpa using some
    refine ⟨nonempty, named, namesDiffer, ?_⟩
    intro t ht
    obtain ⟨fields, made⟩ := exists_of_mem_targetsOf htargets ht
    exact Target.ofFields_filled made

end WebScript
