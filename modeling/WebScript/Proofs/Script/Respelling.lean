import Mathlib.Logic.Relation
import WebScript.Proofs.Script.Places

namespace WebScript

variable {v w key key' : Value} {name name' : String} {root : Fields}

/-- Failures of one class: errors of a script of one kind, or the same breakdown. -/
inductive Failure.SameClass : Failure → Failure → Prop
  | script {e e' : ScriptError} (h : e.kind = e'.kind) : SameClass (.script e) (.script e')
  | breakdown {b : Breakdown} : SameClass (.breakdown b) (.breakdown b)

theorem Failure.SameClass.refl (f : Failure) : f.SameClass f := by
  cases f with
  | script e => exact .script rfl
  | breakdown b => exact .breakdown

theorem Failure.SameClass.trans (f g h : Failure) (hf : f.SameClass g) (hg : g.SameClass h) :
    f.SameClass h := by
  cases hf with
  | script same =>
    cases hg with
    | script same' => exact .script (same.trans same')
  | breakdown => exact hg

/-- Keys that name a kind of step alike: the same value, one text in two letter cases, or the two
names of a kind. -/
inductive SameKind : Value → Value → Prop
  | same {key : Value} : SameKind key key
  | letterCase {name name' : String} (h : Text.lower name = Text.lower name') :
      SameKind (.text name) (.text name')
  | synonym {kind : StepKind} {name name' : String} (h : Text.lower name ∈ kind.names)
      (h' : Text.lower name' ∈ kind.names) : SameKind (.text name) (.text name')

theorem SameKind.eq_or_texts (h : SameKind key key') : key = key' ∨ ∃ name name',
    key = .text name ∧ key' = .text name' ∧ StepKind.ofName? name = StepKind.ofName? name' := by
  cases h with
  | same => exact .inl rfl
  | letterCase h => exact .inr ⟨_, _, rfl, rfl, by rw [StepKind.ofName?, StepKind.ofName?, h]⟩
  | synonym h h' =>
    refine .inr ⟨_, _, rfl, rfl, ?_⟩
    rw [StepKind.ofName?_eq_some.2 h, StepKind.ofName?_eq_some.2 h']

theorem fields_endsAlike (v : Value) (part part' : Part) :
    EndsAlike Failure.SameClass (v.fields part) (v.fields part') := by
  rw [Value.fields, Value.fields]
  split
  · exact .ok
  · exact .error (.script rfl)

namespace Step

/-- A step is written anew, with the same parameters and a key that names the same kind. -/
inductive Respelled : Value → Value → Prop
  | intro {v w key key' parameters : Value} (hv : Written v key parameters)
      (hw : Written w key' parameters) (named : SameKind key key') : Respelled v w

theorem Respelled.ofValue_endsAlike (h : Respelled v w) :
    EndsAlike Failure.SameClass (ofValue v) (ofValue w) := by
  cases h with
  | @intro key key' parameters hv hw named =>
    rw [ofValue_of_some hv.stepParts?, ofValue_of_some hw.stepParts?]
    rcases named.eq_or_texts with rfl | ⟨name, name', rfl, rfl, kinds⟩
    · exact .refl Failure.SameClass.refl _
    · have written : (Value.text name).written = .ok name := rfl
      have written' : (Value.text name').written = .ok name' := rfl
      -- All that differs is what messages show of the names.
      rw [Except.bind_of_ok written, Except.bind_of_ok written', kinds]
      cases StepKind.ofName? name' with
      | none => exact .error (.script rfl)
      | some kind =>
        have mapping := fields_endsAlike parameters (.parameters name) (.parameters name')
        exact mapping.bind fun fields => .refl Failure.SameClass.refl _

theorem Respelled.ne_null (v w : Value) (h : Respelled v w) : v ≠ .null ∧ w ≠ .null := by
  cases h with
  | intro hv hw => exact ⟨hv.ne_null, hw.ne_null⟩

end Step

namespace Script

/-- A script is spelled anew in one place: one step of it is written anew, at any depth of branches,
or the whole is wrapped or unwrapped. -/
inductive Respells : Value → Value → Prop
  | step {root root' : Fields} (h : AtStep (Step.Inside Step.Respelled) root root') :
      Respells (.map root) (.map root')
  | wrappedStep {before after root root' : Fields}
      (h : AtStep (Step.Inside Step.Respelled) root root') :
      Respells (.map (before ++ (.text "script", .map root) :: after))
        (.map (before ++ (.text "script", .map root') :: after))
  | wrap {root : Fields} (h : root.get? "script" = none) :
      Respells (.map root) (.map [(.text "script", .map root)])
  | unwrap {root : Fields} (h : root.get? "script" = none) :
      Respells (.map [(.text "script", .map root)]) (.map root)

theorem ofValue_of_bare (h : root.get? "script" = none) : ofValue (.map root) = ofRoot root := by
  have outer : (Value.map root).fields .document = .ok root := rfl
  rw [ofValue_eq_ofRoot, outer]
  change ((root.get? "script").getD (.map root)).fields .script >>= ofRoot = _
  rw [h]
  rfl

theorem ofValue_of_wrapped {outer : Fields} {inner : Value} (h : outer.get? "script" = some inner) :
    ofValue (.map outer) = inner.fields .script >>= ofRoot := by
  have mapping : (Value.map outer).fields .document = .ok outer := rfl
  rw [ofValue_eq_ofRoot, mapping]
  change ((outer.get? "script").getD (.map outer)).fields .script >>= ofRoot = _
  rw [h]
  rfl

theorem ofRoot_respelled {root' : Fields} (h : AtStep (Step.Inside Step.Respelled) root root') :
    EndsAlike Failure.SameClass (ofRoot root) (ofRoot root') := by
  apply ofRoot_endsAlike Failure.SameClass.refl (R := Step.Inside Step.Respelled)
  · intro v w inside
    apply inside.ofValue_endsAlike Failure.SameClass.refl Step.Respelled.ne_null
    exact fun v w => Step.Respelled.ofValue_endsAlike
  · exact h

theorem ofValue_wrap (h : root.get? "script" = none) :
    ofValue (.map [(.text "script", .map root)]) = ofValue (.map root) := by
  have wrapped : Fields.get? "script" [(.text "script", .map root)] = some (.map root) := rfl
  rw [ofValue_of_bare h, ofValue_of_wrapped wrapped]
  rfl

theorem Respells.ofValue_endsAlike (h : Respells v w) :
    EndsAlike Failure.SameClass (ofValue v) (ofValue w) := by
  cases h with
  | @step root root' h =>
    have same : root.get? "script" = root'.get? "script" := h.get?_of_ne (by decide)
    cases wrapped : root.get? "script" with
    | none =>
      rw [ofValue_of_bare wrapped, ofValue_of_bare (same.symm.trans wrapped)]
      exact ofRoot_respelled h
    | some inner =>
      rw [ofValue_of_wrapped wrapped, ofValue_of_wrapped (same.symm.trans wrapped)]
      exact .refl Failure.SameClass.refl _
  | @wrappedStep before after root root' h =>
    have differ : Fields.AtEntry "script" (fun v w => v = .map root ∧ w = .map root')
        (before ++ (.text "script", .map root) :: after) (before ++
          (.text "script", .map root') :: after) :=
      .intro ⟨rfl, rfl⟩
    rcases differ.get?_cases with same | ⟨_, _, hroot, hroot', rfl, rfl⟩
    · -- Another entry of this name comes first, and is the one that counts.
      obtain ⟨inner, wrapped⟩ := Fields.exists_get? "script" (.map root) before after
      rw [ofValue_of_wrapped wrapped, ofValue_of_wrapped (same.symm.trans wrapped)]
      exact .refl Failure.SameClass.refl _
    · rw [ofValue_of_wrapped hroot, ofValue_of_wrapped hroot']
      exact ofRoot_respelled h
  | wrap h =>
    rw [ofValue_wrap h]
    exact .refl Failure.SameClass.refl _
  | unwrap h =>
    rw [ofValue_wrap h]
    exact .refl Failure.SameClass.refl _

/-- However a script is spelled, step by step, its loading ends alike: with the same script, or with
errors of one class. -/
theorem ofValue_respelled (h : Relation.ReflTransGen Respells v w) :
    EndsAlike Failure.SameClass (ofValue v) (ofValue w) := by
  induction h with
  | refl => exact .refl Failure.SameClass.refl _
  | tail _ respelled ih => exact ih.trans Failure.SameClass.trans respelled.ofValue_endsAlike

def ofStep (step : Value) : Fields :=
  [(.text "targets", .list [.map [(.text "name", .text "Main"), (.text "actions", .list [step])]])]

def plainBranch (inner : Value) : Value :=
  .map [(.text "branch", .map [(.text "property", .text "p"), (.text "action", inner)])]

/-- The same branch in the other notation and under its other name. -/
def otherBranch (inner : Value) : Value :=
  .map [(.text "property", .text "p"), (.text "kind", .text "IF"), (.text "action", inner)]

def plainFetch : Value :=
  .map [(.text "fetch", .map [(.text "url", .text "http://shop/")])]

def otherFetch : Value :=
  .map [(.text "kind", .text "Get"), (.text "url", .text "http://shop/")]

theorem atStep_ofStep {R : Value → Value → Prop} (h : R v w) : AtStep R (ofStep v) (ofStep w) := by
  have steps : Value.AtItem R (.list [v]) (.list [w]) := @Value.AtItem.intro R [] [] v w h
  have target :=
    @Fields.AtEntry.intro "actions" (Value.AtItem R) [(.text "name", .text "Main")] [] _ _ steps
  have targets :=
    @Value.AtItem.intro (Value.AtEntry "actions" (Value.AtItem R)) [] [] _ _ (.intro target)
  exact @Fields.AtEntry.intro "targets" _ [] [] _ _ targets

theorem plainBranch_written (inner : Value) : Step.Written (plainBranch inner) (.text "branch")
    (.map ([(.text "property", .text "p")] ++ (.text "action", inner) :: [])) :=
  .entry rfl

theorem fetch_respelled : Step.Respelled plainFetch otherFetch := by
  have named : SameKind (.text "fetch") (.text "Get") :=
    .synonym (show _ ∈ StepKind.fetch.names by decide) (by decide)
  exact .intro (.entry rfl) (@Step.Written.fields [] _ _ (by decide)) named

theorem branch_respelled (inner : Value) :
    Step.Respelled (plainBranch inner) (otherBranch inner) := by
  have named : SameKind (.text "branch") (.text "IF") :=
    .synonym (show _ ∈ StepKind.branch.names by decide) (by decide)
  have other : Step.Written (otherBranch inner) (.text "IF") _ :=
    @Step.Written.fields [(.text "property", .text "p")] [(.text "action", inner)] _
    (by simp [Value.isText])
  exact .intro (plainBranch_written inner) other named

theorem journey_respelled : Relation.ReflTransGen Respells (.map (ofStep (plainBranch plainFetch)))
    (.map [(.text "script", .map (ofStep (otherBranch otherFetch)))]) := by
  have inside : Step.Inside Step.Respelled (plainBranch plainFetch) (plainBranch otherFetch) :=
    .branch (plainBranch_written _) (plainBranch_written _) (by decide)
    (.here fetch_respelled)
  have first :
      Respells (.map (ofStep (plainBranch plainFetch))) (.map (ofStep (plainBranch otherFetch))) :=
    .step (atStep_ofStep inside)
  have second : Respells _ (.map (ofStep (otherBranch otherFetch))) :=
    .step (atStep_ofStep (.here (branch_respelled otherFetch)))
  exact ((Relation.ReflTransGen.single first).tail second).tail (.wrap rfl)

/-- A branch with a fetch inside is the same script in its plain spelling and in another. -/
theorem journey_loads : ∃ script, ofValue (.map (ofStep (plainBranch plainFetch))) = .ok script ∧
    ofValue (.map [(.text "script", .map (ofStep (otherBranch otherFetch)))]) = .ok script := by
  have plain : ofValue (.map (ofStep (plainBranch plainFetch))) = .ok
      { targets := [
          { name := "Main", steps := [.branch "p" "" (.fetch "http://shop/" {})] }] } := by
    decide +kernel
  have alike := ofValue_respelled journey_respelled
  rw [plain] at alike
  generalize ofValue (.map [(.text "script", .map (ofStep (otherBranch otherFetch)))]) =
    other at alike ⊢
  cases alike with
  | ok => exact ⟨_, plain, rfl⟩

end Script

end WebScript
