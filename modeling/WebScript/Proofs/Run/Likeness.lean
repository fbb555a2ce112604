import Mathlib.Data.List.Forall2
import WebScript.Run.Perform

namespace WebScript

variable {σ α : Type} {P : Dict → Dict → Prop} {a : Accessor σ} {s t : Session σ}

inductive Request.Like (P : Dict → Dict → Prop) : Request → Request → Prop
  | fetch {url options options'} (h : P options options') :
      Like P (.fetch url options) (.fetch url options')
  | submit {url values options options'} (h : P options options') :
      Like P (.submit url values options) (.submit url values options')

inductive Action.Like (P : Dict → Dict → Prop) : Action → Action → Prop
  | fetch {url x x' extractor} (accepted : x.accepted = x'.accepted)
      (options : P x.options x'.options) : Like P (.fetch url x extractor) (.fetch url x' extractor)
  | submit {choice overrides x x' extractor} (accepted : x.accepted = x'.accepted)
      (options : P x.options x'.options) :
      Like P (.submit choice overrides x extractor) (.submit choice overrides x' extractor)
  | branch {property value inner inner'} (h : Like P inner inner') :
      Like P (.branch property value inner) (.branch property value inner')
  | jump {target} : Like P (.jump target) (.jump target)

/-- An accessor to which options that are related make no difference. -/
def Accessor.Overlooks (P : Dict → Dict → Prop) (a : Accessor σ) : Prop :=
  ∀ r r', Request.Like P r r' → a.send r = a.send r'

/-- Two states that agree on what actions read, after requests that are alike. -/
structure Session.Like (P : Dict → Dict → Prop) (s t : Session σ) : Prop where
  inputs : t.inputs = s.inputs
  outputs : t.outputs = s.outputs
  page : t.page = s.page
  remote : t.remote = s.remote
  requests : List.Forall₂ (Request.Like P) s.requests t.requests

inductive Ended.Like (P : Dict → Dict → Prop) : Ended σ α → Ended σ α → Prop
  | intro {result : Except Failure α} {s t : Session σ} (h : s.Like P t) :
      Like P (result, s) (result, t)

theorem Request.like_eq_iff {r r' : Request} : r.Like Eq r' ↔ r = r' := by
  constructor
  · intro h
    cases h with
    | fetch h => rw [h]
    | submit h => rw [h]
  · intro h
    subst h
    cases r with
    | fetch url options => exact .fetch rfl
    | submit url values options => exact .submit rfl

theorem Request.forall₂_like_eq {rs rs' : List Request} :
    List.Forall₂ (Like Eq) rs rs' ↔ rs = rs' := by
  have same : Like Eq = Eq := funext fun r => funext fun r' => propext like_eq_iff
  rw [same, List.forall₂_eq_eq_eq]

theorem Action.Like.refl (action : Action) : action.Like Eq action := by
  induction action with
  | fetch url x extractor => exact .fetch rfl rfl
  | submit choice overrides x extractor => exact .submit rfl rfl
  | branch property value inner ih => exact .branch ih
  | jump target => exact .jump

theorem Accessor.overlooks_eq (a : Accessor σ) : a.Overlooks Eq := by
  intro r r' h
  rw [Request.like_eq_iff.1 h]

namespace Session.Like

theorem scope (h : s.Like P t) : t.scope = s.scope := by
  rw [Session.scope, Session.scope, h.inputs, h.outputs]

theorem note (h : s.Like P t) {e e' : Event}
    (asked : List.Forall₂ (Request.Like P) e.request?.toList e'.request?.toList) :
    (s.note e).Like P (t.note e') where
  inputs := h.inputs
  outputs := h.outputs
  page := h.page
  remote := h.remote
  requests := by
    rw [note_requests, note_requests]
    exact List.rel_append h.requests asked

theorem performed (h : s.Like P t) (outcome : Outcome) :
    (s.note (.performed outcome)).Like P (t.note (.performed outcome)) :=
  h.note .nil

theorem enter (h : s.Like P t) (callee : Target) : (s.enter callee).Like P (t.enter callee) :=
  ⟨h.inputs, h.outputs, h.page, h.remote, by
    rw [enter_requests, enter_requests]
    exact h.requests⟩

theorem leave (h : s.Like P t) (callee : Target) : (s.leave callee).Like P (t.leave callee) :=
  ⟨h.inputs, h.outputs, h.page, h.remote, by
    rw [leave_requests, leave_requests]
    exact h.requests⟩

end Session.Like

theorem send_like (blind : a.Overlooks P) (h : s.Like P t) {r r' : Request} (hr : r.Like P r') :
    Ended.Like P (s.send a r) (t.send a r') := by
  have hn : Session.Like P (s.note (.requested r)) (t.note (.requested r')) :=
    h.note (.cons hr .nil)
  have answer : a.send r' t.remote = a.send r s.remote := by rw [h.remote, blind r r' hr]
  rw [Session.send, Session.send, answer]
  exact .intro ⟨hn.inputs, hn.outputs, hn.page, rfl, hn.requests⟩

/-- Requests that are alike, or the same reason for there being none. -/
inductive RequestsLike (P : Dict → Dict → Prop) :
    Except Failure Request → Except Failure Request → Prop
  | error {f} : RequestsLike P (.error f) (.error f)
  | ok {r r'} (h : r.Like P r') : RequestsLike P (.ok r) (.ok r')

variable {request request' : Except Failure Request}

theorem obtain_like (blind : a.Overlooks P) (h : s.Like P t) (hr : RequestsLike P request request')
    (accepted : List Int) :
    Ended.Like P (obtain a accepted request s) (obtain a accepted request' t) := by
  cases hr with
  | error => exact .intro h
  | @ok r r' hr =>
    have hsend := send_like blind h hr
    rw [obtain, obtain]
    generalize s.send a r = x, t.send a r' = y at hsend ⊢
    obtain @⟨result, u, v, huv⟩ := hsend
    cases result with
    | error f => exact .intro huv
    | ok response => exact .intro huv

theorem takeOutputs_like (h : s.Like P t) (x : Extractor) (page : Page) :
    Ended.Like P (takeOutputs x page s) (takeOutputs x page t) := by
  have hp : Session.Like P { s with page := some page } { t with page := some page } :=
    ⟨h.inputs, h.outputs, rfl, h.remote, h.requests⟩
  simp only [takeOutputs]
  cases x.extract page with
  | error f => exact .intro hp
  | ok values =>
    have hn : Session.Like P (Session.note (.extracted values) { s with page := some page })
        (Session.note (.extracted values) { t with page := some page }) := hp.note .nil
    have ho : Session.Like P
        { Session.note (.extracted values) { s with page := some page } with
          outputs := s.outputs.putAll values.pairs }
        { Session.note (.extracted values) { t with page := some page } with
          outputs := t.outputs.putAll values.pairs } :=
      ⟨hn.inputs, by simp only [h.outputs], hn.page, hn.remote, hn.requests⟩
    dsimp only
    cases x.mismatch? values with
    | some m => exact .intro ho
    | none => exact .intro ho

theorem exchange_like (blind : a.Overlooks P) (h : s.Like P t)
    (hr : RequestsLike P request request') {x x' : Exchange} (accepted : x.accepted = x'.accepted)
    (extractor : Extractor) :
    Ended.Like P (exchange a x extractor request s) (exchange a x' extractor request' t) := by
  have hobtain := obtain_like blind h hr x.accepted
  rw [exchange, exchange, ← accepted]
  generalize obtain a x.accepted request s = y, obtain a x.accepted request' t = z at hobtain ⊢
  obtain @⟨result, u, v, huv⟩ := hobtain
  rcases result with f | outcome | page
  · exact .intro huv
  · exact .intro huv
  · exact takeOutputs_like huv extractor page

theorem fetchRequest_like (h : s.Like P t) (url : String) {x x' : Exchange}
    (options : P x.options x'.options) :
    Option.Rel (RequestsLike P) (fetchRequest url x s) (fetchRequest url x' t) := by
  rw [fetchRequest, fetchRequest, h.scope]
  cases Template.resolve? s.scope url with
  | none => exact .none
  | some url => exact .some (.ok (.fetch options))

theorem submission_like (h : s.Like P t) (form : Form) (values : Dict) {x x' : Exchange}
    (options : P x.options x'.options) :
    RequestsLike P (submission form values x s) (submission form values x' t) := by
  rw [submission, submission, h.page]
  cases (form.target ((s.page.map Page.url).getD "")).mapError Failure.breakdown with
  | error f => exact .error
  | ok url => exact .ok (.submit options)

theorem submitRequest_like (h : s.Like P t) (choice : FormChoice) (overrides : List Override)
    {x x' : Exchange} (options : P x.options x'.options) :
    Option.Rel (RequestsLike P) (submitRequest choice overrides x s)
      (submitRequest choice overrides x' t) := by
  rw [submitRequest, submitRequest, h.page, h.scope]
  cases choice.select s.page with
  | error e => exact .some .error
  | ok form =>
    dsimp only
    cases form.merged overrides s.scope with
    | none => exact .none
    | some merged =>
      cases merged with
      | error e => exact .some .error
      | ok values => exact .some (submission_like h form values options)

theorem carryOut_like (blind : a.Overlooks P) (h : s.Like P t) {action action' : Action}
    (like : action.Like P action') :
    Option.Rel (Ended.Like P) (carryOut a action s) (carryOut a action' t) := by
  induction like with
  | @fetch url x x' extractor accepted options =>
    have hr := fetchRequest_like h url options
    rw [carryOut, carryOut]
    generalize fetchRequest url x s = y, fetchRequest url x' t = z at hr ⊢
    cases hr with
    | none => exact .none
    | some hr => exact .some (exchange_like blind h hr accepted extractor)
  | @submit choice overrides x x' extractor accepted options =>
    have hr := submitRequest_like h choice overrides options
    rw [carryOut, carryOut]
    generalize submitRequest choice overrides x s = y, submitRequest choice overrides x' t = z
      at hr ⊢
    cases hr with
    | none => exact .none
    | some hr => exact .some (exchange_like blind h hr accepted extractor)
  | @branch property value inner inner' like ih =>
    rw [carryOut, carryOut, h.scope]
    cases Template.resolve? s.scope property with
    | none => exact .none
    | some actual =>
      dsimp only
      by_cases matched : Text.sameFolded actual value
      · rw [if_pos matched, if_pos matched]
        exact ih
      · rw [if_neg matched, if_neg matched]
        exact .some (.intro h)
  | @jump target =>
    rw [carryOut, carryOut, h.scope]
    cases Template.resolve? s.scope target with
    | none => exact .none
    | some name => exact .some (.intro h)

/-- Actions that are alike end alike, in states that are alike. -/
theorem perform_like (blind : a.Overlooks P) (h : s.Like P t) {action action' : Action}
    (like : action.Like P action') :
    Option.Rel (Ended.Like P) (perform a action s) (perform a action' t) := by
  have hcarry := carryOut_like blind h like
  rw [perform, perform]
  generalize carryOut a action s = x, carryOut a action' t = y at hcarry ⊢
  cases hcarry with
  | none => exact .none
  | some hxy =>
    obtain @⟨result, u, v, huv⟩ := hxy
    cases result with
    | error f => exact .some (.intro huv)
    | ok outcome => exact .some (.intro (huv.performed outcome))

end WebScript
