import WebScript.Run.Perform

namespace WebScript

variable {σ : Type} {a : Accessor σ}

def Extractor.verdict (values : NameMap) (x : Extractor) : Outcome :=
  match x.mismatch? values with
  | some m => .failed m.message
  | none => .done

/-- The state in which the values of a new page have been taken, all at once. -/
def Session.took (page : Page) (values : NameMap) (s : Session σ) : Session σ :=
  { Session.note (.extracted values) { s with page := some page } with
    outputs := s.outputs.putAll values.pairs }

/-- The ways an exchange can go, from a request that could not be made to values that are taken. -/
inductive Exchanged (a : Accessor σ) (accepted : List Int) (x : Extractor) (s : Session σ) :
    Except Failure Request → Ended σ Outcome → Prop
  | faulty {e} : Exchanged a accepted x s (.error (.script e)) (.error (.script e), s)
  | unmade {b} : Exchanged a accepted x s (.error (.breakdown b)) (.ok (.failed b.report), s)
  | raised {r e} (answer : (a.send r s.remote).1 = .error (.script e)) :
      Exchanged a accepted x s (.ok r) (.error (.script e), (s.send a r).2)
  | lost {r b} (answer : (a.send r s.remote).1 = .error (.breakdown b)) :
      Exchanged a accepted x s (.ok r) (.ok (.failed b.report), (s.send a r).2)
  | rejected {r response} (answer : (a.send r s.remote).1 = .ok response)
      (status : response.status ∉ accepted) :
      Exchanged a accepted x s (.ok r)
        (.ok (.failed (Http.statusName response.status)), (s.send a r).2)
  | unread {r response b} (answer : (a.send r s.remote).1 = .ok response)
      (status : response.status ∈ accepted)
      (unreadable : Page.ofText response.url response.html = .error b) :
      Exchanged a accepted x s (.ok r) (.ok (.failed b.report), (s.send a r).2)
  | broken {r response page f} (answer : (a.send r s.remote).1 = .ok response)
      (status : response.status ∈ accepted)
      (read : Page.ofText response.url response.html = .ok page)
      (broken : x.extract page = .error f) :
      Exchanged a accepted x s (.ok r) (.error f, { (s.send a r).2 with page := some page })
  | taken {r response page values} (answer : (a.send r s.remote).1 = .ok response)
      (status : response.status ∈ accepted)
      (read : Page.ofText response.url response.html = .ok page)
      (extracted : x.extract page = .ok values) :
      Exchanged a accepted x s (.ok r) (.ok (x.verdict values), (s.send a r).2.took page values)

theorem takeOutputs_of_error {x : Extractor} {page : Page} {s : Session σ} {f : Failure}
    (h : x.extract page = .error f) :
    takeOutputs x page s = (.error f, { s with page := some page }) := by
  simp only [takeOutputs, h]

theorem takeOutputs_of_ok {x : Extractor} {page : Page} {s : Session σ} {values : NameMap}
    (h : x.extract page = .ok values) :
    takeOutputs x page s = (.ok (x.verdict values), s.took page values) := by
  simp only [takeOutputs, h, Extractor.verdict]
  cases x.mismatch? values <;> rfl

theorem accept_of_not_mem {accepted : List Int} {r : Response} (h : r.status ∉ accepted) :
    accept accepted r = .error (.failed (Http.statusName r.status)) := by
  simp [accept, h]

theorem accept_of_mem {accepted : List Int} {r : Response} (h : r.status ∈ accepted) :
    accept accepted r =
      (Page.ofText r.url r.html).mapError fun b => .failed b.report := by
  simp only [accept, List.contains_eq_mem, h]
  cases Page.ofText r.url r.html <;> rfl

theorem obtain_of_failure {accepted : List Int} {r : Request} {s : Session σ} {f : Failure}
    (h : (a.send r s.remote).1 = .error f) :
    obtain a accepted (.ok r) s = (settle f, (s.send a r).2) := by
  have hs : s.send a r = (.error f, (s.send a r).2) := Prod.ext h rfl
  rw [obtain, hs]

theorem obtain_of_answer {accepted : List Int} {r : Request} {s : Session σ} {response : Response}
    (h : (a.send r s.remote).1 = .ok response) :
    obtain a accepted (.ok r) s = (.ok (accept accepted response), (s.send a r).2) := by
  have hs : s.send a r = (.ok response, (s.send a r).2) := Prod.ext h rfl
  rw [obtain, hs]

theorem exchange_cases {x : Exchange} {extractor : Extractor} {request : Except Failure Request}
    {s : Session σ} {e : Ended σ Outcome} (h : exchange a x extractor request s = e) :
    Exchanged a x.accepted extractor s request e := by
  subst h
  rw [exchange]
  cases request with
  | error f =>
    cases f with
    | script e => exact .faulty
    | breakdown b => exact .unmade
  | ok r =>
    cases answer : (a.send r s.remote).1 with
    | error f =>
      rw [obtain_of_failure answer]
      cases f with
      | script e => exact .raised answer
      | breakdown b => exact .lost answer
    | ok response =>
      rw [obtain_of_answer answer]
      by_cases status : response.status ∈ x.accepted
      · rw [accept_of_mem status]
        cases read : Page.ofText response.url response.html with
        | error b => exact .unread answer status read
        | ok page =>
          cases extracted : extractor.extract page with
          | error f =>
            have hb := Exchanged.broken answer status read extracted
            rwa [← takeOutputs_of_error extracted] at hb
          | ok values =>
            have ht := Exchanged.taken answer status read extracted
            rwa [← takeOutputs_of_ok extracted] at ht
      · rw [accept_of_not_mem status]
        exact .rejected answer status

/-- What an action asks of the accessor: the request, or why there is none, and how the answer is to
be taken. -/
structure Asking where
  exchange : Exchange
  extractor : Extractor
  request : Except Failure Request

/-- What an action asks for when it is performed in a state, itself or in the branches it matches.
-/
def Action.asking? (s : Session σ) : Action → Option Asking
  | .fetch url x extractor => (fetchRequest url x s).map fun request => ⟨x, extractor, request⟩
  | .submit choice overrides x extractor =>
    (submitRequest choice overrides x s).map fun request => ⟨x, extractor, request⟩
  | .branch property value inner =>
    if (Template.resolve? s.scope property).any fun actual => Text.sameFolded actual value then
      inner.asking? s
    else none
  | .jump _ => none

theorem Action.asking?_request {action : Action} {s : Session σ} {q : Asking}
    (h : action.asking? s = some q) :
    (∃ r, q.request = .ok r) ∨
      ∃ choice overrides x, submitRequest choice overrides x s = some q.request := by
  induction action with
  | fetch url x extractor =>
    obtain ⟨request, hr, rfl⟩ := Option.map_eq_some_iff.1 h
    obtain ⟨_, _, rfl⟩ := Option.map_eq_some_iff.1 hr
    exact .inl ⟨_, rfl⟩
  | submit choice overrides x extractor =>
    obtain ⟨request, hr, rfl⟩ := Option.map_eq_some_iff.1 h
    exact .inr ⟨choice, overrides, x, hr⟩
  | branch property value inner ih =>
    rw [asking?] at h
    split at h
    · exact ih h
    · cases h
  | jump target => cases h

theorem carryOut_of_asking {action : Action} {s : Session σ} {q : Asking}
    (h : action.asking? s = some q) :
    carryOut a action s = some (exchange a q.exchange q.extractor q.request s) := by
  induction action with
  | fetch url x extractor =>
    obtain ⟨request, hr, rfl⟩ := Option.map_eq_some_iff.1 h
    rw [carryOut, hr]
    rfl
  | submit choice overrides x extractor =>
    obtain ⟨request, hr, rfl⟩ := Option.map_eq_some_iff.1 h
    rw [carryOut, hr]
    rfl
  | branch property value inner ih =>
    rw [Action.asking?] at h
    split at h
    · next matched =>
      obtain ⟨actual, hp, same⟩ := (Option.any_eq_true _ _).1 matched
      rw [carryOut, hp]
      simp only [same, if_true, ih h]
    · cases h
  | jump target => cases h

theorem carryOut_of_no_asking {action : Action} {s : Session σ} {e : Ended σ Outcome}
    (h : action.asking? s = none) (hc : carryOut a action s = some e) :
    e = (.ok .done, s) ∨ ∃ name, e = (.ok (.jump name), s) := by
  induction action with
  | fetch url x extractor =>
    rw [carryOut, Option.map_eq_none_iff.1 h] at hc
    cases hc
  | submit choice overrides x extractor =>
    rw [carryOut, Option.map_eq_none_iff.1 h] at hc
    cases hc
  | branch property value inner ih =>
    rw [carryOut] at hc
    split at hc
    · cases hc
    · next actual hp =>
      rw [Action.asking?, hp, Option.any_some] at h
      split at hc
      · next same => exact ih (by rwa [if_pos same] at h) hc
      · cases hc
        exact .inl rfl
  | jump target =>
    obtain ⟨name, _, rfl⟩ := Option.map_eq_some_iff.1 hc
    exact .inr ⟨name, rfl⟩

theorem perform_eq_some {action : Action} {s t : Session σ} {result : Except Failure Outcome}
    (h : perform a action s = some (result, t)) :
    ∃ u, carryOut a action s = some (result, u) ∧ noted (result, u) = (result, t) := by
  obtain ⟨⟨result', u⟩, hc, hn⟩ := Option.map_eq_some_iff.1 h
  cases result' with
  | error f =>
    cases hn
    exact ⟨_, hc, rfl⟩
  | ok outcome =>
    cases hn
    exact ⟨_, hc, rfl⟩

@[simp] theorem noted_fst (e : Ended σ Outcome) : (noted e).1 = e.1 := by
  obtain ⟨result, s⟩ := e
  cases result <;> rfl

theorem noted_keeps {α : Type} {f : Session σ → α}
    (h : ∀ (s : Session σ) event, f (s.note event) = f s) (e : Ended σ Outcome) :
    f (noted e).2 = f e.2 := by
  obtain ⟨result, s⟩ := e
  cases result with
  | error f => rfl
  | ok outcome => exact h s _

@[simp] theorem noted_inputs (e : Ended σ Outcome) : (noted e).2.inputs = e.2.inputs :=
  noted_keeps Session.note_inputs e

@[simp] theorem noted_page (e : Ended σ Outcome) : (noted e).2.page = e.2.page :=
  noted_keeps Session.note_page e

@[simp] theorem noted_outputs (e : Ended σ Outcome) : (noted e).2.outputs = e.2.outputs :=
  noted_keeps Session.note_outputs e

@[simp] theorem noted_remote (e : Ended σ Outcome) : (noted e).2.remote = e.2.remote :=
  noted_keeps Session.note_remote e

@[simp] theorem noted_requests (e : Ended σ Outcome) : (noted e).2.requests = e.2.requests := by
  obtain ⟨result, s⟩ := e
  cases result with
  | error f => rfl
  | ok outcome => simp [noted, Event.request?]

theorem send_requests (r : Request) (s : Session σ) :
    (s.send a r).2.requests = s.requests ++ [r] := by
  simp [Session.send, Session.requests, Event.request?]

theorem took_requests (page : Page) (values : NameMap) (s : Session σ) :
    (s.took page values).requests = s.requests := by
  simp [Session.took, Session.requests, Event.request?]

end WebScript
