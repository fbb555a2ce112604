import WebScript.Proofs.NameMap
import WebScript.Proofs.Run.Perform

namespace WebScript

variable {σ : Type} {a : Accessor σ} {s t u : Session σ} {e : Ended σ Outcome}

/-- A call of an accessor: the request, the answer, and how the answer is to be taken. -/
structure Call where
  request : Request
  answer : Except Failure Response
  accepted : List Int
  extractor : Extractor

namespace Call

variable {c : Call}

/-- The page that a call has brought, if its status is accepted and the page can be read. -/
def page? (c : Call) : Option Page :=
  match c.answer with
  | .error _ => none
  | .ok response =>
    if response.status ∈ c.accepted then (Page.ofText response.url response.html).toOption
    else none

def values? (c : Call) : Option NameMap :=
  c.page?.bind fun page => (c.extractor.extract page).toOption

/-- If a call has brought a page, then all values of that page can be extracted. -/
def Extracts (c : Call) : Prop :=
  ∀ page, c.page? = some page → ∃ values, c.extractor.extract page = .ok values

theorem page?_of_error {f : Failure} (h : c.answer = .error f) : c.page? = none := by
  rw [page?, h]

theorem page?_of_not_mem {response : Response} (h : c.answer = .ok response)
    (status : response.status ∉ c.accepted) : c.page? = none := by
  rw [page?, h]
  exact if_neg status

theorem page?_of_mem {response : Response} (h : c.answer = .ok response)
    (status : response.status ∈ c.accepted) :
    c.page? = (Page.ofText response.url response.html).toOption := by
  rw [page?, h]
  exact if_pos status

theorem values?_of_none (h : c.page? = none) : c.values? = none := by
  rw [values?, h]
  rfl

theorem values?_of_some {page : Page} (h : c.page? = some page) :
    c.values? = (c.extractor.extract page).toOption := by
  rw [values?, h]
  rfl

end Call

/-- Calls, one after another, with the answers that the accessor gives to them. -/
inductive Accessor.Answers (a : Accessor σ) : σ → List Call → σ → Prop
  | nil {remote} : Answers a remote [] remote
  | cons {remote c calls remote'} (answer : (a.send c.request remote).1 = c.answer)
      (rest : Answers a (a.send c.request remote).2 calls remote') :
      Answers a remote (c :: calls) remote'

theorem Accessor.Answers.append {x y z : σ} {calls calls' : List Call} (h : a.Answers x calls y)
    (h' : a.Answers y calls' z) : a.Answers x (calls ++ calls') z := by
  induction h with
  | nil => exact h'
  | cons answer _ ih => exact .cons answer (ih h')

/-- A later state of a run, by the calls that have been made in between: the outputs are updated
with the values of each. -/
structure Session.Gathers (a : Accessor σ) (calls : List Call) (s t : Session σ) : Prop where
  inputs : t.inputs = s.inputs
  requests : t.requests = s.requests ++ calls.map Call.request
  answers : a.Answers s.remote calls t.remote
  outputs : t.outputs = (calls.filterMap Call.values?).foldl NameMap.update s.outputs

theorem Session.Gathers.nothing (inputs : t.inputs = s.inputs) (requests : t.requests = s.requests)
    (remote : t.remote = s.remote) (outputs : t.outputs = s.outputs) : s.Gathers a [] t where
  inputs := inputs
  requests := by rw [requests, List.map_nil, List.append_nil]
  answers := by
    rw [remote]
    exact .nil
  outputs := outputs

theorem Session.Gathers.trans {calls calls' : List Call} (h : s.Gathers a calls t)
    (h' : t.Gathers a calls' u) : s.Gathers a (calls ++ calls') u where
  inputs := h'.inputs.trans h.inputs
  requests := by rw [h'.requests, h.requests, List.map_append, List.append_assoc]
  answers := h.answers.append h'.answers
  outputs := by rw [h'.outputs, h.outputs, List.filterMap_append, List.foldl_append]

/-- The call that is made where something is asked of the accessor, if there is a request. -/
def Asking.call? (a : Accessor σ) (s : Session σ) (q : Asking) : Option Call :=
  match q.request with
  | .error _ => none
  | .ok r => some ⟨r, (a.send r s.remote).1, q.exchange.accepted, q.extractor⟩

def Action.call? (a : Accessor σ) (s : Session σ) (action : Action) : Option Call :=
  (action.asking? s).bind (Asking.call? a s)

/-- What the call of an exchange has brought, and what becomes of it. -/
inductive Call.Settles (c : Call) (s : Session σ) (e : Ended σ Outcome) : Prop
  | empty (page : c.page? = none) (outputs : e.2.outputs = s.outputs)
  | broken {page f} (brought : c.page? = some page) (broken : c.extractor.extract page = .error f)
      (result : e.1 = .error f) (outputs : e.2.outputs = s.outputs)
  | taken {page values} (brought : c.page? = some page)
      (extracted : c.extractor.extract page = .ok values)
      (outputs : e.2.outputs = s.outputs.update values)

theorem Exchanged.settles {accepted : List Int} {x : Extractor} {r : Request}
    (h : Exchanged a accepted x s (.ok r) e) :
    Call.Settles ⟨r, (a.send r s.remote).1, accepted, x⟩ s e ∧
      e.2.requests = s.requests ++ [r] ∧ e.2.remote = (a.send r s.remote).2 := by
  have requests := send_requests (a := a) r s
  cases h with
  | raised answer => exact ⟨.empty (Call.page?_of_error answer) rfl, requests, rfl⟩
  | lost answer => exact ⟨.empty (Call.page?_of_error answer) rfl, requests, rfl⟩
  | rejected answer status =>
    exact ⟨.empty (Call.page?_of_not_mem answer status) rfl, requests, rfl⟩
  | unread answer status unreadable =>
    refine ⟨.empty ?_ rfl, requests, rfl⟩
    rw [Call.page?_of_mem answer status, unreadable]
    rfl
  | broken answer status read broken =>
    refine ⟨.broken ?_ broken rfl rfl, requests, rfl⟩
    rw [Call.page?_of_mem answer status, read]
    rfl
  | taken answer status read extracted =>
    refine ⟨.taken ?_ extracted rfl, (took_requests _ _ _).trans requests, rfl⟩
    rw [Call.page?_of_mem answer status, read]
    rfl

theorem Call.Settles.outputs_eq {c : Call} (h : c.Settles s e) :
    e.2.outputs = ([c].filterMap values?).foldl NameMap.update s.outputs := by
  cases h with
  | empty page outputs =>
    rw [outputs, List.filterMap_cons_none (values?_of_none page)]
    rfl
  | broken brought broken _ outputs =>
    have none : c.values? = none := by
      rw [values?_of_some brought, broken]
      rfl
    rw [outputs, List.filterMap_cons_none none]
    rfl
  | @taken page values brought extracted outputs =>
    have some : c.values? = some values := by
      rw [values?_of_some brought, extracted]
      rfl
    rw [outputs, List.filterMap_cons_some some]
    rfl

theorem Call.Settles.extracts {c : Call} {outcome : Outcome} (h : c.Settles s e)
    (ok : e.1 = .ok outcome) : c.Extracts := by
  intro page hp
  cases h with
  | empty none => cases hp.symm.trans none
  | broken _ _ result => cases ok.symm.trans result
  | taken brought extracted =>
    cases hp.symm.trans brought
    exact ⟨_, extracted⟩

/-- How a part of a run ends that makes at most one call. Unless that is with an error, all values
of the page have been extracted. -/
structure Session.Adds (a : Accessor σ) (call : Option Call) (s : Session σ) (e : Ended σ Outcome) :
    Prop where
  gathers : s.Gathers a call.toList e.2
  extracts : ∀ outcome, e.1 = .ok outcome → ∀ c ∈ call, c.Extracts

theorem Session.Adds.none (h : s.Gathers a [] e.2) : s.Adds a none e where
  gathers := h
  extracts _ _ c hc := absurd hc (Option.not_mem_none c)

theorem Session.Adds.noted {call : Option Call} (h : s.Adds a call e) :
    s.Adds a call (noted e) where
  gathers := {
    inputs := (noted_inputs e).trans h.gathers.inputs
    requests := (noted_requests e).trans h.gathers.requests
    answers := by
      rw [noted_remote]
      exact h.gathers.answers
    outputs := (noted_outputs e).trans h.gathers.outputs }
  extracts outcome ok := h.extracts outcome ((noted_fst e).symm.trans ok)

theorem Session.Adds.later {call : Option Call} {result : Except Failure Outcome}
    (h : s.Adds a call e) (later : e.2.Gathers a [] t)
    (ok : ∀ outcome, result = .ok outcome → ∃ outcome', e.1 = .ok outcome') :
    s.Adds a call (result, t) where
  gathers := by
    have ht := h.gathers.trans later
    rwa [List.append_nil] at ht
  extracts outcome hr := by
    obtain ⟨outcome', he⟩ := ok outcome hr
    exact h.extracts outcome' he

theorem Exchanged.adds {q : Asking}
    (h : Exchanged a q.exchange.accepted q.extractor s q.request e) :
    s.Adds a (q.call? a s) e := by
  obtain ⟨x, extractor, request⟩ := q
  cases request with
  | error f =>
    apply Session.Adds.none
    cases h with
    | faulty => exact .nothing rfl rfl rfl rfl
    | unmade => exact .nothing rfl rfl rfl rfl
  | ok r =>
    obtain ⟨settles, requests, remote⟩ := h.settles
    refine ⟨⟨h.onward.inputs, requests, ?_, settles.outputs_eq⟩, ?_⟩
    · rw [remote]
      exact .cons rfl .nil
    · rintro outcome ok c hc
      cases hc
      exact settles.extracts ok

theorem perform_adds {action : Action} (h : perform a action s = some e) :
    s.Adds a (action.call? a s) e := by
  obtain ⟨e, hc, rfl⟩ := Option.map_eq_some_iff.1 h
  apply Session.Adds.noted
  rw [Action.call?]
  cases hq : action.asking? s with
  | none =>
    apply Session.Adds.none
    rcases carryOut_of_no_asking hq hc with rfl | ⟨_, rfl⟩ <;> exact .nothing rfl rfl rfl rfl
  | some q =>
    rw [carryOut_of_asking hq] at hc
    exact (exchange_cases (Option.some.inj hc)).adds

end WebScript
