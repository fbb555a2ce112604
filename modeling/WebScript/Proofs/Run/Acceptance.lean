import WebScript.Proofs.Run.Expectations
import WebScript.Proofs.Script.WellFormed
import WebScript.Proofs.Text.Find

namespace WebScript

variable {σ : Type} {a : Accessor σ} {s : Session σ} {q : Asking} {response : Response}
  {page : Page}
  {v : Value} {fields : Fields} {kind : StepKind} {step : Step} {x : Exchange} {action : Action}
  {code : Int}

section Codes

/-- An empty collection that is no list. -/
inductive Value.Hollow : Value → Prop
  | map : Hollow (.map [])
  | set : Hollow (.set [])
  | bytes : Hollow (.bytes [])

theorem statusItems?_eq_nil (h : statusItems? v = some []) : v = .list [] ∨ v.Hollow := by
  cases v with
  | text s =>
    -- A text has at least one piece, be it empty.
    obtain ⟨first, rest, pieces, -⟩ := Text.exists_pieces_eq_cons ',' s.toList
    cases pieces.symm.trans (List.map_eq_nil_iff.1 (Option.some.inj h))
  | list items =>
    cases h
    exact .inl rfl
  | set items =>
    cases h
    exact .inr .set
  | map entries =>
    cases List.map_eq_nil_iff.1 (Option.some.inj h)
    exact .inr .map
  | bytes b =>
    cases List.map_eq_nil_iff.1 (Option.some.inj h)
    exact .inr .bytes
  | _ => cases h

theorem eq_nil_of_mapM {α β : Type} {f : α → Option β} {items : List α}
    (h : items.mapM f = some []) :
    items = [] := by
  cases items with
  | nil => rfl
  | cons item rest =>
    rw [List.mapM_cons] at h
    obtain ⟨_, _, h⟩ := Option.bind_eq_some_iff.1 h
    obtain ⟨_, _, h⟩ := Option.bind_eq_some_iff.1 h
    cases h

/-- No codes come out just of an empty collection that is no list: an empty list counts as none. -/
theorem statusCodes_eq_nil : statusCodes v = .ok [] ↔ v.Hollow := by
  constructor
  · intro h
    unfold statusCodes at h
    split at h
    · cases h
    · cases h
    · cases h
    · next list =>
      split at h
      · next codes read =>
        cases h
        obtain ⟨items, listed, read⟩ := Option.bind_eq_some_iff.1 read
        cases eq_nil_of_mapM read
        exact (statusItems?_eq_nil listed).resolve_left list
      · exact absurd h (Value.raiseShowing_ne_ok [])
  · rintro (_ | _ | _) <;> rfl

theorem statusCodes_eq_script {e : ScriptError} (h : statusCodes v = .error (.script e)) :
    ∃ shown, e = .load (.badStatusCodes shown) := by
  rcases statusCodes_cases v with ⟨codes, read⟩ | refused
  · cases read.symm.trans h
  · rw [refused, Value.raiseShowing] at h
    split at h
    · cases h
      exact ⟨_, rfl⟩
    · cases h

end Codes

section Steps

def Step.exchange? : Step → Option Exchange
  | .fetch _ x => some x
  | .submit _ _ x => some x
  | _ => none

theorem Exchange.accepted_of_ofFields (h : ofFields fields = .ok x) :
    statusCodes fields.status = .ok x.accepted := by
  obtain ⟨rules, -, h⟩ := Except.bind_eq_ok.1 h
  obtain ⟨accepted, listed, h⟩ := Except.bind_eq_ok.1 h
  obtain ⟨options, -, h⟩ := Except.bind_eq_ok.1 h
  cases h
  exact listed

theorem Step.accepted_of_ofValue (described : Describes v kind fields)
    (web : kind = .fetch ∨ kind = .submit)
    (loaded : ofValue v = .ok step) :
    ∃ x, step.exchange? = some x ∧ statusCodes fields.status = .ok x.accepted := by
  obtain ⟨kind', fields', described', made⟩ := exists_of_ofValue_eq_ok loaded
  obtain ⟨rfl, rfl⟩ := described.unique described'
  rcases web with rfl | rfl
  · obtain ⟨url, -, h⟩ := Except.bind_eq_ok.1 made
    obtain ⟨x, hx, h⟩ := Except.bind_eq_ok.1 h
    cases h
    exact ⟨x, rfl, Exchange.accepted_of_ofFields hx⟩
  · obtain ⟨overrides, choice, x, -, -, hx, rfl⟩ := submitOf_eq_ok made
    exact ⟨x, rfl, Exchange.accepted_of_ofFields hx⟩

end Steps

section Actions

/-- Whatever answer the action receives, it fails for its status, and nothing is taken. -/
def Action.RejectsAll (action : Action) : Prop :=
  ∀ (σ : Type) (a : Accessor σ) (s : Session σ) (q : Asking) (response : Response),
    action.Receives a s q response → ∃ e, perform a action s = some e ∧
      e.1 = .ok (.failed (Http.statusName response.status)) ∧ e.2.page = s.page ∧
      e.2.outputs = s.outputs

/-- The page of an answer with this status is taken, wherever the action receives it. -/
def Action.Takes (code : Int) (action : Action) : Prop :=
  ∀ (σ : Type) (a : Accessor σ) (s : Session σ) (q : Asking) (response : Response) (page : Page),
    action.Receives a s q response → response.status = code →
    Page.ofText response.url response.html = .ok page →
      ∃ e, perform a action s = some e ∧ e.2.page = some page

/-- How an action judges its answer comes from the step that it carries out. -/
theorem Action.Receives.exchange_eq (received : action.Receives a s q response)
    (ready : ofStep step = .ok action)
    (web : step.exchange? = some x) : q.exchange = x := by
  cases step with
  | fetch url x' =>
    cases web
    obtain ⟨extractor, -, h⟩ := Except.bind_eq_ok.1 ready
    cases h
    obtain ⟨_, _, rfl⟩ := Option.map_eq_some_iff.1 received.asking
    rfl
  | submit choice overrides x' =>
    cases web
    obtain ⟨extractor, -, h⟩ := Except.bind_eq_ok.1 ready
    cases h
    obtain ⟨_, _, rfl⟩ := Option.map_eq_some_iff.1 received.asking
    rfl
  | branch => cases web
  | jump => cases web

theorem Action.rejectsAll_of_nil (ready : ofStep step = .ok action) (web : step.exchange? = some x)
    (nothing : x.accepted = []) : action.RejectsAll := by
  intro σ a s q response received
  obtain ⟨r, request, answer⟩ := received.answer
  have rejected : response.status ∉ q.exchange.accepted := by
    rw [received.exchange_eq ready web, nothing]
    exact List.not_mem_nil
  have ended : exchange a q.exchange q.extractor q.request s =
      (.ok (.failed (Http.statusName response.status)), (s.send a r).2) := by
    rw [exchange, request, obtain_of_answer answer, accept_of_not_mem rejected]
  have performed : perform a action s =
      some (noted (.ok (.failed (Http.statusName response.status)), (s.send a r).2)) := by
    rw [perform, carryOut_of_asking received.asking, Option.map_some, ended]
  refine ⟨_, performed, ?_, ?_, ?_⟩
  · rw [noted_fst]
  · rw [noted_page]
    rfl
  · rw [noted_outputs]
    rfl

theorem Action.takes_of_mem (ready : ofStep step = .ok action) (web : step.exchange? = some x)
    (mem : code ∈ x.accepted) : action.Takes code := by
  rintro σ a s q response page received rfl read
  obtain ⟨r, request, answer⟩ := received.answer
  rw [← received.exchange_eq ready web] at mem
  have ended : exchange a q.exchange q.extractor q.request s =
      takeOutputs q.extractor page (s.send a r).2 := by
    rw [exchange, request, obtain_of_answer answer, accept_of_mem mem, read]
    rfl
  refine ⟨_, by rw [perform, carryOut_of_asking received.asking, Option.map_some, ended], ?_⟩
  rw [noted_page]
  -- The page is taken before anything is extracted, so it stays where that breaks.
  cases extracted : q.extractor.extract page with
  | error f => rw [takeOutputs_of_error extracted]
  | ok values =>
    rw [takeOutputs_of_ok extracted]
    rfl

end Actions

/-- A value is read to status codes or refused by an error of its own, unless it cannot be shown in
the error; and no codes come out just of an empty collection other than a list. A step that asks for
a page with such a value is an action that rejects every answer, and with any other one it takes the
pages with some status. -/
theorem codes_accepted (raw : Value) :
    (statusCodes raw = .ok [] ↔ raw.Hollow) ∧
    (∀ b, statusCodes raw = .error (.breakdown b) ↔ StatusBreaks raw b) ∧
    (∀ e, statusCodes raw = .error (.script e) → ∃ shown, e = .load (.badStatusCodes shown)) ∧
    ∀ v kind fields step, Describes v kind fields → kind = .fetch ∨ kind = .submit →
      fields.status = raw →
      Step.ofValue v = .ok step → ∃ x, step.exchange? = some x ∧ (x.accepted = [] ↔ raw.Hollow) ∧
        ∀ action, Action.ofStep step = .ok action →
          (raw.Hollow → action.RejectsAll) ∧
          (¬raw.Hollow → ∃ code ∈ x.accepted, action.Takes code) := by
  refine ⟨statusCodes_eq_nil, statusCodes_loading.breakdown, fun e => statusCodes_eq_script, ?_⟩
  rintro v kind fields step described web rfl loaded
  obtain ⟨x, exchange, listed⟩ := Step.accepted_of_ofValue described web loaded
  have hollow : x.accepted = [] ↔ fields.status.Hollow := by
    rw [← statusCodes_eq_nil, listed, Except.ok.injEq]
  refine ⟨x, exchange, hollow, fun action ready => ⟨?_, ?_⟩⟩
  · exact fun h => Action.rejectsAll_of_nil ready exchange (hollow.2 h)
  · intro h
    obtain ⟨code, mem⟩ := List.exists_mem_of_ne_nil _ (mt hollow.1 h)
    exact ⟨code, mem, Action.takes_of_mem ready exchange mem⟩

/-- Parameters of a fetch that lists status codes. -/
def shopListing (codes : Value) : Fields :=
  [(.text "url", .text "http://shop/"), (.text "expected_status", codes)]

def shopFetch (codes : Value) : Value :=
  .map [(.text "fetch", .map (shopListing codes))]

theorem shopFetch_describes (codes : Value) :
    Describes (shopFetch codes) .fetch (shopListing codes) :=
  ⟨_, _, rfl, rfl, by decide, rfl⟩

def shopAction (accepted : List Int) : Action :=
  .fetch "http://shop/" { accepted } ⟨[], [], []⟩

def shopAsking (accepted : List Int) : Asking :=
  ⟨{ accepted }, ⟨[], [], []⟩, .ok (.fetch "http://shop/" [])⟩

theorem shopAction_receives (accepted : List Int) :
    (shopAction accepted).Receives blankPages (Runner.start [] ())
    (shopAsking accepted) ⟨200, "http://shop/", "", none⟩ where
  asking := by
    have url : Template.resolve? (Runner.start [] ()).scope "http://shop/" = some "http://shop/" :=
      Template.resolve?_of_no_opener (by decide)
    rw [shopAction, Action.asking?, fetchRequest, url]
    rfl
  answer := ⟨_, rfl, rfl⟩

/-- With an empty mapping for its codes a fetch rejects what it takes without. -/
theorem shop_rejects :
    (∃ e, perform blankPages (shopAction []) (Runner.start [] ()) = some e ∧
      e.1 = .ok (.failed "OK") ∧ e.2.page = none) ∧
    ∃ e, perform blankPages (shopAction [200]) (Runner.start [] ()) = some e ∧
      e.2.page = some ⟨"http://shop/", "", none, []⟩ := by
  have empty : Step.ofValue (shopFetch (.map [])) =
      .ok (.fetch "http://shop/" { accepted := [] }) := by
    decide +kernel
  have plain : Step.ofValue (shopFetch .null) = .ok (.fetch "http://shop/" {}) := by
    decide +kernel
  constructor
  · obtain ⟨-, -, -, nodes⟩ := codes_accepted (.map [])
    obtain ⟨_, _, _, actions⟩ := nodes _ _ _ _ (shopFetch_describes _) (.inl rfl) rfl empty
    obtain ⟨rejects, -⟩ := actions (shopAction []) rfl
    obtain ⟨e, performed, result, page, -⟩ := rejects .map _ _ _ _ _ (shopAction_receives [])
    exact ⟨e, performed, result, page⟩
  · obtain ⟨-, -, -, nodes⟩ := codes_accepted .null
    obtain ⟨x, own, -, actions⟩ := nodes _ _ _ _ (shopFetch_describes _) (.inl rfl) rfl plain
    cases own
    obtain ⟨-, takes⟩ := actions (shopAction [200]) rfl
    obtain ⟨code, mem, takes⟩ := takes nofun
    cases List.mem_singleton.1 mem
    exact takes _ _ _ _ _ _ (shopAction_receives [200]) rfl rfl

/-- An empty mapping lists no codes, and the fetch that it stands in is loaded. -/
theorem nothing_accepted : statusCodes (.map []) = .ok [] ∧
    Step.ofValue (shopFetch (.map [])) = .ok (.fetch "http://shop/" { accepted := [] }) := by
  decide +kernel

end WebScript
