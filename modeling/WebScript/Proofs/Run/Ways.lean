import WebScript.Proofs.Run.Faults
import WebScript.Proofs.Run.Messages
import WebScript.Proofs.Run.Perform
import WebScript.Proofs.Template.Resolution

namespace WebScript

variable {σ : Type} {a : Accessor σ} {q : Asking} {s : Session σ} {e : Ended σ Outcome}

def Action.IsWeb : Action → Prop
  | .fetch .. => True
  | .submit .. => True
  | _ => False

/-- What an action asks for brings a page: the request is answered, its status is accepted, and the
page can be read. -/
def Asking.Brings (q : Asking) (a : Accessor σ) (s : Session σ) (page : Page) : Prop :=
  ∃ r response, q.request = .ok r ∧ (a.send r s.remote).1 = .ok response ∧
    response.status ∈ q.exchange.accepted ∧ Page.ofText response.url response.html = .ok page

/-- What an action asks for fails: there is no request over an address, the accessor breaks down,
the status is not accepted, or the page cannot be read. -/
inductive Asking.Fails (q : Asking) (a : Accessor σ) (s : Session σ) : Prop
  | unmade {b} (request : q.request = .error (.breakdown b))
  | lost {r b} (request : q.request = .ok r)
      (answer : (a.send r s.remote).1 = .error (.breakdown b))
  | rejected {r response} (request : q.request = .ok r)
      (answer : (a.send r s.remote).1 = .ok response)
      (status : response.status ∉ q.exchange.accepted)
  | unread {r response b} (request : q.request = .ok r)
      (answer : (a.send r s.remote).1 = .ok response)
      (unreadable : Page.ofText response.url response.html = .error b)

/-- A fault of the script comes up: with the form that is meant, before any request, or raised by
the accessor. -/
inductive Asking.Raises (q : Asking) (a : Accessor σ) (s : Session σ) (fault : ScriptError)
    (t : Session σ) : Prop
  | ofForm (request : q.request = .error (.script fault)) (ofForm : fault.ofForm)
      (unsent : t.requests = s.requests)
  | ofAccessor {r} (request : q.request = .ok r)
      (answer : (a.send r s.remote).1 = .error (.script fault))

inductive Way where
  | raised
  | failed
  | taken
  | broken
  deriving DecidableEq, Repr

/-- How an action ends that goes one of the ways, and in which state. -/
def Way.Holds (a : Accessor σ) (q : Asking) (s : Session σ) (e : Ended σ Outcome) : Way → Prop
  | raised => ∃ fault, e.1 = .error (.script fault) ∧ q.Raises a s fault e.2 ∧
      e.2.page = s.page ∧ e.2.outputs = s.outputs
  | failed => ∃ text, e.1 = .ok (.failed text) ∧ (a.NamesKinds → text ≠ "") ∧ q.Fails a s ∧
      e.2.page = s.page ∧ e.2.outputs = s.outputs
  | taken => ∃ page values, q.Brings a s page ∧ q.extractor.extract page = .ok values ∧
      e.1 = .ok (q.extractor.verdict values) ∧
      e.2.page = some page ∧ e.2.outputs = s.outputs.putAll values.pairs
  | broken => ∃ page f, q.Brings a s page ∧ q.extractor.extract page = .error f ∧ e.1 = .error f ∧
      e.2.page = some page ∧ e.2.outputs = s.outputs

def Asking.SendsAtMostOnce (q : Asking) (a : Accessor σ) (s t : Session σ) : Prop :=
  (t.requests = s.requests ∧ t.remote = s.remote) ∨
    ∃ r, q.request = .ok r ∧ t.requests = s.requests ++ [r] ∧ t.remote = (a.send r s.remote).2

theorem Exchanged.sendsAtMostOnce
    (h : Exchanged a q.exchange.accepted q.extractor s q.request e) :
    q.SendsAtMostOnce a s e.2 := by
  generalize hr : q.request = request at h
  cases h with
  | faulty => exact .inl ⟨rfl, rfl⟩
  | unmade => exact .inl ⟨rfl, rfl⟩
  | raised => exact .inr ⟨_, hr, send_requests .., rfl⟩
  | lost => exact .inr ⟨_, hr, send_requests .., rfl⟩
  | rejected => exact .inr ⟨_, hr, send_requests .., rfl⟩
  | unread => exact .inr ⟨_, hr, send_requests .., rfl⟩
  | broken => exact .inr ⟨_, hr, send_requests (a := a) .., rfl⟩
  | taken => exact .inr ⟨_, hr, (took_requests ..).trans (send_requests ..), rfl⟩

theorem Exchanged.exists_way (h : Exchanged a q.exchange.accepted q.extractor s q.request e)
    (ofForm : ∀ fault, q.request = .error (.script fault) → fault.ofForm)
    (badValue : ∀ b, q.request = .error (.breakdown b) → ∃ text, b = .badValue text) :
    ∃ way : Way, way.Holds a q s e := by
  have named (hn : a.NamesKinds) := h.ne_failed_empty hn badValue
  have nonempty {text : String} (he : e.1 = .ok (.failed text)) (hn : a.NamesKinds) :
      text ≠ "" := by
    rintro rfl
    exact named hn he
  generalize hr : q.request = request at h
  cases h with
  | faulty => exact ⟨.raised, _, rfl, .ofForm hr (ofForm _ hr) rfl, rfl, rfl⟩
  | raised answer => exact ⟨.raised, _, rfl, .ofAccessor hr answer, rfl, rfl⟩
  | unmade => exact ⟨.failed, _, rfl, nonempty rfl, .unmade hr, rfl, rfl⟩
  | lost answer => exact ⟨.failed, _, rfl, nonempty rfl, .lost hr answer, rfl, rfl⟩
  | rejected answer status =>
    exact ⟨.failed, _, rfl, nonempty rfl, .rejected hr answer status, rfl, rfl⟩
  | unread answer _ unreadable =>
    exact ⟨.failed, _, rfl, nonempty rfl, .unread hr answer unreadable, rfl, rfl⟩
  | broken answer status read broken =>
    exact ⟨.broken, _, _, ⟨_, _, hr, answer, status, read⟩, broken, rfl, rfl, rfl⟩
  | taken answer status read extracted =>
    exact ⟨.taken, _, _, ⟨_, _, hr, answer, status, read⟩, extracted, rfl, rfl, rfl⟩

theorem Asking.Raises.not_brings {fault : ScriptError} {t : Session σ} {page : Page}
    (h : q.Raises a s fault t) : ¬q.Brings a s page := by
  rintro ⟨r, response, request, answer, _⟩
  cases h with
  | ofForm request' => cases request.symm.trans request'
  | ofAccessor request' answer' =>
    cases request.symm.trans request'
    cases answer.symm.trans answer'

theorem Asking.Fails.not_brings {page : Page} (h : q.Fails a s) : ¬q.Brings a s page := by
  rintro ⟨r, response, request, answer, status, read⟩
  cases h with
  | unmade request' => cases request.symm.trans request'
  | lost request' answer' =>
    cases request.symm.trans request'
    cases answer.symm.trans answer'
  | rejected request' answer' status' =>
    cases request.symm.trans request'
    cases answer.symm.trans answer'
    exact status' status
  | unread request' answer' unreadable =>
    cases request.symm.trans request'
    cases answer.symm.trans answer'
    cases read.symm.trans unreadable

theorem Way.Holds.brings_iff {way : Way} (h : way.Holds a q s e) :
    (∃ page, q.Brings a s page) ↔ way = taken ∨ way = broken := by
  cases way with
  | raised =>
    obtain ⟨_, _, raises, _⟩ := h
    simp [raises.not_brings]
  | failed =>
    obtain ⟨_, _, _, fails, _⟩ := h
    simp [fails.not_brings]
  | taken =>
    obtain ⟨page, _, brings, _⟩ := h
    simpa using ⟨page, brings⟩
  | broken =>
    obtain ⟨page, _, brings, _⟩ := h
    simpa using ⟨page, brings⟩

theorem Way.Holds.error_iff {way : Way} (h : way.Holds a q s e) :
    (∃ f, e.1 = .error f) ↔ way = raised ∨ way = broken := by
  cases way with
  | raised =>
    obtain ⟨_, he, _⟩ := h
    simp [he]
  | failed =>
    obtain ⟨_, he, _⟩ := h
    simp [he]
  | taken =>
    obtain ⟨_, _, _, _, he, _⟩ := h
    simp [he]
  | broken =>
    obtain ⟨_, _, _, _, he, _⟩ := h
    simp [he]

theorem Way.Holds.unique {way way' : Way} (h : way.Holds a q s e) (h' : way'.Holds a q s e) :
    way = way' := by
  -- Whether a page is brought and whether there is an error tell the four ways apart.
  have brings := h.brings_iff.symm.trans h'.brings_iff
  have error := h.error_iff.symm.trans h'.error_iff
  cases way <;> cases way' <;> simp at brings error ⊢

theorem Way.Holds.noted {way : Way} (h : way.Holds a q s e) : way.Holds a q s (noted e) := by
  cases way with
  | raised =>
    obtain ⟨fault, he, raises, page, outputs⟩ := h
    refine ⟨fault, by simpa using he, ?_, by simpa using page, by simpa using outputs⟩
    cases raises with
    | ofForm request ofForm unsent => exact .ofForm request ofForm (by simpa using unsent)
    | ofAccessor request answer => exact .ofAccessor request answer
  | failed => simpa [Holds] using h
  | taken => simpa [Holds] using h
  | broken => simpa [Holds] using h

/-- Where a template that overrides resolve has no end, neither has the merging of the overrides. -/
theorem Form.Resolves.override_eq_none {form : Form} {scope : Scope} {names : List String}
    {overrides : List Override} {text : String} (h : form.Resolves scope names overrides text)
    (endless : Template.resolve? scope text = none) (d : Dict) :
    form.override scope names overrides d = none := by
  induction h generalizing d with
  | head h =>
    rw [override, given?, h]
    simp only [endless, Option.map_none]
  | tail given _ ih =>
    rw [override, given]
    exact ih endless _

theorem Action.IsWeb.eq_none_iff {action : Action} (web : action.IsWeb) :
    carryOut a action s = none ↔
      ∃ text, action.Resolves s text ∧ Template.resolve? s.scope text = none := by
  constructor
  · exact carryOut_eq_none
  · rintro ⟨text, resolves, endless⟩
    cases resolves with
    | url => rw [carryOut, fetchRequest, endless]; rfl
    | value chosen h =>
      rw [carryOut, submitRequest, chosen]
      simp only [Form.merged, h.override_eq_none endless, Option.map_none]
    | property => exact web.elim
    | inner => exact web.elim
    | target => exact web.elim

theorem Action.IsWeb.exists_asking {action : Action} (web : action.IsWeb)
    (h : carryOut a action s = some e) : ∃ q, action.asking? s = some q := by
  cases action with
  | fetch url x extractor =>
    obtain ⟨request, hr, _⟩ := Option.map_eq_some_iff.1 h
    exact ⟨_, Option.map_eq_some_iff.2 ⟨request, hr, rfl⟩⟩
  | submit choice overrides x extractor =>
    obtain ⟨request, hr, _⟩ := Option.map_eq_some_iff.1 h
    exact ⟨_, Option.map_eq_some_iff.2 ⟨request, hr, rfl⟩⟩
  | branch => exact web.elim
  | jump => exact web.elim

/-- An action that makes a request comes to an end as soon as its templates do. It ends in exactly
one of the four ways, sends at most one request, and leaves inputs and depth alone. -/
theorem request_ends_one_way (a : Accessor σ) (action : Action) (web : action.IsWeb)
    (s : Session σ) :
    (perform a action s = none ↔
      ∃ text, action.Resolves s text ∧ Template.resolve? s.scope text = none) ∧
    ∀ e, perform a action s = some e → ∃ q, action.asking? s = some q ∧
      (∃! way : Way, way.Holds a q s e) ∧ q.SendsAtMostOnce a s e.2 ∧
      e.2.inputs = s.inputs ∧ e.2.depth = s.depth := by
  refine ⟨Option.map_eq_none_iff.trans web.eq_none_iff, fun e h => ?_⟩
  have onward := perform_onward h
  obtain ⟨e, hc, rfl⟩ := Option.map_eq_some_iff.1 h
  obtain ⟨q, hq⟩ := web.exists_asking hc
  rw [carryOut_of_asking hq] at hc
  have exchanged := exchange_cases (Option.some.inj hc)
  obtain ⟨way, holds⟩ := exchanged.exists_way (fun _ => Action.asking?_error hq)
    (fun _ => Action.asking?_breakdown hq)
  refine ⟨q, hq, ⟨way, holds.noted, fun way' h' => h'.unique holds.noted⟩, ?_, onward.inputs,
    onward.depth⟩
  simpa [Asking.SendsAtMostOnce] using exchanged.sendsAtMostOnce

def blankPages : Accessor Unit :=
  ⟨fun _ s => (.ok ⟨200, "http://shop/", "", none⟩, s)⟩

/-- A request for a page that is expected to have a title. -/
def titleAsking : Asking :=
  ⟨{}, ⟨[{ name := "title", expected := some "Shop" }], [], []⟩, .ok (.fetch "http://shop/" [])⟩

def titleFetch : Action :=
  .fetch "http://shop/" titleAsking.exchange titleAsking.extractor

/-- The page is taken although it does not meet the expectation, and the step fails. -/
theorem title_fetch_taken : titleFetch.IsWeb ∧
    ∃ e, perform blankPages titleFetch (Runner.start [] ()) = some e ∧
      e.1 = .ok (.failed "Expected:Shop, but the actual value is: ") ∧
      e.2.page = some ⟨"http://shop/", "", none, []⟩ ∧
      (∀ way : Way, way.Holds blankPages titleAsking (Runner.start [] ()) e ↔ way = .taken) ∧
      titleAsking.SendsAtMostOnce blankPages (Runner.start [] ()) e.2 := by
  have url : Template.resolve? (Runner.start [] ()).scope "http://shop/" = some "http://shop/" :=
    Template.resolve?_of_no_opener (by decide)
  have asked : titleFetch.asking? (Runner.start [] ()) = some titleAsking := by
    rw [titleFetch, Action.asking?, fetchRequest, url]
    rfl
  obtain ⟨e, performed, taken, result, page⟩ : ∃ e,
      perform blankPages titleFetch (Runner.start [] ()) = some e ∧
      Way.taken.Holds blankPages titleAsking (Runner.start [] ()) e ∧
      e.1 = .ok (.failed "Expected:Shop, but the actual value is: ") ∧
      e.2.page = some ⟨"http://shop/", "", none, []⟩ := by
    rw [perform, carryOut_of_asking asked]
    exact ⟨_, rfl, ⟨_, ∅, ⟨_, _, rfl, rfl, by decide, rfl⟩, rfl, rfl, rfl, rfl⟩, rfl, rfl⟩
  obtain ⟨q, hq, ⟨way, _, only⟩, sent, _⟩ :=
    (request_ends_one_way blankPages titleFetch trivial (Runner.start [] ())).2 e performed
  cases asked.symm.trans hq
  refine ⟨trivial, e, performed, result, page, fun way' => ⟨fun h => ?_, ?_⟩, sent⟩
  · exact (only _ h).trans (only _ taken).symm
  · rintro rfl
    exact taken

end WebScript
