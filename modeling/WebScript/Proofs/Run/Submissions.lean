import WebScript.Proofs.Page.Overriding
import WebScript.Proofs.Run.Calls

namespace WebScript

variable {σ : Type} {a : Accessor σ} {s t u : Session σ} {e : Ended σ Outcome}
  {form : Form} {choice : FormChoice} {overrides : List Override} {x : Exchange}
  {extractor : Extractor}
  {action : Action} {actions : List Action} {result : Except Failure Outcome}

/-- The forms of a page hold what their elements seed. -/
def Page.AsRead (page : Page) : Prop :=
  ∀ form ∈ page.forms, form = .ofElement form.element

theorem Page.ofText_asRead {url html : String} {page : Page} (h : ofText url html = .ok page) :
    page.AsRead := by
  rw [ofText] at h
  split at h
  · cases h
    exact nofun
  · split at h
    · cases h
    · cases h
      intro form hf
      obtain ⟨element, -, rfl⟩ := List.mem_map.1 hf
      rfl

theorem Page.formBy_mem {criterion wanted : String} {read : Form → String} {page : Page}
    (h : page.formBy criterion read wanted = .ok form) : form ∈ page.forms := by
  rw [formBy] at h
  split at h
  · next found =>
    cases h
    exact List.mem_of_find?_eq_some found
  · cases h

theorem FormChoice.select_mem {page : Page} (h : choice.select (some page) = .ok form) :
    form ∈ page.forms := by
  rw [select] at h
  split at h
  · exact Page.formBy_mem h
  · exact Page.formBy_mem h
  · exact Page.formBy_mem h
  · dsimp only at h
    split at h
    · cases h
    · split at h
      · next found =>
        cases h
        exact List.mem_of_getElem? found
      · cases h

/-- Actions are performed one after another, whatever comes of each of them. -/
inductive Session.Through (a : Accessor σ) : Session σ → List Action → Session σ → Prop
  | nil (s : Session σ) : Through a s [] s
  | cons {s t u : Session σ} {action actions result} (h : perform a action s = some (result, t))
      (rest : Through a t actions u) : Through a s (action :: actions) u

def Session.PageAsRead (s : Session σ) : Prop :=
  ∀ page, s.page = some page → page.AsRead

theorem Session.PageAsRead.values_of_select (read : s.PageAsRead)
    (chosen : choice.select s.page = .ok form) :
    form.values = Form.seeded form.element := by
  have seeds : form = .ofElement form.element := by
    cases on : s.page with
    | none =>
      rw [on] at chosen
      cases chosen
    | some page =>
      rw [on] at chosen
      exact read page on form (FormChoice.select_mem chosen)
  exact congrArg Form.values seeds

theorem Exchanged.page {accepted : List Int} {request : Except Failure Request}
    (h : Exchanged a accepted extractor s request e) :
    e.2.page = s.page ∨ ∃ page, page.AsRead ∧ e.2.page = some page := by
  cases h with
  | broken _ _ read => exact .inr ⟨_, Page.ofText_asRead read, rfl⟩
  | taken _ _ read => exact .inr ⟨_, Page.ofText_asRead read, rfl⟩
  | _ => exact .inl rfl

theorem perform_page (h : perform a action s = some e) :
    e.2.page = s.page ∨ ∃ page, page.AsRead ∧ e.2.page = some page := by
  obtain ⟨e, carried, rfl⟩ := Option.map_eq_some_iff.1 h
  rw [noted_page]
  cases asked : action.asking? s with
  | none =>
    rcases carryOut_of_no_asking asked carried with rfl | ⟨name, rfl⟩ <;> exact .inl rfl
  | some q =>
    rw [carryOut_of_asking asked] at carried
    exact (exchange_cases (Option.some.inj carried)).page

theorem Session.Through.page (h : s.Through a actions t) :
    t.page = s.page ∨ ∃ page, page.AsRead ∧ t.page = some page := by
  induction h with
  | nil => exact .inl rfl
  | cons h _ ih =>
    rcases ih with same | read
    · rw [same]
      exact perform_page h
    · exact .inr read

/-- What submitting a form of a state's page comes to. Only a form whose values are merged is sent,
with what its element seeds and its overrides make of it. -/
inductive Session.Submitted (choice : FormChoice) (overrides : List Override) (x : Exchange)
    (s : Session σ) (result : Except Failure Outcome) (t : Session σ) : Prop
  | formless {fault} (chosen : choice.select s.page = .error fault)
      (raised : result = .error (.script fault)) (unsent : t.requests = s.requests)
  | atFault {form fault} (chosen : choice.select s.page = .ok form)
      (seeds : form.values = Form.seeded form.element)
      (first : form.FirstAtFault overrides s.scope fault) (raised : result = .error (.script fault))
      (unsent : t.requests = s.requests)
  | nowhere {form values b} (chosen : choice.select s.page = .ok form)
      (seeds : form.values = Form.seeded form.element)
      (faultless : ∀ o ∈ overrides, ∀ fault, ¬form.AtFault overrides s.scope o fault)
      (submits : form.Submits overrides s.scope values)
      (target : form.target ((s.page.map Page.url).getD "") = .error b)
      (failed : result = .ok (.failed b.report)) (unsent : t.requests = s.requests)
  | sent {form values url} (chosen : choice.select s.page = .ok form)
      (seeds : form.values = Form.seeded form.element)
      (faultless : ∀ o ∈ overrides, ∀ fault, ¬form.AtFault overrides s.scope o fault)
      (merged : form.merged overrides s.scope = some (.ok values))
      (submits : form.Submits overrides s.scope values)
      (target : form.target ((s.page.map Page.url).getD "") = .ok url)
      (sent : t.requests = s.requests ++ [.submit url values x.options])

theorem submission_of_target_error {values : Dict} {b : Breakdown}
    (h : form.target ((s.page.map Page.url).getD "") = .error b) :
    submission form values x s = .error (.breakdown b) := by
  rw [submission, h]
  rfl

theorem submission_of_target {values : Dict} {url : String}
    (h : form.target ((s.page.map Page.url).getD "") = .ok url) :
    submission form values x s = .ok (.submit url values x.options) := by
  rw [submission, h]
  rfl

theorem submitRequest_of_merged {values : Dict} (chosen : choice.select s.page = .ok form)
    (merged : form.merged overrides s.scope = some (.ok values)) :
    submitRequest choice overrides x s = some (submission form values x s) := by
  rw [submitRequest, chosen]
  simp only [merged, Option.map_some]

theorem exchange_requests {r : Request} (h : exchange a x extractor (.ok r) s = e) :
    e.2.requests = s.requests ++ [r] :=
  (exchange_cases h).settles.2.1

theorem carryOut_submitted (read : s.PageAsRead)
    (h : carryOut a (.submit choice overrides x extractor) s = some e) :
    s.Submitted choice overrides x e.1 e.2 := by
  obtain ⟨request, asked, rfl⟩ := Option.map_eq_some_iff.1 h
  rw [submitRequest] at asked
  split at asked
  · next fault chosen =>
    cases asked
    exact .formless chosen rfl rfl
  · next form chosen =>
    have values := read.values_of_select chosen
    have differ : form.values.SpellingsDiffer := values ▸ Form.seeded_spellingsDiffer form.element
    obtain ⟨outcome, merged, made⟩ := Option.map_eq_some_iff.1 asked
    cases outcome with
    | error fault =>
      cases made
      exact .atFault chosen values (Form.firstAtFault_of_merged merged) rfl rfl
    | ok submitted =>
      have submits := Form.merged_submits merged differ
      have faultless : ∀ o ∈ overrides, ∀ fault, ¬form.AtFault overrides s.scope o fault :=
        fun o ho => Form.not_atFault merged ho
      cases target : form.target ((s.page.map Page.url).getD "") with
      | error b =>
        cases (submission_of_target_error target).symm.trans made
        exact .nowhere chosen values faultless submits target rfl rfl
      | ok url =>
        cases (submission_of_target target).symm.trans made
        exact .sent chosen values faultless merged submits target (exchange_requests rfl)

theorem perform_submitted (read : s.PageAsRead)
    (h : perform a (.submit choice overrides x extractor) s = some (result, t)) :
    s.Submitted choice overrides x result t := by
  obtain ⟨e, carried, same⟩ := Option.map_eq_some_iff.1 h
  have requests : e.2.requests = t.requests := by rw [← noted_requests, same]
  have ended : e.1 = result := by rw [← noted_fst, same]
  have submitted := carryOut_submitted read carried
  rw [ended] at submitted
  cases submitted with
  | formless chosen raised unsent => exact .formless chosen raised (requests ▸ unsent)
  | atFault chosen seeds first raised unsent =>
    exact .atFault chosen seeds first raised (requests ▸ unsent)
  | nowhere chosen seeds faultless submits target failed unsent =>
    exact .nowhere chosen seeds faultless submits target failed (requests ▸ unsent)
  | sent chosen seeds faultless merged submits target sent =>
    exact .sent chosen seeds faultless merged submits target (requests ▸ sent)

theorem perform_submit_eq_none (h : perform a (.submit choice overrides x extractor) s = none) :
    ∃ form text, choice.select s.page = .ok form ∧
      form.Resolves s.scope form.seededNames overrides text ∧
      Template.resolve? s.scope text = none := by
  obtain ⟨text, resolves, endless⟩ := carryOut_eq_none (Option.map_eq_none_iff.1 h)
  cases resolves with
  | value chosen resolves => exact ⟨_, text, chosen, resolves, endless⟩

inductive Form.Merges (form : Form) (overrides : List Override) (scope : Scope) :
    Option (Except ScriptError Dict) → Prop
  | submits {values} (h : form.Submits overrides scope values)
      (faultless : ∀ o ∈ overrides, ∀ fault, ¬form.AtFault overrides scope o fault) :
      Merges form overrides scope (some (.ok values))
  | fails {fault} (first : form.FirstAtFault overrides scope fault) :
      Merges form overrides scope (some (.error fault))
  | endless {text} (resolves : form.Resolves scope form.seededNames overrides text)
      (unresolved : Template.resolve? scope text = none) : Merges form overrides scope none

theorem Form.merges (differ : form.values.SpellingsDiffer) (overrides : List Override)
    (scope : Scope) :
    form.Merges overrides scope (form.merged overrides scope) := by
  cases h : form.merged overrides scope with
  | none =>
    obtain ⟨text, resolves, unresolved⟩ := override_eq_none h
    exact .endless resolves unresolved
  | some result =>
    cases result with
    | error fault => exact .fails (firstAtFault_of_merged h)
    | ok values => exact .submits (merged_submits h differ) fun o ho => not_atFault h ho

/-- Merging comes to the form's values as its overrides change them, or to the fault of the first
override that finds no option, unless a template that it resolves has no end. In a sequence of
submissions and other actions from a page, each submission is of a form as its element seeds it,
with its own overrides and the values of that moment; and one with an override at fault raises this
and is not sent. -/
theorem submitted_in_turn {page : Page} (on : s.page = some page) (read : page.AsRead)
    (earlier : s.Through a actions t) :
    (∀ element overrides scope, (Form.ofElement element).Merges overrides scope
      ((Form.ofElement element).merged overrides scope)) ∧
    (t.page = some page ∨ ∃ later, later.AsRead ∧ t.page = some later) ∧
    ∀ choice overrides x extractor,
      (∀ result u, perform a (.submit choice overrides x extractor) t = some (result, u) →
        t.Submitted choice overrides x result u) ∧
      (perform a (.submit choice overrides x extractor) t = none →
        ∃ form text, choice.select t.page = .ok form ∧
          form.Resolves t.scope form.seededNames overrides text ∧
          Template.resolve? t.scope text = none) := by
  have pages := earlier.page
  rw [on] at pages
  -- Whether the page is still the first one or has been read since, its forms are as they were
  -- seeded.
  have asRead : t.PageAsRead := by
    intro current here
    rcases pages with same | ⟨later, new, there⟩
    · cases same.symm.trans here
      exact read
    · cases there.symm.trans here
      exact new
  refine ⟨?_, pages, ?_⟩
  · intro element overrides scope
    exact Form.merges (Form.seeded_spellingsDiffer element) overrides scope
  · intro choice overrides x extractor
    constructor
    · intro result u performed
      exact perform_submitted asRead performed
    · exact perform_submit_eq_none

def twinPage : Page := ⟨"http://shop/", "", none, [.ofElement twinForm]⟩

def lost : Accessor Unit := ⟨fun _ s => (.ok ⟨404, "", "", none⟩, s)⟩

def submitTwins (overrides : List Override) : Action :=
  .submit {} overrides {} ⟨[], [], []⟩

/-- The state after a submission that has found nothing. -/
def lostAfter (s : Session Unit) (values : Dict) : Session Unit :=
  ((s.send lost (.submit "http://shop/" values [])).2).note (.performed (.failed "NotFound"))

theorem perform_submitTwins (s : Session Unit) {overrides : List Override} {values : Dict}
    (on : s.page = some twinPage)
    (merged : (Form.ofElement twinForm).merged overrides s.scope = some (.ok values)) :
    perform lost (submitTwins overrides) s =
      some (.ok (.failed "NotFound"), lostAfter s values) := by
  have chosen : FormChoice.select {} s.page = .ok (.ofElement twinForm) := by
    rw [on]
    rfl
  have request : submitRequest {} overrides {} s =
      some (.ok (.submit "http://shop/" values [])) := by
    rw [submitRequest_of_merged chosen merged, submission, on]
    rfl
  rw [perform, submitTwins, carryOut, request]
  rfl

def atTwins : Session Unit := { page := some twinPage, remote := () }

/-- What one submission has overridden is back where the form holds it in the next one. -/
theorem twins_submitted_again :
    atTwins.page = some twinPage ∧ twinPage.AsRead ∧
    ∃ t u, atTwins.Through lost [submitTwins [ada]] t ∧
      perform lost (submitTwins []) t = some (.ok (.failed "NotFound"), u) ∧
      t.Submitted {} [] {} (.ok (.failed "NotFound")) u ∧
      u.requests = [.submit "http://shop/" [("user", "1"), ("USER", "ada")] [],
        .submit "http://shop/" [("user", "1"), ("USER", "2")] []] := by
  have read : twinPage.AsRead := by
    intro form hf
    cases List.mem_singleton.1 hf
    rfl
  have first := perform_submitTwins atTwins rfl twin_merged
  have earlier : atTwins.Through lost [submitTwins [ada]] _ := .cons first (.nil _)
  have second :
      perform lost (submitTwins []) (lostAfter atTwins [("user", "1"), ("USER", "ada")]) = _ :=
    perform_submitTwins _ rfl rfl
  have submitted := ((submitted_in_turn rfl read earlier).2.2 {} [] {} ⟨[], [], []⟩).1 _ _ second
  exact ⟨rfl, read, _, _, earlier, second, submitted, rfl⟩

end WebScript
