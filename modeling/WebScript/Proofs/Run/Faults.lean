import Mathlib.Tactic.Common
import WebScript.Proofs.Except
import WebScript.Proofs.Run.Exchange
import WebScript.Run.Runner

namespace WebScript

variable {σ : Type} {a : Accessor σ}

theorem Rule.pattern?_error_kind {rule : Rule} {e : ScriptError}
    (h : rule.pattern? = .error (.script e)) : e.kind = .outputRule := by
  rw [pattern?] at h
  split at h
  · cases h
  · split at h <;> cases h
    rfl

theorem Rule.query?_error_kind {rule : Rule} {e : ScriptError}
    (h : rule.query? = .error (.script e)) : e.kind = .outputRule := by
  rw [query?] at h
  split at h
  · cases h
  · split at h <;> cases h
    rfl

theorem Extractor.ofRules_error_kind {rules : List Rule} {e : ScriptError}
    (h : ofRules rules = .error (.script e)) : e.kind = .outputRule := by
  rcases Except.bind_eq_error.1 h with h | ⟨patterns, _, h⟩
  · obtain ⟨rule, _, h⟩ := Except.mapM_eq_error h
    exact rule.pattern?_error_kind h
  · rcases Except.bind_eq_error.1 h with h | ⟨queries, _, h⟩
    · obtain ⟨rule, _, h⟩ := Except.mapM_eq_error h
      exact rule.query?_error_kind h
    · cases h

theorem Action.ofStep_error_kind {step : Step} {e : ScriptError}
    (h : ofStep step = .error (.script e)) : e.kind = .outputRule := by
  induction step with
  | fetch url x =>
    rcases Except.bind_eq_error.1 h with h | ⟨_, _, h⟩
    · exact Extractor.ofRules_error_kind h
    · cases h
  | submit choice overrides x =>
    rcases Except.bind_eq_error.1 h with h | ⟨_, _, h⟩
    · exact Extractor.ofRules_error_kind h
    · cases h
  | branch property value inner ih =>
    rcases Except.bind_eq_error.1 h with h | ⟨_, _, h⟩
    · exact ih h
    · cases h
  | jump target => cases h

theorem Target.actions_error_kind {t : Target} {e : ScriptError}
    (h : t.actions = .error (.script e)) : e.kind = .outputRule := by
  obtain ⟨step, _, h⟩ := Except.mapM_eq_error h
  exact Action.ofStep_error_kind h

/-- Faults of the form that a step means on its page, and of its selects and options. -/
def ScriptError.ofForm (e : ScriptError) : Prop :=
  e.kind ∈ [.formNotFound, .selectNotFound, .optionNotFound]

/-- Faults that show on a page: those of forms, and a query that cannot be answered there. -/
def ScriptError.ofPage (e : ScriptError) : Prop :=
  e.kind ∈ [.formNotFound, .selectNotFound, .optionNotFound, .outputRule]

theorem ScriptError.ofForm.ofPage {e : ScriptError} (h : e.ofForm) : e.ofPage := by
  simp only [ofForm, ScriptError.ofPage, List.mem_cons] at h ⊢
  tauto

theorem ScriptError.ofForm_formNotFound (e : FormError) : (formNotFound e).ofForm := by
  simp [ofForm, kind]

theorem Page.formBy_error {criterion wanted : String} {read : Form → String} {page : Page}
    {e : ScriptError} (h : page.formBy criterion read wanted = .error e) : e.ofForm := by
  rw [formBy] at h
  split at h <;> cases h
  exact ScriptError.ofForm_formNotFound _

theorem FormChoice.select_error {choice : FormChoice} {page : Option Page} {e : ScriptError}
    (h : choice.select page = .error e) : e.ofForm := by
  cases page with
  | none => cases h; exact ScriptError.ofForm_formNotFound _
  | some page =>
    rw [select] at h
    split at h
    · exact Page.formBy_error h
    · exact Page.formBy_error h
    · exact Page.formBy_error h
    · dsimp only at h
      split at h
      · cases h
        exact ScriptError.ofForm_formNotFound _
      · split at h <;> cases h
        exact ScriptError.ofForm_formNotFound _

theorem Form.valueByText_error {form : Form} {field text : String} {e : ScriptError}
    (h : form.valueByText field text = .error e) : e.ofForm := by
  rw [valueByText] at h
  split at h
  · cases h; simp [ScriptError.ofForm, ScriptError.kind]
  · dsimp only at h
    split at h <;> cases h
    simp [ScriptError.ofForm, ScriptError.kind]

theorem Form.given?_error {form : Form} {scope : Scope} {field : String} {o : Override}
    {e : ScriptError} (h : form.given? scope field o = some (.error e)) : e.ofForm := by
  rw [given?] at h
  split at h
  · cases h
  · obtain ⟨v, _, h⟩ := Option.map_eq_some_iff.1 h
    split at h
    · cases h
    · cases hv : form.valueByText field v with
      | error e' =>
        rw [hv] at h
        cases h
        exact valueByText_error hv
      | ok w => rw [hv] at h; cases h

theorem Form.override_error {form : Form} {scope : Scope} {names : List String}
    {overrides : List Override} {d : Dict} {e : ScriptError}
    (h : form.override scope names overrides d = some (.error e)) : e.ofForm := by
  induction overrides generalizing names d with
  | nil => cases h
  | cons o rest ih =>
    rw [override] at h
    split at h
    · cases h
    · next hg => cases h; exact given?_error hg
    · exact ih h

theorem submitRequest_error {choice : FormChoice} {overrides : List Override} {x : Exchange}
    {s : Session σ} {e : ScriptError}
    (h : submitRequest choice overrides x s = some (.error (.script e))) : e.ofForm := by
  rw [submitRequest] at h
  split at h
  · next hc => cases h; exact FormChoice.select_error hc
  · next form hc =>
    obtain ⟨merged, hm, h⟩ := Option.map_eq_some_iff.1 h
    cases merged with
    | error e' => cases h; exact Form.override_error hm
    | ok values =>
      rcases Except.bind_eq_error.1 h with h | ⟨_, _, h⟩
      · obtain ⟨b, _, h⟩ := Except.mapError_eq_error.1 h
        cases h
      · cases h

theorem Rule.answerValue?_error {rule : Rule} {found : List Found} {f : Failure}
    (h : rule.answerValue? found = .error f) : ∃ b, f = .breakdown b := by
  cases found with
  | nil => cases h
  | cons first others =>
    rw [answerValue?] at h
    split at h
    · rcases Except.bind_eq_error.1 h with h | ⟨_, _, h⟩
      · obtain ⟨b, _, rfl⟩ := Except.mapError_eq_error.1 h
        exact ⟨b, rfl⟩
      · cases h
    · obtain ⟨b, _, rfl⟩ := Except.mapError_eq_error.1 h
      exact ⟨b, rfl⟩

theorem Rule.queryValue?_error {rule : Rule} {q : Query} {page : Page} {e : ScriptError}
    (h : rule.queryValue? q page = .error (.script e)) : e.ofPage := by
  rw [queryValue?] at h
  split at h
  · cases h; simp [ScriptError.ofPage, ScriptError.kind, badXPath]
  · obtain ⟨b, h⟩ := answerValue?_error h
    cases h

theorem Extractor.answers_error {page : Page} {queries : List (Rule × Query)} {values : NameMap}
    {e : ScriptError} (h : answers page queries values = .error (.script e)) : e.ofPage := by
  induction queries generalizing values with
  | nil => cases h
  | cons rq rest ih =>
    rcases Except.bind_eq_error.1 h with h | ⟨_, _, h⟩
    · exact Rule.queryValue?_error h
    · exact ih h

/-- Where the exchange for a request ends with a fault, that is the fault of the request, one that
the accessor raises, or one that shows on the page. -/
theorem exchange_error {x : Exchange} {extractor : Extractor} {request : Except Failure Request}
    {s : Session σ} {ended : Ended σ Outcome} {e : ScriptError}
    (h : exchange a x extractor request s = ended) (he : ended.1 = .error (.script e)) :
    request = .error (.script e) ∨ (∃ r remote, (a.send r remote).1 = .error (.script e)) ∨
      e.ofPage := by
  cases exchange_cases h with
  | faulty => cases he; exact .inl rfl
  | raised answer => cases he; exact .inr (.inl ⟨_, _, answer⟩)
  | broken _ _ _ broken => cases he; exact .inr (.inr (Extractor.answers_error broken))
  | _ => cases he

theorem Action.asking?_error {action : Action} {s : Session σ} {q : Asking} {e : ScriptError}
    (h : action.asking? s = some q) (he : q.request = .error (.script e)) : e.ofForm := by
  rcases Action.asking?_request h with ⟨r, hr⟩ | ⟨choice, overrides, x, hr⟩
  · cases hr.symm.trans he
  · rw [he] at hr
    exact submitRequest_error hr

/-- An action ends with a fault of the script only where the accessor raises it or it shows on the
page. -/
theorem perform_error {action : Action} {s t : Session σ} {e : ScriptError}
    (h : perform a action s = some (.error (.script e), t)) :
    (∃ r remote, (a.send r remote).1 = .error (.script e)) ∨ e.ofPage := by
  obtain ⟨u, hc, _⟩ := perform_eq_some h
  cases hq : action.asking? s with
  | none => rcases carryOut_of_no_asking hq hc with he | ⟨_, he⟩ <;> cases he
  | some q =>
    rw [carryOut_of_asking hq] at hc
    rcases exchange_error (Option.some.inj hc) rfl with hr | h
    · exact .inr (Action.asking?_error hq hr).ofPage
    · exact h

end WebScript
