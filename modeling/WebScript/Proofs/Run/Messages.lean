import Mathlib.Tactic.Common
import WebScript.Proofs.Except
import WebScript.Proofs.Number
import WebScript.Proofs.Run.Exchange

namespace WebScript

variable {σ : Type} {a : Accessor σ}

/-- Every failure of a kind of its own that an accessor raises has a kind with a name. -/
def Accessor.NamesKinds (a : Accessor σ) : Prop :=
  ∀ request state kind text,
    (a.send request state).1 = .error (.breakdown (.remote kind text)) → kind ≠ ""

theorem Mismatch.message_ne_empty (m : Mismatch) : m.message ≠ "" := by
  simp [message, toString]

theorem orElse_ne_empty {text other : String} (h : other ≠ "") :
    (if text.isEmpty then other else text) ≠ "" := by
  by_cases empty : text.isEmpty = true
  · rwa [if_pos empty]
  · rw [if_neg empty]
    rintro rfl
    exact empty rfl

theorem Breakdown.report_ne_empty {b : Breakdown}
    (named : ∀ kind text, b = .remote kind text → kind ≠ "") : b.report ≠ "" := by
  cases b with
  | badValue text => exact orElse_ne_empty (by decide)
  | browser text => exact orElse_ne_empty (by decide)
  | remote kind text => exact orElse_ne_empty (named kind text rfl)
  | directory path =>
    change s!"Is a directory: {path}" ≠ ""
    simp [toString]
  | tooLarge => decide
  | emptyNumber => decide
  | unknownTruthValue => decide
  | notATimestamp => decide
  | emptyPage => decide

theorem Http.statusName_ne_empty (code : Int) : statusName code ≠ "" := by
  have phrases : ∀ e ∈ statusPhrases, runTogether true e.2.toList ≠ [] := by decide +kernel
  rw [statusName]
  split
  · next phrase h =>
    obtain ⟨before, after, he, _⟩ := List.lookup_eq_some_iff.1 h
    have hmem : (code, phrase) ∈ statusPhrases := by
      rw [he]
      simp
    simpa using phrases _ hmem
  · simpa using Number.intText_ne_nil code

theorem Extractor.verdict_ne_failed_empty (x : Extractor) (values : NameMap) :
    x.verdict values ≠ .failed "" := by
  intro h
  rw [verdict] at h
  cases hm : x.mismatch? values with
  | none =>
    rw [hm] at h
    cases h
  | some m =>
    rw [hm] at h
    exact m.message_ne_empty (Outcome.failed.inj h)

theorem Page.ofText_error {url html : String} {b : Breakdown} (h : ofText url html = .error b) :
    b = .emptyPage := by
  rw [ofText] at h
  split at h
  · cases h
  · split at h <;> cases h
    rfl

theorem submission_error {form : Form} {values : Dict} {x : Exchange} {s : Session σ} {f : Failure}
    (h : submission form values x s = .error f) : ∃ text, f = .breakdown (.badValue text) := by
  rcases Except.bind_eq_error.1 h with h | ⟨_, _, h⟩
  · obtain ⟨b, hb, rfl⟩ := Except.mapError_eq_error.1 h
    obtain ⟨_, _, rfl⟩ := Except.mapError_eq_error.1 hb
    exact ⟨_, rfl⟩
  · cases h

theorem submitRequest_breakdown {choice : FormChoice} {overrides : List Override} {x : Exchange}
    {s : Session σ} {b : Breakdown}
    (h : submitRequest choice overrides x s = some (.error (.breakdown b))) :
    ∃ text, b = .badValue text := by
  rw [submitRequest] at h
  split at h
  · cases h
  · obtain ⟨merged, _, h⟩ := Option.map_eq_some_iff.1 h
    cases merged with
    | error e => cases h
    | ok values =>
      obtain ⟨text, hb⟩ := submission_error h
      exact ⟨text, Failure.breakdown.inj hb⟩

/-- A request that breaks down before it is sent does so over an address. -/
theorem Action.asking?_breakdown {action : Action} {s : Session σ} {q : Asking} {b : Breakdown}
    (h : action.asking? s = some q) (hb : q.request = .error (.breakdown b)) :
    ∃ text, b = .badValue text := by
  rcases Action.asking?_request h with ⟨r, hr⟩ | ⟨choice, overrides, x, hr⟩
  · cases hr.symm.trans hb
  · rw [hb] at hr
    exact submitRequest_breakdown hr

theorem Exchanged.ne_failed_empty {accepted : List Int} {x : Extractor} {s : Session σ}
    {request : Except Failure Request} {e : Ended σ Outcome}
    (h : Exchanged a accepted x s request e) (named : a.NamesKinds)
    (unmade : ∀ b, request = .error (.breakdown b) → ∃ text, b = .badValue text) :
    e.1 ≠ .ok (.failed "") := by
  have report {b : Breakdown} (hb : ∀ kind text, b = .remote kind text → kind ≠ "") :
      (.ok (.failed b.report) : Except Failure Outcome) ≠ .ok (.failed "") := by
    intro he
    exact Breakdown.report_ne_empty hb (Outcome.failed.inj (Except.ok.inj he))
  cases h with
  | faulty => exact nofun
  | unmade =>
    obtain ⟨text, rfl⟩ := unmade _ rfl
    exact report nofun
  | raised => exact nofun
  | lost answer =>
    apply report
    rintro kind text rfl
    exact named _ _ kind text answer
  | rejected =>
    intro he
    exact Http.statusName_ne_empty _ (Outcome.failed.inj (Except.ok.inj he))
  | unread _ _ unreadable =>
    rw [Page.ofText_error unreadable]
    exact report nofun
  | broken => exact nofun
  | taken =>
    intro he
    exact Extractor.verdict_ne_failed_empty _ _ (Except.ok.inj he)

theorem perform_failed_ne_empty {action : Action} {s t : Session σ} {text : String}
    (named : a.NamesKinds) (h : perform a action s = some (.ok (.failed text), t)) : text ≠ "" := by
  obtain ⟨u, hc, _⟩ := perform_eq_some h
  rintro rfl
  cases hq : action.asking? s with
  | none => rcases carryOut_of_no_asking hq hc with he | ⟨_, he⟩ <;> cases he
  | some q =>
    rw [carryOut_of_asking hq] at hc
    have hx := exchange_cases (Option.some.inj hc)
    exact hx.ne_failed_empty named (fun b => Action.asking?_breakdown hq) rfl

end WebScript
