import WebScript.Proofs.Precedence
import WebScript.Proofs.Run.Ways

namespace WebScript

variable {σ τ : Type} {a : Accessor σ} {b : Accessor τ} {s : Session σ} {t : Session τ}
  {action : Action}
  {q q' : Asking} {x : Extractor} {rule : Rule} {values : NameMap} {response : Response}
  {page : Page}

/-- What a rule expects is what stands under its name, whatever the case. A name without a value
counts as one with an empty value. -/
def Rule.IsMet (values : NameMap) (rule : Rule) : Prop :=
  ∀ expected, filled? rule.expected = some expected →
    Text.fold expected = Text.fold ((values.get? rule.name).getD "")

def Rule.unmet (values : NameMap) (rule : Rule) : Mismatch where
  expected := rule.expected.getD ""
  actual := (values.get? rule.name).getD ""

theorem Rule.mismatch?_of_filled {expected : String}
    (filled : filled? rule.expected = some expected) :
    rule.mismatch? values =
      if Text.fold expected = Text.fold ((values.get? rule.name).getD "") then none
      else some (rule.unmet values) := by
  have own : rule.expected.getD "" = expected := by
    rw [(Option.filter_eq_some_iff.1 filled).1, Option.getD_some]
  rw [mismatch?, filled, unmet, own]
  simp [Text.sameFolded]

theorem Rule.mismatch?_eq_none_iff : rule.mismatch? values = none ↔ rule.IsMet values := by
  rw [IsMet]
  cases filled : filled? rule.expected with
  | none =>
    rw [mismatch?, filled]
    exact ⟨fun _ => nofun, fun _ => rfl⟩
  | some expected =>
    rw [mismatch?_of_filled filled]
    simp

theorem Rule.mismatch?_of_not_isMet (h : ¬rule.IsMet values) :
    rule.mismatch? values = some (rule.unmet values) := by
  have found := mt mismatch?_eq_none_iff.1 h
  cases filled : filled? rule.expected with
  | none =>
    rw [mismatch?, filled] at found
    exact absurd rfl found
  | some expected =>
    rw [mismatch?_of_filled filled] at found ⊢
    split
    · next same => exact absurd (if_pos same) found
    · rfl

theorem Extractor.verdict_eq_done_iff :
    x.verdict values = .done ↔ ∀ rule ∈ x.rules, rule.IsMet values := by
  have all : x.mismatch? values = none ↔ ∀ rule ∈ x.rules, rule.IsMet values := by
    rw [mismatch?, List.findSome?_eq_none_iff]
    simp only [Rule.mismatch?_eq_none_iff]
  rw [← all, verdict]
  cases x.mismatch? values <;> simp

theorem Extractor.verdict_of_isFirst (first : IsFirst (fun r => ¬r.IsMet values) x.rules rule) :
    x.verdict values = .failed (rule.unmet values).message := by
  obtain ⟨before, after, split, met⟩ := first.split
  have none : before.findSome? (Rule.mismatch? values) = none := by
    rw [List.findSome?_eq_none_iff]
    intro r hr
    exact Rule.mismatch?_eq_none_iff.2 (not_not.1 (met r hr))
  have found : x.mismatch? values = some (rule.unmet values) := by
    rw [mismatch?, split, List.findSome?_append, none, Option.none_or, List.findSome?_cons,
      Rule.mismatch?_of_not_isMet first.holds]
  rw [verdict, found]

/-- What an action asks for, itself or in the branches it matches, is answered by a response. -/
structure Action.Receives (action : Action) (a : Accessor σ) (s : Session σ) (q : Asking)
    (response : Response) : Prop where
  asking : action.asking? s = some q
  answer : ∃ r, q.request = .ok r ∧ (a.send r s.remote).1 = .ok response

/-- How an answer is taken belongs to the action; only the request hangs on the state. -/
theorem Action.asking?_same (h : action.asking? s = some q) (h' : action.asking? t = some q') :
    q'.exchange = q.exchange ∧ q'.extractor = q.extractor := by
  induction action with
  | fetch url x extractor =>
    obtain ⟨_, _, rfl⟩ := Option.map_eq_some_iff.1 h
    obtain ⟨_, _, rfl⟩ := Option.map_eq_some_iff.1 h'
    exact ⟨rfl, rfl⟩
  | submit choice overrides x extractor =>
    obtain ⟨_, _, rfl⟩ := Option.map_eq_some_iff.1 h
    obtain ⟨_, _, rfl⟩ := Option.map_eq_some_iff.1 h'
    exact ⟨rfl, rfl⟩
  | branch property value inner ih =>
    rw [asking?] at h h'
    split at h
    · split at h'
      · exact ih h h'
      · cases h'
    · cases h
  | jump target => cases h

theorem Action.Receives.result (received : action.Receives a s q response)
    (accepted : response.status ∈ q.exchange.accepted)
    (read : Page.ofText response.url response.html = .ok page)
    (extracted : q.extractor.extract page = .ok values) :
    ∃ e, perform a action s = some e ∧ e.1 = .ok (q.extractor.verdict values) := by
  obtain ⟨r, request, answer⟩ := received.answer
  refine ⟨_, by rw [perform, carryOut_of_asking received.asking, Option.map_some], ?_⟩
  rw [noted_fst, exchange, request, obtain_of_answer answer, accept_of_mem accepted, read]
  exact congrArg Prod.fst (takeOutputs_of_ok extracted)

/-- A step on an answer that is accepted and can be read succeeds exactly if all its rules are met
by what it has extracted itself, and else fails for the first one that is not. Wherever the same
answer is received, it ends in the same way. -/
theorem expectations_judge_step (received : action.Receives a s q response)
    (accepted : response.status ∈ q.exchange.accepted)
    (read : Page.ofText response.url response.html = .ok page)
    (extracted : q.extractor.extract page = .ok values) :
    ∃ e, perform a action s = some e ∧
      (e.1 = .ok .done ↔ ∀ rule ∈ q.extractor.rules, rule.IsMet values) ∧
      (e.1 = .ok .done ∨ ∃ rule, IsFirst (fun r => ¬r.IsMet values) q.extractor.rules rule ∧
        e.1 = .ok (.failed (rule.unmet values).message)) ∧
      ∀ {τ : Type} (b : Accessor τ) (t : Session τ) (q' : Asking), action.Receives b t q' response →
        ∃ e', perform b action t = some e' ∧ e'.1 = e.1 := by
  obtain ⟨e, performed, result⟩ := received.result accepted read extracted
  have done : e.1 = .ok .done ↔ ∀ rule ∈ q.extractor.rules, rule.IsMet values := by
    rw [result, ← Extractor.verdict_eq_done_iff]
    exact ⟨Except.ok.inj, congrArg _⟩
  refine ⟨e, performed, done, ?_, ?_⟩
  · by_cases met : ∀ rule ∈ q.extractor.rules, rule.IsMet values
    · exact .inl (done.2 met)
    · right
      push Not at met
      obtain ⟨rule, first⟩ := exists_isFirst met
      exact ⟨rule, first, by rw [result, Extractor.verdict_of_isFirst first]⟩
  · intro τ b t q' received'
    obtain ⟨exchange, extractor⟩ := Action.asking?_same received.asking received'.asking
    rw [← exchange] at accepted
    rw [← extractor] at extracted
    obtain ⟨e', performed', result'⟩ := received'.result accepted read extracted
    exact ⟨e', performed', by rw [result', result, extractor]⟩

/-- A state in which an earlier step has left behind just the title that is expected. -/
def titled : Session Unit :=
  { Runner.start [] () with outputs := (∅ : NameMap).put "title" "Shop" }

theorem titleFetch_receives (s : Session Unit) :
    titleFetch.Receives blankPages s titleAsking ⟨200, "http://shop/", "", none⟩ where
  asking := by
    have url : Template.resolve? s.scope "http://shop/" = some "http://shop/" :=
      Template.resolve?_of_no_opener (by decide)
    rw [titleFetch, Action.asking?, fetchRequest, url]
    rfl
  answer := ⟨_, rfl, rfl⟩

/-- The page has no title, and the one that is remembered does not make up for it. -/
theorem titled_fetch_fails : titled.outputs.get? "Title" = some "Shop" ∧
    ∃ e, perform blankPages titleFetch titled = some e ∧
      e.1 = .ok (.failed "Expected:Shop, but the actual value is: ") ∧
      ∃ e', perform blankPages titleFetch (Runner.start [] ()) = some e' ∧ e'.1 = e.1 := by
  have extracted : titleAsking.extractor.extract ⟨"http://shop/", "", none, []⟩ = .ok ∅ := rfl
  obtain ⟨e, performed, done, ends, same⟩ :=
    expectations_judge_step (titleFetch_receives titled) (by decide) rfl extracted
  refine ⟨by decide, e, performed, ?_,
    same _ _ _ (titleFetch_receives (Runner.start [] ()))⟩
  rcases ends with ends | ⟨rule, first, failed⟩
  · have met := done.1 ends _ List.mem_cons_self "Shop" rfl
    exact absurd met (by decide)
  · cases List.mem_singleton.1 first.mem
    exact failed

end WebScript
