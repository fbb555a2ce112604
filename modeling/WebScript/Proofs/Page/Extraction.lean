import Mathlib.Tactic.Common
import WebScript.Page.Extraction
import WebScript.Proofs.Except

namespace WebScript

variable {rule : Rule} {q : Query} {page : Page} {b : Breakdown} {found : List Found}

def Rule.reads (rule : Rule) (found : List Found) : List Found :=
  if rule.multiple then found else found.take 1

/-- The selector of a rule asks for an attribute, and by no possible name. -/
structure Rule.AsksForNoName (rule : Rule) (b : Breakdown) : Prop where
  wanted : Text.lower (rule.attr.getD "") ∉ ["html()", "text()", ""]
  impossible : Found.attributeName (rule.attr.getD "") = .error b

/-- A rule breaks down on a page: its selector asks for no possible name, and among the answers that
it reads there is an element to ask. -/
structure Rule.Breaks (rule : Rule) (q : Query) (page : Page) (b : Breakdown) : Prop where
  selector : rule.AsksForNoName b
  element : ∃ found n, page.ask q = some found ∧ .element n ∈ rule.reads found

/-- One of the rules breaks down on a page, and those before it find their values. -/
inductive Extractor.Breaks (page : Page) (b : Breakdown) : List (Rule × Query) → Prop
  | here {rule q rest} (h : rule.Breaks q page b) : Breaks page b ((rule, q) :: rest)
  | there {rule q rest value} (answered : rule.queryValue? q page = .ok value)
      (h : Breaks page b rest) : Breaks page b ((rule, q) :: rest)

theorem Found.value_eq_error {f : Found} :
    f.value rule.attr = .error b ↔ rule.AsksForNoName b ∧ ∃ n, f = .element n := by
  cases f with
  | element n =>
    have other (h : Text.lower (rule.attr.getD "") ∈ ["html()", "text()", ""]) :
        ¬rule.AsksForNoName b := fun asks => asks.wanted h
    rw [value]
    split
    · next h => simp [other (by simp [h])]
    · next h => simp [other (by simp [h])]
    · next h => simp [other (by simp [h])]
    · next h₁ h₂ h₃ =>
      have wanted : Text.lower (rule.attr.getD "") ∉ ["html()", "text()", ""] := by
        simp only [List.mem_cons, List.not_mem_nil, or_false, not_or]
        exact ⟨h₁, h₂, h₃⟩
      constructor
      · intro h
        rcases Except.bind_eq_error.1 h with h | ⟨_, _, h⟩
        · exact ⟨⟨wanted, h⟩, n, rfl⟩
        · cases h
      · rintro ⟨asks, _⟩
        exact Except.bind_eq_error.2 (.inl asks.impossible)
  | comment content => simp [value]
  | text content => simp [value]
  | declaration name address => simp [value]

theorem Rule.AsksForNoName.unique {b' : Breakdown} (h : rule.AsksForNoName b)
    (h' : rule.AsksForNoName b') : b = b' :=
  Except.error.inj (h.impossible.symm.trans h'.impossible)

theorem Rule.mapM_value_eq_error :
    found.mapM (Found.value rule.attr) = .error b ↔
      rule.AsksForNoName b ∧ ∃ n, .element n ∈ found := by
  constructor
  · intro h
    obtain ⟨_, hf, hv⟩ := Except.mapM_eq_error h
    obtain ⟨asks, n, rfl⟩ := Found.value_eq_error.1 hv
    exact ⟨asks, n, hf⟩
  · rintro ⟨asks, n, hn⟩
    obtain ⟨b', h⟩ := Except.exists_mapM_eq_error hn (Found.value_eq_error.2 ⟨asks, n, rfl⟩)
    obtain ⟨_, _, hv⟩ := Except.mapM_eq_error h
    rw [h, (Found.value_eq_error.1 hv).1.unique asks]

theorem Rule.answerValue?_eq_breakdown :
    rule.answerValue? found = .error (.breakdown b) ↔
      rule.AsksForNoName b ∧ ∃ n, .element n ∈ rule.reads found := by
  cases found with
  | nil => simp [answerValue?, reads]
  | cons first others =>
    rw [answerValue?, reads]
    split
    · refine Except.bind_eq_error.trans ?_
      rw [Except.mapError_eq_error]
      constructor
      · rintro (⟨_, h, hb⟩ | ⟨_, _, h⟩)
        · cases hb
          exact mapM_value_eq_error.1 h
        · cases h
      · intro h
        exact .inl ⟨b, mapM_value_eq_error.2 h, rfl⟩
    · refine Except.mapError_eq_error.trans ?_
      constructor
      · rintro ⟨_, h, hb⟩
        cases hb
        obtain ⟨asks, n, hn⟩ := Found.value_eq_error.1 (Except.map_eq_error.1 h)
        exact ⟨asks, n, by simp [hn]⟩
      · rintro ⟨asks, n, hn⟩
        have hf : first = .element n := by simpa [eq_comm] using hn
        exact ⟨b, Except.map_eq_error.2 (Found.value_eq_error.2 ⟨asks, n, hf⟩), rfl⟩

theorem Rule.queryValue?_eq_breakdown :
    rule.queryValue? q page = .error (.breakdown b) ↔ rule.Breaks q page b := by
  rw [queryValue?]
  cases asked : page.ask q with
  | none =>
    refine ⟨nofun, fun h => ?_⟩
    obtain ⟨found, n, hf, _⟩ := h.element
    cases asked.symm.trans hf
  | some found =>
    refine answerValue?_eq_breakdown.trans ⟨?_, fun h => ?_⟩
    · rintro ⟨selector, n, read⟩
      exact ⟨selector, found, n, asked, read⟩
    · obtain ⟨selector, found', n, hf, read⟩ := h
      cases asked.symm.trans hf
      exact ⟨selector, n, read⟩

theorem Extractor.answers_eq_breakdown {queries : List (Rule × Query)} {values : NameMap} :
    answers page queries values = .error (.breakdown b) ↔ Breaks page b queries := by
  induction queries generalizing values with
  | nil => exact ⟨nofun, nofun⟩
  | cons rq rest ih =>
    obtain ⟨rule, q⟩ := rq
    refine Except.bind_eq_error.trans ?_
    rw [Rule.queryValue?_eq_breakdown]
    constructor
    · rintro (h | ⟨value, answered, h⟩)
      · exact .here h
      · exact .there answered (ih.1 h)
    · intro h
      cases h with
      | here h => exact .inl h
      | there answered h => exact .inr ⟨_, answered, ih.2 h⟩

end WebScript
