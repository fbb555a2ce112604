import WebScript.Page.Extraction
import WebScript.Proofs.Except

namespace WebScript

variable {rule : Rule} {rules : List Rule} {b : Breakdown} {f : Failure}

/-- The pattern of a rule is refused, and not for its form: for a repetition that is too large, for
a number with too many digits, or for flags that exclude each other. -/
inductive Rule.PatternBreaks (rule : Rule) : Breakdown → Prop
  | tooLarge {text} (given : filled? rule.regex = some text)
      (refused : Pattern.ofText text = .error .tooLarge) : PatternBreaks rule .tooLarge
  | badValue {text} (given : filled? rule.regex = some text)
      (refused : Pattern.ofText text = .error .badValue) : PatternBreaks rule (.badValue "")

/-- The query of a rule is refused for a character that no document can hold. -/
inductive Rule.QueryBreaks (rule : Rule) : Breakdown → Prop
  | illegal {text c} (given : filled? rule.xpath = some text) (held : c ∈ text.toList)
      (illegal : isIllegal c = true) : QueryBreaks rule (.badValue "")

/-- Making rules ready breaks down at the pattern of a rule before which all patterns are read, or,
if they all are, at the query of a rule before which all queries are read. -/
inductive Extractor.RulesBreak (rules : List Rule) (b : Breakdown) : Prop
  | pattern {before rule after} (split : rules = before ++ rule :: after)
      (earlier : ∀ u ∈ before, ∃ p, u.pattern? = .ok p) (h : rule.PatternBreaks b)
  | query {before rule after} (patterns : ∀ u ∈ rules, ∃ p, u.pattern? = .ok p)
      (split : rules = before ++ rule :: after)
      (earlier : ∀ u ∈ before, ∃ q, u.query? = .ok q) (h : rule.QueryBreaks b)

theorem Rule.pattern?_eq_breakdown :
    rule.pattern? = .error (.breakdown b) ↔ rule.PatternBreaks b := by
  constructor
  · intro h
    rw [pattern?] at h
    split at h
    · cases h
    · next text given =>
      split at h <;> cases h
      · next refused => exact .tooLarge given refused
      · next refused => exact .badValue given refused
  · intro h
    cases h with
    | tooLarge given refused => simp only [pattern?, given, refused]
    | badValue given refused => simp only [pattern?, given, refused]

theorem Query.ofText_eq_illegal {text : String} :
    ofText text = .error .illegalCharacter ↔ ∃ c ∈ text.toList, isIllegal c = true := by
  rw [ofText]
  split
  · next h => simpa using h
  · next h =>
    constructor
    · intro ht
      split at ht <;> cases ht
    · rintro ⟨c, hc, illegal⟩
      exact absurd (List.any_eq_true.2 ⟨c, hc, illegal⟩) h

theorem Rule.query?_eq_breakdown :
    rule.query? = .error (.breakdown b) ↔ rule.QueryBreaks b := by
  constructor
  · intro h
    rw [query?] at h
    split at h
    · cases h
    · next text given =>
      split at h <;> cases h
      next refused =>
      obtain ⟨c, held, illegal⟩ := Query.ofText_eq_illegal.1 refused
      exact .illegal given held illegal
  · intro h
    cases h with
    | illegal given held illegal =>
      simp only [query?, given, Query.ofText_eq_illegal.2 ⟨_, held, illegal⟩]

namespace Extractor

theorem ofRules_eq_error :
    ofRules rules = .error f ↔ rules.mapM Rule.pattern? = .error f ∨
      (∃ ps, rules.mapM Rule.pattern? = .ok ps) ∧ rules.mapM Rule.query? = .error f := by
  rw [ofRules, Except.bind_eq_error]
  refine or_congr_right ⟨?_, ?_⟩
  · rintro ⟨ps, patterns, h⟩
    rcases Except.bind_eq_error.1 h with h | ⟨_, _, h⟩
    · exact ⟨⟨ps, patterns⟩, h⟩
    · cases h
  · rintro ⟨⟨ps, patterns⟩, h⟩
    exact ⟨ps, patterns, Except.bind_eq_error.2 (.inl h)⟩

/-- Making rules ready breaks down exactly where the first rule that is refused is not refused for
its form. -/
theorem ofRules_eq_breakdown :
    ofRules rules = .error (.breakdown b) ↔ RulesBreak rules b := by
  rw [ofRules_eq_error, Except.exists_mapM_eq_ok_iff, Except.mapM_eq_error_iff,
    Except.mapM_eq_error_iff]
  constructor
  · rintro (⟨before, rule, after, split, earlier, h⟩ |
      ⟨patterns, before, rule, after, split, earlier, h⟩)
    · exact .pattern split earlier (Rule.pattern?_eq_breakdown.1 h)
    · exact .query patterns split earlier (Rule.query?_eq_breakdown.1 h)
  · intro h
    cases h with
    | pattern split earlier h =>
      exact .inl ⟨_, _, _, split, earlier, Rule.pattern?_eq_breakdown.2 h⟩
    | query patterns split earlier h =>
      exact .inr ⟨patterns, _, _, _, split, earlier, Rule.query?_eq_breakdown.2 h⟩

end Extractor
end WebScript
