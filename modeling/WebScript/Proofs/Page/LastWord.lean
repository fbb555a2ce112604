import WebScript.Proofs.NameMap
import WebScript.Proofs.Page.Findings
import WebScript.Proofs.Precedence

namespace WebScript

variable {rules rules' : List Rule} {rule : Rule} {x : Extractor} {page : Page} {m values : NameMap}
  {puts : List (String × String)} {name value : String} {value? : Rule → Option String}

/-- A rule is about a name, whatever the case of either. -/
def Rule.IsFor (name : String) (rule : Rule) : Prop :=
  NameMap.key rule.name = NameMap.key name

instance (name : String) (rule : Rule) : Decidable (rule.IsFor name) :=
  inferInstanceAs (Decidable (_ = _))

/-- What is put among the values for a rule that has found one. -/
def Rule.noted (value? : Rule → Option String) (rule : Rule) : Option (String × String) :=
  (value? rule).map (rule.name, ·)

theorem lastOf_noted (name : String) (value? : Rule → Option String) (rules : List Rule) :
    NameMap.lastOf name (rules.filterMap (Rule.noted value?)) =
      (rules.reverse.find? fun rule => decide (rule.IsFor name ∧ (value? rule).isSome)).bind
        (Rule.noted value?) := by
  have tests : (fun rule => (Rule.noted value? rule).any fun p =>
      decide (NameMap.key p.1 = NameMap.key name)) =
        fun rule => decide (rule.IsFor name ∧ (value? rule).isSome) := by
    funext rule
    cases found : value? rule <;> simp [Rule.noted, Rule.IsFor, found]
  rw [NameMap.lastOf, ← List.filterMap_reverse, List.find?_filterMap, tests]

/-- The value that is noted last for a name is that of the last rule for it that has one. -/
theorem last_noted_eq_some_iff :
    (NameMap.lastOf name (rules.filterMap (Rule.noted value?))).map (·.2) = some value ↔
      ∃ rule, IsLast (fun r => r.IsFor name ∧ (value? r).isSome) rules rule ∧
        value? rule = some value := by
  rw [lastOf_noted]
  constructor
  · intro h
    obtain ⟨p, noted, rfl⟩ := Option.map_eq_some_iff.1 h
    obtain ⟨rule, found, noted⟩ := Option.bind_eq_some_iff.1 noted
    obtain ⟨value, own, rfl⟩ := Option.map_eq_some_iff.1 noted
    exact ⟨rule, isLast_iff_find?.2 found, own⟩
  · rintro ⟨rule, last, own⟩
    rw [isLast_iff_find?.1 last, Option.bind_some, Rule.noted, own]
    rfl

theorem last_noted_eq_none_iff :
    NameMap.lastOf name (rules.filterMap (Rule.noted value?)) = none ↔
      ∀ rule ∈ rules, rule.IsFor name → value? rule = none := by
  rw [NameMap.lastOf, List.find?_eq_none]
  simp only [List.mem_reverse, List.mem_filterMap, Rule.noted, decide_eq_true_eq]
  constructor
  · intro h rule hr named
    cases found : value? rule with
    | none => rfl
    | some value => exact absurd named (h (rule.name, value) ⟨rule, hr, by rw [found]; rfl⟩)
  · rintro h p ⟨rule, hr, noted⟩ named
    obtain ⟨value, found, rfl⟩ := Option.map_eq_some_iff.1 noted
    rw [h rule hr named] at found
    cases found

namespace Extractor

theorem records_note (h : m.Records puts) (rule : Rule) (value : Option String) :
    (note rule value m).Records (puts ++ (value.map (rule.name, ·)).toList) := by
  cases value with
  | none => simpa [note] using h
  | some v => exact h.put rule.name v

theorem records_matches (h : m.Records puts) (page : Page) (patterns : List (Rule × Pattern)) :
    (patterns.foldl (fun values (rule, p) => note rule (rule.patternValue? p page.subject) values)
      m).Records (puts ++ patterns.filterMap fun (rule, p) =>
        (rule.patternValue? p page.subject).map (rule.name, ·)) := by
  induction patterns generalizing m puts with
  | nil => simpa using h
  | cons rp patterns ih =>
    have noted := ih (records_note h rp.1 (rp.1.patternValue? rp.2 page.subject))
    rw [List.append_assoc] at noted
    rw [List.foldl_cons, List.filterMap_cons]
    cases found : rp.1.patternValue? rp.2 page.subject <;> simpa [found] using noted

theorem records_answers {queries : List (Rule × Query)} (h : m.Records puts)
    (answered : answers page queries m = .ok values) :
    values.Records (puts ++ queries.filterMap fun (rule, q) =>
      (rule.queryValue? q page).toOption.join.map (rule.name, ·)) := by
  induction queries generalizing m puts with
  | nil =>
    cases answered
    simpa using h
  | cons rq queries ih =>
    obtain ⟨rule, q⟩ := rq
    obtain ⟨value, read, answered⟩ := Except.bind_eq_ok.1 answered
    have noted := ih (records_note h rule value) answered
    rw [List.append_assoc] at noted
    have own : (rule.queryValue? q page).toOption.join = value := by
      rw [read]
      rfl
    simp only [List.filterMap_cons, own]
    cases value <;> simpa using noted

theorem exists_answers_iff {queries : List (Rule × Query)} :
    (∃ values, answers page queries m = .ok values) ↔
      ∀ rq ∈ queries, ∃ value, rq.1.queryValue? rq.2 page = .ok value := by
  induction queries generalizing m with
  | nil => simp [answers]
  | cons rq queries ih =>
    obtain ⟨rule, q⟩ := rq
    rw [List.forall_mem_cons]
    constructor
    · rintro ⟨values, h⟩
      obtain ⟨value, read, h⟩ := Except.bind_eq_ok.1 h
      exact ⟨⟨value, read⟩, ih.1 ⟨values, h⟩⟩
    · rintro ⟨⟨value, read⟩, others⟩
      obtain ⟨values, h⟩ := ih.2 others
      exact ⟨values, Except.bind_eq_ok.2 ⟨value, read, h⟩⟩

theorem ofRules_eq_ok (h : ofRules rules = .ok x) : x.rules = rules ∧
    x.patterns = (rules.filterMap fun rule => rule.pattern?.toOption.join) ∧
    x.queries = rules.filterMap fun rule => rule.query?.toOption.join := by
  obtain ⟨patterns, hp, h⟩ := Except.bind_eq_ok.1 h
  obtain ⟨queries, hq, h⟩ := Except.bind_eq_ok.1 h
  cases h
  exact ⟨rfl, Except.reduceOption_of_mapM hp, Except.reduceOption_of_mapM hq⟩

theorem exists_extract_iff (ready : ofRules rules = .ok x) :
    (∃ values, x.extract page = .ok values) ↔ ∀ rule ∈ rules, rule.Readable page := by
  obtain ⟨_, _, queries⟩ := ofRules_eq_ok ready
  apply exists_answers_iff.trans
  rw [queries]
  constructor
  · intro h rule hr q query
    apply Rule.exists_queryValue?_iff.1
    exact h (rule, q) (List.mem_filterMap.2 ⟨rule, hr, Except.join_toOption_eq_some.2 query⟩)
  · rintro h ⟨rule, q⟩ hrq
    obtain ⟨rule', hr, joined⟩ := List.mem_filterMap.1 hrq
    have query := Except.join_toOption_eq_some.1 joined
    cases Rule.eq_of_query? query
    exact Rule.exists_queryValue?_iff.2 (h rule hr q query)

theorem noted_matched (page : Page) (rule : Rule) :
    (rule.pattern?.toOption.join.bind fun (rule, p) =>
      (rule.patternValue? p page.subject).map (rule.name, ·)) =
        rule.noted (Rule.matched? page) := by
  rw [Rule.noted, Rule.matched?]
  cases joined : rule.pattern?.toOption.join with
  | none => rfl
  | some rp =>
    cases Rule.eq_of_pattern? (Except.join_toOption_eq_some.1 joined)
    rfl

theorem noted_answered (page : Page) (rule : Rule) :
    (rule.query?.toOption.join.bind fun (rule, q) =>
      (rule.queryValue? q page).toOption.join.map (rule.name, ·)) =
        rule.noted (Rule.answered? page) := by
  rw [Rule.noted, Rule.answered?]
  cases joined : rule.query?.toOption.join with
  | none => rfl
  | some rq =>
    cases Rule.eq_of_query? (Except.join_toOption_eq_some.1 joined)
    rfl

/-- What has been extracted records the values of all patterns, and after them those of all queries.
-/
theorem records_extract (ready : ofRules rules = .ok x) (done : x.extract page = .ok values) :
    values.Records (rules.filterMap (Rule.noted (Rule.matched? page)) ++
      rules.filterMap (Rule.noted (Rule.answered? page))) := by
  obtain ⟨_, patterns, queries⟩ := ofRules_eq_ok ready
  have records := records_answers (records_matches .empty page x.patterns) done
  rw [List.nil_append, patterns, queries, List.filterMap_filterMap,
    List.filterMap_congr fun rule _ => noted_matched page rule, List.filterMap_filterMap,
    List.filterMap_congr fun rule _ => noted_answered page rule] at records
  exact records

theorem get?_extract (ready : ofRules rules = .ok x) (done : x.extract page = .ok values)
    (name : String) : values.get? name =
      ((NameMap.lastOf name (rules.filterMap (Rule.noted (Rule.answered? page)))).or
        (NameMap.lastOf name (rules.filterMap (Rule.noted (Rule.matched? page))))).map (·.2) := by
  rw [(records_extract ready done).get?_eq name]
  apply congrArg
  exact Pairs.lastOf_append NameMap.key name _ _

/-- The value that queries give to a name is that of the last rule for it whose query has results.
-/
theorem last_answered_iff (readable : ∀ rule ∈ rules, rule.Readable page) :
    (NameMap.lastOf name (rules.filterMap (Rule.noted (Rule.answered? page)))).map (·.2) =
      some value ↔
      ∃ rule, IsLast (fun r => r.IsFor name ∧ r.Yields page) rules rule ∧
        rule.Answers page value := by
  have same : ∀ r ∈ rules, (r.IsFor name ∧ (r.answered? page).isSome = true) ↔
      (r.IsFor name ∧ r.Yields page) := by
    intro r hr
    exact and_congr_right fun _ => Rule.exists_answered?_iff (readable r hr)
  rw [last_noted_eq_some_iff]
  constructor
  · rintro ⟨rule, last, own⟩
    exact ⟨rule, last.congr same, Rule.answered?_eq_some_iff.1 own⟩
  · rintro ⟨rule, last, own⟩
    exact ⟨rule, last.congr fun r hr => (same r hr).symm, Rule.answered?_eq_some_iff.2 own⟩

theorem none_answered_iff (readable : ∀ rule ∈ rules, rule.Readable page) :
    NameMap.lastOf name (rules.filterMap (Rule.noted (Rule.answered? page))) = none ↔
      ∀ rule ∈ rules, rule.IsFor name → ¬rule.Yields page := by
  rw [last_noted_eq_none_iff]
  apply forall₃_congr
  intro rule hr _
  rw [← Rule.exists_answered?_iff (readable rule hr), Option.not_isSome_iff_eq_none]

theorem last_matched_iff :
    (NameMap.lastOf name (rules.filterMap (Rule.noted (Rule.matched? page)))).map (·.2) =
      some value ↔
      ∃ rule, IsLast (fun r => r.IsFor name ∧ r.Applies page) rules rule ∧
        rule.Matches page value := by
  simp only [last_noted_eq_some_iff, Rule.exists_matched?_iff, Rule.matched?_eq_some_iff]

theorem none_matched_iff :
    NameMap.lastOf name (rules.filterMap (Rule.noted (Rule.matched? page))) = none ↔
      ∀ rule ∈ rules, rule.IsFor name → ¬rule.Applies page := by
  simp only [last_noted_eq_none_iff, ← Rule.exists_matched?_iff, Option.not_isSome_iff_eq_none]

theorem get?_extract_eq_some_iff (ready : ofRules rules = .ok x)
    (done : x.extract page = .ok values) :
    values.get? name = some value ↔
      (∃ rule, IsLast (fun r => r.IsFor name ∧ r.Yields page) rules rule ∧
        rule.Answers page value) ∨
      (∀ r ∈ rules, r.IsFor name → ¬r.Yields page) ∧
        ∃ rule, IsLast (fun r => r.IsFor name ∧ r.Applies page) rules rule ∧
          rule.Matches page value := by
  have readable := (exists_extract_iff ready).1 ⟨values, done⟩
  rw [get?_extract ready done, ← last_answered_iff readable, ← none_answered_iff readable,
    ← last_matched_iff]
  cases NameMap.lastOf name (rules.filterMap (Rule.noted (Rule.answered? page))) <;> simp

theorem get?_extract_eq_none_iff (ready : ofRules rules = .ok x)
    (done : x.extract page = .ok values) :
    values.get? name = none ↔
      ∀ rule ∈ rules, rule.IsFor name → ¬rule.Yields page ∧ ¬rule.Applies page := by
  have readable := (exists_extract_iff ready).1 ⟨values, done⟩
  rw [get?_extract ready done, Option.map_eq_none_iff, Option.or_eq_none_iff,
    none_answered_iff readable, none_matched_iff]
  constructor
  · rintro ⟨noResult, noMatch⟩ rule hr own
    exact ⟨noResult rule hr own, noMatch rule hr own⟩
  · intro h
    exact ⟨fun rule hr own => (h rule hr own).1, fun rule hr own => (h rule hr own).2⟩

theorem ofRules_bind_extract (rules : List Rule) (page : Page) :
    (ofRules rules >>= extract page) =
      ((rules.mapM Rule.pattern?).map List.reduceOption >>= fun patterns =>
        (rules.mapM Rule.query?).map List.reduceOption >>= fun queries =>
          extract page ⟨[], patterns, queries⟩) := by
  rw [ofRules]
  cases rules.mapM Rule.pattern? with
  | error f => rfl
  | ok patterns => cases rules.mapM Rule.query? <;> rfl

end Extractor

/-- Two lists have the same rules with patterns in the same order, and the same rules with queries.
-/
structure Rule.OrderedAlike (rules rules' : List Rule) : Prop where
  patterns : (rules.filter fun rule => (filled? rule.regex).isSome) =
    rules'.filter fun rule => (filled? rule.regex).isSome
  queries : (rules.filter fun rule => (filled? rule.xpath).isSome) =
    rules'.filter fun rule => (filled? rule.xpath).isSome

theorem Rule.pattern?_of_none (h : (filled? rule.regex).isSome = false) :
    rule.pattern? = .ok none := by
  have none : filled? rule.regex = none := by simpa using h
  rw [pattern?, none]

theorem Rule.query?_of_none (h : (filled? rule.xpath).isSome = false) : rule.query? = .ok none := by
  have none : filled? rule.xpath = none := by simpa using h
  rw [query?, none]

/-- What comes of rules, from making them ready to the values they find, hangs on the order of those
with patterns and on that of those with queries, and not on how the two are mixed. -/
theorem Rule.OrderedAlike.bind_extract (alike : Rule.OrderedAlike rules rules') (page : Page) :
    (Extractor.ofRules rules >>= Extractor.extract page) =
      (Extractor.ofRules rules' >>= Extractor.extract page) := by
  have patterns (rules : List Rule) :
      ((rules.filter fun rule => (filled? rule.regex).isSome).mapM Rule.pattern?).map
      List.reduceOption =
        (rules.mapM Rule.pattern?).map List.reduceOption :=
    Except.map_reduceOption_filter (fun _ => Rule.pattern?_of_none) rules
  have queries (rules : List Rule) :
      ((rules.filter fun rule => (filled? rule.xpath).isSome).mapM Rule.query?).map
      List.reduceOption =
        (rules.mapM Rule.query?).map List.reduceOption :=
    Except.map_reduceOption_filter (fun _ => Rule.query?_of_none) rules
  rw [Extractor.ofRules_bind_extract, Extractor.ofRules_bind_extract, ← patterns, ← queries,
    alike.patterns, alike.queries, patterns, queries]

/-- Of the rules for a name, the last one whose query has results decides its value; if there is
none, the last one whose pattern matches and has a group of just its name does; if there is none
either, there is no value. -/
theorem last_word (ready : Extractor.ofRules rules = .ok x) (page : Page) :
    ((∃ values, x.extract page = .ok values) ↔ ∀ rule ∈ rules, rule.Readable page) ∧
    (∀ values, x.extract page = .ok values → values.keys.Nodup ∧ ∀ name,
      (∀ value, values.get? name = some value ↔
        (∃ rule, IsLast (fun r => r.IsFor name ∧ r.Yields page) rules rule ∧
          rule.Answers page value) ∨
        (∀ r ∈ rules, r.IsFor name → ¬r.Yields page) ∧ ∃ rule,
          IsLast (fun r => r.IsFor name ∧ r.Applies page) rules rule ∧ rule.Matches page value) ∧
      (values.get? name = none ↔
        ∀ rule ∈ rules, rule.IsFor name → ¬rule.Yields page ∧ ¬rule.Applies page)) ∧
    (∀ rule ∈ rules, ∀ q found, rule.HasQuery q → page.ask q = some found → page.Orders found) ∧
    ∀ rules', Rule.OrderedAlike rules rules' →
      (Extractor.ofRules rules' >>= Extractor.extract page) = x.extract page := by
  refine ⟨Extractor.exists_extract_iff ready, ?_, fun _ _ _ _ _ => Page.orders_of_ask, ?_⟩
  · intro values done
    have records := Extractor.records_extract ready done
    refine ⟨records.nodup, fun name => ⟨fun value => ?_, ?_⟩⟩
    · exact Extractor.get?_extract_eq_some_iff ready done
    · exact Extractor.get?_extract_eq_none_iff ready done
  · intro rules' alike
    rw [← alike.bind_extract, ready]
    rfl

def welcome : Page where
  url := "http://shop/"
  html := "<p>hi</p>"
  document := Document.ofNodes? (Html.nodesOf "<p>hi</p>")
  forms := []

def hiByQuery : Rule :=
  { name := "HI", xpath := some "string(.)" }

def hiByPattern : Rule :=
  { name := "hi", regex := some "(?<hi>h)" }

def everyLetter : Rule :=
  { name := "letter", regex := some "(?<letter>[hi])", multiple := true }

/-- The value of the query stands, though a pattern of the same name comes after it; letters that no
query is for come from their pattern. -/
theorem hi_by_query : ∃ x values, Extractor.ofRules [hiByQuery, hiByPattern, everyLetter] = .ok x ∧
    x.extract welcome = .ok values ∧ values.get? "Hi" = some "hi" ∧
    values.get? "letter" = some "h,i" ∧ values.get? "bye" = none := by
  have computed : (Extractor.ofRules [hiByQuery, hiByPattern, everyLetter] >>=
      Extractor.extract welcome).isOk = true := by decide +kernel
  obtain ⟨values, done⟩ := Except.isOk_iff_exists.1 computed
  obtain ⟨x, ready, done⟩ := Except.bind_eq_ok.1 done
  obtain ⟨readable, found, _⟩ := last_word ready welcome
  obtain ⟨_, found⟩ := found values done
  have noQuery {rule : Rule} (none : rule.query? = .ok none) : ¬rule.Yields welcome := by
    rintro ⟨q, _, query, _⟩
    cases none.symm.trans query
  have answers : hiByQuery.Answers welcome "hi" :=
    Rule.answered?_eq_some_iff.1 (by decide +kernel)
  have yields : hiByQuery.Yields welcome :=
    (Rule.exists_answered?_iff (readable.1 ⟨values, done⟩ _ List.mem_cons_self)).1
    (by decide +kernel)
  have letters : everyLetter.Matches welcome "h,i" :=
    Rule.matched?_eq_some_iff.1 (by decide +kernel)
  have applies : everyLetter.Applies welcome := Rule.exists_matched?_iff.1 (by decide +kernel)
  refine ⟨x, values, ready, done, ?_, ?_, ?_⟩
  · apply ((found "Hi").1 "hi").2
    refine .inl ⟨hiByQuery,
      ⟨⟨by decide, yields⟩, [], [hiByPattern, everyLetter], rfl, ?_⟩, answers⟩
    rw [List.forall_mem_cons, List.forall_mem_singleton]
    exact ⟨fun h => noQuery rfl h.2, fun h => noQuery rfl h.2⟩
  · apply ((found "letter").1 "h,i").2
    refine .inr ⟨?_, everyLetter,
      ⟨⟨by decide, applies⟩, [hiByQuery, hiByPattern], [], rfl, nofun⟩,
      letters⟩
    rw [List.forall_mem_cons, List.forall_mem_cons, List.forall_mem_singleton]
    exact ⟨fun named => absurd named (by decide), fun _ => noQuery rfl,
      fun _ => noQuery rfl⟩
  · apply (found "bye").2.2
    rw [List.forall_mem_cons, List.forall_mem_cons, List.forall_mem_singleton]
    refine ⟨?_, ?_, ?_⟩
    all_goals exact fun named => absurd named (by decide)

end WebScript
