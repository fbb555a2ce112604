import WebScript.Proofs.Page.Extraction
import WebScript.Proofs.XPath.Order

namespace WebScript

variable {rule : Rule} {page : Page} {value name : String} {q : Query} {p : Pattern} {group : Nat}
  {text : Pattern.Subject} {found : List Found}

def Page.subject (page : Page) : Pattern.Subject :=
  page.html.toList.toArray

def Rule.HasQuery (rule : Rule) (q : Query) : Prop :=
  rule.query? = .ok (some (rule, q))

def Rule.HasGroup (rule : Rule) (p : Pattern) (group : Nat) : Prop :=
  rule.pattern? = .ok (some (rule, p)) ∧ p.group? rule.name = some group

def Rule.Yields (page : Page) (rule : Rule) : Prop :=
  ∃ q found, rule.HasQuery q ∧ page.ask q = some found ∧ found ≠ []

/-- The pattern of a rule has a group of its name, and matches a page. -/
def Rule.Applies (page : Page) (rule : Rule) : Prop :=
  ∃ p group, rule.HasGroup p group ∧ p.find page.subject ≠ none

/-- What a rule takes from the results of its query: the value of the first, or those of all. -/
inductive Rule.Answers (page : Page) (rule : Rule) : String → Prop
  | first {q : Query} {f others} {value : String} (query : rule.HasQuery q)
      (asked : page.ask q = some (f :: others))
      (single : rule.multiple = false) (read : f.value rule.attr = .ok value) :
      Answers page rule value
  | all {q : Query} {found : List Found} {values} (query : rule.HasQuery q)
      (asked : page.ask q = some found) (some : found ≠ []) (multiple : rule.multiple = true)
      (read : List.Forall₂ (fun f v => f.value rule.attr = .ok v) found values) :
      Answers page rule (",".intercalate values)

/-- What a rule takes from the matches of its pattern: the text of its group in the first, or in
all. -/
inductive Rule.Matches (page : Page) (rule : Rule) : String → Prop
  | first {p : Pattern} {group : ℕ} {m} (named : rule.HasGroup p group)
      (found : p.find page.subject = some m)
      (single : rule.multiple = false) : Matches page rule (m.text page.subject group)
  | all {p : Pattern} {group : ℕ} (named : rule.HasGroup p group)
      (some : p.findAll page.subject ≠ [])
      (multiple : rule.multiple = true) : Matches page rule
        (",".intercalate ((p.findAll page.subject).map (Pattern.Match.text page.subject group)))

/-- The results of a query in document order: nodes by their numbers, or a single value. -/
inductive Page.Orders (page : Page) : List Found → Prop
  | none (noDocument : page.document = none) : Orders page []
  | nodes {document} {ns : List ℕ} (read : page.document = some document)
      (ordered : ns.Pairwise (· < ·)) :
      Orders page (ns.filterMap (foundAt (XPath.Tree.ofDocument document)))
  | value (f : Found) : Orders page [f]

theorem Page.orders_of_ask (h : page.ask q = some found) : page.Orders found := by
  rw [ask] at h
  split at h
  · next noDocument =>
    cases h
    exact .none noDocument
  · next document read =>
    obtain ⟨r, evaluated, rfl⟩ := Option.map_eq_some_iff.1 h
    cases r with
    | nodes ns => exact .nodes read (XPath.eval_ordered _ evaluated)
    | number x => exact .value _
    | text s => exact .value _
    | bool b => exact .value _

theorem Pattern.findAll_eq_nil_iff : p.findAll text = [] ↔ p.find text = none := by
  rw [findAll, findAllFrom, find]
  cases findFrom p.node text false 0 with
  | none => exact ⟨fun _ => rfl, fun _ => rfl⟩
  | some m => exact ⟨nofun, nofun⟩

theorem Rule.eq_of_query? {rule' : Rule} (h : rule.query? = .ok (some (rule', q))) :
    rule' = rule := by
  rw [query?] at h
  split at h
  · cases h
  · split at h <;> cases h
    rfl

theorem Rule.eq_of_pattern? {rule' : Rule} (h : rule.pattern? = .ok (some (rule', p))) :
    rule' = rule := by
  rw [pattern?] at h
  split at h
  · cases h
  · split at h <;> cases h
    rfl

namespace Rule

/-- The value that the pattern of a rule finds, if there is a pattern. -/
def matched? (page : Page) (rule : Rule) : Option String :=
  rule.pattern?.toOption.join.bind fun (rule, p) => rule.patternValue? p page.subject

/-- The value that the query of a rule finds, if there is a query and it can be answered. -/
def answered? (page : Page) (rule : Rule) : Option String :=
  rule.query?.toOption.join.bind fun (rule, q) => (rule.queryValue? q page).toOption.join

theorem patternValue?_eq_some_iff : rule.patternValue? p text = some value ↔
    ∃ group, p.group? rule.name = some group ∧
      ((rule.multiple = false ∧ ∃ m, p.find text = some m ∧ m.text text group = value) ∨
        (rule.multiple = true ∧ p.findAll text ≠ [] ∧
          ",".intercalate ((p.findAll text).map (Pattern.Match.text text group)) = value)) := by
  rw [patternValue?]
  apply Option.bind_eq_some_iff.trans
  apply exists_congr
  intro group
  apply and_congr_right
  intro _
  cases rule.multiple with
  | false => simp [Option.bind_eq_some_iff]
  | true => cases p.findAll text <;> simp

theorem matched?_eq_some_iff : rule.matched? page = some value ↔ rule.Matches page value := by
  constructor
  · intro h
    obtain ⟨⟨rule', p⟩, joined, h⟩ := Option.bind_eq_some_iff.1 h
    have pattern := Except.join_toOption_eq_some.1 joined
    cases eq_of_pattern? pattern
    obtain ⟨group, named, ⟨single, m, found, rfl⟩ | ⟨multiple, found, rfl⟩⟩ :=
      patternValue?_eq_some_iff.1 h
    · exact .first ⟨pattern, named⟩ found single
    · exact .all ⟨pattern, named⟩ found multiple
  · intro h
    cases h with
    | first named found single =>
      rw [matched?, named.1]
      exact patternValue?_eq_some_iff.2 ⟨_, named.2, .inl ⟨single, _, found, rfl⟩⟩
    | all named found multiple =>
      rw [matched?, named.1]
      exact patternValue?_eq_some_iff.2 ⟨_, named.2, .inr ⟨multiple, found, rfl⟩⟩

theorem exists_matched?_iff : (rule.matched? page).isSome = true ↔ rule.Applies page := by
  rw [Option.isSome_iff_exists]
  constructor
  · rintro ⟨value, h⟩
    cases matched?_eq_some_iff.1 h with
    | first named found => exact ⟨_, _, named, by rw [found]; simp⟩
    | all named found =>
      exact ⟨_, _, named, fun none => found (Pattern.findAll_eq_nil_iff.2 none)⟩
  · rintro ⟨p, group, named, found⟩
    cases multiple : rule.multiple with
    | false =>
      obtain ⟨m, hm⟩ := Option.ne_none_iff_exists'.1 found
      exact ⟨_, matched?_eq_some_iff.2 (.first named hm multiple)⟩
    | true =>
      have all : p.findAll page.subject ≠ [] := fun nil => found (Pattern.findAll_eq_nil_iff.1 nil)
      exact ⟨_, matched?_eq_some_iff.2 (.all named all multiple)⟩

theorem answerValue?_eq_ok_some_iff : rule.answerValue? found = .ok (some value) ↔
    (rule.multiple = false ∧ ∃ f others, found = f :: others ∧ f.value rule.attr = .ok value) ∨
      (rule.multiple = true ∧ found ≠ [] ∧ ∃ values, ",".intercalate values = value ∧
        List.Forall₂ (fun f v => f.value rule.attr = .ok v) found values) := by
  cases found with
  | nil => simp [answerValue?]
  | cons f others =>
    rw [answerValue?]
    cases rule.multiple with
    | false =>
      rw [if_neg Bool.false_ne_true, Except.mapError_eq_ok]
      constructor
      · intro h
        obtain ⟨v, read, same⟩ := Except.map_eq_ok.1 h
        cases same
        exact .inl ⟨rfl, f, others, rfl, read⟩
      · rintro (⟨_, _, _, split, read⟩ | ⟨multiple, _⟩)
        · cases split
          exact Except.map_eq_ok.2 ⟨_, read, rfl⟩
        · cases multiple
    | true =>
      rw [if_pos rfl, Except.bind_eq_ok]
      constructor
      · rintro ⟨values, read, same⟩
        cases same
        have read := Except.mapM_eq_ok_iff_forall₂.1 (Except.mapError_eq_ok.1 read)
        exact .inr ⟨rfl, List.cons_ne_nil _ _, values, rfl, read⟩
      · rintro (⟨single, _⟩ | ⟨_, _, values, rfl, read⟩)
        · cases single
        · exact ⟨values, Except.mapError_eq_ok.2 (Except.mapM_eq_ok_iff_forall₂.2 read), rfl⟩

theorem exists_answerValue?_iff : (∃ value, rule.answerValue? found = .ok value) ↔
    ∀ f ∈ rule.reads found, ∃ value, f.value rule.attr = .ok value := by
  cases found with
  | nil => simp [answerValue?, reads]
  | cons f others =>
    rw [answerValue?, reads]
    cases rule.multiple with
    | false =>
      rw [if_neg Bool.false_ne_true, if_neg Bool.false_ne_true]
      simp only [Except.mapError_eq_ok, List.take_succ_cons, List.take_zero, List.mem_singleton,
        forall_eq]
      constructor
      · rintro ⟨_, h⟩
        obtain ⟨v, read, _⟩ := Except.map_eq_ok.1 h
        exact ⟨v, read⟩
      · rintro ⟨v, read⟩
        exact ⟨_, Except.map_eq_ok.2 ⟨v, read, rfl⟩⟩
    | true =>
      rw [if_pos rfl, if_pos rfl, ← Except.exists_mapM_eq_ok_iff]
      constructor
      · rintro ⟨_, h⟩
        obtain ⟨values, read, _⟩ := Except.bind_eq_ok.1 h
        exact ⟨values, Except.mapError_eq_ok.1 read⟩
      · rintro ⟨values, read⟩
        exact ⟨_, Except.bind_eq_ok.2 ⟨values, Except.mapError_eq_ok.2 read, rfl⟩⟩

/-- A rule can be read on a page: its query can be evaluated, and what it reads of the results has
values. -/
def Readable (page : Page) (rule : Rule) : Prop :=
  ∀ q, rule.HasQuery q → ∃ found, page.ask q = some found ∧
    ∀ f ∈ rule.reads found, ∃ value, f.value rule.attr = .ok value

theorem exists_queryValue?_iff : (∃ value, rule.queryValue? q page = .ok value) ↔
    ∃ found, page.ask q = some found ∧
      ∀ f ∈ rule.reads found, ∃ value, f.value rule.attr = .ok value := by
  rw [queryValue?]
  cases page.ask q with
  | none => simp
  | some found => simpa using exists_answerValue?_iff

theorem answerValue?_ne_none (some : found ≠ []) : rule.answerValue? found ≠ .ok none := by
  intro h
  cases found with
  | nil => exact some rfl
  | cons f others =>
    rw [answerValue?] at h
    split at h
    · obtain ⟨_, _, none⟩ := Except.bind_eq_ok.1 h
      cases none
    · obtain ⟨_, _, none⟩ := Except.map_eq_ok.1 (Except.mapError_eq_ok.1 h)
      cases none

theorem answered?_of_found (query : rule.HasQuery q) (asked : page.ask q = some found)
    (read : rule.answerValue? found = .ok (some value)) : rule.answered? page = some value := by
  rw [answered?, query]
  apply Except.join_toOption_eq_some.2
  rw [queryValue?, asked]
  exact read

theorem answered?_eq_some_iff : rule.answered? page = some value ↔ rule.Answers page value := by
  constructor
  · intro h
    obtain ⟨⟨rule', q⟩, joined, h⟩ := Option.bind_eq_some_iff.1 h
    have query := Except.join_toOption_eq_some.1 joined
    cases eq_of_query? query
    have h := Except.join_toOption_eq_some.1 h
    rw [queryValue?] at h
    cases asked : page.ask q with
    | none =>
      rw [asked] at h
      cases h
    | some found =>
      rw [asked] at h
      rcases answerValue?_eq_ok_some_iff.1 h with ⟨single, f, others, rfl, read⟩ |
        ⟨multiple, some, values, rfl, read⟩
      · exact .first query asked single read
      · exact .all query asked some multiple read
  · intro h
    cases h with
    | first query asked single read =>
      apply answered?_of_found query asked
      exact answerValue?_eq_ok_some_iff.2 (.inl ⟨single, _, _, rfl, read⟩)
    | all query asked some multiple read =>
      apply answered?_of_found query asked
      exact answerValue?_eq_ok_some_iff.2 (.inr ⟨multiple, some, _, rfl, read⟩)

/-- Of a rule that can be read there is a value exactly if its query has results. -/
theorem exists_answered?_iff (readable : rule.Readable page) :
    (rule.answered? page).isSome = true ↔ rule.Yields page := by
  rw [Option.isSome_iff_exists]
  constructor
  · rintro ⟨value, h⟩
    cases answered?_eq_some_iff.1 h with
    | first query asked => exact ⟨_, _, query, asked, List.cons_ne_nil _ _⟩
    | all query asked some => exact ⟨_, _, query, asked, some⟩
  · rintro ⟨q, found, query, asked, some⟩
    obtain ⟨_, asked', read⟩ := readable q query
    cases asked.symm.trans asked'
    obtain ⟨value?, read⟩ := exists_answerValue?_iff.2 read
    cases value? with
    | none => exact absurd read (answerValue?_ne_none some)
    | some value => exact ⟨value, answered?_of_found query asked read⟩

end Rule
end WebScript
