import WebScript.Proofs.Page.Rules
import WebScript.Proofs.Run.Causes
import WebScript.Proofs.Run.History

namespace WebScript

variable {σ : Type} {rule : Rule} {rules : List Rule}

/-- A rule that cannot be made ready. -/
def Rule.Refused (rule : Rule) : Prop :=
  ∃ f, Extractor.ofRules [rule] = .error f

/-- If rules of a script are refused, it is for their form and not with a breakdown. -/
def Script.NoRulesBreak (script : Script) : Prop :=
  ∀ rules ∈ script.ruleLists, ∀ b, Extractor.ofRules rules ≠ .error (.breakdown b)

theorem Extractor.exists_ofRules_eq_ok :
    (∃ x, ofRules rules = .ok x) ↔
      ∀ rule ∈ rules, (∃ p, rule.pattern? = .ok p) ∧ ∃ q, rule.query? = .ok q := by
  have refused : (∃ x, ofRules rules = .ok x) ↔ ∀ f, ofRules rules ≠ .error f := by
    cases h : ofRules rules <;> simp
  constructor
  · rintro ⟨x, made⟩
    obtain ⟨ps, patterns, made⟩ := Except.bind_eq_ok.1 made
    obtain ⟨qs, queries, _⟩ := Except.bind_eq_ok.1 made
    have hp := Except.exists_mapM_eq_ok_iff.1 ⟨ps, patterns⟩
    have hq := Except.exists_mapM_eq_ok_iff.1 ⟨qs, queries⟩
    intro rule hm
    exact ⟨hp rule hm, hq rule hm⟩
  · intro each
    rw [refused]
    intro f h
    rcases ofRules_eq_error.1 h with h | ⟨_, h⟩
    · obtain ⟨rule, hm, hf⟩ := Except.mapM_eq_error h
      obtain ⟨p, hp⟩ := (each rule hm).1
      cases hf.symm.trans hp
    · obtain ⟨rule, hm, hf⟩ := Except.mapM_eq_error h
      obtain ⟨q, hq⟩ := (each rule hm).2
      cases hf.symm.trans hq

theorem Rule.Refused.not_ofRules_eq_ok (h : rule.Refused) (hm : rule ∈ rules) (x : Extractor) :
    Extractor.ofRules rules ≠ .ok x := by
  intro made
  have each := Extractor.exists_ofRules_eq_ok.1 ⟨x, made⟩
  obtain ⟨f, refused⟩ := h
  have alone : ∃ y, Extractor.ofRules [rule] = .ok y := by
    apply Extractor.exists_ofRules_eq_ok.2
    intro rule' hm'
    cases List.mem_singleton.1 hm'
    exact each rule hm
  obtain ⟨y, made⟩ := alone
  cases refused.symm.trans made

namespace Runner

variable {r : Runner σ} {script : Script} {target : Option String}

/-- Why a script that holds a refused rule is not run from an entry: there is no entry, or else the
first of its rules that are refused. -/
inductive Refusal (script : Script) (target : Option String) : ScriptError → Prop
  | missing (unnamed : (filled? target).or (filled? script.defaultTarget) = none) :
      Refusal script target .missingTarget
  | notFound {name} (named : (filled? target).or (filled? script.defaultTarget) = some name)
      (lost : script.find? name = none) : Refusal script target (.entryNotFound name)
  | rules {name t e} (named : (filled? target).or (filled? script.defaultTarget) = some name)
      (found : script.find? name = some t) (kind : e.kind = .outputRule)
      (first : script.ruleLists.mapM Extractor.ofRules = .error (.script e)) :
      Refusal script target e

theorem Refusal.of_entry {f : Failure} (h : entry script target = .error f) :
    ∃ e, f = .script e ∧ Refusal script target e := by
  rw [entry] at h
  split at h
  · next unnamed =>
    cases h
    exact ⟨_, rfl, .missing unnamed⟩
  · next name named =>
    split at h <;> cases h
    next lost => exact ⟨_, rfl, .notFound named lost⟩

theorem Refusal.of_prepare {t : Target} {e : ScriptError} (h : entry script target = .ok t)
    (refused : (r.prepare script.targets).1 = .error (.script e)) : Refusal script target e := by
  have kind := prepare_error_kind refused
  have first := prepare_eq_error.1 refused
  rw [entry] at h
  split at h
  · cases h
  · next name named =>
    split at h <;> cases h
    next found => exact .rules named found kind first

theorem exists_prepare_error (whole : script.NoRulesBreak)
    (h : ∃ rules ∈ script.ruleLists, ∀ x, Extractor.ofRules rules ≠ .ok x) :
    ∃ e, (r.prepare script.targets).1 = .error (.script e) := by
  obtain ⟨rules, hm, refused⟩ := h
  cases hp : (r.prepare script.targets).1 with
  | ok =>
    obtain ⟨x, made⟩ := prepare_eq_ok.1 hp rules hm
    exact absurd made (refused x)
  | error f =>
    cases f with
    | script e => exact ⟨e, rfl⟩
    | breakdown b =>
      obtain ⟨rules', hm', hb⟩ := Except.mapM_eq_error (prepare_eq_error.1 hp)
      exact absurd hb (whole rules' hm' b)

/-- A script that holds a refused rule anywhere, in whatever target and inside whatever branches,
ends with a fault before any request: that of its entry, or else that of its rules. What the runner
has made ready before makes no difference. -/
theorem run_refused (r : Runner σ) (script : Script) (whole : script.NoRulesBreak)
    (held : ∃ rules ∈ script.ruleLists, ∃ rule ∈ rules, rule.Refused) (inputs : Dict)
    (target : Option String) (remote : σ) :
    ∃ fin e, r.run script inputs target remote = some fin ∧ fin.result = .error (.script e) ∧
      Refusal script target e ∧ fin.session = start inputs remote ∧
      fin.session.requests = [] ∧ fin.session.remote = remote := by
  cases he : entry script target with
  | error f =>
    obtain ⟨e, rfl, refusal⟩ := Refusal.of_entry he
    exact ⟨_, e, run_of_entry_error he, rfl, refusal, rfl, rfl, rfl⟩
  | ok t =>
    obtain ⟨rules, hrules, rule, hrule, refused⟩ := held
    obtain ⟨e, hp⟩ := exists_prepare_error (r := r) whole
      ⟨rules, hrules, refused.not_ofRules_eq_ok hrule⟩
    have refusal := Refusal.of_prepare he hp
    exact ⟨_, e, run_of_prepare_error he hp, rfl, refusal, rfl, rfl, rfl⟩

section Attic

def brokenRule : Rule :=
  { name := "price", regex := some "(" }

def atticMain : Target := ⟨"Main", [.fetch "http://shop/" {}]⟩

/-- A script whose only broken rule stands in branches of a target that nothing leads to. -/
def attic : Script :=
  { targets := [atticMain, ⟨"Attic", [.branch "$(a)" "b" (.branch "$(c)" "d"
      (.submit {} [] { rules := [brokenRule] }))]⟩]
    defaultTarget := some "Main" }

theorem brokenRule_refused :
    Extractor.ofRules [brokenRule] = .error (.script (.badRegex (Text.quoted "("))) := by
  have refused : Pattern.ofText "(" = .error .malformed := by decide
  have pattern : brokenRule.pattern? = .error (.script (.badRegex (Text.quoted "("))) := by
    rw [Rule.pattern?, show filled? brokenRule.regex = some "(" from rfl]
    dsimp only
    rw [refused]
  exact Extractor.ofRules_eq_error.2 (.inl (Except.mapM_eq_error_iff.2
    ⟨[], brokenRule, [], rfl, List.forall_mem_nil _, pattern⟩))

theorem attic_ruleLists : attic.ruleLists = [[], [brokenRule]] := rfl

theorem attic_noRulesBreak : attic.NoRulesBreak := by
  intro rules hm b
  rw [attic_ruleLists] at hm
  rcases List.mem_cons.1 hm with rfl | hm
  · exact nofun
  · cases List.mem_singleton.1 hm
    rw [brokenRule_refused]
    exact nofun

/-- The earlier run has left the first target ready. -/
theorem attic_refused :
    ∃ r, (blank 64).After r ∧ r.ready.map (fun known => known.target) = [atticMain] ∧
      attic.NoRulesBreak ∧ (∃ rules ∈ attic.ruleLists, ∃ rule ∈ rules, rule.Refused) ∧
      ∃ fin e, r.run attic [] none () = some fin ∧ fin.result = .error (.script e) ∧
        e.kind = .outputRule ∧ fin.session.requests = [] := by
  have held : ∃ rules ∈ attic.ruleLists, ∃ rule ∈ rules, rule.Refused :=
    ⟨[brokenRule], .tail _ (.head _), brokenRule, .head _, _, brokenRule_refused⟩
  have whole := attic_noRulesBreak
  have refused (x) : Extractor.ofRules [brokenRule] ≠ .ok x := by
    rw [brokenRule_refused]
    exact nofun
  obtain ⟨_, hp⟩ := exists_prepare_error (r := blank 64) whole ⟨_, .tail _ (.head _), refused⟩
  have early : (blank 64).run attic [] none () = some ⟨_, start [] (), (blank 64).prepared attic⟩ :=
    run_of_prepare_error (show entry attic none = .ok atticMain by rfl) hp
  have after : (blank 64).After ((blank 64).prepared attic) := .run .none early
  obtain ⟨fin, e, run, result, refusal, _, requests, _⟩ :=
    run_refused ((blank 64).prepared attic) attic whole held [] none ()
  have kept : ((blank 64).prepared attic).ready.map (fun known => known.target) = [atticMain] := by
    decide
  refine ⟨_, after, kept, whole, held, fin, e, run, result, ?_, requests⟩
  cases refusal with
  | missing unnamed => cases unnamed
  | notFound named lost =>
    cases named
    cases lost
  | rules _ _ kind _ => exact kind

end Attic

end Runner
end WebScript
