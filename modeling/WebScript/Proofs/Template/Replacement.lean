import WebScript.Proofs.NameMap
import WebScript.Proofs.Template.Placeholder

namespace WebScript

namespace Scope

def values (scope : Scope) : List String :=
  (scope.inputs.pairs ++ scope.outputs.pairs).map (·.2)

/-- None of the characters stands in a value. -/
def Lacks (scope : Scope) (chars : List Char) : Prop :=
  ∀ v ∈ scope.values, ∀ c ∈ chars, c ∉ v.toList

instance (scope : Scope) (chars : List Char) : Decidable (scope.Lacks chars) :=
  -- Spelled out: an instance for all characters there are would do as well, but never come to an
  -- end.
  have (v : String) : Decidable (∀ c ∈ chars, c ∉ v.toList) :=
    List.decidableBAll (· ∉ v.toList) chars
  List.decidableBAll (fun v : String => ∀ c ∈ chars, c ∉ v.toList) scope.values

theorem Lacks.sub {scope : Scope} {chars fewer : List Char} (h : scope.Lacks chars)
    (sub : fewer ⊆ chars) : scope.Lacks fewer :=
  fun v hv c hc => h v hv c (sub hc)

end Scope

namespace Template

variable {scope : Scope} {source : Source} {text result : List Char} {p : Placeholder} {n : ℕ}

theorem value_mem (scope : Scope) (source : Source) (name : List Char) :
    value scope source name = "" ∨ value scope source name ∈ scope.values := by
  have of_get? {m : NameMap} (known : m.pairs ⊆ scope.inputs.pairs ++ scope.outputs.pairs) :
      (m.get? (.ofList name)).getD "" = "" ∨ (m.get? (.ofList name)).getD "" ∈ scope.values := by
    cases found : m.get? (.ofList name) with
    | none => exact .inl rfl
    | some v => exact .inr (List.map_subset _ known (NameMap.mem_of_get? found))
  cases source with
  | outputs => exact of_get? (List.subset_append_right ..)
  | inputs => exact of_get? (List.subset_append_left ..)

theorem not_mem_value {chars : List Char} {c : Char} (lacks : scope.Lacks chars) (hc : c ∈ chars)
    (source : Source) (name : List Char) : c ∉ (value scope source name).toList := by
  rcases value_mem scope source name with missing | known
  · rw [missing]
    exact List.not_mem_nil
  · exact lacks _ known c hc

theorem count_value {chars : List Char} {c : Char} (lacks : scope.Lacks chars) (hc : c ∈ chars)
    (source : Source) (name : List Char) : (value scope source name).toList.count c = 0 := by
  apply List.count_eq_zero_of_not_mem
  exact not_mem_value lacks hc source name

/-- So many replacements in turn, each of the first placeholder, lead from one text to another. -/
inductive Replaced (scope : Scope) : ℕ → List Char → List Char → Prop
  | refl (text : List Char) : Replaced scope 0 text text
  | head {n : ℕ} {text result : List Char} {p : Placeholder} (found : next? text = some p)
      (onward : Replaced scope n (p.fill scope) result) : Replaced scope (n + 1) text result

/-- Resolving a text comes to an end after so many replacements, with this result. -/
structure EndsAfter (scope : Scope) (n : ℕ) (text result : String) : Prop where
  replaced : Replaced scope n text.toList result.toList
  last : next? result.toList = none

theorem Replaced.resolveList? (h : Replaced scope n text result) (last : next? result = none) :
    resolveList? text scope = some result := by
  induction h with
  | refl => exact resolveList?_of_none last
  | head found _ ih => exact (resolveList?_of_some found).trans (ih last)

theorem exists_replaced_of_resolveList? (h : resolveList? text scope = some result) :
    ∃ n, Replaced scope n text result ∧ next? result = none := by
  apply resolveList?.partial_correctness scope
    (fun text result => ∃ n, Replaced scope n text result ∧ next? result = none) ?_ text result h
  intro resolve ih text result h
  split at h
  · next last =>
    cases h
    exact ⟨0, .refl _, last⟩
  · next p found =>
    obtain ⟨n, replaced, last⟩ := ih _ _ h
    exact ⟨n + 1, .head found replaced, last⟩

/-- A text stands for what its replacements lead to, if they come to an end. -/
theorem resolve?_eq_some_iff {text result : String} :
    resolve? scope text = some result ↔ ∃ n, EndsAfter scope n text result := by
  rw [resolve?, Option.map_eq_some_iff]
  constructor
  · rintro ⟨list, resolved, rfl⟩
    obtain ⟨n, replaced, last⟩ := exists_replaced_of_resolveList? resolved
    rw [← String.toList_ofList (l := list)] at replaced last
    exact ⟨n, replaced, last⟩
  · rintro ⟨n, replaced, last⟩
    exact ⟨_, replaced.resolveList? last, String.ofList_toList⟩

/-- Replacements come to an end where each of them lowers a measure. -/
theorem exists_replaced_of_measure (measure : List Char → ℕ)
    (drops : ∀ text p, next? text = some p → measure (p.fill scope) < measure text)
    (text : List Char) :
    ∃ n ≤ measure text, ∃ result, Replaced scope n text result ∧ next? result = none := by
  induction hm : measure text using Nat.strong_induction_on generalizing text with
  | _ m ih =>
    cases hn : next? text with
    | none => exact ⟨0, Nat.zero_le _, text, .refl _, hn⟩
    | some p =>
      have less := drops text p hn
      obtain ⟨n, within, result, replaced, last⟩ := ih _ (hm ▸ less) _ rfl
      exact ⟨n + 1, by omega, result, .head hn replaced, last⟩

theorem exists_endsAfter_of_measure (measure : List Char → ℕ)
    (drops : ∀ text p, next? text = some p → measure (p.fill scope) < measure text)
    (text : String) :
    ∃ n ≤ measure text.toList, ∃ result,
      EndsAfter scope n text result ∧ resolve? scope text = some result := by
  obtain ⟨n, within, result, replaced, last⟩ := exists_replaced_of_measure measure drops text.toList
  rw [← String.toList_ofList (l := result)] at replaced last
  have ends : EndsAfter scope n text (.ofList result) := ⟨replaced, last⟩
  exact ⟨n, within, _, ends, resolve?_eq_some_iff.2 ⟨n, ends⟩⟩

/-- With the opener of its placeholder, a replacement uses up a `$`. -/
theorem count_fill_lt (lacks : scope.Lacks ['$']) (found : next? text = some p) :
    (p.fill scope).count '$' < text.count '$' := by
  have absent := count_value lacks List.mem_cons_self p.source p.name
  have opener : p.source.opener.count '$' = 1 := by
    cases p.source <;> rfl
  rw [← text_of_next? found]
  simp only [Placeholder.fill, Placeholder.rest, List.count_append, absent, opener]
  have after := List.count_le_count_cons (a := '$') (b := p.source.closer) (l := p.after)
  omega

def closers (text : List Char) : ℕ :=
  text.count '\x7d' + text.count ')'

theorem closers_fill_lt (lacks : scope.Lacks ['\x7d', ')']) (found : next? text = some p) :
    closers (p.fill scope) < closers text := by
  have brace := count_value (c := '\x7d') lacks (by simp) p.source p.name
  have paren := count_value (c := ')') lacks (by simp) p.source p.name
  have closer : closers (p.source.closer :: p.after) = closers p.after + 1 := by
    cases p.source <;> simp [closers, Source.closer] <;> omega
  rw [← text_of_next? found]
  simp only [closers, Placeholder.fill, Placeholder.rest, List.count_append, brace,
    paren] at closer ⊢
  omega

/-- Where no value brings in a `$`, or none brings in a closer, resolving comes to an end, after at
most as many replacements as the text has of these characters. -/
theorem resolving_ends (scope : Scope) (text : String) :
    (scope.Lacks ['$'] → ∃ n ≤ text.toList.count '$', ∃ result,
      EndsAfter scope n text result ∧ resolve? scope text = some result) ∧
    (scope.Lacks ['\x7d', ')'] → ∃ n ≤ text.toList.count '\x7d' + text.toList.count ')', ∃ result,
      EndsAfter scope n text result ∧ resolve? scope text = some result) := by
  constructor
  · intro lacks
    apply exists_endsAfter_of_measure (List.count '$')
    intro text p found
    exact count_fill_lt lacks found
  · intro lacks
    apply exists_endsAfter_of_measure closers
    intro text p found
    exact closers_fill_lt lacks found

def withCloser : Scope := { inputs := ⟨[("b", "ok)")]⟩ }

def withOpener : Scope := { inputs := ⟨[("b", "$(b")]⟩ }

/-- In both texts the first replacement makes up the second placeholder. -/
theorem joined_ends :
    (withCloser.Lacks ['$'] ∧ ∃ n ≤ 2, EndsAfter withCloser n "$$(a)(b)" "ok)") ∧
    (withOpener.Lacks ['\x7d', ')'] ∧ ∃ n ≤ 2, EndsAfter withOpener n "$(b))" "$(b") := by
  have noDollar : withCloser.Lacks ['$'] := by decide
  have noCloser : withOpener.Lacks ['\x7d', ')'] := by decide
  have closed : resolve? withCloser "$$(a)(b)" = some "ok)" := by
    rw [resolve?, resolveList?_of_some rfl, resolveList?_of_some rfl, resolveList?_of_none rfl]
    rfl
  have opened : resolve? withOpener "$(b))" = some "$(b" := by
    rw [resolve?, resolveList?_of_some rfl, resolveList?_of_some rfl, resolveList?_of_none rfl]
    rfl
  constructor
  · obtain ⟨n, within, result, ends, resolved⟩ := (resolving_ends withCloser "$$(a)(b)").1 noDollar
    cases resolved.symm.trans closed
    exact ⟨noDollar, n, within, ends⟩
  · obtain ⟨n, within, result, ends, resolved⟩ := (resolving_ends withOpener "$(b))").2 noCloser
    cases resolved.symm.trans opened
    exact ⟨noCloser, n, within, ends⟩

/-- What a text resolves to holds no placeholder, and so stands for itself; and only a text without
placeholders does. -/
theorem resolved_plain (scope : Scope) (text : String) :
    (∀ result, resolve? scope text = some result →
      Plain result ∧ resolve? scope result = some result) ∧
    (resolve? scope text = some text ↔ Plain text) := by
  have plain {result : String} (h : resolve? scope text = some result) : Plain result := by
    obtain ⟨n, ends⟩ := resolve?_eq_some_iff.1 h
    exact next?_eq_none.1 ends.last
  refine ⟨fun result h => ⟨plain h, (plain h).resolve?⟩, plain, fun h => h.resolve?⟩

/-- An opener that a value brings in stays where nothing closes it. -/
theorem opened_plain : resolve? withOpener "$(b)" = some "$(b" ∧ Plain "$(b" ∧
    resolve? withOpener "$(b" = some "$(b" := by
  have resolved : resolve? withOpener "$(b)" = some "$(b" := by
    rw [resolve?, resolveList?_of_some rfl, resolveList?_of_none rfl]
    rfl
  exact ⟨resolved, (resolved_plain withOpener "$(b)").1 _ resolved⟩

end Template
end WebScript
