import WebScript.Page.Submit
import WebScript.Proofs.Dict
import WebScript.Proofs.Except
import WebScript.Proofs.Template.Resolution

namespace WebScript

namespace Form

variable {form : Form} {scope : Scope} {names : List String} {name key : String} {o : Override}
  {overrides : List Override} {d merged : Dict}

/-- One of the names differs from a name at most in case. -/
def Knows (names : List String) (name : String) : Prop :=
  ∃ n ∈ names, Text.fold n = Text.fold name

/-- The names in use after all overrides. -/
def noteAll (names : List String) : List Override → List String
  | [] => names
  | o :: overrides => noteAll (noteName names o.name) overrides

/-- The first override of a name, without regard to case. -/
def firstFor (overrides : List Override) (name : String) : Option Override :=
  overrides.find? fun o => Text.fold o.name = Text.fold name

theorem Knows.congr (h : Knows names name) (same : Text.fold name = Text.fold key) :
    Knows names key := by
  obtain ⟨n, hn, folds⟩ := h
  exact ⟨n, hn, folds.trans same⟩

theorem spelling_of_knows (h : Knows names name) :
    spelling names name ∈ names ∧ Text.fold (spelling names name) = Text.fold name := by
  rw [spelling]
  cases found : names.reverse.find? fun n => Text.fold n = Text.fold name with
  | none =>
    obtain ⟨n, hn, same⟩ := h
    have differs := List.find?_eq_none.1 found n (List.mem_reverse.2 hn)
    exact absurd same (by simpa using differs)
  | some n =>
    have mem := List.mem_reverse.1 (List.mem_of_find?_eq_some found)
    have same := List.find?_some found
    exact ⟨mem, by simpa using same⟩

theorem spelling_of_not_knows (h : ¬Knows names name) : spelling names name = name := by
  have none : (names.reverse.find? fun n => Text.fold n = Text.fold name) = none := by
    apply List.find?_eq_none.2
    intro n hn same
    exact h ⟨n, List.mem_reverse.1 hn, by simpa using same⟩
  rw [spelling, none]
  rfl

theorem noteName_of_knows (h : Knows names name) : noteName names name = names := by
  apply if_pos
  simpa [Knows] using h

theorem noteName_of_not_knows (h : ¬Knows names name) : noteName names name = names ++ [name] := by
  apply if_neg
  simpa [Knows] using h

theorem spelling_concat (names : List String) (last name : String) :
    spelling (names ++ [last]) name =
      if Text.fold last = Text.fold name then last else spelling names name := by
  rw [spelling, spelling, List.reverse_append, List.reverse_singleton, List.singleton_append,
    List.find?_cons]
  by_cases same : Text.fold last = Text.fold name <;> simp [same]

theorem Knows.spelling_noteName (h : Knows names name) (other : String) :
    Knows (noteName names other) name ∧
    spelling (noteName names other) name = spelling names name := by
  by_cases known : Knows names other
  · rw [noteName_of_knows known]
    exact ⟨h, rfl⟩
  · have differs : Text.fold other ≠ Text.fold name := by
      intro same
      exact known (h.congr same.symm)
    obtain ⟨n, hn, same⟩ := h
    rw [noteName_of_not_knows known, spelling_concat, if_neg differs]
    exact ⟨⟨n, List.mem_append_left _ hn, same⟩, rfl⟩

theorem spelling_noteName_self (names : List String) (name : String) :
    Knows (noteName names name) name ∧
    spelling (noteName names name) name = spelling names name := by
  by_cases known : Knows names name
  · exact known.spelling_noteName name
  · rw [noteName_of_not_knows known, spelling_concat, if_pos rfl, spelling_of_not_knows known]
    exact ⟨⟨name, by simp, rfl⟩, rfl⟩

theorem Knows.spelling_noteAll (h : Knows names name) (overrides : List Override) :
    spelling (noteAll names overrides) name = spelling names name := by
  induction overrides generalizing names with
  | nil => rfl
  | cons o overrides ih =>
    obtain ⟨known, same⟩ := h.spelling_noteName o.name
    exact (ih known).trans same

/-- The field of an override does not change any more when names come in after it. -/
theorem spelling_noteAll_cons (names : List String) (o : Override) (overrides : List Override) :
    spelling (noteAll names (o :: overrides)) o.name = spelling names o.name := by
  obtain ⟨known, same⟩ := spelling_noteName_self names o.name
  exact (known.spelling_noteAll overrides).trans same

theorem firstFor_congr (overrides : List Override) (same : Text.fold name = Text.fold key) :
    firstFor overrides name = firstFor overrides key := by
  rw [firstFor, firstFor, same]

theorem exists_firstFor (ho : o ∈ overrides) : ∃ first, firstFor overrides o.name = some first ∧
    firstFor overrides first.name = some first ∧ Text.fold first.name = Text.fold o.name := by
  cases found : firstFor overrides o.name with
  | none =>
    have differs := List.find?_eq_none.1 found o ho
    simp at differs
  | some first =>
    have same : Text.fold first.name = Text.fold o.name := by
      simpa using List.find?_some found
    exact ⟨first, rfl, (firstFor_congr overrides same).trans found, same⟩

/-- Where no name in use counts, all overrides of a name go under the spelling of the first. -/
theorem spelling_noteAll_of_firstFor (h : ¬Knows names name)
    (first : firstFor overrides name = some o) :
    spelling (noteAll names overrides) name = o.name := by
  induction overrides generalizing names with
  | nil => cases first
  | cons o' overrides ih =>
    rw [noteAll]
    rw [firstFor, List.find?_cons] at first
    split at first
    · next same =>
      cases first
      have same : Text.fold o.name = Text.fold name := by simpa using same
      have fresh : ¬Knows names o.name := fun known => h (known.congr same)
      have noted : spelling (noteName names o.name) name = o.name := by
        rw [noteName_of_not_knows fresh, spelling_concat, if_pos same]
      have known := (spelling_noteName_self names o.name).1.congr same
      exact (known.spelling_noteAll overrides).trans noted
    · next other =>
      have other : Text.fold o'.name ≠ Text.fold name := by simpa using other
      apply ih ?_ first
      by_cases known : Knows names o'.name
      · rwa [noteName_of_knows known]
      · rw [noteName_of_not_knows known]
        rintro ⟨n, hn, folds⟩
        rcases List.mem_append.1 hn with old | new
        · exact h ⟨n, old, folds⟩
        · cases List.mem_singleton.1 new
          exact other folds

/-- An override puts a value exactly if it has a template for one. -/
theorem given?_isSome {field : String} {v : Option String}
    (h : form.given? scope field o = some (.ok v)) : v.isSome = o.template?.isSome := by
  rw [given?] at h
  split at h
  · next silent =>
    cases h
    rw [silent]
  · next template speaks =>
    obtain ⟨text, -, h⟩ := Option.map_eq_some_iff.1 h
    rw [speaks]
    split at h
    · cases h
      rfl
    · obtain ⟨value, -, h⟩ := Except.map_eq_ok.1 h
      cases h
      rfl

theorem override_cons {v : Option String}
    (given : form.given? scope (spelling names o.name) o = some (.ok v)) :
    form.override scope names (o :: overrides) d =
      form.override scope (noteName names o.name) overrides
        (v.elim d fun v => d.put (spelling names o.name) v) := by
  rw [override, given]

theorem override_cons_eq_ok (h : form.override scope names (o :: overrides) d = some (.ok merged)) :
    ∃ v, form.given? scope (spelling names o.name) o = some (.ok v) ∧
      form.override scope (noteName names o.name) overrides
        (v.elim d fun v => d.put (spelling names o.name) v) = some (.ok merged) := by
  rw [override] at h
  split at h
  · cases h
  · cases h
  · next v given => exact ⟨v, given, h⟩

theorem mem_names_override (h : form.override scope names overrides d = some (.ok merged)) :
    key ∈ merged.map (·.1) ↔ key ∈ d.map (·.1) ∨
      ∃ o ∈ overrides, o.template?.isSome ∧ spelling (noteAll names overrides) o.name = key := by
  induction overrides generalizing names d with
  | nil =>
    cases h
    simp
  | cons o overrides ih =>
    obtain ⟨v, given, rest⟩ := override_cons_eq_ok h
    have gives := given?_isSome given
    rw [ih rest, List.exists_mem_cons_iff, spelling_noteAll_cons]
    cases v with
    | none =>
      have silent : o.template?.isSome = false := gives.symm
      simp [silent, noteAll]
    | some value =>
      have speaks : o.template?.isSome = true := gives.symm
      rw [Option.elim_some, Dict.mem_names_put, speaks, eq_comm (a := key)]
      simp [noteAll, or_assoc]

def seededNames (form : Form) : List String :=
  form.values.map (·.1)

def selectNames (form : Form) : List String :=
  (namedFields "select" form.element).map (·.1)

/-- The names of a submission: those of the fields that have a value, and each other name that an
override gives a value to, in the spelling of the first. -/
theorem mem_names_merged (h : form.merged overrides scope = some (.ok merged)) :
    key ∈ merged.map (·.1) ↔ key ∈ form.seededNames ∨
      ¬Knows form.seededNames key ∧ (firstFor overrides key).map (·.name) = some key ∧
        ∃ o ∈ overrides, Text.fold o.name = Text.fold key ∧ o.template?.isSome := by
  have names : key ∈ merged.map (·.1) ↔ key ∈ form.seededNames ∨
      ∃ o ∈ overrides, o.template?.isSome ∧
        spelling (noteAll form.seededNames overrides) o.name = key := mem_names_override h
  rw [names]
  apply or_congr_right'
  intro foreign
  constructor
  · rintro ⟨o, ho, speaks, spelled⟩
    have unknown : ¬Knows form.seededNames o.name := by
      intro known
      rw [← spelled, known.spelling_noteAll overrides] at foreign
      exact foreign (spelling_of_knows known).1
    obtain ⟨first, found, itself, same⟩ := exists_firstFor ho
    cases spelled.symm.trans (spelling_noteAll_of_firstFor unknown found)
    refine ⟨fun known => unknown (known.congr same), ?_, o, ho, same.symm, speaks⟩
    rw [itself, Option.map_some]
  · rintro ⟨unknown, found, o, ho, same, speaks⟩
    obtain ⟨first, found, rfl⟩ := Option.map_eq_some_iff.1 found
    refine ⟨o, ho, speaks, ?_⟩
    apply spelling_noteAll_of_firstFor fun known => unknown (known.congr same)
    rw [firstFor_congr overrides same, found]

/-- A submission spells the fields that have a value as the form does. -/
theorem seeded_of_mem_merged (h : form.merged overrides scope = some (.ok merged))
    (hkey : key ∈ merged.map (·.1)) (known : Knows form.seededNames key) :
    key ∈ form.seededNames := by
  rcases (mem_names_merged h).1 hkey with own | ⟨unknown, -⟩
  · exact own
  · exact absurd known unknown

/-- The form's own names: those of its fields with a value and those of its selections. -/
def ownNames (form : Form) : List String :=
  form.seededNames ++ form.selectNames

/-- A submission keeps the spelling of the fields that have a value. It keeps that of all the form's
own names exactly if, wherever an override gives a value to a selection without one, the first
override of its name is spelled as one of the form's selections. -/
theorem own_spelling_iff (h : form.merged overrides scope = some (.ok merged)) :
    (∀ key ∈ merged.map (·.1), Knows form.seededNames key → key ∈ form.seededNames) ∧
    ((∀ key ∈ merged.map (·.1), Knows form.ownNames key → key ∈ form.ownNames) ↔
      ∀ o ∈ overrides, o.template?.isSome → ¬Knows form.seededNames o.name →
        Knows form.selectNames o.name →
        ∃ first, firstFor overrides o.name = some first ∧ first.name ∈ form.selectNames) := by
  refine ⟨fun _ => seeded_of_mem_merged h, ?_, ?_⟩
  · intro kept o ho speaks unseeded selects
    obtain ⟨first, found, itself, same⟩ := exists_firstFor ho
    have unknown : ¬Knows form.seededNames first.name := fun known => unseeded (known.congr same)
    have submitted : first.name ∈ merged.map (·.1) := by
      apply (mem_names_merged h).2
      refine .inr ⟨unknown, ?_, o, ho, same.symm, speaks⟩
      rw [itself, Option.map_some]
    obtain ⟨s, hs, folds⟩ := selects
    have own := kept _ submitted ⟨s, List.mem_append_right _ hs, folds.trans same.symm⟩
    rcases List.mem_append.1 own with known | select
    · exact absurd ⟨_, known, rfl⟩ unknown
    · exact ⟨first, found, select⟩
  · intro firsts key hkey known
    rcases (mem_names_merged h).1 hkey with own | ⟨unknown, found, o, ho, same, speaks⟩
    · exact List.mem_append_left _ own
    · have unseeded : ¬Knows form.seededNames o.name := fun known => unknown (known.congr same)
      have selects : Knows form.selectNames o.name := by
        obtain ⟨n, hn, folds⟩ := known
        rcases List.mem_append.1 hn with seeds | select
        · exact absurd ⟨n, seeds, folds⟩ unknown
        · exact ⟨n, select, folds.trans same.symm⟩
      obtain ⟨first, found', select⟩ := firsts o ho speaks unseeded selects
      rw [← firstFor_congr overrides same, found'] at found
      cases found
      exact List.mem_append_right _ select

end Form

open Html

/-- A form with two selections, one of which has something selected. -/
def paintForm : Form :=
  .ofElement (.element "form" [] [
    .element "select" [("name", some "size")]
      [.element "option" [("value", some "l"), ("selected", none)] [.text "Large"]],
    .element "select" [("name", some "color")]
      [.element "option" [("value", some "b")] [.text "Blue"]]])

def blue : Override := ⟨"COLOR", none, some "Blue"⟩

theorem given_blue {field : String} (h : paintForm.valueByText field "Blue" = .ok "b") :
    paintForm.given? {} field blue = some (.ok (some "b")) := by
  have resolved : Template.resolve? {} "Blue" = some "Blue" :=
    Template.resolve?_of_no_opener (by decide)
  change (Template.resolve? {} "Blue").map _ = _
  rw [resolved, Option.map_some]
  change some ((paintForm.valueByText field "Blue").map some) = _
  rw [h]
  rfl

/-- An override without a value may give the selection its spelling. -/
theorem paint_keeps_spelling :
    paintForm.merged [⟨"color", none, none⟩, blue] {} = some (.ok [("size", "l"), ("color", "b")]) ∧
    ∀ key ∈ ["size", "color"], Form.Knows paintForm.ownNames key → key ∈ paintForm.ownNames := by
  have merged : paintForm.merged [⟨"color", none, none⟩, blue] {} =
      some (.ok [("size", "l"), ("color", "b")]) := by
    rw [Form.merged, Form.override_cons rfl, Form.override_cons (given_blue rfl)]
    rfl
  refine ⟨merged, (Form.own_spelling_iff merged).2.2 ?_⟩
  intro o ho speaks unseeded selects
  rcases List.mem_pair.1 ho with rfl | rfl
  · cases speaks
  · exact ⟨⟨"color", none, none⟩, by decide, by decide⟩

/-- A selection without a value goes under the spelling of the override that finds it. -/
theorem paint_loses_spelling :
    paintForm.seededNames = ["size"] ∧ paintForm.selectNames = ["size", "color"] ∧
    paintForm.merged [blue] {} = some (.ok [("size", "l"), ("COLOR", "b")]) ∧
    Form.Knows paintForm.ownNames "COLOR" ∧ "COLOR" ∉ paintForm.ownNames := by
  refine ⟨by decide, by decide, ?_, ⟨"color", by decide, by decide⟩, by decide⟩
  rw [Form.merged, Form.override_cons (given_blue rfl)]
  rfl

end WebScript
