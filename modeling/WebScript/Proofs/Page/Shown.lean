import WebScript.Proofs.Page.Options
import WebScript.Proofs.Page.Overriding
import WebScript.Proofs.Script.Names
import WebScript.Proofs.Template.Placeholder

namespace WebScript

open Html

namespace Dict

theorem put_self {d : Dict} {name value : String} (h : d.get? name = some value) :
    d.put name value = d := by
  induction d with
  | nil => cases h
  | cons p d ih =>
    rw [get?_cons] at h
    rw [put]
    by_cases own : name = p.1
    · rw [if_pos own] at h
      rw [if_pos own.symm, ← Option.some.inj h]
    · rw [if_neg own] at h
      rw [if_neg (Ne.symm own), ih h]

end Dict

namespace Form

variable {form element select option : Node} {name field key : String} {d : Dict} {scope : Scope}
  {names : List String}

def shownText (option : Node) : String :=
  Text.trim option.textContent

def IsSelected (option : Node) : Prop :=
  (option.attribute? "selected").isSome

/-- A selection of one option has the name, and no other field has it in any case. -/
structure OnlySelect (name : String) (form select : Node) : Prop where
  alone : (namedFields "select" form).filter (fun s => Text.fold s.1 = Text.fold name) =
    [(name, select)]
  single : select.attribute? "multiple" = none
  noInput : ∀ n ∈ fieldNames "input" form, Text.fold n ≠ Text.fold name
  noArea : ∀ n ∈ fieldNames "textarea" form, Text.fold n ≠ Text.fold name

/-- A selection stands at an option: the first one selected, which has a value, and no option before
it shows the same text. -/
structure StandsAt (select option : Node) : Prop where
  selected : IsFirst IsSelected (select.named "option") option
  filled : optionValue option ≠ ""
  unlike : IsFirst (Shows (shownText option)) (select.named "option") option

theorem mem_namedFields {tag : String} {field : Node} :
    (name, field) ∈ namedFields tag form ↔
    field ∈ form.named tag ∧ fieldName? field = some name := by
  rw [namedFields, List.mem_filterMap]
  constructor
  · rintro ⟨field', hf, named⟩
    obtain ⟨name', known, same⟩ := Option.map_eq_some_iff.1 named
    cases same
    exact ⟨hf, known⟩
  · rintro ⟨hf, known⟩
    exact ⟨field, hf, by rw [known, Option.map_some]⟩

theorem fieldName?_eq_some {field : Node} :
    fieldName? field = some name ↔ (field.attribute? "name").getD "" = name ∧ name ≠ "" := by
  rw [fieldName?]
  cases field.attribute? "name" with
  | none => exact ⟨nofun, fun ⟨same, filled⟩ => absurd same.symm filled⟩
  | some n =>
    rw [Option.filter_some, Option.getD_some]
    by_cases empty : n = ""
    · subst empty
      exact ⟨nofun, fun ⟨same, filled⟩ => absurd same.symm filled⟩
    · rw [if_pos (bne_iff_ne.2 empty), Option.some_inj]
      exact ⟨fun same => ⟨same, same ▸ empty⟩, And.left⟩

namespace OnlySelect

variable (only : OnlySelect name element select)

include only

theorem mem : (name, select) ∈ namedFields "select" element :=
  (List.mem_filter.1 (only.alone ▸ List.mem_singleton_self _)).1

theorem eq_of_fold {s : String × Node} (hs : s ∈ namedFields "select" element)
    (same : Text.fold s.1 = Text.fold name) : s = (name, select) := by
  have kept : s ∈ [(name, select)] := by
    rw [← only.alone, List.mem_filter]
    exact ⟨hs, decide_eq_true same⟩
  exact List.mem_singleton.1 kept

/-- Whatever the case of the name, the selection is found by it. -/
theorem select? (same : Text.fold field = Text.fold name) :
    (ofElement element).select? field = some select := by
  obtain ⟨hs, known⟩ := mem_namedFields.1 only.mem
  obtain ⟨named, filled⟩ := fieldName?_eq_some.1 known
  have goes : GoesBy field select := by rw [GoesBy, named, same]
  obtain ⟨found, first⟩ := exists_isFirst ⟨select, hs, goes⟩
  -- A selection without a name goes by the empty one only, which no other name folds to.
  have foundName : fieldName? found = some ((found.attribute? "name").getD "") := by
    refine fieldName?_eq_some.2 ⟨rfl, fun empty => filled ?_⟩
    have folds : Text.fold ((found.attribute? "name").getD "") = Text.fold name :=
      first.holds.trans same
    rw [empty] at folds
    exact Text.eq_empty_of_fold folds.symm
  have own := only.eq_of_fold (mem_namedFields.2 ⟨first.mem, foundName⟩) (first.holds.trans same)
  cases own
  exact select?_eq_some_iff.2 first

end OnlySelect

theorem seedSelect_of_selected (single : select.attribute? "multiple" = none)
    (first : IsFirst IsSelected (select.named "option") option) (d : Dict) (name : String) :
    seedSelect d (name, select) = d.put name (optionValue option) := by
  obtain ⟨before, after, split, none⟩ := first.split
  have unselected : before.filter (fun o => (o.attribute? "selected").isSome) = [] :=
    List.filter_eq_nil_iff.2 none
  have here : (option.attribute? "selected").isSome = true := first.holds
  rw [seedSelect]
  dsimp only
  rw [split, List.filter_append, unselected, List.nil_append, List.filter_cons, if_pos here, single]
  rfl

/-- A form holds for its only selection of a name the value of the first option selected. -/
theorem get?_seeded_of_onlySelect (only : OnlySelect name element select)
    (first : IsFirst IsSelected (select.named "option") option) :
    (seeded element).get? name = some (optionValue option) := by
  obtain ⟨before, after, split, -, -, none⟩ := List.filter_eq_cons_iff.1 only.alone
  have others : ∀ s ∈ after, ∀ d, (seedSelect d s).get? name = d.get? name := by
    intro s hs
    apply seedSelect_keeps
    intro same
    have differs := List.filter_eq_nil_iff.1 none s hs
    exact absurd (congrArg Text.fold same) (by simpa using differs)
  rw [seeded, split, List.foldl_append, List.foldl_cons, foldl_keeps others,
    seedSelect_of_selected only.single first, Dict.get?_put, if_pos rfl]

theorem mem_names_foldl {α : Type} {seed : Dict → α → Dict} {own : α → String}
    (adds : ∀ d a, ∀ n ∈ (seed d a).map (·.1), n ∈ d.map (·.1) ∨
      n = own a) (l : List α) (d : Dict) :
    ∀ n ∈ (l.foldl seed d).map (·.1), n ∈ d.map (·.1) ∨ n ∈ l.map own := by
  induction l generalizing d with
  | nil => exact fun n hn => .inl hn
  | cons a l ih =>
    intro n hn
    rcases ih (seed d a) n hn with old | later
    · rcases adds d a n old with old | rfl
      · exact .inl old
      · exact .inr List.mem_cons_self
    · exact .inr (List.mem_cons_of_mem _ later)

theorem mem_names_seedSelect (d : Dict) (select : String × Node) :
    ∀ n ∈ (seedSelect d select).map (·.1), n ∈ d.map (·.1) ∨ n = select.1 := by
  intro n hn
  rw [seedSelect] at hn
  split at hn
  · exact .inl hn
  · split at hn <;> exact Dict.mem_names_put.1 hn

/-- A form holds values for its fields only. -/
theorem mem_names_seeded (hn : key ∈ (seeded element).map (·.1)) :
    key ∈ fieldNames "input" element ∨ key ∈ fieldNames "textarea" element ∨
      key ∈ fieldNames "select" element := by
  rcases mem_names_foldl mem_names_seedSelect _ _ key hn with hn | select
  · rcases mem_names_foldl (fun _ _ _ hn => Dict.mem_names_put.1 hn) _ _ key hn with hn | area
    · have adds (d : Dict) (a : String) :
        ∀ n ∈ (seedInput (namedFields "input" element) d a).map (·.1),
          n ∈ d.map (·.1) ∨ n = id a :=
        fun _ hn => Dict.mem_names_put.1 hn
      rcases mem_names_foldl adds _ _ key hn with none | input
      · cases none
      · exact .inl (by rwa [List.map_id] at input)
    · exact .inr (.inl area)
  · exact .inr (.inr select)

/-- Whatever the case of its name, an override of the selection goes to it. -/
theorem OnlySelect.spelling_eq (only : OnlySelect name element select)
    (seeds : name ∈ (ofElement element).seededNames) (same : Text.fold field = Text.fold name) :
    spelling (ofElement element).seededNames field = name := by
  have known : Knows (ofElement element).seededNames field := ⟨name, seeds, same.symm⟩
  obtain ⟨mem, folds⟩ := spelling_of_knows known
  have folds := folds.trans same
  rcases mem_names_seeded mem with input | area | other
  · exact absurd folds (only.noInput _ input)
  · exact absurd folds (only.noArea _ area)
  · obtain ⟨s, hs, own⟩ := List.mem_map.1 other
    rw [← own] at folds ⊢
    rw [only.eq_of_fold hs folds]

end Form

/-- An override asks for the option of a field that shows a text. -/
structure Override.AsksFor (name text : String) (o : Override) : Prop where
  name : Text.fold o.name = Text.fold name
  noLiteral : filled? o.value = none
  text : o.text = some text

namespace Form

variable {element select option : Node} {name : String} {scope : Scope} {o : Override}
  {before after : List Override}

theorem valueByText_shownText {field : String} (only : OnlySelect name element select)
    (stands : StandsAt select option) (same : Text.fold field = Text.fold name) :
    (ofElement element).valueByText field (shownText option) = .ok (optionValue option) :=
  (valueByText_eq_ok_iff (only.select? same)).2
    ⟨option, first_counts stands.unlike stands.filled, rfl⟩

/-- An override that puts the value which a known field holds can be left out. -/
theorem override_cons_self {form : Form} {names : List String} {d : Dict} {value : String}
    (known : Knows names o.name)
    (given : form.given? scope (spelling names o.name) o = some (.ok (some value)))
    (holds : d.get? (spelling names o.name) = some value) :
    form.override scope names (o :: after) d = form.override scope names after d := by
  rw [override_cons given, Option.elim_some, Dict.put_self holds, noteName_of_knows known]

/-- For a selection that alone has its name and stands at an option with a value of its own text,
the option found by the text shown is the one whose value the form holds, under whatever case of the
name it is asked for. So an override that asks for this text changes nothing, unless one before it
has given the field another value. -/
theorem shown_text_agrees (only : OnlySelect name element select)
    (stands : StandsAt select option) :
    (∀ field, Text.fold field = Text.fold name →
      (ofElement element).valueByText field (shownText option) = .ok (optionValue option)) ∧
    (ofElement element).values.get? name = some (optionValue option) ∧
    (shownText option ≠ "" → Template.Plain (shownText option) → ∀ scope before o after,
      o.AsksFor name (shownText option) →
      (∀ u ∈ before, u.template?.isSome → Text.fold u.name ≠ Text.fold name) →
        (ofElement element).merged (before ++ o :: after) scope =
          (ofElement element).merged (before ++ after) scope) := by
  have holds : (ofElement element).values.get? name = some (optionValue option) :=
    get?_seeded_of_onlySelect only stands.selected
  refine ⟨fun _ => valueByText_shownText only stands, holds, ?_⟩
  intro filled plain scope before o after asks apart
  have seeds : name ∈ (ofElement element).seededNames := Dict.mem_names_of_get? holds
  have known : Knows (ofElement element).seededNames o.name := ⟨name, seeds, asks.name.symm⟩
  rw [merged, merged, override_append, override_append]
  cases first : (ofElement element).override scope ((ofElement element).values.map (·.1)) before
      (ofElement element).values with
  | none => rfl
  | some result =>
    cases result with
    | error e => rfl
    | ok d =>
      have field : spelling (noteAll (ofElement element).seededNames before) o.name = name := by
        rw [known.spelling_noteAll, only.spelling_eq seeds asks.name]
      have kept : d.get? name = some (optionValue option) := by
        rw [get?_override first, holds]
        intro u hu speaks same
        apply apart u hu speaks
        rw [← same, fold_spelling]
      have text : filled? o.text = some (shownText option) := by
        rw [asks.text, filled?, Option.filter_some, if_pos (by simpa using filled)]
      have gives : o.Gives (ofElement element) scope name (.ok (optionValue option)) := by
        rw [← valueByText_shownText only stands rfl]
        exact .text asks.noLiteral text plain.resolve?
      apply override_cons_self (known.noteAll before)
      · rw [field]
        exact given?_of_gives gives
      · rw [field]
        exact kept

end Form

/-- A selection of a size in two groups, of which the second repeats a text of the first. -/
def sizeSelect : Node :=
  .element "select" [("name", some "size")] [
    .element "optgroup" [] [
      .element "option" [("value", some "s")] [.text "Small"],
      .element "option" [("selected", none)] [.text " Medium "]],
    .element "optgroup" [] [
      .element "option" [("value", some "x"), ("selected", none)] [.text "medium"]]]

def sizeForm : Node :=
  .element "form" [] [
    .element "input" [("name", some "note"), ("value", some "soon")] [], sizeSelect]

def medium : Node :=
  .element "option" [("selected", none)] [.text " Medium "]

theorem size_onlySelect : Form.OnlySelect "size" sizeForm sizeSelect :=
  ⟨rfl, rfl, by decide, by decide⟩

theorem size_standsAt : Form.StandsAt sizeSelect medium := by
  have earlier : sizeSelect.named "option" =
      [.element "option" [("value", some "s")] [.text "Small"]] ++ medium ::
        [.element "option" [("value", some "x"), ("selected", none)] [.text "medium"]] := rfl
  refine ⟨⟨rfl, _, _, earlier, ?_⟩, by decide, ⟨rfl, _, _, earlier, ?_⟩⟩
  · intro o ho
    rw [List.mem_singleton.1 ho]
    exact Bool.false_ne_true
  · intro o ho
    rw [List.mem_singleton.1 ho]
    decide

/-- Asking for the size that is shown, between other overrides, changes nothing. -/
theorem size_text_agrees :
    Form.OnlySelect "size" sizeForm sizeSelect ∧ Form.StandsAt sizeSelect medium ∧
    Form.shownText medium = "Medium" ∧ Template.Plain "Medium" ∧
    (Form.ofElement sizeForm).valueByText "SIZE" "Medium" = .ok "Medium" ∧
    (Form.ofElement sizeForm).values.get? "size" = some "Medium" ∧
    (Form.ofElement sizeForm).merged
        ([⟨"note", some "now", none⟩] ++
          ⟨"SIZE", none, some "Medium"⟩ :: [⟨"size", some "l", none⟩]) {} =
      (Form.ofElement sizeForm).merged
        ([⟨"note", some "now", none⟩] ++ [⟨"size", some "l", none⟩]) {} := by
  have plain : Template.Plain "Medium" := Template.next?_eq_none.1 (by decide)
  have text : Form.shownText medium = "Medium" := by decide
  obtain ⟨found, holds, merged⟩ := Form.shown_text_agrees size_onlySelect size_standsAt
  rw [text] at found merged
  refine ⟨size_onlySelect, size_standsAt, text, plain, found "SIZE" (by decide), holds, ?_⟩
  apply merged (by decide) plain
  · exact ⟨by decide, rfl, rfl⟩
  · intro u hu _
    rw [List.mem_singleton.1 hu]
    decide

end WebScript
