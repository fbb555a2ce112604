import WebScript.Page.Form
import WebScript.Proofs.Precedence

namespace WebScript

open Html

namespace Form

variable {form : Form} {field text value : String} {select shown : Node}

/-- A selection goes by a name, case aside; one without a name goes by the empty one. -/
def GoesBy (field : String) (select : Node) : Prop :=
  Text.fold ((select.attribute? "name").getD "") = Text.fold field

def Shows (text : String) (option : Node) : Prop :=
  Text.fold (Text.trim option.textContent) = Text.fold text

/-- What the texts of a selection promise: the value of the first option that shows a text. -/
inductive Promises (field text : String) (select : Node) : Except ScriptError String → Prop
  | shown {option : Node} (first : IsFirst (Shows text) (select.named "option") option) :
      Promises field text select (.ok (optionValue option))
  | missing (none : ∀ option ∈ select.named "option", ¬Shows text option) :
      Promises field text select (.error (.optionNotFound field text))

def Counts (text : String) (option : Node) : Prop :=
  Shows text option ∧ optionValue option ≠ ""

instance (field : String) (select : Node) : Decidable (GoesBy field select) :=
  inferInstanceAs (Decidable (_ = _))

instance (text : String) (option : Node) : Decidable (Shows text option) :=
  inferInstanceAs (Decidable (_ = _))

instance (text : String) (option : Node) : Decidable (Counts text option) :=
  inferInstanceAs (Decidable (_ ∧ _))

theorem select?_eq_some_iff :
    form.select? field = some select ↔
    IsFirst (GoesBy field) (form.element.named "select") select :=
  isFirst_iff_find?.symm

theorem select?_eq_none_iff :
    form.select? field = none ↔ ∀ select ∈ form.element.named "select", ¬GoesBy field select :=
  find?_eq_none_iff

theorem valueByText_of_none (h : form.select? field = none) :
    form.valueByText field text = .error (.selectNotFound field) := by
  rw [valueByText, h]

theorem valueByText_of_some (h : form.select? field = some select) :
    form.valueByText field text =
      match (select.named "option").find? fun option => decide (Counts text option) with
      | some option => .ok (optionValue option)
      | none => .error (.optionNotFound field text) := by
  have tests (option : Node) :
    decide (decide (Text.fold (Text.trim option.textContent) = Text.fold text) = true ∧
      (optionValue option != "") = true) = decide (Counts text option) := by
    rw [decide_eq_decide]
    simp [Counts, Shows]
  rw [valueByText, h]
  simp only [List.find?_map, List.find?_filter, Function.comp_apply, tests]
  cases (select.named "option").find? fun option => decide (Counts text option) <;> rfl

theorem valueByText_eq_ok_iff (h : form.select? field = some select) :
    form.valueByText field text = .ok value ↔
      ∃ option, IsFirst (Counts text) (select.named "option") option ∧
        optionValue option = value := by
  rw [valueByText_of_some h]
  constructor
  · intro found
    split at found
    · next option ho => exact ⟨option, isFirst_iff_find?.2 ho, Except.ok.inj found⟩
    · cases found
  · rintro ⟨option, first, rfl⟩
    rw [isFirst_iff_find?.1 first]

theorem valueByText_eq_error_iff (h : form.select? field = some select) :
    form.valueByText field text = .error (.optionNotFound field text) ↔
      ∀ option ∈ select.named "option", ¬Counts text option := by
  rw [valueByText_of_some h, ← find?_eq_none_iff]
  cases (select.named "option").find? fun option => decide (Counts text option) with
  | some option => exact ⟨nofun, nofun⟩
  | none => exact ⟨fun _ => rfl, fun _ => rfl⟩

theorem valueByText_eq_selectNotFound_iff :
    form.valueByText field text = .error (.selectNotFound field) ↔
      ∀ select ∈ form.element.named "select", ¬GoesBy field select := by
  rw [← select?_eq_none_iff]
  constructor
  · intro missing
    cases h : form.select? field with
    | none => rfl
    | some select =>
      rw [valueByText_of_some h] at missing
      split at missing <;> cases missing
  · exact valueByText_of_none

/-- The first option that shows a text is the first one that counts, if it has a value. -/
theorem first_counts (first : IsFirst (Shows text) (select.named "option") shown)
    (filled : optionValue shown ≠ "") : IsFirst (Counts text) (select.named "option") shown := by
  obtain ⟨before, after, split, none⟩ := first.split
  have uncounted : ∀ option ∈ before, ¬Counts text option := by
    intro option ho counts
    exact none option ho counts.1
  exact ⟨⟨first.holds, filled⟩, before, after, split, uncounted⟩

theorem promises_iff (h : form.select? field = some select) :
    Promises field text select (form.valueByText field text) ↔
      ∀ shown, IsFirst (Shows text) (select.named "option") shown → optionValue shown ≠ "" := by
  constructor
  · intro promised shown first empty
    generalize found : form.valueByText field text = result at promised
    cases promised with
    | shown first' =>
      obtain ⟨counted, hc, same⟩ := (valueByText_eq_ok_iff h).1 found
      rw [first'.unique first, empty] at same
      exact hc.holds.2 same
    | missing none => exact none shown first.mem first.holds
  · intro filled
    by_cases some : ∃ option ∈ select.named "option", Shows text option
    · obtain ⟨shown, first⟩ := exists_isFirst some
      have found : form.valueByText field text = .ok (optionValue shown) :=
        (valueByText_eq_ok_iff h).2 ⟨shown, first_counts first (filled shown first), rfl⟩
      rw [found]
      exact .shown first
    · have none : ∀ option ∈ select.named "option", ¬Shows text option := by
        intro option ho shows
        exact some ⟨option, ho, shows⟩
      have missing : form.valueByText field text = .error (.optionNotFound field text) := by
        apply (valueByText_eq_error_iff h).2
        intro option ho counts
        exact none option ho counts.1
      rw [missing]
      exact .missing none

/-- A selection is not found exactly if none goes by the name. In the first one that does, the value
is that of the first option that shows the text and has a value, and there is none exactly if no
option does both. That is what the texts promise exactly if the first option that shows the text has
a value. -/
theorem value_by_text (form : Form) (field text : String) :
    (form.valueByText field text = .error (.selectNotFound field) ↔
      ∀ select ∈ form.element.named "select", ¬GoesBy field select) ∧
    ∀ select, IsFirst (GoesBy field) (form.element.named "select") select →
      (∀ value, form.valueByText field text = .ok value ↔
        ∃ option, IsFirst (Counts text) (select.named "option") option ∧
          optionValue option = value) ∧
      (form.valueByText field text = .error (.optionNotFound field text) ↔
        ∀ option ∈ select.named "option", ¬Counts text option) ∧
      (Promises field text select (form.valueByText field text) ↔
        ∀ shown, IsFirst (Shows text) (select.named "option") shown → optionValue shown ≠ "") := by
  constructor
  · exact valueByText_eq_selectNotFound_iff
  · intro select first
    have found := select?_eq_some_iff.2 first
    exact ⟨fun _ => valueByText_eq_ok_iff found, valueByText_eq_error_iff found, promises_iff found⟩

end Form

def colorSelect : Node :=
  .element "select" [("name", some "color")] [
    .element "option" [("value", some "")] [.text "Any"],
    .element "option" [] [.text " Blue "],
    .element "option" [("value", some "b")] [.text "blue"]]

def colorForm : Form :=
  .ofElement (.element "form" [] [colorSelect])

theorem color_first :
    IsFirst (Form.GoesBy "COLOR") (colorForm.element.named "select") colorSelect :=
  ⟨by decide, [], [], rfl, nofun⟩

theorem blue_first : IsFirst (Form.Shows "BLUE") (colorSelect.named "option")
    (.element "option" [] [.text " Blue "]) := by
  refine ⟨by decide, [.element "option" [("value", some "")] [.text "Any"]], _, rfl, ?_⟩
  intro option ho
  rw [List.mem_singleton.1 ho]
  decide

theorem any_first : IsFirst (Form.Shows "any") (colorSelect.named "option")
    (.element "option" [("value", some "")] [.text "Any"]) :=
  ⟨by decide, [], _, rfl, nofun⟩

/-- Of two options with the same text the first decides, here by its text, as it has no value of its
own. -/
theorem color_blue :
    IsFirst (Form.GoesBy "COLOR") (colorForm.element.named "select") colorSelect ∧
    Form.Promises "COLOR" "BLUE" colorSelect (colorForm.valueByText "COLOR" "BLUE") ∧
    colorForm.valueByText "COLOR" "BLUE" = .ok "Blue" := by
  obtain ⟨value, _, promises⟩ :=
    (Form.value_by_text colorForm "COLOR" "BLUE").2 colorSelect color_first
  have found : colorForm.valueByText "COLOR" "BLUE" = .ok "Blue" := by
    apply (value "Blue").2
    exact ⟨_, Form.first_counts blue_first (by decide), by decide⟩
  refine ⟨color_first, promises.2 ?_, found⟩
  intro option first
  rw [first.unique blue_first]
  decide

/-- An option shows the text, but its value is empty, and so it is not found. -/
theorem color_any :
    IsFirst (Form.GoesBy "COLOR") (colorForm.element.named "select") colorSelect ∧
    IsFirst (Form.Shows "any") (colorSelect.named "option")
      (.element "option" [("value", some "")] [.text "Any"]) ∧
    colorForm.valueByText "COLOR" "any" = .error (.optionNotFound "COLOR" "any") ∧
    ¬Form.Promises "COLOR" "any" colorSelect (colorForm.valueByText "COLOR" "any") := by
  have missing : colorForm.valueByText "COLOR" "any" = .error (.optionNotFound "COLOR" "any") := by
    decide
  refine ⟨color_first, any_first, missing, ?_⟩
  intro promised
  have found := Form.select?_eq_some_iff.2 color_first
  exact (Form.promises_iff found).1 promised _ any_first (by decide)

end WebScript
