import WebScript.Proofs.Template.Resolution
import WebScript.Proofs.Text.Find

namespace WebScript.Template

variable {source : Source} {text : List Char} {p : Placeholder}

/-- A placeholder as it is written, with the text after it. -/
def Placeholder.rest (p : Placeholder) : List Char :=
  p.source.opener ++ p.name ++ p.source.closer :: p.after

/-- An opener stands in the text, and a closer of its kind after it. -/
def Terminates (source : Source) (text : List Char) : Prop :=
  ∃ rest, source.opener ++ rest <:+ text ∧ source.closer ∈ rest

/-- A text in which placeholders of neither kind are terminated. -/
def Plain (text : String) : Prop :=
  ∀ source : Source, ¬Terminates source text.toList

theorem firstOf_eq_none_iff : firstOf source text = none ↔ ¬Terminates source text := by
  constructor
  · rintro none ⟨rest, opened, closed⟩
    cases opener : Text.cutAt? source.opener text with
    | none =>
      have stands : source.opener <:+: text := (List.prefix_append ..).isInfix.trans opened.isInfix
      exact Text.cutAt?_eq_none.1 opener stands
    | some cut =>
      have later : source.closer ∈ cut.2 := (Text.suffix_of_cutAt? opener opened).mem closed
      cases closer : Text.cutAt? [source.closer] cut.2 with
      | none => exact Text.cutAt?_eq_none.1 closer ((List.singleton_infix_iff _ _).2 later)
      | some named =>
        rw [firstOf, opener] at none
        simp [closer] at none
  · intro unclosed
    rw [Option.eq_none_iff_forall_not_mem]
    intro p hp
    obtain ⟨⟨before, rest⟩, opener, hp⟩ := Option.bind_eq_some_iff.1 hp
    obtain ⟨⟨name, after⟩, closer, -⟩ := Option.bind_eq_some_iff.1 hp
    refine unclosed ⟨rest, ⟨before, ?_⟩, ?_⟩
    · rw [← List.append_assoc]
      exact Text.cutAt?_eq_some opener
    · rw [← Text.cutAt?_eq_some closer]
      simp

/-- No placeholder is found exactly where none is terminated. -/
theorem next?_eq_none : next? text = none ↔ ∀ source : Source, ¬Terminates source text := by
  have first : next? text = none ↔ firstOf .outputs text = none ∧ firstOf .inputs text = none := by
    rw [next?]
    cases firstOf .outputs text with
    | none => simp
    | some p =>
      cases firstOf .inputs text with
      | none => simp
      | some q =>
        dsimp only
        split <;> simp
  rw [first, firstOf_eq_none_iff, firstOf_eq_none_iff]
  constructor
  · rintro ⟨outputs, inputs⟩ source
    cases source with
    | outputs => exact outputs
    | inputs => exact inputs
  · intro unclosed
    exact ⟨unclosed .outputs, unclosed .inputs⟩

theorem firstOf_eq_some (h : firstOf source text = some p) :
    p.source = source ∧ p.before ++ p.rest = text := by
  obtain ⟨⟨before, rest⟩, opener, h⟩ := Option.bind_eq_some_iff.1 h
  obtain ⟨⟨name, after⟩, closer, h⟩ := Option.bind_eq_some_iff.1 h
  cases h
  have opened := Text.cutAt?_eq_some opener
  have closed := Text.cutAt?_eq_some closer
  refine ⟨rfl, ?_⟩
  rw [← opened, ← closed]
  simp [Placeholder.rest]

/-- A placeholder that is found stands in the text. -/
theorem text_of_next? (h : next? text = some p) : p.before ++ p.rest = text := by
  have found : ∃ source, firstOf source text = some p := by
    rw [next?] at h
    split at h
    · split at h
      · cases h
        exact ⟨.inputs, ‹_›⟩
      · cases h
        exact ⟨.outputs, ‹_›⟩
    · cases h
      exact ⟨.outputs, ‹_›⟩
    · exact ⟨.inputs, h⟩
  obtain ⟨source, found⟩ := found
  exact (firstOf_eq_some found).2

/-- A text without placeholders stands for itself, whatever openers it has. -/
theorem Plain.resolve? {scope : Scope} {text : String} (h : Plain text) :
    resolve? scope text = some text :=
  resolve?_of_none (next?_eq_none.2 h)

end WebScript.Template
