import Mathlib.Tactic.Common
import WebScript.Display.Styles

namespace WebScript.Display

variable {style : List Char} {ps : List Piece}

def Piece.IsPlain (p : Piece) : Prop :=
  ∃ text, p = plain text

/-- What may follow a tag that opens a style: plain text in which the style is closed once, or not
at all. -/
inductive Tame (style : List Char) : List Piece → Prop
  | nil : Tame style []
  | plain (text : List Char) {rest : List Piece} (h : Tame style rest) :
      Tame style (.plain text :: rest)
  | closing {rest : List Piece} (h : ∀ p ∈ rest, p.IsPlain) :
      Tame style (.tag ('/' :: style) :: rest)

def reportStyles : List (List Char) :=
  [['r', 'e', 'd'], "bold red".toList, "bold green".toList]

/-- What reports need of the reading of tags: there is no fault where there is no tag, or where a
style of reports is opened first and nothing else is done but to close it. -/
structure Styling.Sound [Styling] : Prop where
  plain {ps : List Piece} (h : ∀ p ∈ ps, p.IsPlain) : fault? ps = none
  styled {style : List Char} {ps : List Piece} (usual : style ∈ reportStyles) (h : Tame style ps) :
    fault? (.tag style :: ps) = none

theorem Tame.of_plain (h : ∀ p ∈ ps, p.IsPlain) : Tame style ps := by
  induction ps with
  | nil => exact .nil
  | cons p ps ih =>
    obtain ⟨⟨text, rfl⟩, later⟩ := List.forall_mem_cons.1 h
    exact .plain text (ih later)

theorem foldlM_step_of_plain (h : ∀ p ∈ ps, p.IsPlain) (canvas : Canvas) :
    ∃ shown, ps.foldlM Canvas.step canvas = .ok { canvas with shown } := by
  induction ps generalizing canvas with
  | nil => exact ⟨canvas.shown, rfl⟩
  | cons p ps ih =>
    obtain ⟨⟨text, rfl⟩, later⟩ := List.forall_mem_cons.1 h
    exact ih later { canvas with shown := canvas.shown ++ plainText text }

/-- A style that is spelled in just the way in which styles are identified. -/
structure Regular (style : List Char) : Prop where
  whole : Text.cutAt? ['='] style = none
  closed : Text.cutAt? ['='] ('/' :: style) = none
  trimmed : Text.trimWhere Text.isBlank style = style
  filled : style.isEmpty = false
  opening : style.head? ≠ some '/'
  plain : style.head? ≠ some '@'
  key : Style.key style = .ok (.ofList style)
  read : ∃ s, Style.read style = .ok s

theorem regular_of_mem (h : style ∈ reportStyles) : Regular style := by
  simp only [reportStyles, List.mem_cons, List.not_mem_nil, or_false] at h
  rcases h with rfl | rfl | rfl
  all_goals
    constructor
    case opening => decide
    case plain => decide
    case key => decide
    case read => exact ⟨_, rfl⟩
    all_goals rfl

namespace Regular

/-- The canvas after a style has been opened and some text shown. -/
def begun (style shown : List Char) : Canvas :=
  { shown, opened := [⟨.ofList style, none, 0⟩] }

theorem fault?_painted (h : Regular style) (shown text : List Char) :
    ({ shown, painted := [(style, text)] } : Canvas).fault? = none := by
  obtain ⟨s, read⟩ := h.read
  rw [Canvas.fault?]
  simp [read]

theorem step_opening (h : Regular style) : Canvas.step {} (.tag style) = .ok (begun style []) := by
  rw [Canvas.step, h.whole]
  cases style with
  | nil => cases h.filled
  | cons c rest =>
    dsimp only
    split
    · next slash => exact absurd (congrArg List.head? slash) h.opening
    · next slash =>
      rw [h.key]
      rfl

theorem step_closing (h : Regular style) (shown : List Char) :
    (begun style shown).step (.tag ('/' :: style)) =
      .ok { shown, painted := [(style, shown)] } := by
  rw [Canvas.step, h.closed]
  dsimp only
  split
  · next inside same =>
    obtain rfl := (List.cons.inj same).2
    rw [h.trimmed, h.key]
    simp [bind, Except.bind, begun, h.filled, Canvas.close, h.plain, Canvas.paint, OpenTag.style]
  · next other => exact absurd rfl (other style)

theorem fault?_of_tame (h : Regular style) (tame : Tame style ps) (shown : List Char) :
    ∃ canvas, ps.foldlM Canvas.step (begun style shown) = .ok canvas ∧ canvas.fault? = none := by
  induction tame generalizing shown with
  | nil =>
    refine ⟨_, rfl, ?_⟩
    have painted := h.fault?_painted shown shown
    rw [Canvas.fault?] at painted ⊢
    simpa [begun, Canvas.paint, OpenTag.style] using painted
  | plain text _ ih => exact ih (shown ++ plainText text)
  | closing plain =>
    obtain ⟨after, same⟩ := foldlM_step_of_plain plain { shown, painted := [(style, shown)] }
    refine ⟨_, ?_, h.fault?_painted after shown⟩
    rw [List.foldlM_cons, h.step_closing]
    exact same

end Regular

/-- The usual reading of tags is what reports need. -/
theorem usualStyling_sound : usualStyling.Sound where
  plain h := by
    obtain ⟨shown, same⟩ := foldlM_step_of_plain h {}
    rw [Styling.fault?, usualStyling]
    dsimp only
    rw [same]
    rfl
  styled {style ps} usual h := by
    have regular := regular_of_mem usual
    obtain ⟨canvas, same, calm⟩ := regular.fault?_of_tame h []
    have folded : (.tag style :: ps).foldlM Canvas.step {} = .ok canvas := by
      rw [List.foldlM_cons, regular.step_opening]
      exact same
    rw [Styling.fault?, usualStyling]
    dsimp only
    rw [folded]
    exact calm

end WebScript.Display
