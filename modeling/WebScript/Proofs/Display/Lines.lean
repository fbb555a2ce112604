import WebScript.Proofs.Display.Cells
import WebScript.Proofs.Display.Tags
import WebScript.Proofs.Except

namespace WebScript.Display

open Text (isBlank inked)

/-- Lines without their white space. -/
def inkOf (lines : List String) : List Char :=
  inked (lines.flatMap String.toList)

section Blocks

/-- Taking in one character where white space is evened out. -/
def even (state : List Char × Bool) (c : Char) : List Char × Bool :=
  if isBlank c then (state.1, true)
  else (c :: (if state.2 && !state.1.isEmpty then ' ' :: state.1 else state.1), false)

theorem evened_eq (text : List Char) : evened text = (text.foldl even ([], false)).1.reverse := rfl

theorem inked_even (text : List Char) (state : List Char × Bool) :
    inked (text.foldl even state).1.reverse = inked state.1.reverse ++ inked text := by
  induction text generalizing state with
  | nil => exact (List.append_nil _).symm
  | cons c text ih =>
    rw [List.foldl_cons, ih, even]
    cases blank : isBlank c with
    | true =>
      rw [Text.inked_cons_of_blank blank]
      rfl
    | false =>
      have space :
        inked (if (state.2 && !state.1.isEmpty) = true then ' ' :: state.1 else state.1) =
          inked state.1 := by
        split
        · exact Text.inked_cons_of_blank rfl _
        · rfl
      simp only [Bool.false_eq_true, if_false]
      generalize (if (state.2 && !state.1.isEmpty) = true then ' ' :: state.1 else state.1) = before
        at space ⊢
      rw [Text.inked_reverse, Text.inked_cons_of_not_blank blank,
        Text.inked_cons_of_not_blank blank,
        space, Text.inked_reverse, List.reverse_cons, List.append_assoc]
      rfl

theorem inked_evened (text : List Char) : inked (evened text) = inked text := by
  rw [evened_eq, inked_even]
  rfl

theorem inkOf_filter (lines : List String) : inkOf (lines.filter (· != "")) = inkOf lines := by
  induction lines with
  | nil => rfl
  | cons line lines ih =>
    rw [inkOf, inkOf, List.filter_cons, List.flatMap_cons, Text.inked_append]
    rw [inkOf, inkOf] at ih
    split
    · rw [List.flatMap_cons, Text.inked_append, ih]
    · next empty =>
      obtain rfl : line = "" := by simpa using empty
      rw [ih]
      rfl

theorem inkOf_linesOf (text : String) : inkOf (linesOf text) = inked text.toList := by
  rw [← Text.inked_pieces text.toList, inkOf, linesOf]
  generalize Text.pieces '\n' text.toList = lines
  induction lines with
  | nil => rfl
  | cons line lines ih =>
    rw [List.map_cons, List.flatMap_cons, List.flatten_cons, Text.inked_append,
      Text.inked_append, ih, String.toList_ofList, inked_evened]

variable [Styling] {markup : String}

theorem rendered_eq (markup : String) :
    rendered markup = match Styling.fault? (piecesFrom [] markup.toList) with
      | some b => .error b
      | none => .ok (.ofList (display (piecesFrom [] markup.toList))) := by
  rw [← piecesFrom_toList]
  rfl

theorem block_of_calm (calm : Styling.fault? (piecesFrom [] markup.toList) = none) :
    ∃ lines, block markup = .ok lines ∧
      inkOf lines = inked (display (piecesFrom [] markup.toList)) := by
  rw [block, rendered_eq, calm]
  exact ⟨_, rfl, by rw [inkOf_filter, inkOf_linesOf, String.toList_ofList]⟩

theorem block_of_fault {b : Breakdown}
    (fault : Styling.fault? (piecesFrom [] markup.toList) = some b) : block markup = .error b := by
  rw [block, rendered_eq, fault]
  rfl

end Blocks

section Tables

def cellText (text : String) : String :=
  .ofList (display (piecesFrom [] (escape text).toList))

theorem rendered_escape [Styling] (sound : Styling.Sound) (text : String) :
    rendered (escape text) = .ok (cellText text) := by
  obtain ⟨k, same⟩ := escape_toList text
  have enough : text.toList.length ≤ text.length := Nat.le_of_eq String.length_toList
  have plain := (readsAs_escapeTags enough k []).1
  rw [← same] at plain
  rw [rendered_eq, sound.plain plain]
  rfl

theorem inked_cellText_iff (text : String) :
    inked (cellText text).toList = inked text.toList ↔
      Spelled (piecesFrom [] (escape text).toList) text.toList := by
  obtain ⟨more, marked, added⟩ := marked_escape text
  rw [cellText, String.toList_ofList, marked.inked_display_iff added]

theorem spelled_escape_of_calm {text : String} (calm : Calm text.toList) :
    Spelled (piecesFrom [] (escape text).toList) text.toList := by
  have enough : text.toList.length ≤ text.length := Nat.le_of_eq String.length_toList
  have read := readsAs_escapeTags enough 0 []
  rw [List.replicate_zero, List.append_nil, List.append_nil, List.reverse_nil,
    List.nil_append] at read
  rw [escape_of_ends calm.ends]
  exact read.spelled calm

/-- The lines of a cell: what is shown of its text, on lines of a column. -/
structure CellLines (width : Nat) (text : String) (lines : List (List Char)) : Prop where
  shown : inked (cellText text).toList = inked text.toList ↔
    Spelled (piecesFrom [] (escape text).toList) text.toList
  calm : Calm text.toList → Spelled (piecesFrom [] (escape text).toList) text.toList
  fitting : inked lines.flatten = inked (cellText text).toList ↔
    ∀ line ∈ Text.pieces '\n' (cellText text).toList, Fits width (spread 0 line)

theorem le_foldl_max (widths : List Nat) (start : Nat) :
    start ≤ widths.foldl max start ∧ ∀ width ∈ widths, width ≤ widths.foldl max start := by
  induction widths generalizing start with
  | nil => exact ⟨Nat.le_refl start, nofun⟩
  | cons width widths ih =>
    obtain ⟨started, later⟩ := ih (max start width)
    refine ⟨Nat.le_trans (Nat.le_max_left _ _) started, List.forall_mem_cons.2 ⟨?_, later⟩⟩
    exact Nat.le_trans (Nat.le_max_right _ _) started

theorem widest_le_columnWidth {cell : String} {cells : List String} (h : cell ∈ cells) :
    widest cell.toList ≤ columnWidth cells :=
  (le_foldl_max _ 0).2 _ (List.mem_map_of_mem h)

theorem cellLines_of_mem {text : String} {cells : List String} (h : cellText text ∈ cells) :
    CellLines (columnWidth cells) text (cellLines (columnWidth cells) (cellText text)) :=
  ⟨inked_cellText_iff text, spelled_escape_of_calm, inked_cellLines (widest_le_columnWidth h)⟩

def RowLines (width : Nat × Nat) (texts : String × String) (lines : List String) : Prop :=
  ∃ left right, lines = rowLines left right ∧ CellLines width.1 texts.1 left ∧
    CellLines width.2 texts.2 right

def cellTexts (texts : String × String) : String × String :=
  (cellText texts.1, cellText texts.2)

/-- The widths of two columns with some cells. -/
def columns (cells : List (String × String)) : Nat × Nat :=
  (columnWidth (cells.map (·.1)), columnWidth (cells.map (·.2)))

def tableRow (width : Nat × Nat) (cell : String × String) : List String :=
  rowLines (cellLines width.1 cell.1) (cellLines width.2 cell.2)

theorem rowLines_of_mem {texts : String × String} {cells : List (String × String)}
    (h : cellTexts texts ∈ cells) :
    RowLines (columns cells) texts (tableRow (columns cells) (cellTexts texts)) := by
  have left : cellText texts.1 ∈ cells.map (·.1) := List.mem_map.2 ⟨_, h, rfl⟩
  have right : cellText texts.2 ∈ cells.map (·.2) := List.mem_map.2 ⟨_, h, rfl⟩
  exact ⟨_, _, rfl, cellLines_of_mem left, cellLines_of_mem right⟩

theorem table_eq [Styling] (sound : Styling.Sound) (titles : String × String)
    (texts : List (String × String)) :
    table titles texts = .ok ((titles :: texts.map cellTexts).flatMap
      (tableRow (columns (titles :: texts.map cellTexts)))) := by
  have cell (texts : String × String) : (do
      return (← rendered (escape texts.1), ← rendered (escape texts.2)) :
        Except Breakdown (String × String)) = .ok (cellTexts texts) := by
    rw [rendered_escape sound, rendered_escape sound]
    rfl
  have cells := Except.mapM_eq_ok_iff_forall₂.2
    (List.forall₂_map_right_iff.2 (List.forall₂_same.2 fun row (_ : row ∈ texts) => cell row))
  rw [table, cells]
  rfl

/-- A table never fails, and it has its rows in order. -/
theorem table_rows [Styling] (sound : Styling.Sound) (titles : String × String)
    (texts : List (String × String)) :
    ∃ width header rows, table titles texts = .ok (header ++ List.flatten rows) ∧
      List.Forall₂ (RowLines width) texts rows := by
  rw [table_eq sound, List.flatMap_cons, List.flatMap_def]
  generalize cells_eq : titles :: texts.map cellTexts = cells
  refine ⟨columns cells, _, _, rfl, ?_⟩
  rw [List.forall₂_map_right_iff, List.forall₂_map_right_iff, List.forall₂_same]
  intro text listed
  apply rowLines_of_mem
  rw [← cells_eq]
  exact .tail _ (List.mem_map_of_mem listed)

end Tables

end WebScript.Display
