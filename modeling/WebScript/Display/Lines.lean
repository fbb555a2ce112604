import WebScript.Display.Layout
import WebScript.Display.Styles
import WebScript.Error

namespace WebScript.Display

/-- The words of a text with single spaces between them. -/
def evened (text : List Char) : List Char :=
  let step (state : List Char × Bool) (c : Char) : List Char × Bool :=
    if Text.isBlank c then (state.1, true)
    else (c :: (if state.2 && !state.1.isEmpty then ' ' :: state.1 else state.1), false)
  (text.foldl step ([], false)).1.reverse

def linesOf (text : String) : List String :=
  (Text.pieces '\n' text.toList).map fun line => .ofList (evened line)

def block [Styling] (markup : String) : Except Breakdown (List String) := do
  return (linesOf (← rendered markup)).filter (· != "")

def panel [Styling] (title markup : String) : Except Breakdown (List String) := do
  return title :: (← block markup)

/-- Cells beside each other; empty ones at either end are not shown. -/
def besides (cells : List String) : String :=
  let cells := ((cells.dropWhile (· == "")).reverse.dropWhile (· == "")).reverse
  " | ".intercalate cells

/-- The lines of a row of two cells, of which the shorter one is filled up with empty lines. -/
def rowLines (left right : List (List Char)) : List String :=
  let cell (lines : List (List Char)) (i : Nat) : String := .ofList (evened (lines[i]?.getD []))
  ((List.range (max left.length right.length)).map fun i =>
    besides [cell left i, cell right i]).filter (· != "")

/-- A table of two columns with their titles, which show texts as they are. -/
def table [Styling] (titles : String × String) (texts : List (String × String)) :
    Except Breakdown (List String) := do
  let shown ← texts.mapM fun (left, right) => do
    return (← rendered (escape left), ← rendered (escape right))
  let cells := titles :: shown
  let width := (columnWidth (cells.map (·.1)), columnWidth (cells.map (·.2)))
  return cells.flatMap fun (left, right) =>
    rowLines (cellLines width.1 left) (cellLines width.2 right)

end WebScript.Display
