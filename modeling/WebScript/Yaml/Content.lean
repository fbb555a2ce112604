import WebScript.Number.Hex
import WebScript.Text.Find
import WebScript.Text.Half
import WebScript.Yaml.Cursor

namespace WebScript.Yaml

open Cursor

/-- Folded line breaks: one break alone is a space, and the first of several is dropped. -/
def foldBreaks (first : List Char) (others : List Char) : List Char :=
  if first != ['\n'] then first ++ others
  else if others.isEmpty then [' ']
  else others

/-- The characters of a plain scalar up to white space, a comment or an indicator. -/
def plainRun (flow : Bool) : List Char → List Char
  | [] => []
  | c :: rest =>
    if endsWord (some c) then []
    else if c == ':' &&
        (endsWord rest.head? || flow && rest.head?.any fun d => ",[]\x7b\x7d".toList.contains d)
    then []
    else if flow && ",?[]\x7b\x7d".toList.contains c then []
    else c :: plainRun flow rest

/-- Line breaks and spaces between the lines of a plain scalar, up to a document marker. -/
def plainBreaks : (fuel : Nat) → Cursor → List Char × Bool × Cursor
  | 0, c => ([], false, c)
  | fuel + 1, c =>
    if c.peek == some ' ' then plainBreaks fuel c.next
    else if c.peek.any isBreak then
      let (b, c) := c.lineBreak
      if c.atMarker then (b, true, c)
      else
        let (more, stopped, c) := plainBreaks fuel c
        (b ++ more, stopped, c)
    else ([], false, c)

/-- What stands between two runs of a plain scalar, as content, and whether a line ended. The
content is empty where the scalar ends. -/
def plainGap (c : Cursor) : List Char × Bool × Cursor :=
  let (spaces, c) := c.takeWhile (· == ' ')
  if c.peek.any isBreak then
    let (first, c) := c.lineBreak
    if c.atMarker then ([], true, c)
    else
      let (others, stopped, c) := plainBreaks (c.rest.length + 1) c
      (if stopped then [] else foldBreaks first others, true, c)
  else (spaces, false, c)

/-- The content of a plain scalar, whether its last gap ended a line, and the place after it. -/
def plainContent (flow : Bool) (indent : Int) : (fuel : Nat) → Cursor → List Char × Bool × Cursor
  | 0, c => ([], false, c)
  | fuel + 1, c =>
    let run := plainRun flow c.rest
    let (gap, broke, after) := plainGap (c.skip run.length)
    if gap.isEmpty || after.peek == some '#' || !flow && after.column < indent ||
        (plainRun flow after.rest).isEmpty then (run, broke, after)
    else
      let (more, broke, c) := plainContent flow indent fuel after
      (run ++ gap ++ more, broke, c)

/-- The characters that a letter after a backslash stands for. -/
def escapes : List (Char × Nat) :=
  [('0', 0), ('a', 7), ('b', 8), ('t', 9), ('\t', 9), ('n', 10), ('v', 11), ('f', 12), ('r', 13),
   ('e', 0x1B), (' ', 0x20), ('"', 0x22), ('\\', 0x5C), ('/', 0x2F), ('N', 0x85), ('_', 0xA0),
   ('L', 0x2028), ('P', 0x2029)]

/-- Line breaks inside a quoted scalar, with the white space around them. -/
def quotedBreaks : (fuel : Nat) → Cursor → Except Fault (List Char × Cursor)
  | 0, _ => .error .malformed
  | fuel + 1, c =>
    if c.atMarker then .error .malformed
    else
      let c := c.skipWhile fun a => a == ' ' || a == '\t'
      if c.peek.any isBreak then do
        let (b, c) := c.lineBreak
        let (more, c) ← quotedBreaks fuel c
        return (b ++ more, c)
      else .ok ([], c)

/-- The character of a code, or half of one. There is none beyond the last character, and numbers
of more than 31 bits are no codes at all. -/
def ofCode (n : Nat) : Except Fault (List Char) :=
  if n > 0x7FFFFFFF then .error .tooLarge
  else if n > 0x10FFFF then .error .badValue
  else .ok (if Text.isHalf n then Text.half n else [Char.ofNat n])

/-- The character of which exactly `width` digits give the code. -/
def coded (width : Nat) (c : Cursor) : Except Fault (List Char × Cursor) :=
  match Number.hexNumber? width c.rest with
  | none => .error .malformed
  | some n => do return (← ofCode n, c.skip width)

/-- What an escape sequence stands for; the place is after the backslash. -/
def escaped (c : Cursor) : Except Fault (List Char × Cursor) :=
  match c.peek with
  | none => .error .malformed
  | some a =>
    match escapes.lookup a with
    | some n => .ok ([Char.ofNat n], c.next)
    | none =>
      if a == 'x' then coded 2 c.next
      else if a == 'u' then coded 4 c.next
      else if a == 'U' then coded 8 c.next
      else if isBreak a then quotedBreaks (c.rest.length + 1) c.lineBreak.2
      else .error .malformed

/-- White space inside a quoted scalar, as content. -/
def quotedGap (c : Cursor) : Except Fault (List Char × Cursor) := do
  let (spaces, c) := c.takeWhile fun a => a == ' ' || a == '\t'
  match c.peek with
  | none => .error .malformed
  | some a =>
    if isBreak a then
      let (first, c) := c.lineBreak
      let (others, c) ← quotedBreaks (c.rest.length + 1) c
      return (foldBreaks first others, c)
    else return (spaces, c)

/-- The content of a quoted scalar; the place is after the opening quote, and then after the closing
one. -/
def quotedContent (double : Bool) : (fuel : Nat) → Cursor → Except Fault (List Char × Cursor)
  | 0, _ => .error .malformed
  | fuel + 1, c =>
    let follow (part : List Char) (c : Cursor) : Except Fault (List Char × Cursor) := do
      let (more, c) ← quotedContent double fuel c
      return (part ++ more, c)
    match c.rest with
    | [] => .error .malformed
    | a :: rest =>
      if !double && a == '\'' && rest.head? == some '\'' then follow ['\''] (c.skip 2)
      else if a == (if double then '"' else '\'') then .ok ([], c.next)
      else if double && a == '\\' then do
        let (part, c) ← escaped c.next
        follow part c
      else if endsWord (some a) then do
        let (part, c) ← quotedGap c
        follow part c
      else follow [a] c.next

/-- How a block scalar ends: with one line break, with none, or with all. -/
inductive Chomp where
  | clip
  | strip
  | keep
  deriving DecidableEq, Repr

def chompSign? : Option Char → Option Chomp
  | some '+' => some .keep
  | some '-' => some .strip
  | _ => none

def indentDigit? : Option Char → Option Nat
  | some d => if '0' ≤ d ∧ d ≤ '9' then some (d.toNat - 48) else none
  | none => none

/-- A chomping sign and an indentation digit in either order, and the place after them. -/
def blockMarks (c : Cursor) : Chomp × Option Nat × Cursor :=
  match chompSign? c.peek with
  | some chomp => match indentDigit? c.next.peek with
    | some n => (chomp, some n, c.skip 2)
    | none => (chomp, none, c.next)
  | none => match indentDigit? c.peek with
    | some n => match chompSign? c.next.peek with
      | some chomp => (chomp, some n, c.skip 2)
      | none => (.clip, some n, c.next)
    | none => (.clip, none, c)

/-- The header of a block scalar: its marks, then at most a comment. -/
def blockHeader (c : Cursor) : Except Fault (Chomp × Option Nat × Cursor) :=
  let (chomp, indent, c) := blockMarks c
  if indent == some 0 || !endsPart c.peek then .error .malformed
  else
    let c := c.skipSpaces.skipComment
    if !endsLine c.peek then .error .malformed
    else .ok (chomp, indent, c.lineBreak.2)

/-- Leading empty lines of a block scalar, and the widest indentation among them and before the
first line with content. -/
def blockIndentation : (fuel width : Nat) → Cursor → List Char × Nat × Cursor
  | 0, width, c => ([], width, c)
  | fuel + 1, width, c =>
    if c.peek == some ' ' then
      let c := c.next
      blockIndentation fuel (max width c.column) c
    else if c.peek.any isBreak then
      let (b, c) := c.lineBreak
      let (more, width, c) := blockIndentation fuel width c
      (b ++ more, width, c)
    else ([], width, c)

def indentTo (column : Nat) (c : Cursor) : Cursor :=
  c.skip ((c.rest.takeWhile (· == ' ')).take (column - c.column)).length

/-- Empty lines between the lines of a block scalar. -/
def blockBreaks (indent : Nat) : (fuel : Nat) → Cursor → List Char × Cursor
  | 0, c => ([], c)
  | fuel + 1, c =>
    let c := indentTo indent c
    if c.peek.any isBreak then
      let (b, c) := c.lineBreak
      let (more, c) := blockBreaks indent fuel c
      (b ++ more, c)
    else ([], c)

def isSpaceOrTab (c : Option Char) : Bool :=
  c == some ' ' || c == some '\t'

/-- The lines of a block scalar from a line with content on; `breaks` stand before it. -/
def blockLines (folded : Bool) (chomp : Chomp) (indent : Nat) :
    (fuel : Nat) → (breaks : List Char) → Cursor → List Char × Cursor
  | 0, _, c => ([], c)
  | fuel + 1, breaks, c =>
    let (line, after) := c.takeWhile (!isBreak ·)
    let (lineEnd, after) := after.lineBreak
    let (next, after) := blockBreaks indent (after.rest.length + 1) after
    if after.column == indent && after.peek.isSome then
      let joint :=
        if folded && lineEnd == ['\n'] && !isSpaceOrTab c.peek && !isSpaceOrTab after.peek then
          if next.isEmpty then [' '] else []
        else lineEnd
      let (more, done) := blockLines folded chomp indent fuel next after
      (breaks ++ line ++ joint ++ more, done)
    else
      let close := match chomp with
        | .strip => []
        | .clip => lineEnd
        | .keep => lineEnd ++ next
      (breaks ++ line ++ close, after)

/-- The empty lines that a block scalar begins with, and its indentation, which is at least `least`.
-/
def blockStart (least : Nat) (increment : Option Nat) (c : Cursor) : List Char × Nat × Cursor :=
  match increment with
  | some n =>
    let indent := least + n - 1
    let (breaks, c) := blockBreaks indent (c.rest.length + 1) c
    (breaks, indent, c)
  | none =>
    let (breaks, width, c) := blockIndentation (c.rest.length + 1) 0 c
    (breaks, max least width, c)

/-- The content of a block scalar inside a block of the given indentation; the place is after the
indicator. -/
def blockContent (folded : Bool) (parent : Int) (c : Cursor) :
    Except Fault (List Char × Cursor) := do
  let (chomp, increment, c) ← blockHeader c
  let (breaks, indent, c) := blockStart (max 1 (parent + 1)).toNat increment c
  if c.column == indent && c.peek.isSome then
    return blockLines folded chomp indent (c.rest.length + 1) breaks c
  else return (if chomp == .keep then breaks else [], c)

end WebScript.Yaml
