import WebScript.Number.Whole
import WebScript.Yaml.Content

namespace WebScript.Yaml

def isDocumentChar (c : Char) : Bool :=
  let n := c.toNat
  n == 0x09 || n == 0x0A || n == 0x0D || (0x20 ≤ n && n ≤ 0x7E) || n == 0x85 ||
    (0xA0 ≤ n && n ≤ 0xFFFD) || 0x10000 ≤ n

/-- The smallest parts of a document. -/
inductive Token where
  | version (major : Nat)
  | tagHandle (handle start : String)
  | otherDirective
  | documentStart
  | documentEnd
  | streamEnd
  | blockSequence
  | blockMapping
  | blockEnd
  | flowSequence
  | flowSequenceEnd
  | flowMapping
  | flowMappingEnd
  | entry
  | flowEntry
  | key
  | value
  | alias (name : String)
  | anchor (name : String)
  | tag (handle : Option String) (suffix : String)
  | scalar (content : String) (plain : Bool)
  deriving DecidableEq, Repr

/-- Tokens in a row, and the fault of whoever asks for more than these. -/
structure Tokens where
  list : List Token
  fault : Fault

/-- A token that may turn out to be a key, with its place. A required one begins a line of its
block. -/
structure Candidate where
  position : Nat
  required : Bool
  index : Nat
  line : Nat
  column : Nat

/-- A key and its colon stand on one line, at most 1024 characters apart. -/
def Candidate.isFresh (c : Cursor) (k : Candidate) : Bool :=
  k.line == c.line && c.index - k.index ≤ 1024

/-- The tokens so far, the last one first, and what decides the next one. -/
structure Scan where
  cursor : Cursor
  tokens : List Token := []
  indent : Int := -1
  outer : List Int := []
  flow : Nat := 0
  keyAllowed : Bool := true
  candidates : List (Nat × Candidate) := []

namespace Scan

open Cursor

def push (t : Token) (s : Scan) : Scan :=
  { s with tokens := t :: s.tokens }

/-- Puts a token in front of the token at a position counted from the start. -/
def insertAt (position : Nat) (t : Token) (s : Scan) : Scan :=
  let later := s.tokens.length - position
  { s with tokens := s.tokens.take later ++ t :: s.tokens.drop later }

/-- Forgets the candidate of the present flow level, unless it had to become a key. -/
def dropCandidate (s : Scan) : Except Fault Scan :=
  match s.candidates.lookup s.flow with
  | some k => if k.required then .error .malformed
    else .ok { s with candidates := s.candidates.filter (·.1 != s.flow) }
  | none => .ok s

/-- Forgets the candidates that are too far back. -/
def dropStale (s : Scan) : Except Fault Scan :=
  if s.candidates.any fun (_, k) => k.required && !k.isFresh s.cursor then .error .malformed
  else .ok { s with candidates := s.candidates.filter fun (_, k) => k.isFresh s.cursor }

def noteCandidate (s : Scan) : Except Fault Scan :=
  if s.keyAllowed then do
    let required := s.flow == 0 && s.indent == s.cursor.column
    let s ← s.dropCandidate
    let k : Candidate :=
      ⟨s.tokens.length, required, s.cursor.index, s.cursor.line, s.cursor.column⟩
    return { s with candidates := (s.flow, k) :: s.candidates }
  else .ok s

/-- Ends the blocks that are indented deeper than a column. -/
def unwindTo (column : Int) : (outer : List Int) → Scan → Scan
  | [], s => s
  | indent :: outer, s =>
    if s.indent > column then
      unwindTo column outer (push .blockEnd { s with indent := indent, outer := outer })
    else s

def unwind (column : Int) (s : Scan) : Scan :=
  if s.flow == 0 then unwindTo column s.outer s else s

/-- Opens a block at a column, if it lies deeper than the present one. -/
def indentTo (column : Nat) (s : Scan) : Option Scan :=
  if s.indent < column then some { s with indent := column, outer := s.indent :: s.outer } else none

def openBlock (t : Token) (s : Scan) : Except Fault Scan :=
  if s.flow != 0 then .ok s
  else if !s.keyAllowed then .error .malformed
  else match s.indentTo s.cursor.column with
    | some s => .ok (s.push t)
    | none => .ok s

def indicator (width : Nat) (t : Token) (s : Scan) : Scan :=
  push t { s with cursor := s.cursor.skip width }

/-- Spaces, comments and line breaks; outside flow collections a key may stand on a new line. -/
def skipToToken : (fuel : Nat) → Scan → Scan
  | 0, s => s
  | fuel + 1, s =>
    let c := s.cursor.skipSpaces.skipComment
    if c.peek.any isBreak then
      skipToToken fuel
        { s with cursor := c.lineBreak.2, keyAllowed := s.keyAllowed || s.flow == 0 }
    else { s with cursor := c }

def isNameChar (c : Char) : Bool :=
  c.isAlphanum || c == '-' || c == '_'

/-- A number of a version directive, with the character after it in sight. -/
def versionNumber (c : Cursor) : Except Fault (Nat × Cursor) :=
  let (digits, c) := c.takeWhile Char.isDigit
  if digits.isEmpty || c.peek.any (!isDocumentChar ·) then .error .malformed
  else if digits.length > Number.maxDigits then .error .badValue
  else .ok (digits.foldl (fun n d => 10 * n + (d.toNat - 48)) 0, c)

def escapedBytes : (fuel : Nat) → Cursor → Except Fault (List UInt8 × Cursor)
  | 0, c => .ok ([], c)
  | fuel + 1, c =>
    if c.peek == some '%' then
      match Number.hexNumber? 2 (c.rest.drop 1) with
      | none => .error .malformed
      | some n => do
        let (more, c) ← escapedBytes fuel (c.skip 3)
        return (n.toUInt8 :: more, c)
    else .ok ([], c)

def isTagChar (c : Char) : Bool :=
  c.isAlphanum || "-;/?:@&=+$,_.!~*'()[]".toList.contains c

/-- A tag or the start of one, with percent escapes read as UTF-8. -/
def tagText : (fuel : Nat) → Cursor → Except Fault (List Char × Cursor)
  | 0, c => .ok ([], c)
  | fuel + 1, c =>
    match c.peek with
    | none => .ok ([], c)
    | some a =>
      if isTagChar a then do
        let (more, c) ← tagText fuel c.next
        return (a :: more, c)
      else if a == '%' then do
        let (bytes, c) ← escapedBytes (c.rest.length + 1) c
        match String.fromUTF8? ⟨bytes.toArray⟩ with
        | none => throw .malformed
        | some s =>
          let (more, c) ← tagText fuel c
          return (s.toList ++ more, c)
      else .ok ([], c)

def tagText1 (c : Cursor) : Except Fault (String × Cursor) := do
  let (text, c) ← tagText (c.rest.length + 1) c
  if text.isEmpty then throw .malformed
  return (.ofList text, c)

/-- A tag handle: `!`, or a name between two of them. -/
def handle (c : Cursor) : Except Fault (String × Cursor) :=
  match c.rest with
  | '!' :: ' ' :: _ => .ok ("!", c.next)
  | '!' :: rest =>
    let name := rest.takeWhile isNameChar
    if rest[name.length]? == some '!' then
      .ok (.ofList ('!' :: name ++ ['!']), c.skip (name.length + 2))
    else .error .malformed
  | _ => .error .malformed

/-- The rest of a version directive after its name. -/
def versionDirective (c : Cursor) : Except Fault (Token × Cursor) := do
  let (major, c) ← versionNumber c.skipSpaces
  if c.peek != some '.' then throw .malformed
  else
    let (_, c) ← versionNumber c.next
    if !endsPart c.peek then throw .malformed else return (.version major, c)

/-- The rest of a tag directive after its name. -/
def tagDirective (c : Cursor) : Except Fault (Token × Cursor) := do
  let (h, c) ← handle c.skipSpaces
  if c.peek != some ' ' then throw .malformed
  else
    let (start, c) ← tagText1 c.skipSpaces
    if !endsPart c.peek then throw .malformed else return (.tagHandle h start, c)

/-- The rest of a directive of the given name, up to white space or a comment. -/
def directiveOf (name : List Char) (c : Cursor) : Except Fault (Token × Cursor) :=
  if name == "YAML".toList then versionDirective c
  else if name == "TAG".toList then tagDirective c
  else .ok (.otherDirective, c.skipLine)

/-- A directive line, from the percent sign to the end of the line. -/
def directive (c : Cursor) : Except Fault (Token × Cursor) := do
  let (name, c) := c.next.takeWhile isNameChar
  if name.isEmpty || !endsPart c.peek then throw .malformed
  else
    let (t, c) ← directiveOf name c
    let c := c.skipSpaces.skipComment
    if !endsLine c.peek then throw .malformed else return (t, c.lineBreak.2)

def anchorName (c : Cursor) : Except Fault (String × Cursor) :=
  let (name, c) := c.next.takeWhile isNameChar
  let ends := endsWord c.peek || c.peek.any fun a => "?:,]\x7d%@\x60".toList.contains a
  if name.isEmpty || !ends then .error .malformed else .ok (.ofList name, c)

/-- A tag between angle brackets; the place is after the first of them. -/
def verbatimTag (c : Cursor) : Except Fault (Token × Cursor) := do
  let (suffix, c) ← tagText1 c
  if c.peek != some '>' then throw .malformed else return (.tag none suffix, c.next)

/-- The handle of a tag, a single exclamation mark where no other one follows; the place is at the
first. -/
def tagHandle (c : Cursor) : Except Fault (String × Cursor) :=
  if ((c.rest.drop 1).takeWhile fun a => !endsPart (some a)).contains '!' then handle c
  else .ok ("!", c.next)

def handledTag (c : Cursor) : Except Fault (Token × Cursor) := do
  let (h, c) ← tagHandle c
  let (suffix, c) ← tagText1 c
  return (.tag (some h) suffix, c)

/-- A tag; the place is at its exclamation mark. -/
def tag (c : Cursor) : Except Fault (Token × Cursor) :=
  if c.peekAt 1 == some '<' then verbatimTag (c.skip 2)
  else if endsWord (c.peekAt 1) then .ok (.tag none "!", c.next)
  else handledTag c

def tagProperty (c : Cursor) : Except Fault (Token × Cursor) := do
  let (t, c) ← tag c
  if !endsPart c.peek then throw .malformed else return (t, c)

/-- Adds a token that may be a key, read from the present place. -/
def readToken (read : Cursor → Except Fault (Token × Cursor)) (s : Scan) : Except Fault Scan := do
  let s ← s.noteCandidate
  let (t, c) ← read s.cursor
  return push t { s with keyAllowed := false, cursor := c }

/-- Adds an indicator, which ends the candidate before it. -/
def mark (t : Token) (keyAllowed : Bool) (s : Scan) : Except Fault Scan := do
  let s ← { s with keyAllowed }.dropCandidate
  return s.indicator 1 t

/-- Opens a mapping at the place of its first key, if the key lies deeper than the present block. -/
def openAtKey (k : Candidate) (s : Scan) : Scan :=
  if s.flow != 0 then s
  else match s.indentTo k.column with
    | some s => s.insertAt k.position .blockMapping
    | none => s

/-- A colon: it makes the candidate before it a key, or else is a value without one. -/
def valueColon (s : Scan) : Except Fault Scan :=
  match s.candidates.lookup s.flow with
  | some k =>
    let s := { s with candidates := s.candidates.filter (·.1 != s.flow), keyAllowed := false }
    .ok (((s.insertAt k.position .key).openAtKey k).indicator 1 .value)
  | none => do
    let s ← s.openBlock .blockMapping
    s.mark .value (s.flow == 0)

/-- Whether a plain scalar begins here. -/
def startsPlain (flow : Bool) (c : Cursor) : Bool :=
  match c.peek with
  | none => false
  | some a =>
    !(endsWord (some a) || "-?:,[]\x7b\x7d#&*!|>'\"%@\x60".toList.contains a) ||
      !endsWord (c.peekAt 1) && (a == '-' || !flow && (a == '?' || a == ':'))

def documentMarker (t : Token) (s : Scan) : Except Fault Scan := do
  let s ← (s.unwind (-1)).dropCandidate
  return { s with keyAllowed := false }.indicator 3 t

def directiveLine (s : Scan) : Except Fault Scan := do
  let s ← (s.unwind (-1)).dropCandidate
  let (t, c) ← directive s.cursor
  return push t { s with keyAllowed := false, cursor := c }

def openFlow (t : Token) (s : Scan) : Except Fault Scan := do
  let s ← s.noteCandidate
  return { s with flow := s.flow + 1, keyAllowed := true }.indicator 1 t

def closeFlow (t : Token) (s : Scan) : Except Fault Scan := do
  let s ← s.dropCandidate
  if s.flow == 0 then throw .malformed
  else return { s with flow := s.flow - 1, keyAllowed := false }.indicator 1 t

def sequenceEntry (s : Scan) : Except Fault Scan := do
  let s ← s.openBlock .blockSequence
  s.mark .entry true

def explicitKey (s : Scan) : Except Fault Scan := do
  let s ← s.openBlock .blockMapping
  s.mark .key (s.flow == 0)

def readAlias (c : Cursor) : Except Fault (Token × Cursor) := do
  let (name, c) ← anchorName c
  return (.alias name, c)

def readAnchor (c : Cursor) : Except Fault (Token × Cursor) := do
  let (name, c) ← anchorName c
  return (.anchor name, c)

def readQuoted (double : Bool) (c : Cursor) : Except Fault (Token × Cursor) := do
  let (content, c) ← quotedContent double (c.rest.length + 1) c.next
  return (.scalar (.ofList content) false, c)

def blockScalar (folded : Bool) (s : Scan) : Except Fault Scan := do
  let s ← { s with keyAllowed := true }.dropCandidate
  let (content, c) ← blockContent folded s.indent s.cursor.next
  return push (.scalar (.ofList content) false) { s with cursor := c }

def plainScalar (s : Scan) : Except Fault Scan := do
  let s ← s.noteCandidate
  let (content, broke, c) :=
    plainContent (s.flow != 0) (s.indent + 1) (s.cursor.rest.length + 1) s.cursor
  return push (.scalar (.ofList content) true) { s with keyAllowed := broke, cursor := c }

/-- The token that begins with the given character, which is at the present place. -/
def token (a : Char) (s : Scan) : Except Fault Scan :=
  let c := s.cursor
  let inFlow := s.flow != 0
  if a == '%' && c.column == 0 then s.directiveLine
  else if c.column == 0 && c.atMarker then
    s.documentMarker (if a == '-' then .documentStart else .documentEnd)
  else if a == '[' then s.openFlow .flowSequence
  else if a == '\x7b' then s.openFlow .flowMapping
  else if a == ']' then s.closeFlow .flowSequenceEnd
  else if a == '\x7d' then s.closeFlow .flowMappingEnd
  else if a == ',' then s.mark .flowEntry true
  else if a == '-' && endsWord (c.peekAt 1) then s.sequenceEntry
  else if a == '?' && (inFlow || endsWord (c.peekAt 1)) then s.explicitKey
  else if a == ':' && (inFlow || endsWord (c.peekAt 1)) then s.valueColon
  else if a == '*' then s.readToken readAlias
  else if a == '&' then s.readToken readAnchor
  else if a == '!' then s.readToken tagProperty
  else if (a == '|' || a == '>') && !inFlow then s.blockScalar (a == '>')
  else if a == '\'' || a == '"' then s.readToken (readQuoted (a == '"'))
  else if startsPlain inFlow c then s.plainScalar
  else .error .malformed

/-- One step: the token at the present place, or nothing at the end of the text. -/
def step (s : Scan) : Except Fault (Option Scan) := do
  let s ← (s.skipToToken (s.cursor.rest.length + 1)).dropStale
  let s := s.unwind s.cursor.column
  match s.cursor.peek with
  | none => return none
  | some a => return some (← s.token a)

def finish (s : Scan) : Except Fault Scan := do
  let s := s.skipToToken (s.cursor.rest.length + 1)
  let s ← (s.unwind (-1)).dropCandidate
  return s.push .streamEnd

/-- The tokens that are handed on before the next step: those in front of all that may still turn
out to be keys. -/
def settled (s : Scan) : List Token :=
  let places := (s.candidates.filter fun (_, k) => k.isFresh s.cursor).map (·.2.position)
  s.tokens.reverse.take (places.foldl min s.tokens.length)

def run : (fuel : Nat) → Scan → Tokens
  | 0, s => ⟨s.settled, .malformed⟩
  | fuel + 1, s => match s.step with
    | .error f => ⟨s.settled, f⟩
    | .ok (some s) => run fuel s
    | .ok none => match s.finish with
      | .error f => ⟨s.settled, f⟩
      | .ok s => ⟨s.tokens.reverse, .malformed⟩

end Scan

/-- The tokens of a text. A byte order mark in front is passed over. -/
def Tokens.ofText (cs : List Char) : Tokens :=
  let start : Cursor := ⟨cs, 0, 0, 0⟩
  let start := if start.peek == some (Char.ofNat 0xFEFF) then start.next else start
  Scan.run (cs.length + 2) { cursor := start }

end WebScript.Yaml
