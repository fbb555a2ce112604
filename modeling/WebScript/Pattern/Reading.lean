import WebScript.Number.Hex
import WebScript.Pattern.Basic
import WebScript.Text.CharacterName
import WebScript.Text.Find

namespace WebScript.Pattern

inductive Fault where
  | malformed
  | tooLarge
  | badValue
  deriving DecidableEq, Repr

/-- The pieces of a pattern's text. A backslash at its end stands before nothing. -/
inductive Token where
  | char (c : Char)
  | escape (c : Char)
  | dangling
  deriving DecidableEq, Repr

def Token.ofText : List Char → List Token
  | [] => []
  | ['\\'] => [.dangling]
  | '\\' :: c :: rest => .escape c :: ofText rest
  | c :: rest => .char c :: ofText rest

def Token.chars : Token → List Char
  | char c => [c]
  | escape c => ['\\', c]
  | dangling => ['\\']

/-- How groups are given names: with a letter, or also without one. -/
inductive Spelling where
  | lettered
  | bare
  deriving DecidableEq, Repr

/-- What gives a name to a group without a letter, after its bracket. -/
def opensName : List Token → Bool
  | .char '?' :: .char '<' :: rest =>
    rest.head? ≠ some (.char '=') && rest.head? ≠ some (.char '!')
  | _ => false

structure Flags where
  ignoreCase : Bool := false
  multiline : Bool := false
  dotAll : Bool := false
  verbose : Bool := false
  ascii : Bool := false
  unicode : Bool := false
  unrepeated : Bool := false
  deriving DecidableEq, Repr

namespace Flags

def mode (f : Flags) : Mode :=
  ⟨f.ignoreCase, f.ascii⟩

/-- Flags with others turned on and some turned off. Turning on one of the two repertoires turns off
the other. -/
def changed (f on off : Flags) : Flags where
  ignoreCase := (f.ignoreCase || on.ignoreCase) && !off.ignoreCase
  multiline := (f.multiline || on.multiline) && !off.multiline
  dotAll := (f.dotAll || on.dotAll) && !off.dotAll
  verbose := (f.verbose || on.verbose) && !off.verbose
  ascii := if on.ascii || on.unicode then on.ascii else f.ascii
  unicode := if on.ascii || on.unicode then on.unicode else f.unicode
  unrepeated := f.unrepeated

/-- Flags that hold for the whole pattern add up. -/
def joined (f g : Flags) : Flags where
  ignoreCase := f.ignoreCase || g.ignoreCase
  multiline := f.multiline || g.multiline
  dotAll := f.dotAll || g.dotAll
  verbose := f.verbose || g.verbose
  ascii := f.ascii || g.ascii
  unicode := f.unicode || g.unicode
  unrepeated := f.unrepeated || g.unrepeated

def ofLetter? : Char → Option Flags
  | 'i' => some { ignoreCase := true }
  | 'm' => some { multiline := true }
  | 's' => some { dotAll := true }
  | 'x' => some { verbose := true }
  | 'a' => some { ascii := true }
  | 'u' => some { unicode := true }
  | 't' => some { unrepeated := true }
  | _ => none

def meets (f g : Flags) : Bool :=
  (f.ignoreCase && g.ignoreCase) || (f.multiline && g.multiline) || (f.dotAll && g.dotAll) ||
    (f.verbose && g.verbose)

end Flags

/-- What has been read of a pattern. A group is listed with its width once it is closed. Brackets
that stand for themselves are counted where one that opens a group would give it a name without a
letter. -/
structure Reader where
  rest : List Token
  flags : Flags
  names : List (String × Nat) := []
  groups : Array (Option Width) := #[none]
  groupsBefore : Option Nat := none
  tested : List Nat := []
  flawed : Bool := false
  strays : Nat := 0

abbrev Reading := StateT Reader (Except Fault)

namespace Reading

def fail {α : Type} : Reading α :=
  throw .malformed

def peek : Reading (Option Token) := do
  return (← get).rest.head?

/-- A backslash before nothing is a fault as soon as it comes next. -/
def goTo (rest : List Token) : Reading Unit := do
  if rest.head? = some .dangling then fail
  modify fun r => { r with rest }

def next : Reading (Option Token) := do
  match (← get).rest with
  | [] => return none
  | t :: rest =>
    goTo rest
    return some t

/-- Takes a character if it comes next. -/
def accept (c : Char) : Reading Bool := do
  if (← peek) = some (.char c) then
    let _ ← next
    return true
  else return false

def require (c : Char) : Reading Unit := do
  if !(← accept c) then fail

/-- Characters of a kind, at most so many. -/
def charsWhile (p : Char → Bool) : (most : Nat) → Reading (List Char)
  | 0 => return []
  | most + 1 => do
    match ← peek with
    | some (.char c) =>
      if p c then
        let _ ← next
        return c :: (← charsWhile p most)
      else return []
    | _ => return []

/-- As many characters of a kind as there are. -/
def allWhile (p : Char → Bool) : Reading (List Char) := do
  charsWhile p (← get).rest.length

/-- The text up to a character, which may not come at once. -/
def textUntil (stop : Char) : Reading (List Char) := do
  let tokens := (← get).rest
  let name := tokens.takeWhile (· ≠ .char stop)
  match tokens.drop name.length with
  | [] => fail
  | _ :: rest =>
    if name.isEmpty || name.contains .dangling then fail
    goTo rest
    return name.flatMap Token.chars

/-- Passes over what stands before a character, and over that. -/
def skipThrough (stop : Char) (needed : Bool) : Reading Unit := do
  let rest := (← get).rest.dropWhile (· ≠ .char stop)
  if (← get).rest.contains .dangling && rest.isEmpty then fail
  if rest.isEmpty && needed then fail
  goTo (rest.drop 1)

def isOctal (c : Char) : Bool :=
  '0' ≤ c && c ≤ '7'

def octalValue (digits : List Char) : Nat :=
  digits.foldl (fun n c => 8 * n + (c.toNat - 48)) 0

def decimalValue (digits : List Char) : Nat :=
  Number.ofDigits 10 (digits.map fun c => c.toNat - 48)

/-- The code point of so many hexadecimal digits. Numbers of more than 31 bits are too large to be
told from code points. -/
def hexCode (size : Nat) : Reading Nat := do
  let digits ← charsWhile (fun c => (Number.hexValue? c).isSome) size
  match Number.hexNumber? size digits with
  | some n =>
    if n > 0x7FFFFFFF then throw .tooLarge
    else if n > 0x10FFFF then fail
    else return n
  | none => fail

/-- The code point of a name in braces. -/
def namedCode : Reading Nat := do
  require '\x7b'
  match Text.ofName? (← textUntil '\x7d') with
  | some n => return n
  | none => fail

/-- The character that a backslash and a letter stand for. -/
def controlCode? : Char → Option Nat
  | 'a' => some 7
  | 'f' => some 12
  | 'n' => some 10
  | 'r' => some 13
  | 't' => some 9
  | 'v' => some 11
  | '\\' => some 92
  | _ => none

/-- The class that a backslash and a letter stand for. -/
def kind? : Char → Option Member
  | 'd' => some (.kind .digit false)
  | 'D' => some (.kind .digit true)
  | 's' => some (.kind .space false)
  | 'S' => some (.kind .space true)
  | 'w' => some (.kind .word false)
  | 'W' => some (.kind .word true)
  | _ => none

def codePoint? (c : Char) : Option (Reading Nat) :=
  match c with
  | 'x' => some (hexCode 2)
  | 'u' => some (hexCode 4)
  | 'U' => some (hexCode 8)
  | 'N' => some namedCode
  | _ => none

/-- What a backslash and a character stand for in a set: a class, or the range of one code point. -/
def setEscape (c : Char) : Reading Member := do
  let code (n : Nat) : Member := .range n n
  match if c = 'b' then some 8 else controlCode? c, kind? c, codePoint? c with
  | some n, _, _ => return code n
  | none, some m, _ => return m
  | none, none, some read => return code (← read)
  | none, none, none =>
    if isOctal c then
      let n := octalValue (c :: (← charsWhile isOctal 2))
      if n > 0o377 then fail else return code n
    else if c.isAlphanum then fail
    else return code c.toNat

/-- Counts a character that stands for itself if it is a bracket before a name without a letter. -/
def passOver (c : Char) : Reading Unit :=
  modify fun r => if c = '(' && opensName r.rest then { r with strays := r.strays + 1 } else r

def setMember : Token → Reading Member
  | .char c => do
    passOver c
    return .range c.toNat c.toNat
  | .escape c => do
    passOver c
    setEscape c
  | .dangling => fail

/-- The range between two members, if both are code points in order. -/
def between : Member → Member → Reading Member
  | .range first _, .range last _ => if last < first then fail else return .range first last
  | _, _ => fail

/-- What comes after a member of a set and a dash: the end of a range, or that of the set. -/
def rangeEnd (first : Member) : Reading (Option Member) := do
  match ← next with
  | none => fail
  | some t =>
    if t = .char ']' then return none
    else return some (← between first (← setMember t))

/-- The members of a set up to its closing bracket, which is a member if it comes first. -/
def setMembers : (fuel : Nat) → (members : List Member) → Reading (List Member)
  | 0, _ => fail
  | fuel + 1, members => do
    match ← next with
    | none => fail
    | some t =>
      if t = .char ']' && !members.isEmpty then return members
      else
        let first ← setMember t
        if ← accept '-' then
          match ← rangeEnd first with
          | none => return members ++ [first, .range 45 45]
          | some range => setMembers fuel (members ++ [range])
        else setMembers fuel (members ++ [first])

/-- A part of a pattern, with what quantifiers have to know about it. -/
structure Part where
  node : Node
  width : Width
  quantifiable : Bool := true

def Part.one (set : CharSet) : Part :=
  ⟨.one set, .exactly 1, true⟩

def Part.anchor (a : Anchor) : Part :=
  ⟨.anchor a, .exactly 0, false⟩

/-- A set, after its opening bracket. -/
def charSet (flags : Flags) : Reading Part := do
  let negated ← accept '^'
  let members ← setMembers ((← get).rest.length + 1) []
  return .one ⟨members, negated, flags.mode⟩

def whole (parts : List Part) : Node × Width :=
  (.sequence (parts.reverse.map (·.node)), parts.foldr (fun p w => w.add p.width) (.exactly 0))

/-- The group that a number or name refers to must be closed, and while looking behind it must have
been closed before that. -/
def checkBehind (group : Nat) : Reading Unit := do
  let r ← get
  match r.groupsBefore with
  | none => return
  | some before =>
    if ((r.groups[group]?).join).isNone || before ≤ group then fail

def backReference (flags : Flags) (group : Nat) : Reading Part := do
  match ((← get).groups[group]?).join with
  | none => fail
  | some width =>
    checkBehind group
    return ⟨.same group flags.mode, width, true⟩

/-- A backslash and a digit other than zero: three octal digits are a code point, else it is a
reference to a group. -/
def numberEscape (flags : Flags) (c : Char) : Reading Part := do
  let code (n : Nat) : Part := .one (.single n flags.mode)
  match ← charsWhile Char.isDigit 1 with
  | [] => backReference flags (decimalValue [c])
  | d :: _ =>
    let third ← match ← peek with
      | some (.char e) => pure (if isOctal c && isOctal d && isOctal e then some e else none)
      | _ => pure none
    match third with
    | some e =>
      let _ ← next
      let n := octalValue [c, d, e]
      if n > 0o377 then fail else return code n
    | none => backReference flags (decimalValue [c, d])

/-- What a backslash and a character stand for outside of sets. -/
def escape (flags : Flags) (c : Char) : Reading Part := do
  let code (n : Nat) : Part := .one (.single n flags.mode)
  match c with
  | 'A' => return .anchor .textStart
  | 'Z' => return .anchor .textEnd
  | 'b' => return .anchor (.boundary flags.ascii false)
  | 'B' => return .anchor (.boundary flags.ascii true)
  | _ =>
    match kind? c, controlCode? c, codePoint? c with
    | some m, _, _ => return .one { members := [m], mode := flags.mode }
    | none, some n, _ => return code n
    | none, none, some read => return code (← read)
    | none, none, none =>
      if c = '0' then return code (octalValue (← charsWhile isOctal 2))
      else if c.isDigit then numberEscape flags c
      else if c.isAlpha then fail
      else return code c.toNat

/-- A bound of a repetition may have so many digits, and be so large. -/
def checkBound (digits : List Char) : Reading Unit := do
  if digits.length > Number.maxDigits then throw .badValue
  if decimalValue digits ≥ 4294967295 then throw .tooLarge

/-- The bounds with some digits if a closing brace comes next; else the text from the opening one on
stands for itself. -/
def closedBounds (here : List Token) (low high : List Char) :
    Reading (Option (Nat × Option Nat)) := do
  if !(← accept '\x7d') then
    goTo here
    return none
  checkBound low
  checkBound high
  let least := decimalValue low
  if high.isEmpty then return some (least, none)
  else if decimalValue high < least then fail
  else return some (least, some (decimalValue high))

/-- The bounds of a repetition after an opening brace; none if the brace stands for itself. -/
def bounds? : Reading (Option (Nat × Option Nat)) := do
  if (← peek) = some (.char '\x7d') then return none
  let here := (← get).rest
  let low ← allWhile Char.isDigit
  let high ← if ← accept ',' then allWhile Char.isDigit else pure low
  closedBounds here low high

/-- The bounds of a quantifier that begins with a character. -/
def quantifier? (c : Char) : Reading (Option (Nat × Option Nat)) := do
  match c with
  | '?' => return some (0, some 1)
  | '*' => return some (0, none)
  | '+' => return some (1, none)
  | '\x7b' => bounds?
  | _ => return none

/-- What comes after a quantifier says how greedy it is. -/
def greed : Reading Greed := do
  if ← accept '?' then return .lazy
  else if ← accept '+' then return .possessive
  else return .greedy

/-- The last part repeated. Neither places nor repetitions are. -/
def quantified (parts : List Part) (least : Nat) (most : Option Nat) : Reading (List Part) := do
  match parts with
  | [] => fail
  | p :: before =>
    if !p.quantifiable then fail
    let greed ← greed
    modify fun r => { r with flawed := r.flawed || r.flags.unrepeated }
    return ⟨.repeated greed least most p.node, p.width.times least most, false⟩ :: before

def openGroup (name : Option String) : Reading Nat := do
  let r ← get
  let group := r.groups.size
  let names ← match name with
    | none => pure r.names
    | some n => if (r.names.lookup n).isSome then fail else pure (r.names ++ [(n, group)])
  set { r with groups := r.groups.push none, names }
  return group

def closeGroup (group : Nat) (width : Width) : Reading Unit :=
  modify fun r => { r with groups := r.groups.setIfInBounds group (some width) }

def nameUntil (stop : Char) : Reading String := do
  let name ← textUntil stop
  if Text.isName name then return .ofList name else fail

/-- The group that a condition tests: by its name, or by a number that some group has to have. -/
def testedGroup : Reading Nat := do
  let text ← textUntil ')'
  if Text.isName text then
    match (← get).names.lookup (.ofList text) with
    | some group => return group
    | none => fail
  else match Number.read? text with
    | some n =>
      if n ≤ 0 || n ≥ 1073741823 then fail
      modify fun r => { r with tested := n.toNat :: r.tested }
      return n.toNat
    | none => fail

/-- Flags up to one of some characters, the first of which has been read. Which of them it was comes
with the flags. -/
def flagsUntil (stops : List Char) : (fuel : Nat) → (flags : Flags) → Char → Reading (Flags × Char)
  | 0, _, _ => fail
  | fuel + 1, flags, c => do
    match Flags.ofLetter? c with
    | none => fail
    | some flag =>
      let flags := flags.joined flag
      if flags.ascii && flags.unicode then fail
      match ← next with
      | some (.char d) =>
        if stops.contains d then return (flags, d) else flagsUntil stops fuel flags d
      | _ => fail

/-- Flags that are turned on, from the first of them or a dash on. -/
def flagsOn (c : Char) : Reading (Flags × Char) := do
  if c = '-' then return ({}, '-')
  else flagsUntil [')', '-', ':'] ((← get).rest.length + 1) {} c

/-- Flags that are turned off, if a dash has come before them. -/
def flagsOff (stop : Char) : Reading Flags := do
  if stop = '-' then
    match ← next with
    | some (.char c) =>
      let (off, _) ← flagsUntil [':'] ((← get).rest.length + 1) {} c
      return off
    | _ => fail
  else return {}

/-- What a bracket, a question mark and flags begin: flags for the whole pattern, or for a group
those that are turned on and off. -/
inductive FlagChange where
  | pattern (on : Flags)
  | group (on off : Flags)

def flagChange (c : Char) : Reading FlagChange := do
  let (on, stop) ← flagsOn c
  if stop = ')' then return .pattern on
  if on.unrepeated then fail
  let off ← flagsOff stop
  if off.ascii || off.unicode || off.unrepeated || on.meets off then fail
  return .group on off

inductive Opening where
  | capture (name : Option String)
  | plain (flags : Flags)
  | atomic
  | look (behind negated : Bool)
  | reference (group : Nat)
  | condition (group : Nat)
  | comment
  | flags (on : Flags)

/-- What begins with the letter of names: a group with a name, or a reference to one. -/
def afterLetter : Reading Opening := do
  if ← accept '<' then return .capture (some (← nameUntil '>'))
  else if ← accept '=' then
    match (← get).names.lookup (← nameUntil ')') with
    | some group => return .reference group
    | none => fail
  else fail

/-- What begins with an angle: a look behind, or a group whose name needs no letter. -/
def afterAngle (spelling : Spelling) : Reading Opening := do
  if ← accept '=' then return .look true false
  else if ← accept '!' then return .look true true
  else if spelling = .bare then return .capture (some (← nameUntil '>'))
  else fail

/-- Reads what follows an opening bracket up to where the content of a group begins. -/
def opening (spelling : Spelling) (flags : Flags) : Reading Opening := do
  if !(← accept '?') then return .capture none
  match ← next with
  | some (.char 'P') => afterLetter
  | some (.char ':') => return .plain flags
  | some (.char '#') => return .comment
  | some (.char '=') => return .look false false
  | some (.char '!') => return .look false true
  | some (.char '<') => afterAngle spelling
  | some (.char '(') =>
    let group ← testedGroup
    checkBehind group
    return .condition group
  | some (.char '>') => return .atomic
  | some (.char c) =>
    if c = '-' || (Flags.ofLetter? c).isSome then
      match ← flagChange c with
      | .pattern on => return .flags on
      | .group on off => return .plain (flags.changed on off)
    else fail
  | _ => fail

/-- Begins a look. A look behind that is not inside of another one keeps what groups there are
before it. -/
def enterLook (behind : Bool) : Reading Bool := do
  let r ← get
  if behind && r.groupsBefore.isNone then
    set { r with groupsBefore := some r.groups.size }
    return true
  else return false

/-- Ends a look. After an outermost one behind, all groups may be referred to again. -/
def leaveLook (outermost : Bool) : Reading Unit := do
  if outermost then modify fun r => { r with groupsBefore := none }

/-- What is looked for has to have the same width everywhere if it lies behind. -/
def lookAround (behind negated : Bool) (p : Node) (w : Width) : Reading Part := do
  if behind && w.fixed?.isNone then modify fun r => { r with flawed := true }
  return ⟨.look (if behind then some w.least else none) negated p, .exactly 0, true⟩

/-- Where parts are read: whether flags for the whole pattern may come, and whether an alternative
of the whole pattern is read. -/
structure Place where
  first : Bool
  outermost : Bool

mutual

/-- Alternatives up to a closing bracket or the end. -/
def alternatives (spelling : Spelling) : (fuel : Nat) → Place → Flags → Reading (Node × Width)
  | 0, _, _ => fail
  | fuel + 1, place, flags => do
    let (p, w) ← parts spelling fuel place flags []
    if ← accept '|' then
      let r ← get
      let flags := if place.outermost then r.flags else flags
      let (q, v) ← alternatives spelling fuel { place with first := false } flags
      return (.orElse p q, w.either v)
    else return (p, w)

/-- Parts up to a bar, a closing bracket or the end, after some in reverse order. -/
def parts (spelling : Spelling) : (fuel : Nat) → Place → Flags → List Part → Reading (Node × Width)
  | 0, _, _, _ => fail
  | fuel + 1, place, flags, done => do
    match ← peek with
    | none => return whole done
    | some (.char '|') => return whole done
    | some (.char ')') => return whole done
    | some t =>
      let _ ← next
      match t with
      | .dangling => fail
      | .escape c =>
        passOver c
        parts spelling fuel place flags ((← escape flags c) :: done)
      | .char c => partsFrom spelling fuel place flags done c

/-- Parts the first of which begins with a character. Verbose patterns have spaces and comments
between them. -/
def partsFrom (spelling : Spelling) :
    (fuel : Nat) → Place → Flags → List Part → Char → Reading (Node × Width)
  | 0, _, _, _, _ => fail
  | fuel + 1, place, flags, done, c => do
    if flags.verbose && isSpaceAscii c then parts spelling fuel place flags done
    else if flags.verbose && c = '#' then
      skipThrough '\n' false
      parts spelling fuel place flags done
    else match c with
      | '[' => parts spelling fuel place flags ((← charSet flags) :: done)
      | '.' => parts spelling fuel place flags (.one (.any flags.dotAll) :: done)
      | '^' =>
        parts spelling fuel place flags
          (.anchor (if flags.multiline then .lineStart else .textStart) :: done)
      | '$' =>
        parts spelling fuel place flags
          (.anchor (if flags.multiline then .lineEnd else .lastLineEnd) :: done)
      | '(' => bracket spelling fuel place flags done
      | c =>
        match ← quantifier? c with
        | some (least, most) => parts spelling fuel place flags (← quantified done least most)
        | none => parts spelling fuel place flags (.one (.single c.toNat flags.mode) :: done)

/-- What an opening bracket begins, and the parts after it. -/
def bracket (spelling : Spelling) :
    (fuel : Nat) → Place → Flags → List Part → Reading (Node × Width)
  | 0, _, _, _ => fail
  | fuel + 1, place, flags, done => do
    let inside : Place := ⟨false, false⟩
    let further (p : Part) : Reading (Node × Width) := parts spelling fuel place flags (p :: done)
    match ← opening spelling flags with
    | .comment =>
      skipThrough ')' true
      parts spelling fuel place flags done
    | .flags on =>
      if !place.first || !done.isEmpty then fail
      modify fun r => { r with flags := r.flags.joined on }
      let r ← get
      parts spelling fuel place r.flags done
    | .reference group => further (← backReference flags group)
    | .capture name =>
      let group ← openGroup name
      let (p, w) ← alternatives spelling fuel inside flags
      require ')'
      closeGroup group w
      further ⟨.capture group p, w, true⟩
    | .plain inner =>
      let (p, w) ← alternatives spelling fuel inside inner
      require ')'
      further ⟨p, w, true⟩
    | .atomic =>
      let (p, w) ← alternatives spelling fuel inside flags
      require ')'
      further ⟨.atomic p, w, true⟩
    | .look behind negated =>
      let outermost ← enterLook behind
      let (p, w) ← alternatives spelling fuel inside flags
      leaveLook outermost
      require ')'
      further (← lookAround behind negated p w)
    | .condition group =>
      let (p, w) ← parts spelling fuel inside flags []
      let (q, v) ← if ← accept '|' then parts spelling fuel inside flags []
        else pure (.empty, .exactly 0)
      require ')'
      further ⟨.given group p q, w.either v, true⟩

end

/-- Reads a whole pattern. What can only be seen at the end is checked there. -/
def pattern (spelling : Spelling) (size : Nat) : Reading Pattern := do
  let start ← get
  goTo start.rest
  let (node, _) ← alternatives spelling (4 * size + 8) ⟨true, true⟩ start.flags
  let r ← get
  if r.flags.ascii && r.flags.unicode then throw .badValue
  if !r.rest.isEmpty || r.flawed || r.tested.any (r.groups.size ≤ ·) then fail
  return { node, names := r.names }

end Reading

def withNamedGroups : List Char → List Char
  | '(' :: '?' :: '<' :: rest =>
    let lookBehind := rest.head? = some '=' || rest.head? = some '!'
    ['(', '?'] ++ (if lookBehind then ['<'] else ['P', '<']) ++ withNamedGroups rest
  | c :: rest => c :: withNamedGroups rest
  | [] => []

/-- The pattern that a text denotes in a spelling, and how many brackets in it are counted. Case
does not matter, and lines have their own start and end, unless flags in it say otherwise. -/
def read (spelling : Spelling) (text : List Char) : Except Fault (Pattern × Nat) :=
  let tokens := Token.ofText text
  let reader : Reader := { rest := tokens, flags := { ignoreCase := true, multiline := true } }
  (Reading.pattern spelling tokens.length reader).map fun (p, r) => (p, r.strays)

/-- The pattern that a text denotes, once its groups are named with a letter. -/
def ofText (text : String) : Except Fault Pattern :=
  (read .lettered (withNamedGroups text.toList)).map (·.1)

end WebScript.Pattern
