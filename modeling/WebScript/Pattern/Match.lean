import WebScript.Pattern.Basic

namespace WebScript.Pattern

abbrev Subject := Array Char

/-- How far a match has come, and where groups were last opened and closed. -/
structure Progress where
  pos : Nat
  opened : List (Nat × Nat) := []
  closed : List (Nat × Nat) := []
  deriving DecidableEq, Repr

namespace Progress

def noted (group pos : Nat) (marks : List (Nat × Nat)) : List (Nat × Nat) :=
  (group, pos) :: marks.filter fun m => m.1 ≠ group

def openGroup (group : Nat) (s : Progress) : Progress :=
  { s with opened := noted group s.pos s.opened }

def closeGroup (group : Nat) (s : Progress) : Progress :=
  { s with closed := noted group s.pos s.closed }

/-- Where a group has matched; one that was opened again since it closed has not. -/
def group? (group : Nat) (s : Progress) : Option (Nat × Nat) := do
  let first ← s.opened.lookup group
  let past ← s.closed.lookup group
  if first ≤ past then return (first, past) else none

end Progress

abbrev Rest := Progress → Option Progress

def firstOf (k l : Rest) : Rest := fun s =>
  match k s with
  | some t => some t
  | none => l s

def isLineFeedAt (text : Subject) (i : Nat) : Bool :=
  text[i]? == some '\n'

def isWordAt (ascii : Bool) (text : Subject) (i : Nat) : Bool :=
  text[i]?.any fun c => Kind.word.has ascii c

/-- Whether a place of a text is what an anchor asks for. Nothing is a boundary in an empty text,
nor is it none. -/
def Anchor.holdsAt (text : Subject) (pos : Nat) : Anchor → Bool
  | textStart => pos = 0
  | lineStart => pos = 0 || isLineFeedAt text (pos - 1)
  | textEnd => pos = text.size
  | lineEnd => pos = text.size || isLineFeedAt text pos
  | lastLineEnd => pos = text.size || (pos + 1 = text.size && isLineFeedAt text pos)
  | boundary ascii negated =>
    let before := 0 < pos && isWordAt ascii text (pos - 1)
    !text.isEmpty && (before != isWordAt ascii text pos) != negated

/-- Repetition with all numbers of times tried. A further one is tried unless the last one that was
not due has matched nothing. -/
def repeatBy (body : Rest → Rest) (greedy : Bool) (least : Nat) (most : Option Nat) (k : Rest) :
    (fuel : Nat) → (count : Nat) → (last : Option Nat) → Rest
  | 0, _, _, s => k s
  | fuel + 1, count, last, s =>
    if count < least then body (repeatBy body greedy least most k fuel (count + 1) last) s
    else
      let again : Rest := fun s =>
        if most.all (count < ·) && last ≠ some s.pos then
          body (repeatBy body greedy least most k fuel (count + 1) (some s.pos)) s
        else none
      if greedy then firstOf again k s else firstOf k again s

/-- Repetition as often as possible, which is not reconsidered. -/
def repeatFully (body : Rest → Rest) (least : Nat) (most : Option Nat) :
    (fuel : Nat) → (count : Nat) → (last : Option Nat) → Rest
  | 0, _, _, s => some s
  | fuel + 1, count, last, s =>
    if count < least then (body some s).bind (repeatFully body least most fuel (count + 1) last)
    else if most.all (count < ·) && last ≠ some s.pos then
      match body some s with
      | some t => repeatFully body least most fuel (count + 1) (some s.pos) t
      | none => some s
    else some s

/-- The stretch of a text that a group has matched stands again at a place, case aside if the mode
says so. -/
def standsAgain (text : Subject) (mode : Mode) (first past pos : Nat) : Bool :=
  let small (c : Char) : Char :=
    if !mode.ignoreCase then c else if mode.ascii then Text.lowerAscii c else Text.smallLetter c
  pos + (past - first) ≤ text.size &&
    (List.range (past - first)).all fun i =>
      text[first + i]?.map small == text[pos + i]?.map small

def run (text : Subject) : Node → Rest → Rest
  | .empty, k, s => k s
  | .one set, k, s =>
    match text[s.pos]? with
    | some c => if set.has c then k { s with pos := s.pos + 1 } else none
    | none => none
  | .anchor a, k, s => if a.holdsAt text s.pos then k s else none
  | .andThen p q, k, s => run text p (run text q k) s
  | .orElse p q, k, s => firstOf (run text p k) (run text q k) s
  | .repeated greed least most p, k, s =>
    let fuel := least + (text.size - s.pos) + 2
    match greed with
    | .greedy => repeatBy (run text p) true least most k fuel 0 none s
    | .lazy => repeatBy (run text p) false least most k fuel 0 none s
    | .possessive => (repeatFully (run text p) least most fuel 0 none s).bind k
  | .capture group p, k, s => run text p (fun t => k (t.closeGroup group)) (s.openGroup group)
  | .atomic p, k, s => (run text p some s).bind k
  | .look behind negated p, k, s =>
    let distance := behind.getD 0
    let found := if distance ≤ s.pos then run text p some { s with pos := s.pos - distance }
      else none
    match found, negated with
    | some t, false => k { t with pos := s.pos }
    | none, true => k s
    | _, _ => none
  | .same group mode, k, s =>
    match s.group? group with
    | some (first, past) =>
      if standsAgain text mode first past s.pos then k { s with pos := s.pos + (past - first) }
      else none
    | none => none
  | .given group p q, k, s => if (s.group? group).isSome then run text p k s else run text q k s

/-- A match: where it begins and ends, and its groups. -/
structure Match where
  first : Nat
  past : Nat
  groups : Progress
  deriving Repr

/-- The text of a group; of one that took no part, the empty text. -/
def Match.text (text : Subject) (group : Nat) (m : Match) : String :=
  match m.groups.group? group with
  | some (first, past) => .ofList (text.extract first past).toList
  | none => ""

/-- The match that begins at a place. It may have to take at least one character. -/
def matchAt (p : Node) (text : Subject) (nonempty : Bool) (pos : Nat) : Option Match :=
  let finish (s : Progress) : Option Progress :=
    if nonempty && s.pos = pos then none else some s
  (run text p finish ⟨pos, [], []⟩).map fun s => ⟨pos, s.pos, s⟩

/-- The first match that begins at one of `count` places from `pos` on. -/
def firstAmong (p : Node) (text : Subject) : (count : Nat) → (pos : Nat) → Option Match
  | 0, _ => none
  | count + 1, pos => match matchAt p text false pos with
    | some m => some m
    | none => firstAmong p text count (pos + 1)

/-- The first match from a place on; only one that begins right there may have to be nonempty. -/
def findFrom (p : Node) (text : Subject) (nonempty : Bool) (pos : Nat) : Option Match :=
  match matchAt p text nonempty pos with
  | some m => some m
  | none => firstAmong p text (text.size - pos) (pos + 1)

/-- The matches from a place on that do not overlap. After an empty match one that begins at the
same place takes at least one character. -/
def findAllFrom (p : Node) (text : Subject) :
    (fuel : Nat) → (nonempty : Bool) → (pos : Nat) → List Match
  | 0, _, _ => []
  | fuel + 1, nonempty, pos =>
    match findFrom p text nonempty pos with
    | some m => m :: findAllFrom p text fuel (m.past == m.first) m.past
    | none => []

def find (p : Pattern) (text : Subject) : Option Match :=
  findFrom p.node text false 0

def findAll (p : Pattern) (text : Subject) : List Match :=
  findAllFrom p.node text (2 * text.size + 3) false 0

def group? (p : Pattern) (name : String) : Option Nat :=
  p.names.lookup name

end WebScript.Pattern
