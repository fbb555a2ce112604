import WebScript.Text.Blank
import WebScript.Text.Variants
import WebScript.Text.Word

namespace WebScript.Pattern

/-- Whether case matters, and whether classes of characters end with ASCII. -/
structure Mode where
  ignoreCase : Bool := false
  ascii : Bool := false
  deriving DecidableEq, Repr

inductive Kind where
  | digit
  | space
  | word
  deriving DecidableEq, Repr

def isSpaceAscii (c : Char) : Bool :=
  c == ' ' || (9 ≤ c.toNat && c.toNat ≤ 13)

def Kind.has (ascii : Bool) (c : Char) : Kind → Bool
  | digit => if ascii then Text.isDigitAscii c else Text.isDecimal c
  | space => if ascii then isSpaceAscii c else Text.isBlank c
  | word => if ascii then Text.isWordAscii c else Text.isWord c

/-- A part of a set: the code points from one to another, or a class or what lies outside it. -/
inductive Member where
  | range (first last : Nat)
  | kind (k : Kind) (negated : Bool)
  deriving DecidableEq, Repr

structure CharSet where
  members : List Member
  negated : Bool := false
  mode : Mode := {}
  deriving DecidableEq, Repr

namespace CharSet

def spellings (mode : Mode) (c : Char) : List Char :=
  if !mode.ignoreCase then [c]
  else if mode.ascii then Text.variantsAscii c
  else Text.variants c

/-- Whether a part of a set holds a character. Case does not matter to classes. -/
def holds (mode : Mode) (c : Char) : Member → Bool
  | .range first last =>
    (first ≤ c.toNat && c.toNat ≤ last) ||
      (spellings mode c).any fun c => first ≤ c.toNat && c.toNat ≤ last
  | .kind k negated => k.has mode.ascii c != negated

def has (s : CharSet) (c : Char) : Bool :=
  s.members.any (holds s.mode c) != s.negated

def single (n : Nat) (mode : Mode) : CharSet :=
  { members := [.range n n], mode }

def any (lineFeeds : Bool) : CharSet :=
  { members := if lineFeeds then [] else [.range 10 10], negated := true }

end CharSet

inductive Anchor where
  | textStart
  | lineStart
  | textEnd
  | lineEnd
  | lastLineEnd
  | boundary (ascii negated : Bool)
  deriving DecidableEq, Repr

/-- Which number of repetitions is tried first, and whether others are tried after it. -/
inductive Greed where
  | greedy
  | lazy
  | possessive
  deriving DecidableEq, Repr

/-- What a pattern is made of. A look at the text behind knows how far back it goes. -/
inductive Node where
  | empty
  | one (set : CharSet)
  | anchor (a : Anchor)
  | andThen (p q : Node)
  | orElse (p q : Node)
  | repeated (greed : Greed) (least : Nat) (most : Option Nat) (p : Node)
  | capture (group : Nat) (p : Node)
  | atomic (p : Node)
  | look (behind : Option Nat) (negated : Bool) (p : Node)
  | same (group : Nat) (mode : Mode)
  | given (group : Nat) (p q : Node)
  deriving Repr

def Node.sequence (ps : List Node) : Node :=
  ps.foldr .andThen .empty

/-- How many characters a pattern takes: at least, and at most if that is limited. -/
structure Width where
  least : Nat
  most : Option Nat
  deriving DecidableEq, Repr

namespace Width

def exactly (n : Nat) : Width :=
  ⟨n, some n⟩

def add (a b : Width) : Width :=
  ⟨a.least + b.least, do return (← a.most) + (← b.most)⟩

def either (a b : Width) : Width :=
  ⟨min a.least b.least, do return max (← a.most) (← b.most)⟩

def times (least : Nat) (most : Option Nat) (w : Width) : Width where
  least := least * w.least
  most := match most, w.most with
    | some 0, _ => some 0
    | some n, some m => some (n * m)
    | _, some 0 => some 0
    | _, _ => none

def fixed? (w : Width) : Option Nat :=
  w.most.filter fun n => n = w.least && n < 4294967296

end Width

end WebScript.Pattern

namespace WebScript

structure Pattern where
  node : Pattern.Node
  names : List (String × Nat)

end WebScript
