import WebScript.Text.CaseTable
import WebScript.Text.SigmaContext

namespace WebScript.Text

/-- Moves a character by the first run of the table that holds it. -/
def shiftBy (table : List (Nat × Nat × Nat × Int)) (c : Char) : Char :=
  let n := c.toNat
  match table.find? fun (first, last, step, _) =>
      first ≤ n && n ≤ last && (n - first) % step == 0 with
  | some (_, _, _, shift) => Char.ofNat (n + shift).toNat
  | none => c

def inRanges (ranges : List (Nat × Nat)) (c : Char) : Bool :=
  ranges.any fun (first, last) => first ≤ c.toNat && c.toNat ≤ last

/-- An ASCII capital becomes its small letter. -/
def lowerAscii (c : Char) : Char :=
  if 'A' ≤ c ∧ c ≤ 'Z' then Char.ofNat (c.toNat + 32) else c

/-- The nearest letter that is not looked through has case. -/
def meetsCased (cs : List Char) : Bool :=
  match cs.dropWhile (inRanges SigmaContext.transparent) with
  | [] => false
  | c :: _ => inRanges SigmaContext.cased c

/-- The lower case of one character. A sigma that ends a word has a form of its own, and the dotted
capital I keeps its dot as a mark. -/
def lowerChar (before after : List Char) (c : Char) : List Char :=
  if c.toNat < 128 then [lowerAscii c]
  else if c = 'Σ' then [if meetsCased before && !meetsCased after then 'ς' else 'σ']
  else if c = 'İ' then ['i', Char.ofNat 0x307]
  else [shiftBy CaseTable.toLower c]

/-- Lower case, with the characters already passed in reverse order. -/
def lowerFrom (before : List Char) : List Char → List Char
  | [] => []
  | c :: cs => lowerChar before cs c ++ lowerFrom (c :: before) cs

def lower (s : String) : String :=
  .ofList (lowerFrom [] s.toList)

/-- The folded form of one character, which stands for all its spellings. -/
def foldChar (c : Char) : List Char :=
  if c.toNat < 128 then [lowerAscii c]
  else match CaseTable.foldedSequences.lookup c.toNat with
    | some codes => codes.map Char.ofNat
    | none => [shiftBy CaseTable.toFolded c]

def fold (s : String) : String :=
  .ofList (s.toList.flatMap foldChar)

/-- Equality without regard to case. -/
def sameFolded (a b : String) : Bool :=
  fold a == fold b

end WebScript.Text
