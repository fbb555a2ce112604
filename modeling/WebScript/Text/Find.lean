namespace WebScript.Text

def afterStart? : (start text : List Char) → Option (List Char)
  | [], rest => some rest
  | _ :: _, [] => none
  | a :: start, b :: rest => if a = b then afterStart? start rest else none

/-- The text before and after the first place where `needle` stands. -/
def cutAt? (needle : List Char) : List Char → Option (List Char × List Char)
  | [] => match afterStart? needle [] with
    | some rest => some ([], rest)
    | none => none
  | c :: cs => match afterStart? needle (c :: cs) with
    | some rest => some ([], rest)
    | none => (cutAt? needle cs).map fun (before, rest) => (c :: before, rest)

def contains (needle text : List Char) : Bool :=
  (cutAt? needle text).isSome

def pieces (separator : Char) : List Char → List (List Char)
  | [] => [[]]
  | c :: cs =>
    if c = separator then [] :: pieces separator cs
    else match pieces separator cs with
      | [] => [[c]]
      | piece :: rest => (c :: piece) :: rest

/-- The text up to the last `c`, that `c` included; nothing when there is none. -/
def throughLast (c : Char) (text : List Char) : List Char :=
  (text.reverse.dropWhile (· != c)).reverse

end WebScript.Text
