import WebScript.XPath.Number
import WebScript.XPath.Tree

namespace WebScript.XPath

/-- A value: nodes in document order, a number, a text or a truth value. -/
inductive Result where
  | nodes (ns : List Nat)
  | number (x : Float)
  | text (s : String)
  | bool (b : Bool)

/-- The node at which an expression is evaluated, and its place among how many. -/
structure Focus where
  node : Nat
  place : Option (Nat × Nat) := none

namespace Result

def toText (t : Tree) : Result → String
  | nodes [] => ""
  | nodes (n :: _) => t.stringValue n
  | number x => numberText x
  | text s => s
  | bool b => if b then "true" else "false"

def toNumber (t : Tree) : Result → Float
  | number x => x
  | bool b => if b then 1.0 else 0.0
  | r => numberOf (r.toText t)

def toBool : Result → Bool
  | nodes ns => !ns.isEmpty
  | number x => !(x == 0.0) && !x.isNaN
  | text s => !s.isEmpty
  | bool b => b

end Result

def compareNumbers : Operator → Float → Float → Bool
  | .equal, x, y => x == y
  | .notEqual, x, y => !(x == y)
  | .less, x, y => x < y
  | .lessOrEqual, x, y => x ≤ y
  | .greater, x, y => x > y
  | .greaterOrEqual, x, y => x ≥ y
  | _, _, _ => false

def isEquality (op : Operator) : Bool :=
  op = .equal || op = .notEqual

/-- Comparison of two values that are no sets of nodes. -/
def compareSimple (t : Tree) (op : Operator) (a b : Result) : Bool :=
  let numbers := compareNumbers op (a.toNumber t) (b.toNumber t)
  if !isEquality op then numbers
  else
    let agree (same : Bool) : Bool := same == (op = .equal)
    match a, b with
    | .bool _, _ => agree (a.toBool == b.toBool)
    | _, .bool _ => agree (a.toBool == b.toBool)
    | .number _, _ => numbers
    | _, .number _ => numbers
    | _, _ => agree (a.toText t == b.toText t)

/-- Comparison; a set of nodes stands for any of its texts, and beside a truth value for whether it
has members. -/
def compare (t : Tree) (op : Operator) (a b : Result) : Bool :=
  let texts (ns : List Nat) : List Result := ns.map fun n => .text (t.stringValue n)
  match a, b with
  | .nodes ns, .nodes ms => (texts ns).any fun x => (texts ms).any fun y => compareSimple t op x y
  | .nodes _, .bool _ => compareSimple t op (.bool a.toBool) b
  | .bool _, .nodes _ => compareSimple t op a (.bool b.toBool)
  | .nodes ns, _ => (texts ns).any fun x => compareSimple t op x b
  | _, .nodes ms => (texts ms).any fun y => compareSimple t op a y
  | _, _ => compareSimple t op a b

def inOrder (ns : List Nat) : List Nat :=
  (ns.mergeSort (· ≤ ·)).eraseReps

/-- The words of a text, with single spaces between them. -/
def normalizeSpace (s : String) : String :=
  let step (state : List (List Char) × List Char) (c : Char) : List (List Char) × List Char :=
    if isBlank c then
      if state.2.isEmpty then state else (state.1 ++ [state.2.reverse], [])
    else (state.1, c :: state.2)
  let (words, last) := s.toList.foldl step ([], [])
  let words := if last.isEmpty then words else words ++ [last.reverse]
  .ofList (List.intercalate [' '] words)

def nameOf (t : Tree) (i : Nat) : String :=
  let x := t.item i
  if x.kind = .element || x.kind.isAttached then x.name else ""

/-- The part of a name after its space. -/
def localName (t : Tree) (i : Nat) : String :=
  nameOf t i

/-- The first character of a substring, counted from one, and the first after it. Positions are
rounded to the nearest whole number. -/
def substring (cs : List Char) (start : Float) (length : Option Float) : List Char :=
  let rounded (x : Float) : Float := if x - x.floor ≥ 0.5 then x.floor + 1.0 else x.floor
  let limit : Float := 2147483647.0
  let first : Nat :=
    if !(start < limit) then 2147483647
    else if start ≥ 1.0 then (rounded start).toUInt64.toNat
    else 1
  let stop : Nat := match length with
    | none => 2147483647
    | some n =>
      let last := rounded start + rounded n
      if !(last ≥ 1.0) then 1
      else if last < limit then last.toUInt64.toNat
      else 2147483647
  if first < stop then (cs.drop (first - 1)).take (stop - first) else []

/-- Each character replaced by the one at its place in `new`, or left out where `new` is too short.
-/
def substituted (cs old new : List Char) : List Char :=
  cs.filterMap fun c => match old.findIdx? (· == c) with
    | none => some c
    | some i => new[i]?

/-- A function of texts and numbers. -/
def callOnValues (t : Tree) (name : String) (args : List Result) : Option Result :=
  let texts := args.map fun r => (r.toText t).toList
  let numbers := args.map fun r => r.toNumber t
  let truths := args.map Result.toBool
  let textOf (cs : List Char) : Option Result := some (.text (.ofList cs))
  match name, texts, numbers, truths with
  | "string", [s], _, _ => textOf s
  | "concat", _ :: _ :: _, _, _ => textOf texts.flatten
  | "contains", [s, part], _, _ => some (.bool (Text.contains part s))
  | "starts-with", [s, start], _, _ => some (.bool (Text.afterStart? start s).isSome)
  | "substring-before", [s, part], _, _ => textOf ((Text.cutAt? part s).map (·.1) |>.getD [])
  | "substring-after", [s, part], _, _ => textOf ((Text.cutAt? part s).map (·.2) |>.getD [])
  | "substring", [s, _], [_, n], _ => textOf (substring s n none)
  | "substring", [s, _, _], [_, n, m], _ => textOf (substring s n (some m))
  | "string-length", [s], _, _ => some (.number (Float.ofNat s.length))
  | "normalize-space", [s], _, _ => some (.text (normalizeSpace (.ofList s)))
  | "translate", [s, old, new], _, _ => textOf (substituted s old new)
  | "boolean", _, _, [b] => some (.bool b)
  | "not", _, _, [b] => some (.bool !b)
  | "true", [], _, _ => some (.bool true)
  | "false", [], _, _ => some (.bool false)
  | "lang", [_], _, _ => some (.bool false)
  | "number", _, [x], _ => some (.number x)
  | "floor", _, [x], _ => some (.number x.floor)
  | "ceiling", _, [x], _ => some (.number x.ceil)
  | "round", _, [x], _ => some (.number (roundHalfUp x))
  | _, _, _, _ => none

/-- The elements whose identifiers a value names. -/
def identified (t : Tree) (r : Result) : List Nat :=
  let words (s : String) : List String :=
    (Text.pieces ' ' (normalizeSpace s).toList).map .ofList
  let ids := match r with
    | .nodes ns => ns.flatMap fun n => words (t.stringValue n)
    | r => words (r.toText t)
  inOrder (ids.filterMap t.identified?)

/-- The value of a function. Without arguments, functions of a node take the one in focus. -/
def callFunction (t : Tree) (f : Focus) (name : String) (args : List Result) : Option Result :=
  match name, args with
  | "last", [] => f.place.map fun (_, n) => .number (Float.ofNat n)
  | "position", [] => f.place.map fun (i, _) => .number (Float.ofNat i)
  | "count", [.nodes ns] => some (.number (Float.ofNat ns.length))
  | "count", _ => none
  | "sum", [.nodes ns] =>
    some (.number (ns.foldl (fun x n => x + numberOf (t.stringValue n)) 0.0))
  | "sum", _ => none
  | "id", [r] => some (.nodes (identified t r))
  | "name", [] => some (.text (nameOf t f.node))
  | "name", [.nodes ns] => some (.text ((ns.head?.map (nameOf t)).getD ""))
  | "name", _ => none
  | "local-name", [] => some (.text (localName t f.node))
  | "local-name", [.nodes ns] => some (.text ((ns.head?.map (localName t)).getD ""))
  | "local-name", _ => none
  | "namespace-uri", [] => some (.text "")
  | "namespace-uri", [.nodes _] => some (.text "")
  | "namespace-uri", _ => none
  | "string", [] => some (.text (t.stringValue f.node))
  | "string-length", [] => some (.number (Float.ofNat (t.stringValue f.node).length))
  | "normalize-space", [] => some (.text (normalizeSpace (t.stringValue f.node)))
  | "number", [] => some (.number (numberOf (t.stringValue f.node)))
  | name, args => callOnValues t name args

def arithmetic : Operator → Float → Float → Float
  | .plus, x, y => x + y
  | .minus, x, y => x - y
  | .times, x, y => x * y
  | .div, x, y => x / y
  | .mod, x, y => remainder x y
  | _, _, _ => notANumber

def hasSpace : NodeTest → Bool
  | .all space => space.isSome
  | .name space _ => space.isSome
  | _ => false

/-- Whether a predicate's value keeps the node at a place: a number has to be that place. -/
def keeps (place : Nat) : Result → Bool
  | .number x => x == Float.ofNat place
  | r => r.toBool

mutual

def eval (t : Tree) (f : Focus) : Expr → Option Result
  | .number x => some (.number x)
  | .literal s => some (.text s)
  | .variable _ => none
  | .call space name args => do
    let rs ← evalAll t f args
    if space.isSome then none else callFunction t f name rs
  | .signed negative e => do
    let x := (← eval t f e).toNumber t
    return .number (if negative then -x else x)
  | .root => some (.nodes [0])
  | .context => some (.nodes [f.node])
  | .binary op a b => do
    let x ← eval t f a
    if op = .or && x.toBool then return .bool true
    if op = .and && !x.toBool then return .bool false
    let y ← eval t f b
    match op with
    | .or | .and => return .bool y.toBool
    | .union => match x, y with
      | .nodes ns, .nodes ms => return .nodes (inOrder (ns ++ ms))
      | _, _ => none
    | .plus | .minus | .times | .div | .mod =>
      return .number (arithmetic op (x.toNumber t) (y.toNumber t))
    | _ => return .bool (compare t op x y)
  | .step base axis test predicates => do
    match ← eval t f base with
    | .nodes ns =>
      if hasSpace test then none
      else
        let found ← ns.mapM fun n =>
          thinAll t ((t.along axis n).filter (t.passes axis test)) predicates
        return .nodes (inOrder found.flatten)
    | _ => none
  | .filter base predicate => do
    match ← eval t f base with
    | .nodes ns =>
      let kept ← ns.zipIdx.mapM fun (n, i) => do
        let r ← eval t ⟨n, some (i + 1, ns.length)⟩ predicate
        return (n, keeps (i + 1) r)
      return .nodes ((kept.filter (·.2)).map (·.1))
    | _ => none

def evalAll (t : Tree) (f : Focus) : List Expr → Option (List Result)
  | [] => some []
  | e :: rest => do
    let r ← eval t f e
    return r :: (← evalAll t f rest)

/-- The nodes that predicates leave, each predicate counting anew. -/
def thinAll (t : Tree) (ns : List Nat) : List Expr → Option (List Nat)
  | [] => some ns
  | p :: rest => do
    let kept ← ns.zipIdx.mapM fun (n, i) => do
      let r ← eval t ⟨n, some (i + 1, ns.length)⟩ p
      return (n, keeps (i + 1) r)
    thinAll t ((kept.filter (·.2)).map (·.1)) rest

end

end WebScript.XPath
