import WebScript.Text.Find
import WebScript.XPath.Expr
import WebScript.XPath.Number

namespace WebScript.XPath

namespace Reading

def skipBlanks (text : List Char) : List Char :=
  text.dropWhile isBlank

def inAny (ranges : List (Nat × Nat)) (c : Char) : Bool :=
  ranges.any fun (first, last) => first ≤ c.toNat && c.toNat ≤ last

def isNameStart (c : Char) : Bool :=
  c.isAlpha || c == '_' ||
    inAny [(0xC0, 0xD6), (0xD8, 0xF6), (0xF8, 0x2FF), (0x370, 0x37D), (0x37F, 0x1FFF),
      (0x200C, 0x200D), (0x2070, 0x218F), (0x2C00, 0x2FEF), (0x3001, 0xD7FF), (0xF900, 0xFDCF),
      (0xFDF0, 0xFFFD), (0x10000, 0xEFFFF)] c

def isNameChar (c : Char) : Bool :=
  isNameStart c || c.isDigit || c == '-' || c == '.' ||
    inAny [(0xB7, 0xB7), (0x300, 0x36F), (0x203F, 0x2040)] c

/-- A name without colons, and the rest. -/
def name? (text : List Char) : Option (String × List Char) :=
  match text with
  | c :: _ => if isNameStart c then
      some (.ofList (text.takeWhile isNameChar), text.dropWhile isNameChar)
    else none
  | [] => none

/-- A name with its space, if it names one, and the rest. -/
def qualified? (text : List Char) : Option (Option String × String × List Char) := do
  let (first, rest) ← name? text
  match rest with
  | ':' :: rest =>
    let (second, rest) ← name? rest
    return (some first, second, rest)
  | rest => return (none, first, rest)

/-- The names of node tests that look like calls. -/
def nodeTypes : List String :=
  ["comment", "text", "processing-instruction", "node"]

def literal? (text : List Char) : Option (String × List Char) :=
  match text with
  | q :: rest =>
    if q == '"' || q == '\'' then (Text.cutAt? [q] rest).map fun (s, rest) => (.ofList s, rest)
    else none
  | [] => none

/-- What a location path begins with, or a primary expression. -/
inductive Start where
  | path
  | primary
  | nothing
  deriving DecidableEq, Repr

/-- Tells paths from primary expressions. A name is a call when a bracket follows it, unless it is
the name of a node test. -/
def startOf (text : List Char) : Start :=
  match text with
  | [] => .nothing
  | c :: rest =>
    if c == '$' || c == '(' || c.isDigit || c == '\'' || c == '"' ||
        (c == '.' && rest.head?.any Char.isDigit) then .primary
    else if c == '*' || c == '/' || c == '@' || c == '.' then .path
    else if !isNameStart c && c != ':' then .nothing
    else
      let isPart (c : Char) : Bool := isNameChar c || c == ':'
      let name := text.takeWhile isPart
      if Text.contains [':', ':'] name then .path
      else if (skipBlanks (text.drop name.length)).head? == some '(' &&
          !nodeTypes.contains (String.ofList name) then .primary
      else .path

/-- The test of a step, whose name may have been read before it. -/
def nodeTest? (given : Option String) (text : List Char) : Option (NodeTest × List Char) := do
  let text := skipBlanks text
  if given.isNone && text.head? == some '*' then return (.all none, text.drop 1)
  let (name, rest) ← match given with
    | some name => some (name, text)
    | none => name? text
  let (adjacent, rest) := (rest.head?.all (!isBlank ·), skipBlanks rest)
  match rest with
  | '(' :: rest =>
    let rest := skipBlanks rest
    let (test, rest) ← match name with
      | "comment" => some (NodeTest.comment, rest)
      | "node" => some (.node, rest)
      | "text" => some (.text, rest)
      | "processing-instruction" =>
        if rest.head? == some ')' then some (.instruction none, rest)
        else (literal? rest).map fun (s, rest) => (.instruction (some s), skipBlanks rest)
      | _ => none
    match rest with
    | ')' :: rest => return (test, rest)
    | _ => none
  | ':' :: rest =>
    if !adjacent then return (.name none name, ':' :: rest)
    else if rest.head? == some '*' then return (.all (some name), rest.drop 1)
    else
      let (second, rest) ← name? rest
      return (.name (some name) second, rest)
  | rest => return (.name none name, rest)

/-- The axis of a step, or the name read instead of it, and the rest. -/
def axisOf (text : List Char) : Axis × Option String × List Char :=
  match text with
  | '@' :: rest => (.attribute, none, rest)
  | text => match name? text with
    | none => (.child, none, text)
    | some (name, rest) => match Axis.names.lookup name, skipBlanks rest with
      | some axis, ':' :: ':' :: rest => (axis, none, rest)
      | some _, rest => (.child, some name, rest)
      | none, _ => (.child, some name, rest)

/-- The step between two slashes. -/
def anyBelow (base : Expr) : Expr :=
  .step base .descendantOrSelf .node []

def operator? (table : List (String × Operator)) (text : List Char) :
    Option (Operator × List Char) :=
  table.findSome? fun (word, op) => (Text.afterStart? word.toList text).map (op, ·)

def levels : List (List (String × Operator)) :=
  [[("or", .or)], [("and", .and)], [("=", .equal), ("!=", .notEqual)],
   [("<=", .lessOrEqual), ("<", .less), (">=", .greaterOrEqual), (">", .greater)],
   [("+", .plus), ("-", .minus)], [("*", .times), ("div", .div), ("mod", .mod)]]

/-- Minus signs: whether there are any, whether their number is odd, and the rest. -/
def minusSigns : List Char → Bool × Bool × List Char
  | [] => (false, false, [])
  | c :: rest =>
    if isBlank c then minusSigns rest
    else if c == '-' then
      let (_, odd, rest) := minusSigns rest
      (true, !odd, rest)
    else (false, false, c :: rest)

abbrev Result := Option (Expr × List Char)

mutual

def expression : (fuel : Nat) → (levels : List (List (String × Operator))) → List Char → Result
  | 0, _, _ => none
  | fuel + 1, [], text => unary fuel text
  | fuel + 1, level :: tighter, text => do
    let (e, rest) ← expression fuel tighter text
    more fuel level tighter e (skipBlanks rest)

def more : (fuel : Nat) → (level : List (String × Operator)) →
    (tighter : List (List (String × Operator))) → Expr → List Char → Result
  | 0, _, _, _, _ => none
  | fuel + 1, level, tighter, e, text =>
    match operator? level text with
    | none => some (e, text)
    | some (op, rest) => do
      let (operand, rest) ← expression fuel tighter (skipBlanks rest)
      more fuel level tighter (.binary op e operand) (skipBlanks rest)

def unary : (fuel : Nat) → List Char → Result
  | 0, _ => none
  | fuel + 1, text => do
    let (found, odd, rest) := minusSigns text
    let (e, rest) ← path fuel rest
    let (e, rest) ← unionWith fuel e rest
    return (if found then .signed odd e else e, rest)

def unionWith : (fuel : Nat) → Expr → List Char → Result
  | 0, _, _ => none
  | fuel + 1, e, text =>
    match skipBlanks text with
    | '|' :: rest => do
      let (operand, rest) ← path fuel rest
      unionWith fuel (.binary .union e operand) rest
    | rest => some (e, rest)

/-- A location path, or a primary expression with predicates and perhaps a path after it. -/
def path : (fuel : Nat) → List Char → Result
  | 0, _ => none
  | fuel + 1, text =>
    let text := skipBlanks text
    match startOf text with
    | .nothing => none
    | .path => do
      let (e, rest) ← if text.head? == some '/' then rooted fuel .root text
        else relative fuel .context text
      return (e, skipBlanks rest)
    | .primary => do
      let (e, rest) ← primary fuel text
      let (e, rest) ← filters fuel e (skipBlanks rest)
      let (e, rest) ← match rest with
        | '/' :: '/' :: rest => relative fuel (anyBelow e) rest
        | '/' :: _ => relative fuel e rest
        | rest => some (e, rest)
      return (e, skipBlanks rest)

/-- The path after the root; a slash alone is the root itself. -/
def rooted : (fuel : Nat) → Expr → List Char → Result
  | 0, _, _ => none
  | fuel + 1, e, text =>
    match text with
    | '/' :: '/' :: rest => do
      let (e, rest) ← relative fuel (anyBelow e) (skipBlanks rest)
      rooted fuel e rest
    | '/' :: rest =>
      let rest := skipBlanks rest
      if rest.head?.any fun c => c.isAlpha || c == '_' || c == '.' || c == '@' || c == '*' then do
        let (e, rest) ← relative fuel e rest
        rooted fuel e rest
      else rooted fuel e rest
    | rest => some (e, rest)

/-- Steps from a base, the first of which a slash or two may precede. -/
def relative : (fuel : Nat) → Expr → List Char → Result
  | 0, _, _ => none
  | fuel + 1, base, text => do
    let (base, rest) := match skipBlanks text with
      | '/' :: '/' :: rest => (anyBelow base, skipBlanks rest)
      | '/' :: rest => (base, skipBlanks rest)
      | rest => (base, rest)
    let (e, rest) ← step fuel base rest
    steps fuel e (skipBlanks rest)

def steps : (fuel : Nat) → Expr → List Char → Result
  | 0, _, _ => none
  | fuel + 1, e, text =>
    match text with
    | '/' :: '/' :: rest => do
      let (e, rest) ← step fuel (anyBelow e) (skipBlanks rest)
      steps fuel e (skipBlanks rest)
    | '/' :: rest => do
      let (e, rest) ← step fuel e (skipBlanks rest)
      steps fuel e (skipBlanks rest)
    | rest => some (e, rest)

/-- One step. The short forms for a node and its parent take no predicates. -/
def step : (fuel : Nat) → Expr → List Char → Result
  | 0, _, _ => none
  | fuel + 1, base, text =>
    match skipBlanks text with
    | '.' :: '.' :: rest => some (.step base .parent .node [], skipBlanks rest)
    | '.' :: rest => some (base, skipBlanks rest)
    | text => do
      let (axis, name, rest) := axisOf text
      let (test, rest) ← nodeTest? name rest
      let (predicates, rest) ← predicates fuel (skipBlanks rest)
      return (.step base axis test predicates, rest)

def predicates : (fuel : Nat) → List Char → Option (List Expr × List Char)
  | 0, _ => none
  | fuel + 1, text =>
    match text with
    | '[' :: rest => do
      let (e, rest) ← expression fuel levels (skipBlanks rest)
      match rest with
      | ']' :: rest =>
        let (es, rest) ← predicates fuel (skipBlanks rest)
        return (e :: es, rest)
      | _ => none
    | rest => some ([], rest)

def filters : (fuel : Nat) → Expr → List Char → Result
  | 0, _, _ => none
  | fuel + 1, base, text =>
    match text with
    | '[' :: rest => do
      let (e, rest) ← expression fuel levels (skipBlanks rest)
      match rest with
      | ']' :: rest => filters fuel (.filter base e) (skipBlanks rest)
      | _ => none
    | rest => some (base, rest)

def primary : (fuel : Nat) → List Char → Result
  | 0, _ => none
  | fuel + 1, text =>
    match text with
    | '$' :: rest => do
      let (_, name, rest) ← qualified? rest
      return (.variable name, skipBlanks rest)
    | '(' :: rest => do
      let (e, rest) ← expression fuel levels (skipBlanks rest)
      match rest with
      | ')' :: rest => return (e, skipBlanks rest)
      | _ => none
    | '"' :: _ => (literal? text).map fun (s, rest) => (.literal s, rest)
    | '\'' :: _ => (literal? text).map fun (s, rest) => (.literal s, rest)
    | c :: _ =>
      if c.isDigit || c == '.' then
        (unsignedNumber? text).map fun (x, rest) => (.number x, rest)
      else do
        let (space, name, rest) ← qualified? text
        match skipBlanks rest with
        | '(' :: rest =>
          let (es, rest) ← arguments fuel (skipBlanks rest)
          return (.call space name es, skipBlanks rest)
        | _ => none
    | [] => none

/-- Arguments up to the closing bracket, which may be missing where an argument could begin and the
text is at its end. -/
def arguments : (fuel : Nat) → List Char → Option (List Expr × List Char)
  | 0, _ => none
  | fuel + 1, text =>
    match text with
    | [] => some ([], [])
    | ')' :: rest => some ([], rest)
    | text => do
      let (e, rest) ← expression fuel levels text
      match rest with
      | ')' :: rest => return ([e], rest)
      | ',' :: rest =>
        let (es, rest) ← laterArguments fuel (skipBlanks rest)
        return (e :: es, rest)
      | _ => none

def laterArguments : (fuel : Nat) → List Char → Option (List Expr × List Char)
  | 0, _ => none
  | fuel + 1, text =>
    match text with
    | [] => some ([], [])
    | text => do
      let (e, rest) ← expression fuel levels text
      match rest with
      | ')' :: rest => return ([e], rest)
      | ',' :: rest =>
        let (es, rest) ← laterArguments fuel (skipBlanks rest)
        return (e :: es, rest)
      | _ => none

end

end Reading

def Expr.ofText? (text : String) : Option Expr := do
  let cs := text.toList
  let (e, rest) ← Reading.expression (24 * cs.length + 64) Reading.levels (Reading.skipBlanks cs)
  if (Reading.skipBlanks rest).isEmpty then return e else none

end WebScript.XPath
