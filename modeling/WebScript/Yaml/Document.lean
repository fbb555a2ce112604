import WebScript.Error
import WebScript.Yaml.Node
import WebScript.Yaml.Scalar

namespace WebScript.Yaml

namespace Node

def scalarKind? (tag : String) : Option Scalar.Kind :=
  [("null", Scalar.Kind.null), ("bool", .bool), ("int", .int), ("float", .float),
   ("timestamp", .timestamp), ("str", .text), ("binary", .binary)].lookup
    (tag.dropPrefix (standardTag "")).toString |>.filter fun _ => tag.startsWith (standardTag "")

def isMergeKey : Node → Bool
  | .plain content => Scalar.kindOf content == .merge
  | .scalar tag _ | .sequence tag _ | .mapping tag _ => tag == standardTag "merge"

def isDefaultTag (tag : String) : Bool :=
  tag == standardTag "value"

def isDefaultKey : Node → Bool
  | .plain content => Scalar.kindOf content == .default
  | .scalar tag _ | .sequence tag _ | .mapping tag _ => isDefaultTag tag

def plainTag (tag : String) : String :=
  if isDefaultTag tag then standardTag "str" else tag

/-- A default-value key stands for its own text. -/
def plainKey : Node → Node
  | .plain content =>
    if Scalar.kindOf content == .default then .scalar (standardTag "str") content
    else .plain content
  | .scalar tag content => .scalar (plainTag tag) content
  | .sequence tag items => .sequence (plainTag tag) items
  | .mapping tag entries => .mapping (plainTag tag) entries

/-- An entry that no mapping has a value for, in the place of one that cannot be merged. -/
def unmergeable : Node × Node :=
  (.scalar "" "", .plain "")

def isUnmergeable : Node × Node → Bool
  | (.scalar tag _, _) => tag == ""
  | _ => false

/-- The entries of a mapping behind those that its merge keys bring in, of which the ones that
cannot be merged come first. -/
def joined (brought own : List (Node × Node)) : List (Node × Node) :=
  let (broken, sound) := brought.partition isUnmergeable
  broken ++ sound ++ own

def isPairsTag (tag : String) : Bool :=
  tag == standardTag "omap" || tag == standardTag "pairs"

mutual

/-- The tree with all merge keys resolved, but for those of pairs and of what is read as a scalar.
-/
def merged : Node → Node
  | .plain content => .plain content
  | .scalar tag content => .scalar tag content
  | .sequence tag items =>
    .sequence tag (if isPairsTag tag then mergedInPairs items else mergedItems items)
  | .mapping tag entries =>
    if (scalarKind? tag).isSome || isDefaultTag tag then .mapping tag entries
    else .mapping tag (joined (broughtIn entries) (ownEntries entries))

def mergedItems : List Node → List Node
  | [] => []
  | n :: rest => merged n :: mergedItems rest

def mergedInPairs : List Node → List Node
  | [] => []
  | n :: rest =>
    (match n with
      | .mapping tag entries => .mapping tag (mergedPairs entries)
      | n => merged n) :: mergedInPairs rest

def mergedPairs : List (Node × Node) → List (Node × Node)
  | [] => []
  | (k, v) :: rest => (merged k, merged v) :: mergedPairs rest

def ownEntries : List (Node × Node) → List (Node × Node)
  | [] => []
  | (k, v) :: rest =>
    if k.isMergeKey then ownEntries rest
    else ((merged k).plainKey, merged v) :: ownEntries rest

/-- What the merge keys among entries bring in. -/
def broughtIn : List (Node × Node) → List (Node × Node)
  | [] => []
  | (k, v) :: rest => if k.isMergeKey then entriesOf v ++ broughtIn rest else broughtIn rest

/-- The entries of a mapping, or of the mappings of a sequence, the last one first. -/
def entriesOf : Node → List (Node × Node)
  | .mapping _ entries => joined (broughtIn entries) (ownEntries entries)
  | .sequence _ items => entriesOfAll items
  | _ => [unmergeable]

def entriesOfAll : List Node → List (Node × Node)
  | [] => []
  | n :: rest =>
    entriesOfAll rest ++ match n with
      | .mapping _ entries => joined (broughtIn entries) (ownEntries entries)
      | _ => [unmergeable]

end

mutual

/-- The content of a node that is read as a scalar: its own, or that of its default value. -/
def scalarText? : Node → Option String
  | .plain content => some content
  | .scalar _ content => some content
  | .sequence _ _ => none
  | .mapping _ entries => defaultText? entries

def defaultText? : List (Node × Node) → Option String
  | [] => none
  | (k, n) :: rest => if k.isDefaultKey then scalarText? n else defaultText? rest

end

/-- The value of a kind that a mapping has by its default value. A timestamp is matched against the
mapping itself. -/
def defaultValue (kind : Scalar.Kind) (entries : List (Node × Node)) : Except Fault Value :=
  match defaultText? entries with
  | none => .error .malformed
  | some content => if kind = .timestamp then .error .wrongType else Scalar.value content kind

/-- A value, and the faults met on the way to it, each with the depth at which it is met. -/
structure Outcome (α : Type) where
  result : α
  faults : List (Nat × Fault)

def Outcome.ofExcept (level : Nat) : Except Fault Value → Outcome Value
  | .ok v => ⟨v, []⟩
  | .error f => ⟨.null, [(level, f)]⟩

def Outcome.map {α β : Type} (f : α → β) (o : Outcome α) : Outcome β :=
  ⟨f o.result, o.faults⟩

/-- The tags of collections, which are filled only after their siblings have been made. -/
def isCollectionTag (tag : String) : Bool :=
  ["seq", "omap", "pairs", "map", "set"].any fun name => tag == standardTag name

def unmade (level : Nat) (tag : String) : Outcome Value :=
  ⟨.null, [(if isCollectionTag tag then level + 1 else level, .malformed)]⟩

def isCollection : Node → Bool
  | .plain _ => false
  | .scalar tag _ | .sequence tag _ | .mapping tag _ => isCollectionTag tag

mutual

def value (level : Nat) : Node → Outcome Value
  | .plain content => .ofExcept level (Scalar.value content (Scalar.kindOf content))
  | .scalar tag content => match scalarKind? tag with
    | some kind => .ofExcept level (Scalar.value content kind)
    | none => unmade level tag
  | .sequence tag items =>
    if tag == standardTag "seq" then (itemValues (level + 1) items).map .list
    else if isPairsTag tag then (pairValues (level + 1) items).map .list
    else unmade level tag
  | .mapping tag entries =>
    if tag == standardTag "map" then (entryValues (level + 1) entries).map Value.mapOf
    else if tag == standardTag "set" then
      (entryValues (level + 1) entries).map fun entries => match Value.mapOf entries with
        | .map entries => .set (entries.map (·.1))
        | v => v
    else match scalarKind? tag with
      | some kind => .ofExcept level (defaultValue kind entries)
      | none => unmade level tag

def itemValues (level : Nat) : List Node → Outcome (List Value)
  | [] => ⟨[], []⟩
  | n :: rest =>
    let v := value level n
    let more := itemValues level rest
    ⟨v.result :: more.result, v.faults ++ more.faults⟩

def entryValues (level : Nat) : List (Node × Node) → Outcome (List (Value × Value))
  | [] => ⟨[], []⟩
  | (k, n) :: rest =>
    let key := if k.isCollection then ⟨.null, [(level, .malformed)]⟩ else value level k
    let v := value level n
    let more := entryValues level rest
    ⟨(key.result, v.result) :: more.result, key.faults ++ v.faults ++ more.faults⟩

def pairValues (level : Nat) : List Node → Outcome (List Value)
  | [] => ⟨[], []⟩
  | n :: rest =>
    let pair : Outcome Value := match n with
      | .mapping _ [(k, v)] =>
        let first := value level k
        let second := value level v
        ⟨.pair first.result second.result, first.faults ++ second.faults⟩
      | _ => ⟨.null, [(level, .malformed)]⟩
    let more := pairValues level rest
    ⟨pair.result :: more.result, pair.faults ++ more.faults⟩

end

/-- The first fault among those of least depth: a collection is filled only after its siblings have
been made. -/
def firstFault : List (Nat × Fault) → Option (Nat × Fault)
  | [] => none
  | f :: rest => match firstFault rest with
    | some g => some (if g.1 < f.1 then g else f)
    | none => some f

/-- The value of a tree; an empty one has the value null. -/
def valueOf : Option Node → Except Fault Value
  | none => .ok .null
  | some n =>
    let o := n.merged.value 0
    match firstFault o.faults with
    | some (_, f) => .error f
    | none => .ok o.result

end Node

def load (text : String) : Except Fault Value := do
  Node.valueOf (← Node.ofText text)

def loadFile (text : String) : Except Fault Value := do
  Node.valueOf (← Node.ofFile text)

/-- The breakdown that a fault is. A malformed text is none: it is the fault of whoever wrote it. -/
def Fault.breakdown? : Fault → Option Breakdown
  | malformed => none
  | badValue => some (.badValue "")
  | tooLarge => some .tooLarge
  | emptyNumber => some .emptyNumber
  | unknownTruthValue => some .unknownTruthValue
  | wrongType => some (.remote "TypeError" "")
  | notATimestamp => some .notATimestamp

end WebScript.Yaml
