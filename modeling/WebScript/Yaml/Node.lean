import WebScript.Yaml.Token

namespace WebScript.Yaml

/-- A part of a document with the tag that says what it denotes. A scalar without a tag of its own
is plain or not; the content of a plain one decides its kind. -/
inductive Node where
  | plain (content : String)
  | scalar (tag : String) (content : String)
  | sequence (tag : String) (items : List Node)
  | mapping (tag : String) (entries : List (Node × Node))

instance : Inhabited Node := ⟨.plain ""⟩

def standardTag (name : String) : String :=
  "tag:yaml.org,2002:" ++ name

namespace Node

/-- The handles of tags that need no directive. -/
def knownHandles : List (String × String) :=
  [("!", "!"), ("!!", standardTag "")]

/-- Tokens not read yet and the fault after them, the handles of tags, and the anchored nodes. -/
structure Reading where
  tokens : List Token
  fault : Fault
  handles : List (String × String) := knownHandles
  anchors : List (String × Node) := []

abbrev Reader := StateT Reading (Except Fault)

def fail {α : Type} : Reader α :=
  throw .malformed

def peek : Reader Token := do
  let s ← get
  match s.tokens with
  | t :: _ => return t
  | [] => throw s.fault

def advance : Reader Unit :=
  modify fun s => { s with tokens := s.tokens.drop 1 }

/-- Reads the token if it comes next, and says whether it did. -/
def accept (t : Token) : Reader Bool := do
  if (← peek) == t then
    advance
    return true
  else return false

/-- Anchor and tag in front of a node, in either order. -/
def properties : Reader (Option String × Option (Option String × String)) := do
  match ← peek with
  | .anchor name =>
    advance
    match ← peek with
    | .tag h suffix =>
      advance
      return (some name, some (h, suffix))
    | _ => return (some name, none)
  | .tag h suffix =>
    advance
    match ← peek with
    | .anchor name =>
      advance
      return (some name, some (h, suffix))
    | _ => return (none, some (h, suffix))
  | _ => return (none, none)

/-- The full tag, its handle replaced by what it stands for. -/
def resolveTag : Option (Option String × String) → Reader (Option String)
  | none => return none
  | some (none, suffix) => return some suffix
  | some (some h, suffix) => do
    match (← get).handles.lookup h with
    | some start => return some (start ++ suffix)
    | none => fail

def bind (anchor : Option String) (node : Node) : Reader Unit :=
  match anchor with
  | none => return ()
  | some name => modify fun s => { s with anchors := (name, node) :: s.anchors }

/-- An anchor names one node of a document. -/
def requireNew : Option String → Reader Unit
  | none => return ()
  | some name => do
    if ((← get).anchors.lookup name).isSome then fail

def empty : Node := .plain ""

def ofScalar (tag : Option String) (content : String) (isPlain : Bool) : Node :=
  match tag with
  | none => if isPlain then .plain content else .scalar (standardTag "str") content
  | some "!" => .plain content
  | some t => .scalar t content

def collectionTag (kind : String) : Option String → String
  | none => standardTag kind
  | some "!" => standardTag kind
  | some t => t

def orEmpty (ends : List Token) (n : Reader Node) : Reader Node := do
  if ends.contains (← peek) then return empty else n

/-- The value of an entry, which is empty if the key stands alone. -/
def valueOr (ends : List Token) (n : Reader Node) : Reader Node := do
  if ← accept .value then orEmpty ends n else return empty

/-- What separates the parts of a flow collection: nothing in front of the first. -/
def separator (first : Bool) : Reader Unit := do
  if first then return ()
  else if ← accept .flowEntry then return ()
  else fail

mutual

/-- A node. In a block a collection may be written by indentation, and after a key also a sequence
without indentation of its own. -/
def node (block indentless : Bool) : (fuel : Nat) → Reader Node
  | 0 => fail
  | fuel + 1 => do
    if let .alias name := ← peek then
      advance
      match (← get).anchors.lookup name with
      | some n => return n
      | none => fail
    else
      let (anchor, tag) ← properties
      let bare := anchor.isNone && tag.isNone
      let tag ← resolveTag tag
      let t ← peek
      requireNew anchor
      let collect (kind : String) (make : Reader Node) : Reader Node := do
        let unfinished := if kind == "seq" then Node.sequence (collectionTag kind tag) []
          else Node.mapping (collectionTag kind tag) []
        bind anchor unfinished
        let n ← make
        bind anchor n
        return n
      let sequence (items : Reader (List Node)) : Reader Node :=
        collect "seq" do return .sequence (collectionTag "seq" tag) (← items)
      let mapping (entries : Reader (List (Node × Node))) : Reader Node :=
        collect "map" do return .mapping (collectionTag "map" tag) (← entries)
      match t with
      | .scalar content isPlain =>
        advance
        let n := ofScalar tag content isPlain
        bind anchor n
        return n
      | .flowSequence =>
        advance
        sequence (flowItems true fuel)
      | .flowMapping =>
        advance
        mapping (flowEntries true fuel)
      | t =>
        if indentless && t == .entry then sequence (indentlessItems fuel)
        else if block && t == .blockSequence then
          advance
          sequence (blockItems fuel)
        else if block && t == .blockMapping then
          advance
          mapping (blockEntries fuel)
        else if bare then fail
        else
          let n := ofScalar tag "" tag.isNone
          bind anchor n
          return n

def blockItems : (fuel : Nat) → Reader (List Node)
  | 0 => fail
  | fuel + 1 => do
    if ← accept .entry then
      let item ← orEmpty [.entry, .blockEnd] (node true false fuel)
      return item :: (← blockItems fuel)
    else if ← accept .blockEnd then return []
    else fail

def indentlessItems : (fuel : Nat) → Reader (List Node)
  | 0 => fail
  | fuel + 1 => do
    if ← accept .entry then
      let item ← orEmpty [.entry, .key, .value, .blockEnd] (node true false fuel)
      return item :: (← indentlessItems fuel)
    else return []

def blockEntries : (fuel : Nat) → Reader (List (Node × Node))
  | 0 => fail
  | fuel + 1 => do
    if ← accept .key then
      let k ← orEmpty [.key, .value, .blockEnd] (node true true fuel)
      let v ← valueOr [.key, .value, .blockEnd] (node true true fuel)
      return (k, v) :: (← blockEntries fuel)
    else if ← accept .blockEnd then return []
    else fail

/-- The items of a flow sequence; one that begins with a key is a mapping of one entry. -/
def flowItems (first : Bool) : (fuel : Nat) → Reader (List Node)
  | 0 => fail
  | fuel + 1 => do
    if ← accept .flowSequenceEnd then return []
    else
      separator first
      if ← accept .key then
        let k ← orEmpty [.value, .flowEntry, .flowSequenceEnd] (node false false fuel)
        let v ← valueOr [.flowEntry, .flowSequenceEnd] (node false false fuel)
        return .mapping (standardTag "map") [(k, v)] :: (← flowItems false fuel)
      else if ← accept .flowSequenceEnd then return []
      else
        let item ← node false false fuel
        return item :: (← flowItems false fuel)

def flowEntries (first : Bool) : (fuel : Nat) → Reader (List (Node × Node))
  | 0 => fail
  | fuel + 1 => do
    if ← accept .flowMappingEnd then return []
    else
      separator first
      if ← accept .key then
        let k ← orEmpty [.value, .flowEntry, .flowMappingEnd] (node false false fuel)
        let v ← valueOr [.flowEntry, .flowMappingEnd] (node false false fuel)
        return (k, v) :: (← flowEntries false fuel)
      else if ← accept .flowMappingEnd then return []
      else
        let k ← node false false fuel
        return (k, empty) :: (← flowEntries false fuel)

end

/-- The directives in front of a document, with fuel for each: at most one version, 1 and a minor
number, and each tag handle once. -/
def directives : (fuel : Nat) → (versioned : Bool) → (handles : List (String × String)) →
    Reader (List (String × String))
  | 0, _, _ => fail
  | fuel + 1, versioned, handles => do
    match ← peek with
    | .version major =>
      advance
      if versioned || major != 1 then fail else directives fuel true handles
    | .tagHandle h start =>
      advance
      if (handles.lookup h).isSome then fail else directives fuel versioned ((h, start) :: handles)
    | .otherDirective =>
      advance
      directives fuel versioned handles
    | _ => return handles ++ knownHandles

def isDirective : Token → Bool
  | .version _ | .tagHandle _ _ | .otherDirective => true
  | _ => false

/-- How many tokens are left. -/
def size : Reader Nat := do
  return (← get).tokens.length

/-- The directives of a document and the marker after them. -/
def opening : Reader Unit := do
  let handles ← directives ((← size) + 1) false []
  if ← accept .documentStart then modify fun s => { s with handles } else fail

/-- The node at the root of a document, which is empty where nothing follows its marker. -/
def root (marked : Bool) : Reader Node := do
  let t ← peek
  if marked && (isDirective t || [.documentStart, .documentEnd, .streamEnd].contains t) then
    return empty
  else node true false (4 * (← size) + 8)

def documentEnds : (fuel : Nat) → Reader Unit
  | 0 => fail
  | fuel + 1 => do
    if ← accept .documentEnd then documentEnds fuel else return ()

/-- After a document no other one may begin. -/
def requireEnd : Reader Unit := do
  documentEnds ((← size) + 1)
  if (← peek) == .streamEnd then return ()
  else
    opening
    fail

/-- The document of a stream that holds at most one. It begins by directives or a marker, or just by
its content. -/
def document : Reader (Option Node) := do
  let t ← peek
  if t == .streamEnd then return none
  else
    let marked := isDirective t || t == .documentStart
    if marked then opening
    let n ← root marked
    requireEnd
    return some n

def ofTokens (tokens : Tokens) : Except Fault (Option Node) :=
  (·.1) <$> document.run { tokens := tokens.list, fault := tokens.fault }

/-- The tree of a document text, or nothing for an empty stream. -/
def ofText (text : String) : Except Fault (Option Node) :=
  if text.toList.all isDocumentChar then ofTokens (.ofText text.toList) else .error .malformed

/-- How many characters are read before the part that holds one at a place. Those in front come all
at once, two parts of them. -/
def partsBefore (place : Nat) : Nat :=
  if place < 2 * 4096 then 0 else place / 4096 * 4096

/-- What there is to read of a text in parts: the parts in front of the first that holds a character
no document may hold, and this character. -/
def readableParts (cs : List Char) : List Char :=
  match cs.findIdx? (!isDocumentChar ·) with
  | none => cs
  | some place => cs.take (partsBefore place) ++ (cs.drop place).take 1

/-- The tree of a text in a file, which is checked part by part while it is read. -/
def ofFile (text : String) : Except Fault (Option Node) := do
  let found ← ofTokens (.ofText (readableParts text.toList))
  if text.toList.all isDocumentChar then return found else throw .malformed

end Node
end WebScript.Yaml
