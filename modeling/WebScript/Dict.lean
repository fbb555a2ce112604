import WebScript.Text.Case

namespace WebScript

/-- An ordered map from texts to texts, as its pairs. -/
abbrev Dict := List (String × String)

namespace Dict

/-- A name keeps its first place and takes its last value. -/
def put (name value : String) : Dict → Dict
  | [] => [(name, value)]
  | (n, v) :: rest => if n = name then (n, value) :: rest else (n, v) :: put name value rest

/-- The map of a list of pairs, in which names may repeat. -/
def ofPairs (pairs : List (String × String)) : Dict :=
  pairs.foldl (fun d (n, v) => put n v d) []

def get? (name : String) (d : Dict) : Option String :=
  List.lookup name d

end Dict

/-- A map whose names differ in more than case. -/
structure NameMap where
  pairs : List (String × String) := []
  deriving DecidableEq, Repr

namespace NameMap

instance : EmptyCollection NameMap := ⟨⟨[]⟩⟩

def key (name : String) : String :=
  Text.lower name

def putPair (name value : String) : List (String × String) → List (String × String)
  | [] => [(name, value)]
  | (n, v) :: rest =>
    if key n = key name then (name, value) :: rest else (n, v) :: putPair name value rest

/-- A name keeps its first place, and takes its last spelling and value. -/
def put (name value : String) (m : NameMap) : NameMap :=
  ⟨putPair name value m.pairs⟩

def get? (name : String) (m : NameMap) : Option String :=
  (m.pairs.find? fun (n, _) => key n = key name).map (·.2)

def putAll (m : NameMap) (pairs : List (String × String)) : NameMap :=
  pairs.foldl (fun m (n, v) => m.put n v) m

def ofPairs (pairs : List (String × String)) : NameMap :=
  putAll ∅ pairs

end NameMap
end WebScript
