import WebScript.Proofs.Pairs

namespace WebScript.NameMap

variable {m : NameMap} {name value : String} {puts : List (String × String)}

/-- What identifies the names of a map, in its order. -/
def keys (m : NameMap) : List String :=
  m.pairs.map fun p => key p.1

/-- All pairs of another map put into a map. -/
def update (m values : NameMap) : NameMap :=
  m.putAll values.pairs

/-- The last pair with a name among pairs. -/
def lastOf (name : String) (puts : List (String × String)) : Option (String × String) :=
  puts.reverse.find? fun p => key p.1 = key name

/-- What a map is after pairs have been put into the empty one in turn. -/
structure Records (m : NameMap) (puts : List (String × String)) : Prop where
  keys : m.keys = (puts.map fun p => key p.1).eraseDups
  nodup : m.keys.Nodup
  last : ∀ p ∈ m.pairs, lastOf p.1 puts = some p

theorem putPair_eq (pairs : List (String × String)) :
    putPair name value pairs = Pairs.put key name value pairs := by
  induction pairs with
  | nil => rfl
  | cons q rest ih => rw [putPair, Pairs.put, ih]

theorem records_iff : m.Records puts ↔ Pairs.Records key m.pairs puts := by
  constructor
  · intro h
    exact ⟨h.keys, h.nodup, h.last⟩
  · intro h
    exact ⟨h.names, h.nodup, h.last⟩

theorem Records.empty : Records ∅ [] :=
  ⟨rfl, List.nodup_nil, nofun⟩

theorem Records.put (h : m.Records puts) (name value : String) :
    (m.put name value).Records (puts ++ [(name, value)]) := by
  rw [records_iff, NameMap.put, putPair_eq]
  exact (records_iff.1 h).put name value

theorem Records.putAll (h : m.Records puts) (more : List (String × String)) :
    (m.putAll more).Records (puts ++ more) := by
  induction more generalizing m puts with
  | nil => rwa [List.append_nil]
  | cons p more ih =>
    have hm := ih (h.put p.1 p.2)
    rwa [List.append_assoc] at hm

theorem Records.foldl (h : m.Records puts) (maps : List NameMap) :
    (maps.foldl update m).Records (puts ++ maps.flatMap pairs) := by
  induction maps generalizing m puts with
  | nil => simpa using h
  | cons values maps ih =>
    have hm := ih (h.putAll values.pairs)
    rwa [List.append_assoc] at hm

/-- What is found by a name is the value that has been put there last. -/
theorem Records.get?_eq (h : m.Records puts) (name : String) :
    m.get? name = (lastOf name puts).map (·.2) := by
  have found := (records_iff.1 h).find?_eq name
  rw [get?]
  exact congrArg _ found

/-- What is found by a name is one of the values. -/
theorem mem_of_get? (h : m.get? name = some value) : value ∈ m.pairs.map (·.2) := by
  obtain ⟨p, found, rfl⟩ := Option.map_eq_some_iff.1 h
  exact List.mem_map_of_mem (List.mem_of_find?_eq_some found)

end WebScript.NameMap
