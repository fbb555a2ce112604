import WebScript.Proofs.NameMap

namespace WebScript

variable {name spelling value : String} {d merged puts config given : Dict}
  {p : String × String}

namespace Dict

/-- The last pair with a name in just this spelling. -/
def lastOf (spelling : String) (puts : Dict) : Option (String × String) :=
  puts.reverse.find? fun p => p.1 = spelling

/-- No two pairs have a name in the same spelling. -/
def SpellingsDiffer (d : Dict) : Prop :=
  (d.map (·.1)).Nodup

/-- Of the spellings of a name, in the order in which they first come in, the last. -/
def lastSpelling? (name : String) (puts : Dict) : Option String :=
  (puts.map (·.1)).eraseDups.reverse.find? fun s => NameMap.key s = NameMap.key name

theorem put_eq (d : Dict) : d.put name value = Pairs.put id name value d := by
  induction d with
  | nil => rfl
  | cons q rest ih =>
    rw [put, Pairs.put, ih]
    by_cases same : q.1 = name
    · simp [same]
    · simp [same]

theorem names_put (d : Dict) (name value : String) :
    (d.put name value).map (·.1) =
      if name ∈ d.map (·.1) then d.map (·.1) else d.map (·.1) ++ [name] := by
  have names := Pairs.names_put id name value d
  rwa [← put_eq] at names

theorem mem_names_put {key : String} :
    key ∈ (d.put name value).map (·.1) ↔ key ∈ d.map (·.1) ∨ key = name := by
  rw [names_put]
  split
  · next known =>
    constructor
    · exact .inl
    · rintro (old | rfl)
      · exact old
      · exact known
  · rw [List.mem_append, List.mem_singleton]

theorem get?_cons (p : String × String) (d : Dict) (key : String) :
    get? key (p :: d) = if key = p.1 then some p.2 else d.get? key := by
  obtain ⟨n, v⟩ := p
  rw [get?, List.lookup_cons]
  by_cases own : key = n
  · simp [own]
  · have other : (key == n) = false := by simpa using own
    rw [other, if_neg own]
    rfl

theorem get?_put (d : Dict) (name value key : String) :
    (d.put name value).get? key = if key = name then some value else d.get? key := by
  induction d with
  | nil => exact get?_cons _ _ _
  | cons p d ih =>
    rw [put]
    by_cases same : p.1 = name
    · rw [if_pos same, get?_cons, get?_cons, same]
      by_cases own : key = name <;> simp [own]
    · rw [if_neg same, get?_cons, get?_cons, ih]
      by_cases first : key = p.1
      · simp [first, same]
      · simp [first]

theorem mem_names_of_get? (h : d.get? name = some value) : name ∈ d.map (·.1) := by
  obtain ⟨before, after, rfl, -⟩ := List.lookup_eq_some_iff.1 h
  rw [List.map_append, List.map_cons]
  exact List.mem_append_right _ List.mem_cons_self

theorem put_spellingsDiffer (differ : d.SpellingsDiffer) (name value : String) :
    (d.put name value).SpellingsDiffer := by
  have own : Pairs.Records id d d := .self differ
  rw [put_eq]
  exact (own.put name value).nodup

/-- All pairs of another map put into a map in turn. -/
def putAll (d more : Dict) : Dict :=
  more.foldl (fun d (n, v) => d.put n v) d

theorem putAll_eq (d more : Dict) :
    d.putAll more = more.foldl (fun d p => Pairs.put id p.1 p.2 d) d := by
  simp only [putAll, put_eq]

theorem records_putAll (differ : d.SpellingsDiffer) (more : Dict) :
    Pairs.Records id (d.putAll more) (d ++ more) := by
  have own : Pairs.Records id d d := .self differ
  rw [putAll_eq]
  exact own.putAll more

theorem put_of_fresh (fresh : name ∉ d.map (·.1)) (value : String) :
    d.put name value = d ++ [(name, value)] := by
  induction d with
  | nil => rfl
  | cons p d ih =>
    rw [List.map_cons, List.mem_cons, not_or] at fresh
    rw [put, if_neg (Ne.symm fresh.1), ih fresh.2, List.cons_append]

theorem putAll_of_differ {more : Dict} (differ : SpellingsDiffer (d ++ more)) :
    d.putAll more = d ++ more := by
  induction more generalizing d with
  | nil => exact (List.append_nil d).symm
  | cons p more ih =>
    have fresh : p.1 ∉ d.map (·.1) := by
      rw [SpellingsDiffer, List.map_append, List.map_cons, List.nodup_middle] at differ
      exact fun known => (List.nodup_cons.1 differ).1 (List.mem_append_left _ known)
    have same : d ++ p :: more = (d.put p.1 p.2) ++ more := by
      rw [put_of_fresh fresh, List.append_assoc, List.singleton_append]
    rw [same] at differ ⊢
    exact ih differ

/-- Pairs whose names all differ are a map. -/
theorem ofPairs_of_differ {pairs : Dict} (differ : pairs.SpellingsDiffer) :
    ofPairs pairs = pairs :=
  putAll_of_differ (d := []) differ

theorem ofPairs_spellingsDiffer (pairs : List (String × String)) :
    (ofPairs pairs).SpellingsDiffer := by
  have records := records_putAll (d := []) List.nodup_nil pairs
  exact records.nodup

theorem lastOf_append (spelling : String) (puts more : Dict) :
    lastOf spelling (puts ++ more) = (lastOf spelling more).or (lastOf spelling puts) :=
  Pairs.lastOf_append id spelling puts more

theorem lastOf_eq_some (h : lastOf spelling puts = some p) : p.1 = spelling :=
  (Pairs.lastOf_eq_some (f := id) h).2

theorem lastOf_eq_none_of_name (h : NameMap.lastOf name puts = none)
    (same : NameMap.key spelling = NameMap.key name) : lastOf spelling puts = none := by
  apply (Pairs.lastOf_eq_none (f := id)).2
  intro known
  obtain ⟨p, hp, spelled⟩ := List.mem_map.1 known
  have spelled : p.1 = spelling := spelled
  exact Pairs.lastOf_eq_none.1 h (List.mem_map.2 ⟨p, hp, by rw [spelled, same]⟩)

theorem lastSpelling?_eq_some (h : lastSpelling? name puts = some spelling) :
    spelling ∈ puts.map (·.1) ∧ NameMap.key spelling = NameMap.key name := by
  have mem := List.mem_of_find?_eq_some h
  have same := List.find?_some h
  rw [List.mem_reverse, List.mem_eraseDups] at mem
  exact ⟨mem, by simpa using same⟩

theorem exists_lastSpelling? (hp : p ∈ puts) (h : NameMap.key p.1 = NameMap.key name) :
    ∃ s, lastSpelling? name puts = some s := by
  cases hs : lastSpelling? name puts with
  | some s => exact ⟨s, rfl⟩
  | none =>
    have mem : p.1 ∈ (puts.map (·.1)).eraseDups.reverse := by
      rw [List.mem_reverse, List.mem_eraseDups]
      exact List.mem_map.2 ⟨p, hp, rfl⟩
    exact absurd (by simpa using h) (List.find?_eq_none.1 hs p.1 mem)

/-- Pairs without a name make no difference to its last spelling. -/
theorem lastSpelling?_append (h : NameMap.lastOf name given = none) :
    lastSpelling? name (config ++ given) = lastSpelling? name config := by
  have absent : ∀ s ∈ given.map (·.1), NameMap.key s ≠ NameMap.key name := by
    intro s hs same
    obtain ⟨p, hp, rfl⟩ := List.mem_map.1 hs
    exact Pairs.lastOf_eq_none.1 h (List.mem_map.2 ⟨p, hp, same⟩)
  rw [lastSpelling?, List.map_append, List.eraseDups_append, List.reverse_append, List.find?_append]
  have none : (((given.map (·.1)).removeAll (config.map (·.1))).eraseDups.reverse.find?
      fun s => NameMap.key s = NameMap.key name) = none := by
    apply List.find?_eq_none.2
    intro s hs same
    rw [List.mem_reverse, List.mem_eraseDups, List.removeAll, List.mem_filter] at hs
    exact absent s hs.1 (by simpa using same)
  rw [none, Option.none_or]
  rfl

end Dict

namespace NameMap

theorem get?_ofPairs (pairs : List (String × String)) (name : String) :
    (ofPairs pairs).get? name = (lastOf name pairs).map (·.2) := by
  have records : (ofPairs pairs).Records pairs := Records.empty.putAll pairs
  exact records.get?_eq name

/-- Of a plain map, the last pair with a name is the last that has been put there with the last
spelling of the name. -/
theorem lastOf_of_records (h : Pairs.Records id merged puts) (name : String) :
    lastOf name merged = (Dict.lastSpelling? name puts).bind fun s => Dict.lastOf s puts := by
  -- The spellings of the map stand in the order in which they first came in.
  have spellings : merged.map (·.1) = (puts.map (·.1)).eraseDups := h.names
  have spelling : Dict.lastSpelling? name puts = (lastOf name merged).map (·.1) := by
    rw [Dict.lastSpelling?, ← spellings, ← List.map_reverse, List.find?_map]
    rfl
  rw [spelling]
  cases hl : lastOf name merged with
  | none => rfl
  | some p =>
    have mem := (Pairs.lastOf_eq_some (f := key) hl).1
    have last : Dict.lastOf p.1 puts = some p := h.last p mem
    rw [Option.map_some, Option.bind_some, last]

theorem lastOf_spelling (h : lastOf name given = some (spelling, value)) :
    Dict.lastOf spelling given = some (spelling, value) := by
  obtain ⟨same, later, earlier, split, others⟩ := List.find?_eq_some_iff_append.1 h
  rw [Dict.lastOf, List.find?_eq_some_iff_append]
  refine ⟨by simp, later, earlier, split, ?_⟩
  intro p hp
  have differs := others p hp
  have same : key spelling = key name := by simpa using same
  by_contra alike
  have alike : p.1 = spelling := by simpa using alike
  simp [alike, same] at differs

end NameMap
end WebScript
