import Mathlib.Data.List.Nodup
import WebScript.Dict

namespace WebScript

theorem eraseDups_of_nodup {α : Type} [BEq α] [LawfulBEq α] {l : List α} (h : l.Nodup) :
    l.eraseDups = l := by
  induction l with
  | nil => rfl
  | cons a l ih =>
    obtain ⟨fresh, h⟩ := List.nodup_cons.1 h
    have others : (l.filter fun b => !b == a) = l := by
      apply List.filter_eq_self.2
      intro b hb
      have differs : b ≠ a := fun same => fresh (same ▸ hb)
      simpa using differs
    rw [List.eraseDups_cons, others, ih h]

namespace Pairs

variable {f : String → String} {name name' value : String} {p : String × String}
  {pairs puts : List (String × String)}

/-- Puts a pair in the place of the one whose name `f` does not tell from its own. -/
def put (f : String → String) (name value : String) :
    List (String × String) → List (String × String)
  | [] => [(name, value)]
  | (n, v) :: rest =>
    if f n = f name then (name, value) :: rest else (n, v) :: put f name value rest

def lastOf (f : String → String) (name : String) (puts : List (String × String)) :
    Option (String × String) :=
  puts.reverse.find? fun p => f p.1 = f name

/-- What pairs are after others have been put among none in turn. -/
structure Records (f : String → String) (pairs puts : List (String × String)) : Prop where
  names : (pairs.map fun p => f p.1) = (puts.map fun p => f p.1).eraseDups
  nodup : (pairs.map fun p => f p.1).Nodup
  last : ∀ p ∈ pairs, lastOf f p.1 puts = some p

theorem names_put (f : String → String) (name value : String) (pairs : List (String × String)) :
    ((put f name value pairs).map fun p => f p.1) =
      if f name ∈ pairs.map fun p => f p.1 then pairs.map fun p => f p.1
      else (pairs.map fun p => f p.1) ++ [f name] := by
  induction pairs with
  | nil => rfl
  | cons q rest ih =>
    rw [put]
    by_cases h : f q.1 = f name
    · simp [h]
    · have h' : ¬f name = f q.1 := fun h' => h h'.symm
      simp only [if_neg h, List.map_cons, ih, List.mem_cons, h', false_or]
      split <;> rfl

/-- Of a name that is put among pairs no other pair is left. -/
theorem mem_put (nodup : (pairs.map fun p => f p.1).Nodup) (h : p ∈ put f name value pairs) :
    p = (name, value) ∨ p ∈ pairs ∧ f p.1 ≠ f name := by
  induction pairs with
  | nil => exact .inl (List.mem_singleton.1 h)
  | cons q rest ih =>
    obtain ⟨fresh, nodup⟩ := List.nodup_cons.1 nodup
    rw [put] at h
    split at h
    · next same =>
      rcases List.mem_cons.1 h with rfl | h
      · exact .inl rfl
      · refine .inr ⟨List.mem_cons_of_mem _ h, fun hp => fresh ?_⟩
        exact List.mem_map.2 ⟨p, h, hp.trans same.symm⟩
    · next other =>
      rcases List.mem_cons.1 h with rfl | h
      · exact .inr ⟨List.mem_cons_self, other⟩
      · rcases ih nodup h with hp | ⟨hp, hk⟩
        · exact .inl hp
        · exact .inr ⟨List.mem_cons_of_mem _ hp, hk⟩

theorem lastOf_congr (h : f name = f name') : lastOf f name puts = lastOf f name' puts := by
  rw [lastOf, lastOf, h]

theorem lastOf_concat_self : lastOf f name (puts ++ [(name, value)]) = some (name, value) := by
  simp [lastOf]

theorem lastOf_concat_of_ne (h : f p.1 ≠ f name) :
    lastOf f p.1 (puts ++ [(name, value)]) = lastOf f p.1 puts := by
  simp [lastOf, h.symm]

theorem lastOf_append (f : String → String) (name : String) (puts more : List (String × String)) :
    lastOf f name (puts ++ more) = (lastOf f name more).or (lastOf f name puts) := by
  rw [lastOf, List.reverse_append, List.find?_append]
  rfl

theorem lastOf_eq_none : lastOf f name puts = none ↔ f name ∉ puts.map fun p => f p.1 := by
  simp [lastOf]

theorem lastOf_eq_some (h : lastOf f name puts = some p) : p ∈ puts ∧ f p.1 = f name := by
  have mem := List.mem_of_find?_eq_some h
  have same := List.find?_some h
  exact ⟨List.mem_reverse.1 mem, by simpa using same⟩

/-- Among pairs whose names all differ, each is the last with its name. -/
theorem lastOf_of_mem (nodup : (pairs.map fun p => f p.1).Nodup) (h : p ∈ pairs) :
    lastOf f p.1 pairs = some p := by
  cases hl : lastOf f p.1 pairs with
  | none => exact absurd (List.mem_map.2 ⟨p, h, rfl⟩) (lastOf_eq_none.1 hl)
  | some q =>
    obtain ⟨mem, same⟩ := lastOf_eq_some hl
    rw [List.inj_on_of_nodup_map nodup mem h same]

namespace Records

/-- Pairs whose names all differ record themselves. -/
theorem self (nodup : (pairs.map fun p => f p.1).Nodup) : Records f pairs pairs :=
  ⟨(eraseDups_of_nodup nodup).symm, nodup, fun _ => lastOf_of_mem nodup⟩

theorem put (h : Records f pairs puts) (name value : String) :
    Records f (put f name value pairs) (puts ++ [(name, value)]) where
  names := by
    have hk : (f name ∈ pairs.map fun p => f p.1) ↔ f name ∈ puts.map fun p => f p.1 := by
      rw [h.names, List.mem_eraseDups]
    rw [names_put, List.map_append, List.eraseDups_append, ← h.names]
    by_cases known : f name ∈ pairs.map fun p => f p.1
    · simp [known, hk.1 known, List.removeAll]
    · simp [known, mt hk.2 known, List.removeAll, List.eraseDups_cons]
  nodup := by
    rw [names_put]
    split
    · exact h.nodup
    · next fresh => exact h.nodup.append (List.nodup_singleton _) (List.disjoint_singleton.2 fresh)
  last p hp := by
    rcases mem_put h.nodup hp with rfl | ⟨hp, hk⟩
    · exact lastOf_concat_self
    · rw [lastOf_concat_of_ne hk]
      exact h.last p hp

theorem putAll (h : Records f pairs puts) (more : List (String × String)) :
    Records f (more.foldl (fun done p => Pairs.put f p.1 p.2 done) pairs) (puts ++ more) := by
  induction more generalizing pairs puts with
  | nil => rwa [List.append_nil]
  | cons p more ih =>
    have hm := ih (h.put p.1 p.2)
    rwa [List.append_assoc] at hm

/-- What is found by a name is what has been put there last. -/
theorem find?_eq (h : Records f pairs puts) (name : String) :
    pairs.find? (fun p => f p.1 = f name) = lastOf f name puts := by
  cases found : pairs.find? fun p => f p.1 = f name with
  | some p =>
    have same : f p.1 = f name := by simpa using List.find?_some found
    rw [← lastOf_congr same, h.last p (List.mem_of_find?_eq_some found)]
  | none =>
    symm
    rw [lastOf_eq_none]
    intro known
    rw [← List.mem_eraseDups, ← h.names] at known
    obtain ⟨p, hp, same⟩ := List.mem_map.1 known
    exact absurd (by simpa using same) (List.find?_eq_none.1 found p hp)

end Records
end Pairs
end WebScript
