import Mathlib.Data.List.Nodup
import WebScript.Proofs.Except
import WebScript.Script.Load
import WebScript.Text.Case

namespace WebScript

theorem Text.foldChar_ne_nil (c : Char) : foldChar c ≠ [] := by
  have table : ∀ e ∈ CaseTable.foldedSequences, e.2 ≠ [] := by decide +kernel
  rw [foldChar]
  split
  · exact List.cons_ne_nil _ _
  · split
    · next codes h =>
      obtain ⟨l₁, _, he, _⟩ := List.lookup_eq_some_iff.1 h
      have hmem : (c.toNat, codes) ∈ CaseTable.foldedSequences := by
        rw [he]
        simp
      intro hnil
      exact table _ hmem (List.map_eq_nil_iff.1 hnil)
    · exact List.cons_ne_nil _ _

theorem Text.eq_empty_of_fold {s : String} (h : fold s = "") : s = "" := by
  rw [fold, String.ofList_eq_empty_iff, List.flatMap_eq_nil_iff] at h
  rw [← String.toList_eq_nil_iff]
  exact List.eq_nil_iff_forall_not_mem.2 fun c hc => foldChar_ne_nil c (h c hc)

namespace Script

/-- No two targets of a script have the same name, without regard to case. -/
def NamesDiffer (script : Script) : Prop :=
  (script.targets.map fun t => Text.fold t.name).Nodup

def Named (script : Script) : Prop :=
  ∀ t ∈ script.targets, t.name ≠ ""

variable {script : Script} {name : String} {t u : Target}

theorem NamesDiffer.eq_of_fold_eq (h : script.NamesDiffer) (ht : t ∈ script.targets)
    (hu : u ∈ script.targets) (same : Text.fold t.name = Text.fold u.name) : t = u :=
  List.inj_on_of_nodup_map h ht hu same

theorem find?_mem (h : script.find? name = some t) : t ∈ script.targets :=
  List.mem_of_find?_eq_some h

theorem find?_fold (h : script.find? name = some t) : Text.fold t.name = Text.fold name := by
  simpa using List.find?_some h

/-- Where all targets have names, no target is found without one. -/
theorem Named.ne_empty (h : script.Named) (found : script.find? name = some t) : name ≠ "" := by
  rintro rfl
  exact h t (find?_mem found) (Text.eq_empty_of_fold (find?_fold found))

end Script

theorem requiredText_ne_empty {key text : String} {e : LoadError} {fields : Fields}
    (h : requiredText key e fields = .ok text) : text ≠ "" := by
  obtain ⟨text, _, h⟩ := Except.bind_eq_ok.1 h
  split at h
  · cases h
  · cases h
  · next filled _ =>
    cases h
    exact filled

theorem Target.ofFields_name {fields : Fields} {t : Target} (h : ofFields fields = .ok t) :
    t.name ≠ "" := by
  obtain ⟨name, hname, h⟩ := Except.bind_eq_ok.1 h
  obtain ⟨_, _, h⟩ := Except.bind_eq_ok.1 h
  cases h
  exact requiredText_ne_empty hname

theorem freshName_eq_ok {seen : List String} {t : Target} {key : String} :
    freshName seen t = .ok key ↔ Text.fold t.name ∉ seen ∧ key = Text.fold t.name := by
  by_cases used : Text.fold t.name ∈ seen
  · simp [freshName, used]
  · simp [freshName, used, eq_comm]

theorem targetsOf_names {seen : List String} {index : Nat} {vs : List Value} {ts : List Target}
    (h : targetsOf seen index vs = .ok ts) :
    (∀ t ∈ ts, t.name ≠ "") ∧ (ts.map fun t => Text.fold t.name).Nodup ∧
      ∀ t ∈ ts, Text.fold t.name ∉ seen := by
  induction vs generalizing seen index ts with
  | nil =>
    cases h
    simp
  | cons v rest ih =>
    obtain ⟨fields, _, h⟩ := Except.bind_eq_ok.1 h
    obtain ⟨target, ht, h⟩ := Except.bind_eq_ok.1 h
    obtain ⟨key, hkey, h⟩ := Except.bind_eq_ok.1 h
    obtain ⟨ts', hrest, h⟩ := Except.bind_eq_ok.1 h
    cases h
    obtain ⟨hseen, rfl⟩ := freshName_eq_ok.1 hkey
    obtain ⟨hnamed, hnodup, hfresh⟩ := ih hrest
    refine ⟨?_, ?_, ?_⟩
    · exact List.forall_mem_cons.2 ⟨Target.ofFields_name ht, hnamed⟩
    · rw [List.map_cons, List.nodup_cons]
      refine ⟨fun hm => ?_, hnodup⟩
      obtain ⟨u, hu, he⟩ := List.mem_map.1 hm
      exact hfresh u hu (he ▸ List.mem_cons_self)
    · refine List.forall_mem_cons.2 ⟨hseen, fun u hu hs => ?_⟩
      exact hfresh u hu (List.mem_cons_of_mem _ hs)

theorem Script.ofValue_names {v : Value} {script : Script} (h : ofValue v = .ok script) :
    script.Named ∧ script.NamesDiffer := by
  obtain ⟨_, _, h⟩ := Except.bind_eq_ok.1 h
  obtain ⟨root, _, h⟩ := Except.bind_eq_ok.1 h
  obtain ⟨_, _, h⟩ := Except.bind_eq_ok.1 h
  obtain ⟨items, _, h⟩ := Except.bind_eq_ok.1 h
  obtain ⟨targets, htargets, h⟩ := Except.bind_eq_ok.1 h
  dsimp only at h
  split at h
  · cases h
  · cases h
    obtain ⟨hnamed, hnodup, _⟩ := targetsOf_names htargets
    exact ⟨hnamed, hnodup⟩

end WebScript
