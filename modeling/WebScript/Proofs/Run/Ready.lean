import WebScript.Proofs.Script.Names
import WebScript.Proofs.Script.Sameness
import WebScript.Run.Runner

namespace WebScript

theorem Ready.target_of_ofTarget {t : Target} {known : Ready} (h : ofTarget t = .ok known) :
    known.target = t := by
  rw [ofTarget] at h
  split at h <;> cases h
  rfl

theorem Ready.exists_ofTarget {t : Target} {actions : List Action} (h : t.actions = .ok actions) :
    ∃ known, ofTarget t = .ok known := by
  rw [ofTarget]
  split
  · exact ⟨_, rfl⟩
  · next he => rw [h] at he; cases he

theorem Ready.actions_of_ofTarget_error {t : Target} {f : Failure} (h : ofTarget t = .error f) :
    t.actions = .error f := by
  rw [ofTarget] at h
  split at h
  · cases h
  · next he => cases h; exact he

namespace Runner

variable {σ : Type} {r : Runner σ}

@[simp] theorem prepareTarget_accessor (t : Target) :
    (r.prepareTarget t).2.accessor = r.accessor := by
  rw [prepareTarget]
  split
  · rfl
  · split <;> rfl

@[simp] theorem prepareTarget_maxJumpDepth (t : Target) :
    (r.prepareTarget t).2.maxJumpDepth = r.maxJumpDepth := by
  rw [prepareTarget]
  split
  · rfl
  · split <;> rfl

theorem known?_mem {t : Target} {known : Ready} (h : r.known? t = some known) :
    known ∈ r.ready ∧ known.target.same t = true := by
  rw [known?] at h
  exact ⟨List.mem_of_find?_eq_some h, by simpa using List.find?_some h⟩

theorem prepareTarget_ok {t : Target} (h : (r.prepareTarget t).1 = .ok ()) :
    ∃ known ∈ (r.prepareTarget t).2.ready, known.target.same t = true := by
  rw [prepareTarget] at h ⊢
  split
  · next known hk => exact ⟨known, known?_mem hk⟩
  · next hk =>
    rw [hk] at h
    dsimp only at h ⊢
    split
    · next known hr =>
      refine ⟨known, List.mem_cons_self, ?_⟩
      rw [Ready.target_of_ofTarget hr, t.same_refl]
    · next f hr => rw [hr] at h; cases h

/-- Making a target ready adds at most that target to what the runner knows, and only if nothing
that is the same has been known before. -/
theorem prepareTarget_ready (t : Target) :
    (r.prepareTarget t).2.ready = r.ready ∨
      r.known? t = none ∧ ∃ known, known.target = t ∧
        (r.prepareTarget t).2.ready = known :: r.ready := by
  rw [prepareTarget]
  split
  · exact .inl rfl
  · next unknown =>
    split
    · next known made => exact .inr ⟨unknown, known, Ready.target_of_ofTarget made, rfl⟩
    · exact .inl rfl

theorem prepareTarget_of_actions {t : Target} {actions : List Action}
    (h : t.actions = .ok actions) :
    (r.prepareTarget t).1 = .ok () := by
  rw [prepareTarget]
  split
  · rfl
  · obtain ⟨known, hk⟩ := Ready.exists_ofTarget h
    rw [hk]

theorem prepare_cons_ok {t : Target} {rest : List Target} (h : (r.prepareTarget t).1 = .ok ()) :
    r.prepare (t :: rest) = (r.prepareTarget t).2.prepare rest := by
  rw [prepare]
  split
  · next hr => rw [hr]
  · next f r' hr => rw [hr] at h; cases h

theorem prepare_cons_error {t : Target} {rest : List Target} {f : Failure}
    (h : (r.prepareTarget t).1 = .error f) :
    r.prepare (t :: rest) = (.error f, (r.prepareTarget t).2) := by
  rw [prepare]
  split
  · next hr => rw [hr] at h; cases h
  · next f r' hr => rw [hr] at h ⊢; cases h; rfl

@[simp] theorem prepare_accessor (ts : List Target) : (r.prepare ts).2.accessor = r.accessor := by
  induction ts generalizing r with
  | nil => rfl
  | cons t rest ih =>
    cases h : (r.prepareTarget t).1 with
    | ok => rw [prepare_cons_ok h, ih, prepareTarget_accessor]
    | error f => rw [prepare_cons_error h, prepareTarget_accessor]

@[simp] theorem prepare_maxJumpDepth (ts : List Target) :
    (r.prepare ts).2.maxJumpDepth = r.maxJumpDepth := by
  induction ts generalizing r with
  | nil => rfl
  | cons t rest ih =>
    cases h : (r.prepareTarget t).1 with
    | ok => rw [prepare_cons_ok h, ih, prepareTarget_maxJumpDepth]
    | error f => rw [prepare_cons_error h, prepareTarget_maxJumpDepth]

/-- What a runner comes to know by making targets ready is put before what it has known, and nothing
of it was known. -/
theorem prepare_ready (ts : List Target) :
    ∃ new, (r.prepare ts).2.ready = new ++ r.ready ∧
      ∀ known ∈ new, known.target ∈ ts ∧ r.known? known.target = none := by
  induction ts generalizing r with
  | nil => exact ⟨[], rfl, nofun⟩
  | cons t rest ih =>
    have first := r.prepareTarget_ready t
    cases ht : (r.prepareTarget t).1 with
    | error f =>
      rw [prepare_cons_error ht]
      rcases first with same | ⟨unknown, known, target, more⟩
      · exact ⟨[], same, nofun⟩
      · refine ⟨[known], more, fun known' hm => ?_⟩
        cases List.mem_singleton.1 hm
        rw [target]
        exact ⟨List.mem_cons_self, unknown⟩
    | ok =>
      rw [prepare_cons_ok ht]
      obtain ⟨new, added, fresh⟩ := ih (r := (r.prepareTarget t).2)
      rcases first with same | ⟨unknown, known, target, more⟩
      · rw [same] at added
        refine ⟨new, added, fun known' hm => ?_⟩
        obtain ⟨mem, unknown'⟩ := fresh known' hm
        rw [known?, same] at unknown'
        exact ⟨List.mem_cons_of_mem _ mem, unknown'⟩
      · rw [more] at added
        refine ⟨new ++ [known], by rw [added, List.append_assoc]; rfl, fun known' hm => ?_⟩
        rcases List.mem_append.1 hm with hm | hm
        · obtain ⟨mem, unknown'⟩ := fresh known' hm
          rw [known?, more, List.find?_eq_none] at unknown'
          refine ⟨List.mem_cons_of_mem _ mem, List.find?_eq_none.2 fun known'' hm => ?_⟩
          exact unknown' known'' (List.mem_cons_of_mem _ hm)
        · cases List.mem_singleton.1 hm
          rw [target]
          exact ⟨List.mem_cons_self, unknown⟩

theorem prepare_ready_sub {ts : List Target} {known : Ready} (h : known ∈ r.ready) :
    known ∈ (r.prepare ts).2.ready := by
  obtain ⟨new, added, _⟩ := r.prepare_ready ts
  rw [added]
  exact List.mem_append_right _ h

theorem prepareTarget_error {t : Target} {f : Failure} (h : (r.prepareTarget t).1 = .error f) :
    t.actions = .error f := by
  rw [prepareTarget] at h
  split at h
  · cases h
  · split at h
    · cases h
    · next hr => cases h; exact Ready.actions_of_ofTarget_error hr

theorem prepare_error {ts : List Target} {f : Failure} (h : (r.prepare ts).1 = .error f) :
    ∃ t ∈ ts, t.actions = .error f := by
  induction ts generalizing r with
  | nil => cases h
  | cons t rest ih =>
    cases ht : (r.prepareTarget t).1 with
    | ok =>
      rw [prepare_cons_ok ht] at h
      obtain ⟨u, hu, hf⟩ := ih h
      exact ⟨u, List.mem_cons_of_mem _ hu, hf⟩
    | error f' =>
      rw [prepare_cons_error ht] at h
      cases h
      exact ⟨t, List.mem_cons_self, prepareTarget_error ht⟩

/-- Where targets have been made ready, the runner knows each of them. -/
theorem prepare_ok {ts : List Target} (h : (r.prepare ts).1 = .ok ()) {t : Target} (ht : t ∈ ts) :
    ∃ known ∈ (r.prepare ts).2.ready, known.target.same t = true := by
  induction ts generalizing r with
  | nil => cases ht
  | cons u rest ih =>
    cases hu : (r.prepareTarget u).1 with
    | error f => rw [prepare_cons_error hu] at h; cases h
    | ok =>
      rw [prepare_cons_ok hu] at h ⊢
      rcases List.mem_cons.1 ht with rfl | ht
      · obtain ⟨known, hm, hs⟩ := prepareTarget_ok hu
        exact ⟨known, prepare_ready_sub hm, hs⟩
      · exact ih h ht

theorem prepare_of_actions {ts : List Target} (h : ∀ t ∈ ts, ∃ actions, t.actions = .ok actions) :
    (r.prepare ts).1 = .ok () := by
  induction ts generalizing r with
  | nil => rfl
  | cons t rest ih =>
    obtain ⟨actions, ht⟩ := h t List.mem_cons_self
    rw [prepare_cons_ok (prepareTarget_of_actions ht)]
    exact ih fun u hu => h u (List.mem_cons_of_mem _ hu)

def new (a : Accessor σ) (maxJumpDepth : Int) : Runner σ :=
  { accessor := a, maxJumpDepth }

def prepared (r : Runner σ) (script : Script) : Runner σ :=
  (r.prepare script.targets).2

@[simp] theorem prepared_accessor {script : Script} :
    (r.prepared script).accessor = r.accessor :=
  prepare_accessor _

@[simp] theorem prepared_maxJumpDepth {script : Script} :
    (r.prepared script).maxJumpDepth = r.maxJumpDepth :=
  prepare_maxJumpDepth _

theorem exists_actionsOf_prepared {script : Script} (ok : (r.prepare script.targets).1 = .ok ())
    {t : Target} (ht : t ∈ script.targets) :
    ∃ actions, (r.prepared script).actionsOf t = .ok actions := by
  obtain ⟨known, hm, hs⟩ := prepare_ok ok ht
  cases hk : (r.prepared script).known? t with
  | some known => exact ⟨known.actions, by rw [actionsOf, hk]⟩
  | none => exact absurd hs (List.find?_eq_none.1 hk known hm)

/-- A runner that is ready for a script without repeated names performs for each of its targets what
it would have made ready for that target alone. -/
theorem actionsOf_prepared_eq {script : Script} (names : script.NamesDiffer)
    (ok : (r.prepare script.targets).1 = .ok ()) {t : Target} (ht : t ∈ script.targets) :
    (r.prepared script).actionsOf t = r.actionsOf t := by
  obtain ⟨new, added, fresh⟩ := r.prepare_ready script.targets
  have own {known : Ready} (hm : known ∈ new) (hs : known.target.same t = true) :
      known.target = t ∧ r.known? t = none := by
    obtain ⟨mem, unknown⟩ := fresh known hm
    have name := Target.name_eq_of_same hs
    have target := names.eq_of_fold_eq mem ht (congrArg Text.fold name)
    exact ⟨target, target ▸ unknown⟩
  have lookup : (r.prepared script).known? t =
      (new.find? fun known => known.target.same t).or (r.known? t) := by
    rw [known?, prepared, added, List.find?_append]
    rfl
  cases hn : new.find? fun known => known.target.same t with
  | some known =>
    have hs : known.target.same t = true := by simpa using List.find?_some hn
    obtain ⟨target, unknown⟩ := own (List.mem_of_find?_eq_some hn) hs
    rw [hn, Option.some_or] at lookup
    rw [actionsOf, actionsOf, lookup, unknown]
    exact (target ▸ known.made).symm
  | none =>
    rw [hn, Option.none_or] at lookup
    cases hk : r.known? t with
    | some known => rw [actionsOf, actionsOf, lookup, hk]
    | none =>
      obtain ⟨known, hm, hs⟩ := prepare_ok ok ht
      rw [hk] at lookup
      exact absurd hs (List.find?_eq_none.1 lookup known hm)

/-- A new runner that is ready for a script performs for each of its targets that target's own
actions. -/
theorem actionsOf_prepared {script : Script} (new : r.ready = []) (names : script.NamesDiffer)
    (ok : (r.prepare script.targets).1 = .ok ()) {t : Target} (ht : t ∈ script.targets) :
    ∃ actions, t.actions = .ok actions ∧ (r.prepared script).actionsOf t = .ok actions := by
  obtain ⟨actions, ready⟩ := exists_actionsOf_prepared ok ht
  have unknown : r.known? t = none := by rw [known?, new]; rfl
  have own : r.actionsOf t = t.actions := by rw [actionsOf, unknown]
  have made : t.actions = .ok actions := by rw [← own, ← actionsOf_prepared_eq names ok ht, ready]
  exact ⟨actions, made, ready⟩

end Runner
end WebScript
