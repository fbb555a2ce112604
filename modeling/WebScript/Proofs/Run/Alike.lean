import WebScript.Proofs.Run.Likeness

namespace WebScript

variable {σ α : Type} {a : Accessor σ} {s t u : Session σ}

/-- Two states that agree on what actions read and on the requests sent so far. -/
structure Session.Alike (s t : Session σ) : Prop where
  inputs : t.inputs = s.inputs
  outputs : t.outputs = s.outputs
  page : t.page = s.page
  remote : t.remote = s.remote
  requests : t.requests = s.requests

/-- The same value or failure, in states that are alike. -/
inductive Ended.Alike : Ended σ α → Ended σ α → Prop
  | intro {result : Except Failure α} {s t : Session σ} (h : s.Alike t) :
      Alike (result, s) (result, t)

namespace Session.Alike

theorem refl (s : Session σ) : s.Alike s :=
  ⟨rfl, rfl, rfl, rfl, rfl⟩

theorem symm (h : s.Alike t) : t.Alike s :=
  ⟨h.inputs.symm, h.outputs.symm, h.page.symm, h.remote.symm, h.requests.symm⟩

theorem trans (h : s.Alike t) (h' : t.Alike u) : s.Alike u :=
  ⟨h'.inputs.trans h.inputs, h'.outputs.trans h.outputs, h'.page.trans h.page,
    h'.remote.trans h.remote, h'.requests.trans h.requests⟩

/-- Entering a target shows in the depth and in the journal only. -/
theorem enter (s : Session σ) (callee : Target) : (s.enter callee).Alike s :=
  ⟨rfl, rfl, rfl, rfl, (s.enter_requests callee).symm⟩

theorem leave (s : Session σ) (callee : Target) : (s.leave callee).Alike s :=
  ⟨rfl, rfl, rfl, rfl, (s.leave_requests callee).symm⟩

theorem performed (s : Session σ) (outcome : Outcome) : (s.note (.performed outcome)).Alike s :=
  ⟨rfl, rfl, rfl, rfl, by simp [Event.request?]⟩

end Session.Alike

theorem Session.like_eq_iff : s.Like Eq t ↔ s.Alike t := by
  constructor
  · intro h
    exact ⟨h.inputs, h.outputs, h.page, h.remote, (Request.forall₂_like_eq.1 h.requests).symm⟩
  · intro h
    exact ⟨h.inputs, h.outputs, h.page, h.remote, Request.forall₂_like_eq.2 h.requests.symm⟩

/-- Actions cannot tell states apart that are alike. -/
theorem perform_alike (h : s.Alike t) (action : Action) :
    Option.Rel Ended.Alike (perform a action s) (perform a action t) := by
  have like := perform_like a.overlooks_eq (Session.like_eq_iff.2 h) (.refl action)
  cases hs : perform a action s <;> cases ht : perform a action t <;>
    rw [hs, ht] at like <;> cases like
  · exact .none
  · next same =>
    obtain @⟨result, u, v, huv⟩ := same
    exact .some (.intro (Session.like_eq_iff.1 huv))

end WebScript
