import WebScript.Proofs.Run.Point

namespace WebScript.Runner

variable {σ : Type} {r : Runner σ} {script : Script} {inputs : Dict} {target : Option String}
  {remote : σ}

/-- What is left of a target comes to an end where every action does that the run gets to. -/
theorem inTurn_ends {p : Point σ}
    (h : ∀ q, r.Reaches script p q → ∀ action rest, q.actions = action :: rest →
      r.step script q.target action q.session ≠ none) (last : Outcome) :
    ∃ e, r.inTurn script p.target p.actions last p.session = some e := by
  induction p using (leads_wellFounded r script).induction generalizing last with
  | _ p ih =>
    have onward {q : Point σ} (hq : r.Leads script p q) (last : Outcome) :=
      ih q hq (fun q' hq' => h q' (.head hq hq')) last
    obtain ⟨callers, t, actions, s⟩ := p
    cases actions with
    | nil => exact ⟨_, inTurn_nil⟩
    | cons action rest =>
      cases hs : r.step script t action s with
      | none => exact absurd hs (h _ .refl action rest rfl)
      | some next =>
        cases next with
        | halt result s' => exact ⟨_, inTurn_halt hs⟩
        | goOn last' s' =>
          rw [inTurn_goOn hs]
          exact onward (.goOn hs) last'
        | call callee s' =>
          rw [inTurn_call hs]
          cases hready : r.actionsOf callee with
          | error f =>
            rw [runTarget_of_error hready]
            exact ⟨_, rfl⟩
          | ok actions =>
            rw [runTarget_of_ok hready]
            obtain ⟨⟨result, s''⟩, hbody⟩ := onward (.enter hs hready) .done
            rw [hbody]
            cases hstop : halts result with
            | true => exact ⟨_, andThen_of_halts hstop⟩
            | false =>
              obtain ⟨last', rfl, ok⟩ := ok_of_halts_false hstop
              obtain ⟨e, he⟩ :=
                onward (.back hs ((runTarget_of_ok hready).trans hbody) ok) last'
              exact ⟨e, (andThen_of_ok ok).trans he⟩

theorem step_ne_none {t : Target} {action : Action} {s : Session σ}
    (h : ∀ text, action.Resolves s text → (Template.resolve? s.scope text).isSome) :
    r.step script t action s ≠ none := by
  intro hn
  obtain ⟨text, ht, hr⟩ :=
    carryOut_eq_none (Option.map_eq_none_iff.1 (Option.map_eq_none_iff.1 hn))
  simpa [hr] using h text ht

/-- From each point of a run to the next there are fewer jumps that may still be nested, or as many
and fewer actions left; and the run comes to an end if each template does that it resolves on its
way. -/
theorem run_terminates (r : Runner σ) (script : Script) (inputs : Dict) (target : Option String)
    (remote : σ)
    (resolves : ∀ p, r.Visits script inputs target remote p →
      ∀ action rest, p.actions = action :: rest →
      ∀ text, action.Resolves p.session text → (Template.resolve? p.session.scope text).isSome) :
    (∀ p q, (r.prepared script).Leads script p q →
        Prod.Lex (· < ·) (· < ·) (q.ahead (r.prepared script)) (p.ahead (r.prepared script))) ∧
      ∃ fin, r.run script inputs target remote = some fin := by
  refine ⟨fun p q h => h.ahead_lt, ?_⟩
  rcases run_begins_or_fails r script inputs target remote with ⟨f, fin, hrun, _⟩ | ⟨p, hb⟩
  · exact ⟨fin, hrun⟩
  · obtain ⟨e, he⟩ := inTurn_ends (fun q hq action rest ha =>
      step_ne_none (resolves q ⟨p, hb, hq⟩ action rest ha)) .done
    exact ⟨_, by rw [hb.run, he]; rfl⟩

theorem circle_terminates : ∃ fin, (blank 3).run circle [] none () = some fin := by
  refine (run_terminates (blank 3) circle [] none () ?_).2
  intro p hp action rest ha text ht
  have hm : action ∈ p.actions := by
    rw [ha]
    exact List.mem_cons_self
  obtain ⟨t, hmem, actions, hactions, haction⟩ := hp.action_mem hm
  have names : circle.NamesDiffer := List.nodup_singleton _
  obtain ⟨own, hown, hready⟩ := actionsOf_prepared (r := blank 3) rfl names rfl hmem
  rw [hready] at hactions
  cases hactions
  cases List.mem_singleton.1 hmem
  cases hown
  cases List.mem_singleton.1 haction
  cases ht
  rw [Template.resolve?_of_no_opener (by decide)]
  rfl

end WebScript.Runner
