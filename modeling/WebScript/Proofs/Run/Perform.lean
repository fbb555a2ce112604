import WebScript.Proofs.Run.Exchange
import WebScript.Proofs.Template.Resolution

namespace WebScript

variable {σ : Type} {a : Accessor σ}

/-- A later state of a run at the same depth, between the jumps. -/
structure Session.Onward (s t : Session σ) : Prop where
  depth : t.depth = s.depth
  inputs : t.inputs = s.inputs
  journal : ∃ new, t.journal = s.journal ++ new ∧ ∀ x ∈ new, x.depth = s.depth

theorem Session.Onward.refl (s : Session σ) : s.Onward s :=
  ⟨rfl, rfl, [], (List.append_nil _).symm, by simp⟩

theorem Session.Onward.trans {s t u : Session σ} (h : s.Onward t) (h' : t.Onward u) :
    s.Onward u := by
  obtain ⟨new, hj, hd⟩ := h.journal
  obtain ⟨new', hj', hd'⟩ := h'.journal
  refine ⟨h'.depth.trans h.depth, h'.inputs.trans h.inputs, new ++ new', ?_, ?_⟩
  · rw [hj', hj, List.append_assoc]
  · intro x hx
    rcases List.mem_append.1 hx with hx | hx
    · exact hd x hx
    · rw [hd' x hx, h.depth]

theorem Session.Onward.note (s : Session σ) (e : Event) : s.Onward (s.note e) :=
  ⟨rfl, rfl, [⟨s.depth, e⟩], rfl, by simp⟩

theorem send_onward (r : Request) (s : Session σ) : s.Onward (s.send a r).2 :=
  ⟨rfl, rfl, [⟨s.depth, .requested r⟩], rfl, by simp⟩

theorem Session.Onward.page (s : Session σ) (page : Option Page) :
    s.Onward { s with page := page } :=
  ⟨rfl, rfl, [], (List.append_nil _).symm, by simp⟩

theorem Session.Onward.took (s : Session σ) (page : Page) (values : NameMap) :
    s.Onward (s.took page values) :=
  ⟨rfl, rfl, [⟨s.depth, .extracted values⟩], rfl, by simp⟩

theorem Exchanged.onward {accepted : List Int} {x : Extractor} {request : Except Failure Request}
    {s : Session σ} {e : Ended σ Outcome} (h : Exchanged a accepted x s request e) :
    s.Onward e.2 := by
  cases h with
  | faulty => exact .refl s
  | unmade => exact .refl s
  | raised => exact send_onward _ s
  | lost => exact send_onward _ s
  | rejected => exact send_onward _ s
  | unread => exact send_onward _ s
  | broken => exact (send_onward _ s).trans (.page _ _)
  | taken => exact (send_onward _ s).trans (.took _ _ _)

theorem carryOut_onward {action : Action} {s : Session σ} {e : Ended σ Outcome}
    (h : carryOut a action s = some e) : s.Onward e.2 := by
  cases hq : action.asking? s with
  | none => rcases carryOut_of_no_asking hq h with rfl | ⟨_, rfl⟩ <;> exact .refl s
  | some q =>
    rw [carryOut_of_asking hq] at h
    exact (exchange_cases (Option.some.inj h)).onward

/-- An action leaves the depth and the inputs alone, and all it notes stands at that depth. -/
theorem perform_onward {action : Action} {s : Session σ} {e : Ended σ Outcome}
    (h : perform a action s = some e) : s.Onward e.2 := by
  obtain ⟨⟨result, t⟩, hc, rfl⟩ := Option.map_eq_some_iff.1 h
  have ht := carryOut_onward hc
  cases result with
  | error f => exact ht
  | ok outcome => exact ht.trans (.note t _)

/-- The templates that merging overrides into a form resolves: each one up to the first override
that fails. -/
inductive Form.Resolves (form : Form) (scope : Scope) : List String → List Override → String → Prop
  | head {names o rest text} (h : o.template? = some text) :
      Resolves form scope names (o :: rest) text
  | tail {names o rest text v} (given : form.given? scope (spelling names o.name) o = some (.ok v))
      (h : Resolves form scope (noteName names o.name) rest text) :
      Resolves form scope names (o :: rest) text

inductive Action.Resolves (s : Session σ) : Action → String → Prop
  | url {url x extractor} : Resolves s (.fetch url x extractor) url
  | value {choice overrides x extractor form text} (chosen : choice.select s.page = .ok form)
      (h : form.Resolves s.scope (form.values.map (·.1)) overrides text) :
      Resolves s (.submit choice overrides x extractor) text
  | property {property value inner} : Resolves s (.branch property value inner) property
  | inner {property value inner actual text}
      (resolved : Template.resolve? s.scope property = some actual)
      (same : Text.sameFolded actual value = true) (h : Resolves s inner text) :
      Resolves s (.branch property value inner) text
  | target {target} : Resolves s (.jump target) target

theorem Form.given?_eq_none {form : Form} {scope : Scope} {field : String} {o : Override}
    (h : form.given? scope field o = none) :
    ∃ text, o.template? = some text ∧ Template.resolve? scope text = none := by
  rw [given?] at h
  split at h
  · cases h
  · next text ht => exact ⟨text, ht, Option.map_eq_none_iff.1 h⟩

theorem Form.override_eq_none {form : Form} {scope : Scope} {names : List String}
    {overrides : List Override} {d : Dict} (h : form.override scope names overrides d = none) :
    ∃ text, form.Resolves scope names overrides text ∧ Template.resolve? scope text = none := by
  induction overrides generalizing names d with
  | nil => cases h
  | cons o rest ih =>
    rw [override] at h
    split at h
    · next hg =>
      obtain ⟨text, ht, hn⟩ := given?_eq_none hg
      exact ⟨text, .head ht, hn⟩
    · cases h
    · next v hg =>
      obtain ⟨text, ht, hn⟩ := ih h
      exact ⟨text, .tail hg ht, hn⟩

theorem submitRequest_eq_none {choice : FormChoice} {overrides : List Override} {x : Exchange}
    {extractor : Extractor} {s : Session σ} (h : submitRequest choice overrides x s = none) :
    ∃ text, (Action.submit choice overrides x extractor).Resolves s text ∧
      Template.resolve? s.scope text = none := by
  rw [submitRequest] at h
  split at h
  · cases h
  · next form hc =>
    obtain ⟨text, ht, hn⟩ := Form.override_eq_none (Option.map_eq_none_iff.1 h)
    exact ⟨text, .value hc ht, hn⟩

/-- An action comes to an end unless one of the templates that it resolves does not. -/
theorem carryOut_eq_none {action : Action} {s : Session σ} (h : carryOut a action s = none) :
    ∃ text, action.Resolves s text ∧ Template.resolve? s.scope text = none := by
  induction action with
  | fetch url x extractor =>
    exact ⟨url, .url, Option.map_eq_none_iff.1 (Option.map_eq_none_iff.1 h)⟩
  | submit choice overrides x extractor =>
    exact submitRequest_eq_none (Option.map_eq_none_iff.1 h)
  | branch property value inner ih =>
    rw [carryOut] at h
    split at h
    · next hp => exact ⟨property, .property, hp⟩
    · next actual hp =>
      split at h
      · next hs =>
        obtain ⟨text, ht, hn⟩ := ih h
        exact ⟨text, .inner hp hs ht, hn⟩
      · cases h
  | jump target => exact ⟨target, .target, Option.map_eq_none_iff.1 h⟩

/-- A fetch whose address has no placeholders is an exchange for that address. -/
theorem perform_fetch {url : String} {x : Exchange} {extractor : Extractor} {s : Session σ}
    (h : Template.hasOpener url = false) :
    perform a (.fetch url x extractor) s =
      some (noted (exchange a x extractor (.ok (.fetch url x.options)) s)) := by
  rw [perform, carryOut, fetchRequest, Template.resolve?_of_no_opener h]
  rfl

/-- Performing an action executes a jump, its own or that of the branches it matches, and the target
of that jump resolves to a name. -/
inductive Action.Jumps (s : Session σ) : Action → String → Prop
  | jump {target name} (resolved : Template.resolve? s.scope target = some name) :
      Jumps s (.jump target) name
  | branch {property value inner actual name}
      (resolved : Template.resolve? s.scope property = some actual)
      (same : Text.sameFolded actual value = true) (h : Jumps s inner name) :
      Jumps s (.branch property value inner) name

theorem Action.Jumps.carryOut {action : Action} {s : Session σ} {name : String}
    (h : action.Jumps s name) : carryOut a action s = some (.ok (.jump name), s) := by
  induction h with
  | jump resolved => rw [WebScript.carryOut, resolved]; rfl
  | branch resolved same _ ih => rw [WebScript.carryOut, resolved]; simp only [same, if_true, ih]

theorem Extractor.verdict_ne_jump (x : Extractor) (values : NameMap) (name : String) :
    x.verdict values ≠ .jump name := by
  intro h
  rw [verdict] at h
  cases hm : x.mismatch? values <;> rw [hm] at h <;> cases h

theorem exchange_ne_jump {x : Exchange} {extractor : Extractor} {request : Except Failure Request}
    {s : Session σ} {e : Ended σ Outcome} (h : exchange a x extractor request s = e)
    (name : String) : e.1 ≠ .ok (.jump name) := by
  cases exchange_cases h with
  | taken =>
    intro he
    exact Extractor.verdict_ne_jump _ _ name (Except.ok.inj he)
  | _ => exact nofun

theorem jumps_of_carryOut {action : Action} {s t : Session σ} {name : String}
    (h : carryOut a action s = some (.ok (.jump name), t)) : action.Jumps s name ∧ t = s := by
  induction action with
  | fetch url x extractor =>
    obtain ⟨request, _, he⟩ := Option.map_eq_some_iff.1 h
    exact absurd rfl (exchange_ne_jump he name)
  | submit choice overrides x extractor =>
    obtain ⟨request, _, he⟩ := Option.map_eq_some_iff.1 h
    exact absurd rfl (exchange_ne_jump he name)
  | branch property value inner ih =>
    rw [carryOut] at h
    split at h
    · cases h
    · next actual hp =>
      split at h
      · next hs => exact ⟨.branch hp hs (ih h).1, (ih h).2⟩
      · cases h
  | jump target =>
    obtain ⟨name', hr, he⟩ := Option.map_eq_some_iff.1 h
    cases he
    exact ⟨.jump hr, rfl⟩

/-- An action ends by asking for a target exactly where it executes a jump to it. -/
theorem perform_jump_iff {action : Action} {s t : Session σ} {name : String} :
    perform a action s = some (.ok (.jump name), t) ↔
      action.Jumps s name ∧ t = s.note (.performed (.jump name)) := by
  constructor
  · intro h
    obtain ⟨⟨result, u⟩, hc, hn⟩ := Option.map_eq_some_iff.1 h
    cases result with
    | error f => cases hn
    | ok outcome =>
      cases hn
      obtain ⟨hj, rfl⟩ := jumps_of_carryOut hc
      exact ⟨hj, rfl⟩
  · rintro ⟨hj, rfl⟩
    rw [perform, hj.carryOut]
    rfl

end WebScript
