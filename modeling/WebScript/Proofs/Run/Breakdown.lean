import WebScript.Proofs.Page.Extraction
import WebScript.Proofs.Run.Halting
import WebScript.Proofs.Run.Ways

namespace WebScript

variable {σ : Type} {a : Accessor σ} {b : Breakdown}

/-- What an action asks for brings a page on which its rules break down. -/
def Action.Breaks (a : Accessor σ) (s : Session σ) (action : Action) (b : Breakdown) : Prop :=
  ∃ q page, action.asking? s = some q ∧ q.Brings a s page ∧
    Extractor.Breaks page b q.extractor.queries

theorem Extractor.extract_eq_breakdown {x : Extractor} {page : Page} :
    x.extract page = .error (.breakdown b) ↔ Breaks page b x.queries :=
  answers_eq_breakdown

theorem exchange_of_brings {q : Asking} {s : Session σ} {page : Page} {f : Failure}
    (h : q.Brings a s page) (broken : q.extractor.extract page = .error f) :
    ∃ t, exchange a q.exchange q.extractor q.request s = (.error f, t) := by
  obtain ⟨r, response, request, answer, status, read⟩ := h
  rw [exchange, request, obtain_of_answer answer, accept_of_mem status, read]
  exact ⟨_, takeOutputs_of_error broken⟩

/-- An action ends with a breakdown exactly where its rules break down on the page that it brings.
-/
theorem perform_breakdown_iff {action : Action} {s : Session σ} :
    (∃ t, perform a action s = some (.error (.breakdown b), t)) ↔ action.Breaks a s b := by
  constructor
  · rintro ⟨t, h⟩
    obtain ⟨u, hc, _⟩ := perform_eq_some h
    cases hq : action.asking? s with
    | none => rcases carryOut_of_no_asking hq hc with he | ⟨_, he⟩ <;> cases he
    | some q =>
      rw [carryOut_of_asking hq] at hc
      have exchanged := exchange_cases (Option.some.inj hc)
      generalize hr : q.request = request at exchanged
      cases exchanged with
      | broken answer status read broken =>
        exact ⟨q, _, hq, ⟨_, _, hr, answer, status, read⟩,
          Extractor.extract_eq_breakdown.1 broken⟩
  · rintro ⟨q, page, hq, brings, breaks⟩
    obtain ⟨t, he⟩ := exchange_of_brings brings (Extractor.extract_eq_breakdown.2 breaks)
    rw [perform, carryOut_of_asking hq, he]
    exact ⟨t, rfl⟩

namespace Runner

variable {r : Runner σ} {script : Script} {inputs : Dict} {target : Option String} {remote : σ}
  {m : Moment σ} {e : Ended σ Outcome}

def Moment.Breaks (a : Accessor σ) (m : Moment σ) (b : Breakdown) : Prop :=
  ∃ action rest, m.actions = action :: rest ∧ action.Breaks a m.session b

theorem entry_eq_error {f : Failure} (h : entry script target = .error f) : ∃ e, f = .script e := by
  rw [entry] at h
  split at h
  · cases h
    exact ⟨_, rfl⟩
  · split at h <;> cases h
    exact ⟨_, rfl⟩

theorem Moment.Ends.breaks (h : m.Ends (r.prepared script) script e)
    (prepared : (r.prepare script.targets).1 = .ok ()) (he : e.1 = .error (.breakdown b)) :
    m.Breaks r.accessor b := by
  cases h with
  | finished => cases he
  | halt h =>
    obtain ⟨result, hp, halts⟩ := step_halt h
    rw [prepared_accessor] at hp
    cases he
    cases halts
    exact ⟨_, _, rfl, perform_breakdown_iff.1 ⟨_, hp⟩⟩
  | unready h faulty =>
    -- All targets have been made ready before the run began.
    obtain ⟨_, _, _, found, _⟩ := step_call h
    obtain ⟨actions, ready⟩ := exists_actionsOf_prepared prepared (Script.find?_mem found)
    cases ready.symm.trans faulty

theorem exists_breaks_of_run {fin : Finished σ} (prepared : (r.prepare script.targets).1 = .ok ())
    (h : r.run script inputs target remote = some fin)
    (hres : fin.result = .error (.breakdown b)) :
    ∃ m, r.ComesTo script inputs target remote m ∧ m.Breaks r.accessor b := by
  rcases exists_ends_of_run h with ⟨f, hf, _, early, _⟩ | ⟨m, e, comes, ends, rfl⟩
  · cases hf.symm.trans hres
    rcases early with early | early
    · obtain ⟨fault, hfault⟩ := entry_eq_error early
      cases hfault
    · cases prepared.symm.trans early
  · rw [finish_result] at hres
    exact ⟨m, comes, ends.breaks prepared (Except.map_eq_error.1 hres)⟩

theorem ComesTo.run_of_breaks (h : r.ComesTo script inputs target remote m)
    (breaks : m.Breaks r.accessor b) :
    ∃ fin, r.run script inputs target remote = some fin ∧ fin.result = .error (.breakdown b) := by
  obtain ⟨action, rest, next, breaks⟩ := breaks
  obtain ⟨s, hp⟩ := perform_breakdown_iff.2 breaks
  obtain ⟨fin, hrun, hres, _⟩ := (h.stopsAt ⟨action, rest, next, hp⟩ rfl).run
  exact ⟨fin, hrun, hres⟩

/-- A run whose rules have been made ready ends with a breakdown exactly if it comes to an action
whose page is asked for an attribute that can have no such name. In all other cases it returns a
report or raises a fault of the script, whatever the pages, the rules and the accessor are. -/
theorem run_breakdown_iff (prepared : (r.prepare script.targets).1 = .ok ()) :
    (∀ b, (∃ fin, r.run script inputs target remote = some fin ∧
        fin.result = .error (.breakdown b)) ↔
      ∃ m, r.ComesTo script inputs target remote m ∧ m.Breaks r.accessor b) ∧
    ∀ fin, r.run script inputs target remote = some fin →
      (∃ report, fin.result = .ok report) ∨ (∃ fault, fin.result = .error (.script fault)) ∨
        ∃ m b, r.ComesTo script inputs target remote m ∧ m.Breaks r.accessor b ∧
          fin.result = .error (.breakdown b) := by
  refine ⟨fun b => ⟨?_, ?_⟩, fun fin h => ?_⟩
  · rintro ⟨fin, h, hres⟩
    exact exists_breaks_of_run prepared h hres
  · rintro ⟨m, comes, breaks⟩
    exact comes.run_of_breaks breaks
  · cases hres : fin.result with
    | ok report => exact .inl ⟨report, rfl⟩
    | error f =>
      cases f with
      | script fault => exact .inr (.inl ⟨fault, rfl⟩)
      | breakdown b =>
        obtain ⟨m, comes, breaks⟩ := exists_breaks_of_run prepared h hres
        exact .inr (.inr ⟨m, b, comes, breaks, rfl⟩)

/-- A script whose rule asks each page for an attribute without a name. -/
def peekData : Value :=
  .map [(.text "default_target", .text "Main"),
    (.text "targets", .list [.map [(.text "name", .text "Main"),
      (.text "actions", .list [
        .map [(.text "fetch", .map [(.text "url", .text "http://shop/"),
          (.text "outputs", .list [.map [(.text "name", .text "link"),
            (.text "xpath", .text "."), (.text "attr", .text "\x7b")]])])]])]])]

def peekRule : Rule :=
  { name := "link", xpath := some ".", attr := some "\x7b" }

def peekMain : Target :=
  ⟨"Main", [.fetch "http://shop/" { rules := [peekRule] }]⟩

def peek : Script :=
  { targets := [peekMain], defaultTarget := some "Main" }

def peekFetch : Action :=
  .fetch "http://shop/" { rules := [peekRule] } ⟨[peekRule], [], [(peekRule, ⟨.context⟩)]⟩

def letters : Runner Unit :=
  new ⟨fun _ s => (.ok ⟨200, "http://shop/", "x", none⟩, s)⟩ 64

def letterPage : Page :=
  ⟨"http://shop/", "x", Document.ofNodes? (Html.nodesOf "x"), []⟩

def peekMoment : Moment Unit :=
  ⟨[], peekMain, [peekFetch], .done, start [] ()⟩

theorem peek_opens : letters.Opens peek [] none () peekMoment where
  begins := {
    entry := by rfl
    prepared := by with_unfolding_all rfl
    ready := by with_unfolding_all rfl
    callers := rfl
    session := rfl }
  waiting := rfl
  last := rfl

theorem peek_breaks : peekMoment.Breaks letters.accessor (.badValue "Invalid tag name") := by
  have asked : peekFetch.asking? (start [] ()) =
      some ⟨{ rules := [peekRule] }, ⟨[peekRule], [], [(peekRule, ⟨.context⟩)]⟩,
        .ok (.fetch "http://shop/" [])⟩ := by
    rw [peekFetch, Action.asking?, fetchRequest, Template.resolve?_of_no_opener (by decide)]
    rfl
  have read : Page.ofText "http://shop/" "x" = .ok letterPage := by with_unfolding_all rfl
  have broken : Extractor.extract letterPage ⟨[peekRule], [], [(peekRule, ⟨.context⟩)]⟩ =
    .error (.breakdown (.badValue "Invalid tag name")) := by decide
  exact ⟨peekFetch, [], rfl, _, letterPage, asked, ⟨_, _, rfl, rfl, by decide, read⟩,
    Extractor.extract_eq_breakdown.1 broken⟩

theorem peek_ends_so : (letters.prepare peek.targets).1 = .ok () ∧
    letters.ComesTo peek [] none () peekMoment ∧
    peekMoment.Breaks letters.accessor (.badValue "Invalid tag name") ∧
    ∃ fin, letters.run peek [] none () = some fin ∧
      fin.result = .error (.breakdown (.badValue "Invalid tag name")) := by
  have prepared := peek_opens.begins.prepared
  have comes : letters.ComesTo peek [] none () peekMoment := ⟨_, peek_opens, .refl⟩
  exact ⟨prepared, comes, peek_breaks,
    ((run_breakdown_iff prepared).1 _).2 ⟨peekMoment, comes, peek_breaks⟩⟩

/-- The script is loaded and made ready, and the run still ends with neither a report nor a fault of
the script. -/
theorem peek_escapes : Script.ofValue peekData = .ok peek ∧
    (letters.prepare peek.targets).1 = .ok () ∧
    ∃ fin, letters.run peek [] none () = some fin ∧
      fin.result = .error (.breakdown (.badValue "Invalid tag name")) ∧
      (∀ report, fin.result ≠ .ok report) ∧ ∀ fault, fin.result ≠ .error (.script fault) := by
  obtain ⟨fin, hrun, hres⟩ := ComesTo.run_of_breaks ⟨_, peek_opens, .refl⟩ peek_breaks
  refine ⟨by with_unfolding_all rfl, peek_opens.begins.prepared, fin, hrun, hres, ?_, ?_⟩
  · intro report
    rw [hres]
    exact nofun
  · intro fault
    rw [hres]
    exact nofun

end Runner
end WebScript
