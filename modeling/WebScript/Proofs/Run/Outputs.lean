import WebScript.Proofs.Except
import WebScript.Proofs.Run.Calls
import WebScript.Proofs.Run.Course

namespace WebScript.Runner

variable {σ : Type}

def Moment.call? (a : Accessor σ) (m : Moment σ) : Option Call :=
  m.actions.head?.bind (Action.call? a m.session)

inductive Calls (r : Runner σ) (script : Script) : Moment σ → List Call → Moment σ → Prop
  | refl {m} : Calls r script m [] m
  | head {m m' m'' calls} (h : r.Follows script m m') (after : Calls r script m' calls m'') :
      Calls r script m ((m.call? r.accessor).toList ++ calls) m''

/-- The calls of a run, from its first moment to the last one. -/
def Makes (r : Runner σ) (script : Script) (inputs : Dict) (target : Option String) (remote : σ)
    (calls : List Call) : Prop :=
  ∃ m₀ before m, r.Opens script inputs target remote m₀ ∧
    (r.prepared script).Calls script m₀ before m ∧
    (∀ m', ¬(r.prepared script).Follows script m m') ∧
    calls = before ++ (m.call? r.accessor).toList

variable {r : Runner σ} {script : Script} {inputs : Dict} {target : Option String} {remote : σ}
  {m m' : Moment σ} {e : Ended σ Outcome} {calls : List Call}

theorem Precedes.exists_calls (h : r.Precedes script m m') :
    ∃ calls, r.Calls script m calls m' := by
  induction h using Relation.ReflTransGen.head_induction_on with
  | refl => exact ⟨_, .refl⟩
  | head h _ ih =>
    obtain ⟨calls, after⟩ := ih
    exact ⟨_, .head h after⟩

theorem Calls.unique {m₀ : Moment σ} {calls' : List Call} (h : r.Calls script m₀ calls m)
    (h' : r.Calls script m₀ calls' m') (last : ∀ n, ¬r.Follows script m n)
    (last' : ∀ n, ¬r.Follows script m' n) : calls = calls' ∧ m = m' := by
  induction h generalizing calls' with
  | refl =>
    cases h' with
    | refl => exact ⟨rfl, rfl⟩
    | head h => exact absurd h (last _)
  | head h _ ih =>
    cases h' with
    | refl => exact absurd h (last' _)
    | head h₁ after =>
      cases follows_unique r script h h₁
      obtain ⟨rfl, rfl⟩ := ih after last
      exact ⟨rfl, rfl⟩

theorem Makes.unique {calls' : List Call} (h : r.Makes script inputs target remote calls)
    (h' : r.Makes script inputs target remote calls') : calls = calls' := by
  obtain ⟨m₀, before, m, opens, hm, last, rfl⟩ := h
  obtain ⟨m₁, before', m', opens', hm', last', rfl⟩ := h'
  cases opens.unique opens'
  obtain ⟨rfl, rfl⟩ := hm.unique hm' last last'
  rfl

theorem enter_gathers (callee : Target) (s : Session σ) :
    s.Gathers r.accessor [] (s.enter callee) :=
  .nothing rfl (Session.enter_requests s callee) rfl rfl

theorem leave_gathers (callee : Target) (s : Session σ) :
    s.Gathers r.accessor [] (s.leave callee) :=
  .nothing rfl (Session.leave_requests s callee) rfl rfl

theorem unwind_gathers (t : Target) (waiting : List Waiting) (s : Session σ) :
    s.Gathers r.accessor [] (unwind t waiting s) :=
  .nothing (unwind_inputs t waiting s) (unwind_requests t waiting s) (unwind_remote t waiting s)
    (unwind_outputs t waiting s)

/-- From one moment to the next, the call of the action in between is made, and what it has brought
is added in full. -/
theorem Follows.gathers (h : r.Follows script m m') :
    m.session.Gathers r.accessor (m.call? r.accessor).toList m'.session ∧
      ∀ c ∈ m.call? r.accessor, c.Extracts := by
  cases h with
  | goOn h =>
    have adds := perform_adds (step_goOn h).1
    exact ⟨adds.gathers, adds.extracts _ rfl⟩
  | @enter _ _ _ _ _ _ callee s' _ h ready =>
    obtain ⟨name, hp, _⟩ := step_call h
    have adds := perform_adds hp
    refine ⟨?_, adds.extracts _ rfl⟩
    have entered := adds.gathers.trans (enter_gathers callee s')
    rwa [List.append_nil] at entered
  | back ok => exact ⟨leave_gathers _ _, fun c hc => absurd hc (Option.not_mem_none c)⟩

theorem Calls.gathers (h : r.Calls script m calls m') :
    m.session.Gathers r.accessor calls m'.session ∧ ∀ c ∈ calls, c.Extracts := by
  induction h with
  | refl => exact ⟨.nothing rfl rfl rfl rfl, by simp⟩
  | head h _ ih =>
    obtain ⟨gathers, extracts⟩ := h.gathers
    refine ⟨gathers.trans ih.1, fun c hc => ?_⟩
    rcases List.mem_append.1 hc with hc | hc
    · exact extracts c (Option.mem_toList.1 hc)
    · exact ih.2 c hc

theorem Moment.Ends.adds (h : m.Ends r script e) :
    m.session.Adds r.accessor (m.call? r.accessor) e := by
  cases h with
  | finished => exact .none (.nothing rfl rfl rfl rfl)
  | halt h =>
    obtain ⟨result, hp, halts⟩ := step_halt h
    refine (perform_adds hp).later (unwind_gathers _ _ _) fun outcome ok => ?_
    cases halts with
    | failed => exact ⟨_, rfl⟩
    | error => cases ok
    | notFound => cases ok
    | tooDeep => cases ok
  | @unready waiting t _ _ _ _ callee s' _ h faulty =>
    obtain ⟨name, hp, _⟩ := step_call h
    have left := (enter_gathers (r := r) callee s').trans (leave_gathers callee _)
    exact (perform_adds hp).later (left.trans (unwind_gathers t waiting _)) nofun

theorem ComesTo.inputs_eq (h : r.ComesTo script inputs target remote m) :
    m.session.inputs = .ofPairs inputs := by
  obtain ⟨m₀, opens, hm⟩ := h
  obtain ⟨calls, hc⟩ := hm.exists_calls
  rw [hc.gathers.1.inputs, opens.session]
  rfl

theorem ComesTo.exists_calls (h : r.ComesTo script inputs target remote m)
    (ends : m.Ends (r.prepared script) script e) :
    ∃ calls, r.Makes script inputs target remote calls ∧
      (start inputs remote).Gathers r.accessor calls e.2 ∧
      ∀ outcome, e.1 = .ok outcome → ∀ c ∈ calls, c.Extracts := by
  obtain ⟨m₀, opens, hm⟩ := h
  obtain ⟨before, hbefore⟩ := hm.exists_calls
  obtain ⟨earlier, complete⟩ := hbefore.gathers
  have adds := ends.adds
  have all := earlier.trans adds.gathers
  have last := adds.extracts
  rw [opens.session] at all
  simp only [prepared_accessor] at all last
  refine ⟨_, ⟨m₀, before, m, opens, hbefore, fun _ => ends.not_follows, rfl⟩, all, ?_⟩
  intro outcome ok c hc
  rcases List.mem_append.1 hc with hc | hc
  · exact complete c hc
  · exact last outcome ok c (Option.mem_toList.1 hc)

/-- The outputs of a run that returns a result, whether it is a good one or not, are the values of
the pages that its calls have brought, and of nothing else, put into the empty map in the order of
the calls. A page counts as soon as its status is accepted and it can be read. -/
theorem outputs_of_run {fin : Finished σ} {report : Report}
    (h : r.run script inputs target remote = some fin) (hres : fin.result = .ok report) :
    ∃ calls, (∀ calls', r.Makes script inputs target remote calls' ↔ calls' = calls) ∧
      fin.session.requests = calls.map Call.request ∧
      r.accessor.Answers remote calls fin.session.remote ∧
      (∀ c ∈ calls, ∀ page, c.page? = some page → ∃ values, c.extractor.extract page = .ok values) ∧
      report.outputs = (calls.filterMap Call.values?).foldl NameMap.update ∅ ∧
      report.outputs.Records ((calls.filterMap Call.values?).flatMap NameMap.pairs) ∧
      report.outputs.keys.Nodup ∧
      fin.session.inputs = .ofPairs inputs ∧
      ∀ m, r.ComesTo script inputs target remote m → m.session.inputs = .ofPairs inputs := by
  rcases exists_ends_of_run h with ⟨_, herror, _⟩ | ⟨m, e, comes, ends, rfl⟩
  · cases herror.symm.trans hres
  · obtain ⟨outcome, hok, rfl⟩ : ∃ outcome, e.1 = .ok outcome ∧
      ⟨outcome, e.2.outputs⟩ = report := by
      rw [finish_result] at hres
      exact Except.map_eq_ok.1 hres
    obtain ⟨calls, makes, gathers, extracts⟩ := comes.exists_calls ends
    have outputs : e.2.outputs = (calls.filterMap Call.values?).foldl NameMap.update ∅ :=
      gathers.outputs
    have records : e.2.outputs.Records ((calls.filterMap Call.values?).flatMap NameMap.pairs) := by
      rw [outputs]
      exact NameMap.Records.empty.foldl _
    refine ⟨calls, fun calls' =>
      ⟨fun h => h.unique makes, ?_⟩, ?_, ?_, extracts outcome hok, outputs,
      records, records.nodup, ?_, fun m => ComesTo.inputs_eq⟩
    · rintro rfl
      exact makes
    · rw [finish_session, gathers.requests]
      rfl
    · rw [finish_session]
      exact gathers.answers
    · rw [finish_session, gathers.inputs]
      rfl

def wholeText (name : String) (expected : Option String) : Rule :=
  { name, xpath := some ".", expected }

def wholeTextExtractor (name : String) (expected : Option String) : Extractor :=
  ⟨[wholeText name expected], [], [(wholeText name expected, ⟨.context⟩)]⟩

def visitMain : Target :=
  ⟨"Main", [.fetch "http://shop/" { rules := [wholeText "title" none] }, .jump "Side"]⟩

def visitSide : Target :=
  ⟨"Side", [.fetch "http://shop/cart" { rules := [wholeText "TITLE" (some "Empty")] }]⟩

/-- A script that takes a title and then, in another target, takes it again in another spelling. -/
def visit : Script :=
  { targets := [visitMain, visitSide], defaultTarget := some "Main" }

/-- A runner that finds other words on each page. -/
def shopping : Runner Nat :=
  new ⟨fun _ n => (.ok ⟨200, "http://shop/", if n = 0 then "Shop" else "Cart", none⟩, n + 1)⟩ 64

def visitFirst : Action :=
  .fetch "http://shop/" { rules := [wholeText "title" none] } (wholeTextExtractor "title" none)

def visitSecond : Action :=
  .fetch "http://shop/cart" { rules := [wholeText "TITLE" (some "Empty")] }
    (wholeTextExtractor "TITLE" (some "Empty"))

theorem visit_begins : shopping.Begins visit [] none 0
    ⟨[], visitMain, [visitFirst, .jump "Side"], start [] 0⟩ where
  entry := by rfl
  prepared := by with_unfolding_all rfl
  ready := by with_unfolding_all rfl
  callers := rfl
  session := rfl

def visitFirstEnd : Ended Nat Outcome :=
  noted (exchange shopping.accessor { rules := [wholeText "title" none] }
    (wholeTextExtractor "title" none) (.ok (.fetch "http://shop/" [])) (start [] 0))

/-- The state in the second target, after the first page. -/
def visitBetween : Session Nat :=
  (visitFirstEnd.2.note (.performed (.jump "Side"))).enter visitSide

def visitSecondEnd : Ended Nat Outcome :=
  noted (exchange shopping.accessor { rules := [wholeText "TITLE" (some "Empty")] }
    (wholeTextExtractor "TITLE" (some "Empty")) (.ok (.fetch "http://shop/cart" [])) visitBetween)

theorem visit_first : perform shopping.accessor visitFirst (start [] 0) =
    some (.ok .done, visitFirstEnd.2) := by
  have performed : perform shopping.accessor visitFirst (start [] 0) = some visitFirstEnd :=
    perform_fetch (by decide)
  have ok : visitFirstEnd.1 = .ok .done := by decide +kernel
  rw [performed, ← ok]

theorem visit_second : perform shopping.accessor visitSecond visitBetween =
    some (.ok (.failed "Expected:Empty, but the actual value is: Cart"), visitSecondEnd.2) := by
  have performed : perform shopping.accessor visitSecond visitBetween = some visitSecondEnd :=
    perform_fetch (by decide)
  have failed : visitSecondEnd.1 =
    .ok (.failed "Expected:Empty, but the actual value is: Cart") := by decide +kernel
  rw [performed, ← failed]

/-- The second spelling and value take the place of the first, although the page is not as expected.
-/
theorem visit_outputs : ∃ fin calls, shopping.run visit [] none 0 = some fin ∧
    fin.result = .ok ⟨.failed "Expected:Empty, but the actual value is: Cart",
      ⟨[("TITLE", "Cart")]⟩⟩ ∧
    shopping.Makes visit [] none 0 calls ∧
    calls.map Call.request = [.fetch "http://shop/" [], .fetch "http://shop/cart" []] ∧
    ⟨[("TITLE", "Cart")]⟩ = (calls.filterMap Call.values?).foldl NameMap.update ∅ ∧
    NameMap.Records ⟨[("TITLE", "Cart")]⟩
      ((calls.filterMap Call.values?).flatMap NameMap.pairs) := by
  have first := visit_first
  have second := visit_second
  have same : (shopping.prepared visit).accessor = shopping.accessor := prepared_accessor
  rw [← same] at first second
  have jumps : Action.Jumps visitFirstEnd.2 (.jump "Side") "Side" :=
    .jump (Template.resolve?_of_no_opener (by decide))
  have called := step_jump_call (r := shopping.prepared visit) (t := visitMain) jumps (by decide)
    (show visit.find? "Side" = some visitSide by decide) (by decide +kernel)
  have comes : shopping.ComesTo visit [] none 0
      ⟨[⟨visitMain, []⟩], visitSide, [visitSecond], .done, visitBetween⟩ := by
    refine ⟨⟨[], visitMain, _, .done, _⟩, ⟨visit_begins, rfl, rfl⟩, ?_⟩
    exact .head (.goOn (step_of_done first)) (.single (.enter called (by with_unfolding_all rfl)))
  have run := comes.run (.halt (step_of_halts second rfl))
  have gathered : visitSecondEnd.2.outputs = ⟨[("TITLE", "Cart")]⟩ := by decide +kernel
  have sent : visitSecondEnd.2.requests =
    [.fetch "http://shop/" [], .fetch "http://shop/cart" []] := by decide +kernel
  obtain ⟨calls, makes, requests, _, _, outputs, records, _⟩ := outputs_of_run run rfl
  rw [finish_session, unwind_requests, sent] at requests
  simp only [unwind_outputs, gathered] at outputs records
  refine ⟨_, calls, run, ?_, (makes calls).2 rfl, requests.symm, outputs, records⟩
  rw [finish_result, unwind_outputs, gathered]
  rfl

end WebScript.Runner
