import Mathlib.Data.List.Basic
import WebScript.Proofs.Browser.Lifecycle

namespace WebScript.Browser

/-- The parts start in this order. -/
def Part.stage : Part → ℕ
  | driver => 0
  | browser => 1
  | context => 2
  | page => 3

/-- A launch comes as far as starting a part: it does not fail there or before. -/
def reaches (part : Part) (fault : Option Part) : Bool :=
  fault.all fun f => part.stage < f.stage

def Event.starts? : Event → Option Part
  | .started => some .driver
  | .launched .. => some .browser
  | .contextOpened _ => some .context
  | .pageOpened => some .page
  | _ => none

def Running.has (r : Running) : Part → Bool
  | .driver => r.driver
  | .browser => r.browser
  | .context => r.context.isSome
  | .page => false

/-- How often each part of a kind is closed after its start, given these counts before an event. A
closing is that of the part which started last, as no other is held. -/
def tally (part : Part) (counts : List ℕ) (e : Event) : List ℕ :=
  if e.starts? = some part then 0 :: counts
  else if e = .closed part then counts.modifyHead (· + 1)
  else counts

/-- How often each part of a kind has been closed, the part that started last in front. -/
def closings (part : Part) (log : List Event) : List ℕ :=
  log.foldl (tally part) []

/-- The launches of a request, each by the part at which it fails: the browser is launched unless
one runs, and without a fault foretold the launch succeeds. -/
def tried (running : Bool) (faults : List (Option Part)) : List (Option Part) :=
  if running then [] else [faults.headD none]

/-- The launches of turns, in stretches that end with a closing; `tries` are those of the first
stretch so far. -/
def stretches :
    (running : Bool) → (faults tries : List (Option Part)) → List Turn → List (List (Option Part))
  | _, _, tries, [] => [tries]
  | running, faults, tries, t :: turns =>
    if t.use.isRequest then
      let more := tried running faults
      stretches (running || more.any (reaches .context)) (faults.drop more.length)
      (tries ++ more) turns
    else tries :: stretches false faults [] turns

/-- Of parts that start in one stretch, the last is closed once and the others never. -/
def fates : ℕ → List ℕ
  | 0 => []
  | n + 1 => 1 :: .replicate n 0

section Counts

variable {part : Part} {log events : List Event} {n : ℕ}

/-- A part of the kind starts or is closed in the event. -/
def Event.Concerns (part : Part) (e : Event) : Prop :=
  e.starts? = some part ∨ e = .closed part

theorem closings_append :
    closings part (log ++ events) = events.foldl (tally part) (closings part log) :=
  List.foldl_append

theorem closings_of_unconcerned (unconcerned : ∀ e ∈ events, ¬ e.Concerns part) :
    closings part (log ++ events) = closings part log := by
  rw [closings_append]
  generalize closings part log = counts
  induction events with
  | nil => rfl
  | cons e rest ih =>
    obtain ⟨starts, closed⟩ := not_or.1 (unconcerned e List.mem_cons_self)
    rw [List.foldl_cons, tally, if_neg starts, if_neg closed]
    exact ih fun e he => unconcerned e (List.mem_cons_of_mem _ he)

/-- Closing some parts, each once, adds to the count of the part that started last of each of them.
-/
theorem closings_closed {parts : List Part} (distinct : parts.Nodup) :
    closings part (log ++ parts.map .closed) =
      if part ∈ parts then (closings part log).modifyHead (· + 1) else closings part log := by
  rw [closings_append]
  generalize closings part log = counts
  induction parts generalizing counts with
  | nil => rfl
  | cons p parts ih =>
    obtain ⟨fresh, distinct⟩ := List.nodup_cons.1 distinct
    have starts : (Event.closed p).starts? ≠ some part := (Option.some_ne_none part).symm
    rw [List.map_cons, List.foldl_cons, ih distinct, tally, if_neg starts]
    by_cases same : p = part
    · subst same
      rw [if_pos rfl, if_neg fresh, if_pos List.mem_cons_self]
    · have other : Event.closed p ≠ .closed part := fun closed => same (Event.closed.inj closed)
      have listed : part ∈ p :: parts ↔ part ∈ parts := by simp [Ne.symm same]
      rw [if_neg other]
      simp only [listed]

theorem IsVisit.unconcerned (isVisit : IsVisit events) (lasting : part ≠ .page) :
    ∀ e ∈ events, ¬ e.Concerns part := by
  obtain ⟨inside, rfl, onPage⟩ := isVisit
  intro e he
  simp only [List.cons_append, List.mem_cons, List.mem_append, List.not_mem_nil, or_false] at he
  obtain rfl | he | rfl := he
  · simp [Event.Concerns, Event.starts?, lasting.symm]
  · have quiet := onPage e he
    cases e <;> simp_all [Event.Concerns, Event.starts?, Event.OnPage]
  · simp [Event.Concerns, Event.starts?, lasting.symm]

theorem fates_eq_one_iff : (∀ m ∈ fates n, m = 1) ↔ n ≤ 1 := by
  cases n with
  | zero => simp [fates]
  | succ n => simp [fates, List.mem_replicate]

theorem reaches_driver {fault : Option Part} (h : reaches .browser fault = true) :
    reaches .driver fault = true := by
  cases fault with
  | none => rfl
  | some f => cases f <;> simp_all [reaches, Part.stage]

end Counts

namespace State

variable {s s₁ s₂ : State} {part : Part} {t : Turn} {turns : List Turn}
  {tries more faults : List (Option Part)}

/-- An accessor that has not been used, with the faults of the launches to come. -/
def untried (settings : Settings) (pages : List PageBehaviour) (faults : List (Option Part)) :
    State :=
  { settings, world := { pages, failLaunch := faults } }

/-- The second state comes from the first by these launches, with no closing. -/
structure Launches (tries : List (Option Part)) (s s₁ : State) : Prop where
  has : ∀ part ≠ .page, s₁.running.has part = (s.running.has part || tries.any (reaches part))
  counts : ∀ part ≠ .page,
    closings part s₁.world.log = .replicate (tries.countP (reaches part)) 0 ++
      closings part s.world.log
  faults : s₁.world.failLaunch = s.world.failLaunch.drop tries.length

theorem Launches.refl : Launches [] s s :=
  ⟨by simp, by simp, rfl⟩

theorem Launches.facing (h : Launches tries s s₁) (failClose : List Part) :
    Launches tries s (s₁.facing failClose) :=
  ⟨h.has, h.counts, h.faults⟩

theorem Launches.trans (h : Launches tries s s₁) (h' : Launches more s₁ s₂) :
    Launches (tries ++ more) s s₂ where
  has part lasting := by rw [h'.has part lasting, h.has part lasting, List.any_append,
    Bool.or_assoc]
  counts part lasting := by
    rw [h'.counts part lasting, h.counts part lasting, List.countP_append, Nat.add_comm,
      ← List.replicate_append_replicate, List.append_assoc]
  faults := by rw [h'.faults, h.faults, List.drop_drop, List.length_append]

section Launch

/-- Each part that a launch reaches is started and noted as running. -/
theorem launches_ensureContext (unlaunched : s.launched = false) :
    Launches [s.world.failLaunch.headD none] s s.ensureContext.2 := by
  have idle : s.running.context = none :=
    Option.not_isSome_iff_eq_none.1 (Bool.not_eq_true _ ▸ unlaunched)
  rw [ensureContext, idle, launchFault_eq]
  generalize s.world.failLaunch.headD none = fault
  -- A launch stops at another place for each part that may fail: its cases are those of the fault.
  refine ⟨fun part lasting => ?_, fun part lasting => ?_, ?_⟩
  · obtain _ | _ | _ | _ | _ := fault <;> cases part <;>
      simp_all [failed, note, openContext, Running.has, reaches, Part.stage]
  · obtain _ | _ | _ | _ | _ := fault <;> cases part <;>
      simp_all [failed, note, openContext, closings_append, tally, Event.starts?,
        reaches, Part.stage]
  · obtain _ | _ | _ | _ | _ := fault <;>
      simp [failed, note, openContext]

/-- Nothing but a page is opened or closed in a request once there is a context. -/
theorem launches_navigate (url : String) (options : List (String × Value))
    (route : Option PostRoute) (launches : Launches tries s s.ensureContext.2) :
    Launches tries s (navigate url options route s).2 := by
  cases ensured : s.ensureContext with | mk outcome s₁ =>
  rw [ensured] at launches
  cases outcome with
  | error b => rwa [navigate, ensured]
  | ok context =>
    obtain ⟨visit, pages, isVisit, done⟩ := navigate_snd url options route ensured
    rw [done]
    refine ⟨launches.has, fun part lasting => ?_, launches.faults⟩
    rw [closings_of_unconcerned (isVisit.unconcerned lasting), launches.counts part lasting]

theorem launches_take (request : t.use.isRequest = true) :
    Launches (tried s.launched s.world.failLaunch) s (s.take t).2 := by
  have ensures : Launches (tried s.launched s.world.failLaunch) (s.facing t.failClose)
      (s.facing t.failClose).ensureContext.2 := by
    cases launched : s.launched with
    | false => exact launches_ensureContext (s := s.facing t.failClose) launched
    | true =>
      obtain ⟨context, running⟩ := Option.isSome_iff_exists.1 launched
      rw [ensureContext, facing, running]
      exact .refl
  obtain ⟨url, options, route, taken⟩ := take_request (s := s) request
  rw [taken]
  have launches := launches_navigate url options route ensures
  exact ⟨launches.has, launches.counts, launches.faults⟩

end Launch

section Closing

theorem shutDown_false (part : Part) : s.shutDown part false = s :=
  rfl

theorem close_eq (s : State) : s.close = { s.noteAll
    ((([.context, .browser, .driver] : List Part).filter s.running.has).map .closed) with
      running := {} } := by
  rw [close]
  cases context : s.running.context.isSome <;> cases browser : s.running.browser <;>
    cases driver : s.running.driver <;>
    simp [Running.has, context, browser, driver, shutDown_true, shutDown_false, noteAll]

theorem closings_close (lasting : part ≠ .page) : closings part s.close.world.log =
    if s.running.has part then (closings part s.world.log).modifyHead (· + 1)
    else closings part s.world.log := by
  have distinct : ([.context, .browser, .driver] : List Part).Nodup := by decide
  have listed : part ∈ ([.context, .browser, .driver] : List Part) := by cases part <;> simp_all
  rw [close_eq, noteAll, closings_closed (distinct.filter _)]
  simp only [List.mem_filter, listed, true_and]

/-- A closing closes the parts that started last since the one before, and no others. -/
theorem Launches.closings_close (launches : Launches tries s s₁) (idle : s.running = {})
    (lasting : part ≠ .page) :
    closings part s₁.close.world.log = fates (tries.countP (reaches part)) ++
      closings part s.world.log := by
  have never : s.running.has part = false := by rw [idle]; cases part <;> rfl
  rw [State.closings_close lasting, launches.has part lasting, never, Bool.false_or,
    launches.counts part lasting]
  cases count : tries.countP (reaches part) with
  | zero =>
    have unreached : tries.any (reaches part) = false := by simpa using count
    rw [unreached]
    rfl
  | succ n =>
    have reached : tries.any (reaches part) = true := by
      rw [List.any_eq_true, ← List.countP_pos_iff, count]
      exact n.succ_pos
    rw [reached]
    rfl

theorem failLaunch_take (closing : t.use.isRequest = false) :
    (s.take t).2.world.failLaunch = s.world.failLaunch := by
  rw [take_closing closing, close_eq]
  rfl

end Closing

section Turns

/-- By induction on the turns: the launches since the last closing decide what the next one closes.
-/
theorem Launches.closings_after (launches : Launches tries s s₁) (idle : s.running = {})
    (closing : t.use.isRequest = false) (lasting : part ≠ .page) :
    closings part ((s₁.after turns).take t).2.world.log =
      ((stretches s₁.launched s₁.world.failLaunch tries turns).reverse.flatMap
        fun tries => fates (tries.countP (reaches part))) ++ closings part s.world.log := by
  induction turns generalizing s s₁ tries with
  | nil =>
    rw [after, List.foldl_nil, take_closing closing,
      (launches.facing _).closings_close idle lasting]
    simp [stretches]
  | cons u rest ih =>
    rw [after, List.foldl_cons, ← after, stretches]
    cases request : u.use.isRequest with
    | true =>
      have step := launches_take (s := s₁) request
      have launched : (s₁.take u).2.launched = _ := step.has .context (by decide)
      rw [ih (launches.trans step) idle, step.faults, launched]
      rfl
    | false =>
      have closed := (launches.facing u.failClose).closings_close idle lasting
      rw [ih .refl (s := (s₁.take u).2) (by rw [take_closing request]; rfl),
        failLaunch_take request, take_closing request, closed]
      simp [launched, State.close]

/-- After a final closing, of the drivers, browsers and contexts that started between two closings
the last has been closed once and the others never, whatever failed to start or to close. So each
driver that started and each browser that was launched has been closed exactly once if and only if
no two drivers started between two closings, which is the case unless a launch fails after its
driver has started and the driver of a later one starts too. -/
theorem closed_once_iff (settings : Settings) (pages : List PageBehaviour)
    (faults : List (Option Part))
    (turns : List Turn) (t : Turn) (closing : t.use.isRequest = false) :
    let log := (((untried settings pages faults).after turns).take t).2.world.log
    let launches := stretches false faults [] turns
    (∀ part ≠ .page,
      closings part log =
        launches.reverse.flatMap fun tries => fates (tries.countP (reaches part))) ∧
    (((∀ n ∈ closings .driver log, n = 1) ∧ ∀ n ∈ closings .browser log, n = 1) ↔
      ∀ tries ∈ launches, tries.countP (reaches .driver) ≤ 1) := by
  intro log launches
  have closed : ∀ part ≠ .page,
      closings part log =
        launches.reverse.flatMap fun tries => fates (tries.countP (reaches part)) := by
    intro part lasting
    have after : closings part log = _ ++ closings part (untried settings pages faults).world.log :=
      Launches.closings_after .refl rfl closing lasting
    have before : closings part (untried settings pages faults).world.log = [] := rfl
    rwa [before, List.append_nil] at after
  have once : ∀ part ≠ .page, (∀ n ∈ closings part log, n = 1) ↔
      ∀ tries ∈ launches, tries.countP (reaches part) ≤ 1 := by
    intro part lasting
    simp only [closed part lasting, List.mem_flatMap, List.mem_reverse, ← fates_eq_one_iff]
    exact ⟨fun h tries ht n hn => h n ⟨tries, ht, hn⟩, fun h n ⟨tries, ht, hn⟩ => h tries ht n hn⟩
  refine ⟨closed, ?_⟩
  rw [once .driver (by decide), once .browser (by decide), and_iff_left_iff_imp]
  intro drivers tries ht
  -- A launch that comes to its browser has started its driver.
  exact Nat.le_trans (List.countP_mono_left fun _ _ => reaches_driver) (drivers tries ht)

/-- Drivers that fail to start leave nothing behind. -/
theorem driver_retried : Use.isRequest .scope = false ∧
    let log := (((untried {} [] [some .driver]).after
      [⟨.fetch "http://shop/" [], []⟩, ⟨.fetch "http://shop/" [], []⟩]).take
      ⟨.scope, []⟩).2.world.log
    (∀ n ∈ closings .driver log, n = 1) ∧ ∀ n ∈ closings .browser log, n = 1 :=
  ⟨rfl, (closed_once_iff {} [] [some .driver] _ ⟨.scope, []⟩ rfl).2.2 (by decide)⟩

/-- The driver of a launch that fails at its browser is never closed once a request has launched
again. -/
theorem driver_forsaken :
    let log := ((untried {} [] [some .browser]).after
      [⟨.fetch "http://shop/" [], []⟩, ⟨.fetch "http://shop/" [], []⟩, ⟨.close, []⟩]).world.log
    closings .driver log = [1, 0] ∧ closings .browser log = [1] ∧
    log.getLast? = some (.closed .driver) := by
  decide

end Turns

end State
end WebScript.Browser
