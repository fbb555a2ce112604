import WebScript.Browser.Usage

namespace WebScript.Browser

/-- What happens between the opening of a page and its closing. -/
def Event.OnPage : Event → Prop
  | .routed _ | .went _ | .continued _ | .awaited _ => True
  | _ => False

/-- The events of a request to a running browser: its page is opened first and closed last, and in
between nothing is opened or closed. -/
def IsVisit (events : List Event) : Prop :=
  ∃ inside, events = .pageOpened :: inside ++ [.closed .page] ∧ ∀ e ∈ inside, e.OnPage

/-- All parts run, with a context of this number. -/
def Running.all (context : Nat) : Running :=
  ⟨true, true, some context⟩

namespace State

variable {s s₁ s₂ : State} {context : Nat} {events : List Event}

def launched (s : State) : Bool :=
  s.running.context.isSome

/-- The events by which the context of the next request comes about. -/
def launching (s : State) : List Event :=
  if s.launched then []
  else [.started, .launched s.settings.headless launchArguments,
    .contextOpened s.settings.userAgent, .timeoutSet s.settings.timeout]

def ending (s : State) : List Event :=
  if s.launched then [.closed .context, .closed .browser, .closed .driver] else []

theorem launching_of_launched (h : s.launched = true) : s.launching = [] :=
  if_pos h

def noteAll (events : List Event) (s : State) : State :=
  { s with world := { s.world with log := s.world.log ++ events } }

@[simp] theorem noteAll_nil : s.noteAll [] = s := by
  rw [noteAll, List.append_nil]

@[simp] theorem noteAll_noteAll (more : List Event) :
    (s.noteAll events).noteAll more = s.noteAll (events ++ more) := by
  simp only [noteAll, List.append_assoc]

theorem launchFault_eq (s : State) : s.launchFault = (s.world.failLaunch.headD none,
    { s with world := { s.world with failLaunch := s.world.failLaunch.tail } }) := by
  obtain ⟨settings, running, _, _, failLaunch, _, _, _⟩ := s
  cases failLaunch <;> rfl

/-- A browser runs entirely or not at all, and its launches succeed; contexts are numbered as they
open. -/
structure Sound (s : State) : Prop where
  launches : s.world.failLaunch = []
  running : s.running = {} ∨ ∃ context, s.running = .all context
  numbered : ∀ context ∈ s.world.hosts, context < s.world.contexts
  current : ∀ context, s.running = .all context → context < s.world.contexts

section Closing

theorem exists_closePart (s : State) (part : Part) :
    ∃ result, s.closePart part = (result, s.noteAll [.closed part]) := by
  rw [closePart]
  split
  · exact ⟨_, rfl⟩
  · exact ⟨_, rfl⟩

theorem shutDown_true (part : Part) : s.shutDown part true = s.noteAll [.closed part] := by
  obtain ⟨result, closed⟩ := exists_closePart s part
  rw [shutDown, if_pos rfl, closed]
  cases result with
  | ok => rfl
  | error => rfl

theorem close_all (h : s.running = .all context) : s.close =
    { s.noteAll [.closed .context, .closed .browser, .closed .driver] with running := {} } := by
  simp only [close, h, Running.all, Option.isSome_some, List.foldl_cons, List.foldl_nil,
    shutDown_true, noteAll_noteAll, List.cons_append, List.nil_append]

theorem close_none (h : s.running = {}) : s.close = s := by
  have closed : s.close = { s with running := {} } := by rw [close, h]; rfl
  rw [closed, ← h]

theorem Sound.close_eq (sound : s.Sound) : s.close = { s.noteAll s.ending with running := {} } := by
  obtain h | ⟨context, h⟩ := sound.running
  · rw [close_none h, ending, launched, h, if_neg (by decide), noteAll_nil, ← h]
  · rw [close_all h, ending, launched, h]
    rfl

end Closing

section Requests

variable (page : PageBehaviour) (url : String) (options : List (String × Value))
  (route : Option PostRoute)

/-- The second state comes from the first by what happens on an open page. -/
def Stays (s s₁ : State) : Prop :=
  ∃ events, (∀ e ∈ events, e.OnPage) ∧ s₁ = s.noteAll events

theorem Stays.refl : s.Stays s :=
  ⟨[], by simp, noteAll_nil.symm⟩

theorem Stays.note {e : Event} (onPage : e.OnPage) : s.Stays (s.note e) :=
  ⟨[e], by simpa, rfl⟩

theorem Stays.trans (h : s.Stays s₁) (h' : s₁.Stays s₂) : s.Stays s₂ := by
  obtain ⟨events, onPage, rfl⟩ := h
  obtain ⟨more, onPage', rfl⟩ := h'
  refine ⟨events ++ more, fun e he => ?_, noteAll_noteAll more⟩
  exact (List.mem_append.1 he).elim (onPage e) (onPage' e)

theorem routeAll_eq (requests : List PageRequest) (route : PostRoute) (s : State) :
    s.routeAll requests route = s.noteAll ((route.handleAll requests).1.map .continued) := by
  rw [routeAll]
  generalize (route.handleAll requests).1 = continuations
  induction continuations generalizing s with
  | nil => exact noteAll_nil.symm
  | cons c continuations ih =>
    rw [List.foldl_cons, ih]
    exact noteAll_noteAll _

theorem stays_routeAll (requests : List PageRequest) (route : PostRoute) :
    s.Stays (s.routeAll requests route) := by
  refine ⟨_, fun e he => ?_, routeAll_eq requests route s⟩
  obtain ⟨c, -, rfl⟩ := List.mem_map.1 he
  trivial

theorem awaitLate_snd (page : PageBehaviour) (options : List (String × Value))
    (arrival : Option Arrival) (s : State) :
    ∃ waits, (∀ e ∈ waits, ∃ ms, e = .awaited ms) ∧
      (awaitLate page options arrival s).2 = s.noteAll waits := by
  rw [awaitLate]
  split
  · exact ⟨[], List.forall_mem_nil _, noteAll_nil.symm⟩
  · exact ⟨[], List.forall_mem_nil _, noteAll_nil.symm⟩
  · next delay _ =>
    refine ⟨[.awaited delay], by simp, ?_⟩
    dsimp only
    split <;> rfl

theorem stays_awaitLate (arrival : Option Arrival) :
    s.Stays (awaitLate page options arrival s).2 := by
  obtain ⟨waits, only, waited⟩ := awaitLate_snd page options arrival s
  refine ⟨waits, fun e he => ?_, waited⟩
  obtain ⟨ms, rfl⟩ := only e he
  trivial

theorem stays_setOut : s.Stays (setOut page url route s) := by
  cases route with
  | none => exact .note trivial
  | some route =>
    have routed : s.Stays (s.note (.routed "**/*")) := .note trivial
    exact routed.trans
      (.trans (.note (e := .went url) trivial) (stays_routeAll page.requests route))

theorem stays_visit : s.Stays (visit page url options route s).2 := by
  have stays := stays_setOut page url route (s := s)
  rw [visit]
  dsimp only
  split
  · exact stays
  · next arrival _ => exact stays.trans (stays_awaitLate page options arrival)

theorem closePage_snd {α : Type} (outcome : Except Breakdown α) :
    (s.closePage outcome).2 = s.noteAll [.closed .page] := by
  obtain ⟨result, closed⟩ := exists_closePart s .page
  rw [closePage, closed]
  cases result with
  | ok => rfl
  | error => rfl

def nextPage (s : State) : PageBehaviour :=
  s.world.pages.head?.getD {}

theorem openPage_eq (s : State) (context : Nat) :
    s.openPage context = (s.nextPage, { s with world := { s.world with
      pages := s.world.pages.tail
      hosts := s.world.hosts ++ [context]
      log := s.world.log ++ [.pageOpened] } }) := by
  rw [openPage, nextPage]
  cases pages : s.world.pages <;> simp [note, pages]

/-- A request opens a page in the shared context and closes it, whatever comes of the request. -/
theorem navigate_snd (ensured : s.ensureContext = (.ok context, s₁)) :
    ∃ visit pages, IsVisit visit ∧
    (navigate url options route s).2 = { s₁ with world := { s₁.world with
      pages, hosts := s₁.world.hosts ++ [context], log := s₁.world.log ++ visit } } := by
  rw [navigate, ensured]
  dsimp only
  rw [openPage_eq]
  obtain ⟨inside, onPage, visited⟩ := stays_visit s₁.nextPage url options route
  rw [closePage_snd, visited]
  exact ⟨_, s₁.world.pages.tail, ⟨inside, rfl, onPage⟩, by simp [noteAll]⟩

theorem Sound.ensureContext_eq (sound : s.Sound) : ∃ context contexts,
    s.ensureContext = (.ok context, { s with
      running := .all context
      world := { s.world with contexts, log := s.world.log ++ s.launching } }) ∧
    context < contexts ∧ s.world.contexts ≤ contexts ∧
    (if s.launched then s.running = .all context else context = s.world.contexts) := by
  obtain h | ⟨context, h⟩ := sound.running
  · refine ⟨s.world.contexts, s.world.contexts + 1, ?_, Nat.lt_succ_self _, Nat.le_succ _, ?_⟩
    · simp [ensureContext, openContext, launchFault, sound.launches, launching, launched, h, note,
        Running.all]
    · rw [launched, h]; rfl
  · refine ⟨context, s.world.contexts, ?_, sound.current context h, Nat.le_refl _, ?_⟩
    · obtain ⟨settings, running, world⟩ := s
      cases h
      simp [ensureContext, launching, launched, Running.all]
    · rw [launched, h]; rfl

/-- The second state comes from the first by requests, of which these are the visits: a browser that
does not run is launched by the first of them, with a context that has had no pages, and all pages
are opened in one context. -/
structure Serves (s s₁ : State) (context : Nat) (visits : List (List Event)) : Prop where
  each : ∀ visit ∈ visits, IsVisit visit
  host : if s.launched then s.running = .all context else context ∉ s.world.hosts
  log : s₁.world.log = s.world.log ++ s.launching ++ visits.flatten
  hosts : s₁.world.hosts = s.world.hosts ++ .replicate visits.length context
  running : s₁.running = .all context

theorem Serves.append {context' : Nat} {visits more : List (List Event)}
    (h : s.Serves s₁ context visits) (h' : s₁.Serves s₂ context' more) :
    s.Serves s₂ context (visits ++ more) := by
  have launched : s₁.launched = true := by rw [State.launched, h.running]; rfl
  have same : context' = context := by
    have running := h'.host
    rw [if_pos launched, h.running] at running
    cases running
    rfl
  subst same
  refine ⟨fun visit hv => ?_, h.host, ?_, ?_, h'.running⟩
  · exact (List.mem_append.1 hv).elim (h.each visit) (h'.each visit)
  · rw [h'.log, h.log, launching_of_launched launched, List.append_nil, List.flatten_append,
      List.append_assoc]
  · rw [h'.hosts, h.hosts, List.length_append, ← List.replicate_append_replicate, List.append_assoc]

theorem Sound.navigate (sound : s.Sound) : (navigate url options route s).2.Sound ∧
    ∃ context visit, s.Serves (navigate url options route s).2 context [visit] := by
  obtain ⟨context, contexts, ensured, less, grown, current⟩ := sound.ensureContext_eq
  obtain ⟨visit, pages, isVisit, done⟩ := navigate_snd url options route ensured
  rw [done]
  refine ⟨⟨sound.launches, .inr ⟨context, rfl⟩, ?_, ?_⟩, context, visit, ?_⟩
  · intro host hh
    obtain hh | hh := List.mem_append.1 hh
    · exact Nat.lt_of_lt_of_le (sound.numbered host hh) grown
    · rwa [List.mem_singleton.1 hh]
  · rintro _ ⟨⟩
    exact less
  · refine ⟨by simpa, ?_, by simp, rfl, rfl⟩
    split at current
    · next launched => rwa [if_pos launched]
    · next unlaunched =>
      rw [if_neg unlaunched]
      exact fun hosted => Nat.ne_of_lt (sound.numbered context hosted) current

end Requests

section Turns

variable {t : Turn} {turns requests : List Turn} {settings : Settings} {pages : List PageBehaviour}

theorem Sound.unused : (unused settings pages).Sound :=
  ⟨rfl, .inl rfl, by simp [State.unused], by simp [State.unused, Running.all]⟩

theorem Sound.facing (sound : s.Sound) (failClose : List Part) : (s.facing failClose).Sound :=
  ⟨sound.launches, sound.running, sound.numbered, sound.current⟩

theorem take_closing (closing : t.use.isRequest = false) :
    s.take t = (.ok none, (s.facing t.failClose).close) := by
  rw [take]
  cases h : t.use with
  | fetch | submit => rw [h] at closing; cases closing
  | close | scope => rfl

theorem Sound.take_closing (sound : s.Sound) (closing : t.use.isRequest = false) :
    s.take t = (.ok none, { (s.facing t.failClose).noteAll s.ending with running := {} }) := by
  rw [State.take_closing closing, (sound.facing t.failClose).close_eq]
  rfl

theorem take_request (request : t.use.isRequest = true) : ∃ url options route,
    (s.take t).2 = (navigate url options route (s.facing t.failClose)).2 := by
  rw [take]
  cases h : t.use with
  | fetch url options => exact ⟨url, options, none, rfl⟩
  | submit url values options => exact ⟨url, options, some ⟨Url.Encoded.encode values, false⟩, rfl⟩
  | close | scope => rw [h] at request; cases request

/-- A request, whatever it comes to, is served by one visit. -/
theorem Sound.take_request (sound : s.Sound) (request : t.use.isRequest = true) :
    (s.take t).2.Sound ∧ ∃ context visit, s.Serves (s.take t).2 context [visit] := by
  obtain ⟨url, options, route, taken⟩ := State.take_request (s := s) request
  rw [taken]
  obtain ⟨still, context, visit, serves⟩ := (sound.facing t.failClose).navigate url options route
  exact ⟨still, context, visit, serves.each, serves.host, serves.log, serves.hosts, serves.running⟩

theorem Sound.take (sound : s.Sound) : (s.take t).2.Sound := by
  cases h : t.use.isRequest with
  | true => exact (sound.take_request h).1
  | false =>
    rw [sound.take_closing h]
    exact ⟨sound.launches, .inl rfl, sound.numbered, by simp [Running.all]⟩

theorem Sound.after (sound : s.Sound) : (s.after turns).Sound := by
  induction turns generalizing s with
  | nil => exact sound
  | cons t rest ih => exact ih sound.take

theorem Sound.after_requests (sound : s.Sound) (asked : requests ≠ [])
    (only : ∀ t ∈ requests, t.use.isRequest = true) :
    ∃ context visits, visits.length = requests.length ∧
      s.Serves (s.after requests) context visits := by
  induction requests generalizing s with
  | nil => cases asked rfl
  | cons t rest ih =>
    obtain ⟨still, context, visit, serves⟩ := sound.take_request (only t List.mem_cons_self)
    cases rest with
    | nil => exact ⟨context, [visit], rfl, serves⟩
    | cons u rest =>
      obtain ⟨_, visits, length, more⟩ := ih still (List.cons_ne_nil u rest)
        fun v hv => only v (List.mem_cons_of_mem t hv)
      exact ⟨context, visit :: visits, congrArg Nat.succ length, serves.append more⟩

/-- Whatever an accessor has been used for, its browser runs entirely or not at all. The requests
that come next, whatever they come to, are served by one visit each, all in one context: that of the
running browser, or else that of a browser which the first of them launches. A closing then closes
context, browser and driver, whichever of them fail to close; where nothing runs it does nothing. -/
theorem lifecycle (settings : Settings) (pages : List PageBehaviour) (turns : List Turn) :
    let s := (unused settings pages).after turns
    (s.running = {} ∨ ∃ context, s.running = .all context) ∧
    (∀ requests, requests ≠ [] → (∀ t ∈ requests, t.use.isRequest = true) →
      ∃ context visits, visits.length = requests.length ∧
        s.Serves (s.after requests) context visits) ∧
    ∀ t : Turn, t.use.isRequest = false →
      (s.take t).1 = .ok none ∧ (s.take t).2.running = {} ∧
      (s.take t).2.world.log = s.world.log ++ s.ending ∧
      (s.take t).2.world.hosts = s.world.hosts ∧
      (s.launched = false → (s.take t).2 = s.facing t.failClose) := by
  intro s
  have sound : s.Sound := Sound.unused.after
  refine ⟨sound.running, fun _ => sound.after_requests, fun t closing => ?_⟩
  rw [sound.take_closing closing]
  refine ⟨rfl, rfl, rfl, rfl, fun unlaunched => ?_⟩
  have idle : s.running = {} := by
    obtain h | ⟨context, h⟩ := sound.running
    · exact h
    · rw [launched, h] at unlaunched; cases unlaunched
  rw [ending, unlaunched, if_neg (by decide), noteAll_nil, ← idle]
  rfl

/-- The page of a failed request is closed, a scope closes all that runs though nothing closes well,
and the next request launches again. -/
example :
    let lost : PageBehaviour := { goto := fun _ => .error (.browser "net::ERR_NAME_NOT_RESOLVED") }
    let launch := [.started, .launched true launchArguments, .contextOpened defaultUserAgent,
      .timeoutSet 30000]
    ((unused {} [lost]).after [⟨.fetch "http://shop/" [], [.page]⟩,
      ⟨.scope, [.context, .browser, .driver]⟩, ⟨.close, []⟩,
      ⟨.fetch "http://shop/" [], []⟩]).world.log =
    launch ++ [.pageOpened, .went "http://shop/", .closed .page] ++
      [.closed .context, .closed .browser, .closed .driver] ++
      launch ++ [.pageOpened, .went "http://shop/", .closed .page] := by
  decide

end Turns

end State
end WebScript.Browser
