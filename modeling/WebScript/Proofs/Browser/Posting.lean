import WebScript.Proofs.Browser.Lifecycle
import WebScript.Proofs.Dict
import WebScript.Proofs.Url.Encoded

namespace WebScript.Browser

open Url

/-- A request that takes the body of a form, if none has before. -/
def PageRequest.IsGetNavigation (r : PageRequest) : Prop :=
  r.method = "GET" ∧ r.navigation = true

instance (r : PageRequest) : Decidable r.IsGetNavigation :=
  inferInstanceAs (Decidable (_ ∧ _))

/-- The headers of a request with the content type of a form, and all others as they were. -/
structure AsForm (headers sent : Dict) : Prop where
  type : sent.get? "content-type" = some "application/x-www-form-urlencoded"
  others : sent.filter (·.1 ≠ "content-type") = headers.filter (·.1 ≠ "content-type")
  once : headers.SpellingsDiffer → sent.SpellingsDiffer

/-- How the requests of a page continue when values are submitted through it. -/
inductive Posts (values : Dict) : List PageRequest → List Continuation → Prop
  | none {requests : List PageRequest} (others : ∀ r ∈ requests, ¬r.IsGetNavigation) :
      Posts values requests (requests.map fun _ => .unchanged)
  | first {before after : List PageRequest} {r : PageRequest} {body : String} {headers : Dict}
      (others : ∀ b ∈ before, ¬b.IsGetNavigation) (navigates : r.IsGetNavigation)
      (reads : Encoded.decode? body = some values) (headed : AsForm r.headers headers) :
      Posts values (before ++ r :: after)
        (before.map (fun _ => .unchanged) ++ .post body headers :: after.map fun _ => .unchanged)

variable {values headers : Dict} {requests : List PageRequest} {r : PageRequest} {p : PostRoute}
  {continuations : List Continuation}

namespace PostRoute

theorem handle_of_applied (h : p.applied = true) (r : PageRequest) :
    p.handle r = (.unchanged, p) := by
  rw [handle, h, Bool.true_or, Bool.true_or, if_pos rfl]

theorem handle_of_other (h : ¬r.IsGetNavigation) (p : PostRoute) :
    p.handle r = (.unchanged, p) := by
  apply if_pos
  rw [Bool.or_assoc, Bool.or_eq_true]
  refine .inr ?_
  by_cases get : r.method = "GET"
  · have still : r.navigation ≠ true := fun navigates => h ⟨get, navigates⟩
    simp [still]
  · simp [get]

theorem handle_of_navigation (h : r.IsGetNavigation) (fresh : p.applied = false) : p.handle r =
    (.post p.body (r.headers.put "content-type" formContentType), { p with applied := true }) := by
  rw [handle, fresh, h.1, h.2]
  rfl

theorem handleAll_of_applied (h : p.applied = true) (requests : List PageRequest) :
    handleAll requests p = (requests.map fun _ => .unchanged, p) := by
  induction requests with
  | nil => rfl
  | cons r requests ih =>
    rw [handleAll, handle_of_applied h]
    dsimp only
    rw [ih, List.map_cons]

/-- A body is taken from the first navigation by GET on, and not before. -/
theorem applied_handleAll (requests : List PageRequest) (p : PostRoute) :
    (handleAll requests p).2.applied = true ↔
      p.applied = true ∨ ∃ r ∈ requests, r.IsGetNavigation := by
  induction requests generalizing p with
  | nil => simp [handleAll]
  | cons r requests ih =>
    rw [handleAll]
    dsimp only
    rw [ih, List.exists_mem_cons_iff]
    by_cases taken : p.applied = true
    · rw [handle_of_applied taken]
      exact iff_of_true (.inl taken) (.inl taken)
    · by_cases navigates : r.IsGetNavigation
      · rw [handle_of_navigation navigates (Bool.not_eq_true _ ▸ taken)]
        exact iff_of_true (.inl rfl) (.inr (.inl navigates))
      · rw [handle_of_other navigates]
        simp only [navigates, false_or]

end PostRoute

theorem asForm_put (headers : Dict) :
    AsForm headers (headers.put "content-type" formContentType) where
  type := by rw [Dict.get?_put, if_pos rfl]; rfl
  others := by
    induction headers with
    | nil => rfl
    | cons header headers ih =>
      rw [Dict.put]
      split
      · next own => simp [own]
      · next other => rw [List.filter_cons, List.filter_cons, ih]
  once differ := Dict.put_spellingsDiffer differ _ _

theorem Posts.cons (h : Posts values requests continuations) (other : ¬r.IsGetNavigation) :
    Posts values (r :: requests) (.unchanged :: continuations) := by
  cases h with
  | none others =>
    have others : ∀ r' ∈ r :: _, ¬r'.IsGetNavigation := List.forall_mem_cons.2 ⟨other, others⟩
    exact .none others
  | first others navigates reads headed =>
    have others : ∀ r' ∈ r :: _, ¬r'.IsGetNavigation := List.forall_mem_cons.2 ⟨other, others⟩
    exact .first others navigates reads headed

theorem posts_handleAll (fresh : p.applied = false) (reads : Encoded.decode? p.body = some values)
    (requests : List PageRequest) : Posts values requests (PostRoute.handleAll requests p).1 := by
  induction requests with
  | nil => exact .none (by simp)
  | cons r requests ih =>
    rw [PostRoute.handleAll]
    by_cases navigates : r.IsGetNavigation
    · rw [PostRoute.handle_of_navigation navigates fresh]
      dsimp only
      rw [PostRoute.handleAll_of_applied rfl]
      exact .first (List.forall_mem_nil _) navigates reads (asForm_put r.headers)
    · rw [PostRoute.handle_of_other navigates]
      exact ih.cons navigates

namespace State

variable {s s₁ : State} {context : ℕ}

/-- The events of a visit through a route. -/
theorem visit_snd (page : PageBehaviour) (url : String) (options : List (String × Value))
    (route : PostRoute) (s : State) :
    ∃ waits, (∀ e ∈ waits, ∃ ms, e = .awaited ms) ∧
      (visit page url options (some route) s).2 = s.noteAll (.routed "**/*" :: .went url ::
        (route.handleAll page.requests).1.map .continued ++ waits) := by
  have set : setOut page url (some route) s = s.noteAll (.routed "**/*" :: .went url ::
      (route.handleAll page.requests).1.map .continued) := by
    rw [setOut, routeAll_eq]
    simp [note, noteAll]
  rw [visit, set]
  dsimp only
  split
  · exact ⟨[], List.forall_mem_nil _, by rw [List.append_nil]⟩
  · next arrival _ =>
    obtain ⟨waits, only, waited⟩ := awaitLate_snd page options arrival
      (s.noteAll (.routed "**/*" :: .went url ::
        (route.handleAll page.requests).1.map .continued))
    refine ⟨waits, only, ?_⟩
    dsimp only
    rw [waited, noteAll_noteAll]

theorem pages_ensureContext (s : State) : s.ensureContext.2.world.pages = s.world.pages := by
  cases context : s.running.context with
  | some c => rw [ensureContext, context]
  | none =>
    rw [ensureContext, context, launchFault_eq]
    generalize s.world.failLaunch.headD none = fault
    obtain _ | _ | _ | _ | _ := fault <;> simp [openContext, note, failed]

theorem nextPage_of_ensured (ensured : s.ensureContext = (.ok context, s₁)) :
    s₁.nextPage = s.nextPage := by
  have pages := pages_ensureContext s
  rw [ensured] at pages
  rw [nextPage, nextPage, pages]

/-- The events of a submission, with those of its page's requests. -/
theorem log_submit (ensured : s.ensureContext = (.ok context, s₁)) (url : String) (values : Dict)
    (options : List (String × Value)) :
    ∃ waits, (∀ e ∈ waits, ∃ ms, e = .awaited ms) ∧
      (s.submit url values options).2.world.log = s₁.world.log ++
        .pageOpened :: .routed "**/*" :: .went url ::
          ((PostRoute.handleAll s.nextPage.requests
              { body := Encoded.encode values }).1.map .continued ++
            waits ++ [.closed .page]) := by
  obtain ⟨waits, only, visited⟩ :=
    visit_snd s.nextPage url options { body := Encoded.encode values }
    (s₁.openPage context).2
  rw [openPage_eq, nextPage_of_ensured ensured] at visited
  refine ⟨waits, only, ?_⟩
  rw [submit, navigate, ensured]
  dsimp only
  rw [openPage_eq, nextPage_of_ensured ensured, closePage_snd, visited]
  simp only [noteAll, List.append_assoc, List.cons_append, List.nil_append]

/-- Of the requests that a page makes while a form is submitted through it, the first navigation by
GET, if there is one, goes out as a POST. Its body is read back as just the values submitted, its
content type is that of a form, and its other headers stay. All requests before and after it
continue unchanged. The values count as sent from it on, and not before. -/
theorem submit_posts_once (ensured : s.ensureContext = (.ok context, s₁)) (url : String)
    (values : Dict) (options : List (String × Value)) :
    (∃ continuations waits, Posts values s.nextPage.requests continuations ∧
      (∀ e ∈ waits, ∃ ms, e = .awaited ms) ∧
      (s.submit url values options).2.world.log = s₁.world.log ++
        .pageOpened :: .routed "**/*" :: .went url ::
          (continuations.map .continued ++ waits ++ [.closed .page])) ∧
    ∀ n, (PostRoute.handleAll (s.nextPage.requests.take n)
        { body := Encoded.encode values }).2.applied = true ↔
      ∃ r ∈ s.nextPage.requests.take n, r.IsGetNavigation := by
  constructor
  · obtain ⟨waits, only, log⟩ := log_submit ensured url values options
    have posts := posts_handleAll (p := { body := Encoded.encode values }) rfl
      (Encoded.decode?_encode values) s.nextPage.requests
    exact ⟨_, waits, posts, only, log⟩
  · intro n
    rw [PostRoute.applied_handleAll]
    simp

end State

/-- A page that loads a script, goes to an address and is sent on from there. -/
def hoppingPage : PageBehaviour where
  requests := [{ navigation := false }, { headers := [("accept", "text/html")] }, {}]

/-- Its second request takes the values, with signs that separate pairs among them. -/
theorem hopping_posts_once :
    let s := State.unused {} [hoppingPage]
    let values := [("a&b", "1 + 1 = 2%"), ("", "é")]
    s.ensureContext = (.ok 0, s.ensureContext.2) ∧
    (∃ continuations waits, Posts values hoppingPage.requests continuations ∧
      (∀ e ∈ waits, ∃ ms, e = .awaited ms) ∧
      (s.submit "http://shop/" values []).2.world.log = s.ensureContext.2.world.log ++
        .pageOpened :: .routed "**/*" :: .went "http://shop/" ::
          (continuations.map .continued ++ waits ++ [.closed .page])) ∧
    (PostRoute.handleAll (hoppingPage.requests.take 1)
      { body := Encoded.encode values }).2.applied = false ∧
    (PostRoute.handleAll (hoppingPage.requests.take 2)
      { body := Encoded.encode values }).2.applied = true := by
  intro s values
  have ensured : s.ensureContext = (.ok 0, s.ensureContext.2) := rfl
  obtain ⟨posts, applied⟩ := State.submit_posts_once ensured "http://shop/" values []
  have before : ¬∃ r ∈ s.nextPage.requests.take 1, r.IsGetNavigation := by decide
  exact ⟨ensured, posts, Bool.eq_false_iff.2 fun sent => before ((applied 1).1 sent),
    (applied 2).2 (by decide)⟩

end WebScript.Browser
