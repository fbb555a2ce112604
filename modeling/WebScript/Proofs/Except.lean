import Mathlib.Data.List.Forall2
import Mathlib.Data.List.ReduceOption

namespace Except

variable {ε δ α β γ : Type}

theorem bind_of_ok {x : Except ε α} {f : α → Except ε β} {a : α} (h : x = .ok a) :
    x >>= f = f a := by
  rw [h]
  rfl

theorem bind_eq_ok {x : Except ε α} {f : α → Except ε β} {b : β} :
    (x >>= f) = .ok b ↔ ∃ v, x = .ok v ∧ f v = .ok b := by
  cases x with
  | error e => exact ⟨nofun, fun ⟨_, h, _⟩ => nomatch h⟩
  | ok v => exact ⟨fun h => ⟨v, rfl, h⟩, fun ⟨_, h, hf⟩ => by cases h; exact hf⟩

theorem bind_eq_error {x : Except ε α} {f : α → Except ε β} {e : ε} :
    (x >>= f) = .error e ↔ x = .error e ∨ ∃ v, x = .ok v ∧ f v = .error e := by
  cases x with
  | error e' =>
    constructor
    · intro h
      cases h
      exact .inl rfl
    · rintro (h | ⟨_, h, _⟩) <;> cases h
      rfl
  | ok v =>
    constructor
    · intro h
      exact .inr ⟨v, rfl, h⟩
    · rintro (h | ⟨_, h, hf⟩)
      · cases h
      · cases h
        exact hf

theorem bind_pure_eq_error {x : Except ε α} {f : α → β} {e : ε} :
    (x >>= fun a => pure (f a)) = .error e ↔ x = .error e := by
  rw [bind_eq_error]
  exact or_iff_left fun ⟨_, _, h⟩ => nomatch h

theorem isOk_iff_exists {x : Except ε α} : x.isOk = true ↔ ∃ v, x = .ok v := by
  cases x with
  | error e => exact ⟨nofun, nofun⟩
  | ok v => exact ⟨fun _ => ⟨v, rfl⟩, fun _ => rfl⟩

theorem map_eq_ok {x : Except ε α} {f : α → β} {b : β} :
    x.map f = .ok b ↔ ∃ v, x = .ok v ∧ f v = b := by
  cases x with
  | error e => exact ⟨nofun, fun ⟨_, h, _⟩ => nomatch h⟩
  | ok v =>
    constructor
    · intro h
      exact ⟨v, rfl, Except.ok.inj h⟩
    · rintro ⟨_, h, hf⟩
      cases h
      exact congrArg Except.ok hf

theorem map_eq_error {x : Except ε α} {f : α → β} {e : ε} :
    x.map f = .error e ↔ x = .error e := by
  cases x with
  | error e' =>
    constructor
    · intro h
      cases h
      rfl
    · intro h
      cases h
      rfl
  | ok v => exact ⟨nofun, nofun⟩

theorem mapError_eq_ok {x : Except ε α} {f : ε → δ} {a : α} :
    x.mapError f = .ok a ↔ x = .ok a := by
  cases x with
  | error e => exact ⟨nofun, nofun⟩
  | ok v =>
    constructor
    · intro h
      cases h
      rfl
    · intro h
      cases h
      rfl

theorem mapError_eq_error {x : Except ε α} {f : ε → δ} {e : δ} :
    x.mapError f = .error e ↔ ∃ e', x = .error e' ∧ f e' = e := by
  cases x with
  | error e' =>
    constructor
    · intro h
      exact ⟨e', rfl, Except.error.inj h⟩
    · rintro ⟨_, h, hf⟩
      cases h
      exact congrArg Except.error hf
  | ok v => exact ⟨nofun, fun ⟨_, h, _⟩ => nomatch h⟩

theorem join_toOption_eq_some {x : Except ε (Option α)} {a : α} :
    x.toOption.join = some a ↔ x = .ok (some a) := by
  cases x with
  | error e => exact ⟨nofun, nofun⟩
  | ok v =>
    cases v with
    | none => exact ⟨nofun, nofun⟩
    | some b =>
      constructor
      · intro h
        cases h
        rfl
      · intro h
        cases h
        rfl

/-- Where a value comes out it is a good one, and where an error does it is one of the expected. -/
structure Meets (x : Except ε α) (good : α → Prop) (expected : ε → Prop) : Prop where
  value : ∀ a, x = .ok a → good a
  error : ∀ e, x = .error e → expected e

namespace Meets

variable {x : Except ε α} {f : α → Except ε β} {good : α → Prop} {better : β → Prop}
  {expected : ε → Prop}

theorem ok {a : α} (h : good a) : Meets (.ok a) good expected :=
  ⟨by rintro _ ⟨⟩; exact h, nofun⟩

theorem pure {a : α} (h : good a) : Meets (Pure.pure a) good expected :=
  ok h

theorem fail {e : ε} (h : expected e) : Meets (.error e) good expected :=
  ⟨nofun, by rintro _ ⟨⟩; exact h⟩

theorem bind (h : Meets x good expected) (h' : ∀ a, good a → Meets (f a) better expected) :
    Meets (x >>= f) better expected where
  value b hb := by
    obtain ⟨a, ha, hb⟩ := bind_eq_ok.1 hb
    exact (h' a (h.value a ha)).value b hb
  error e he := by
    rcases bind_eq_error.1 he with he | ⟨a, ha, he⟩
    · exact h.error e he
    · exact (h' a (h.value a ha)).error e he

theorem fail_bind {e : ε} (h : expected e) :
    Meets ((.error e : Except ε α) >>= f) better expected :=
  fail h

theorem ite {c : Prop} [Decidable c] {y : Except ε α} (h : Meets x good expected)
    (h' : Meets y good expected) : Meets (if c then x else y) good expected := by
  split
  · exact h
  · exact h'

end Meets

/-- Readings that fail alike succeed alike. -/
theorem exists_eq_ok_congr {x : Except ε α} {y : Except ε β}
    (h : ∀ e, x = .error e ↔ y = .error e) : (∃ a, x = .ok a) ↔ ∃ b, y = .ok b := by
  cases x with
  | error e =>
    cases (h e).1 rfl
    simp
  | ok a =>
    cases y with
    | error e => cases (h e).2 rfl
    | ok b => simp

/-- That a reading ends with an error can be decided without comparing its values. -/
instance decidableEqError [DecidableEq ε] (x : Except ε α) (e : ε) : Decidable (x = .error e) :=
  match x with
  | .ok _ => .isFalse nofun
  | .error e' => decidable_of_iff (e' = e) ⟨congrArg Except.error, Except.error.inj⟩

/-- Of a list that is read element by element, the first element that fails decides. -/
theorem mapM_eq_error_iff {f : α → Except ε β} {l : List α} {e : ε} :
    l.mapM f = .error e ↔ ∃ before x after, l = before ++ x :: after ∧
      (∀ y ∈ before, ∃ b, f y = .ok b) ∧ f x = .error e := by
  induction l with
  | nil =>
    constructor
    · intro h
      cases h
    · rintro ⟨before, x, after, h, _⟩
      cases before <;> cases h
  | cons y l ih =>
    rw [List.mapM_cons, bind_eq_error]
    constructor
    · rintro (hy | ⟨b, hy, h⟩)
      · exact ⟨[], y, l, rfl, nofun, hy⟩
      · rcases bind_eq_error.1 h with h | ⟨_, _, h⟩
        · obtain ⟨before, x, after, rfl, earlier, hx⟩ := ih.1 h
          exact ⟨y :: before, x, after, rfl, List.forall_mem_cons.2 ⟨⟨b, hy⟩, earlier⟩, hx⟩
        · cases h
    · rintro ⟨before, x, after, hl, earlier, hx⟩
      cases before with
      | nil =>
        cases hl
        exact .inl hx
      | cons z before =>
        cases hl
        obtain ⟨⟨b, hy⟩, earlier⟩ := List.forall_mem_cons.1 earlier
        exact .inr ⟨b, hy, bind_eq_error.2 (.inl (ih.2 ⟨before, x, after, rfl, earlier, hx⟩))⟩

theorem mapM_eq_error {f : α → Except ε β} {l : List α} {e : ε} (h : l.mapM f = .error e) :
    ∃ x ∈ l, f x = .error e := by
  obtain ⟨before, x, after, rfl, _, hx⟩ := mapM_eq_error_iff.1 h
  exact ⟨x, by simp, hx⟩

theorem mem_of_mapM_eq_ok {f : α → Except ε β} {l : List α} {ys : List β} (h : l.mapM f = .ok ys)
    {y : β} : y ∈ ys ↔ ∃ x ∈ l, f x = .ok y := by
  induction l generalizing ys with
  | nil =>
    cases h
    simp
  | cons x l ih =>
    rw [List.mapM_cons] at h
    obtain ⟨z, hx, h⟩ := bind_eq_ok.1 h
    obtain ⟨zs, hl, h⟩ := bind_eq_ok.1 h
    cases h
    simp [ih hl, hx, eq_comm]

theorem exists_mapM_eq_ok_iff {f : α → Except ε β} {l : List α} :
    (∃ ys, l.mapM f = .ok ys) ↔ ∀ x ∈ l, ∃ y, f x = .ok y := by
  induction l with
  | nil => exact ⟨fun _ => nofun, fun _ => ⟨[], rfl⟩⟩
  | cons x l ih =>
    rw [List.mapM_cons, List.forall_mem_cons, ← ih]
    constructor
    · rintro ⟨_, h⟩
      obtain ⟨y, hx, h⟩ := bind_eq_ok.1 h
      obtain ⟨ys, hl, _⟩ := bind_eq_ok.1 h
      exact ⟨⟨y, hx⟩, ys, hl⟩
    · rintro ⟨⟨y, hx⟩, ys, hl⟩
      exact ⟨y :: ys, by rw [hx, hl]; rfl⟩

theorem exists_mapM_eq_error {f : α → Except ε β} {l : List α} {x : α} {e : ε} (hx : x ∈ l)
    (h : f x = .error e) : ∃ e', l.mapM f = .error e' := by
  cases hl : l.mapM f with
  | error e' => exact ⟨e', rfl⟩
  | ok ys =>
    obtain ⟨y, hy⟩ := exists_mapM_eq_ok_iff.1 ⟨ys, hl⟩ x hx
    cases h.symm.trans hy

/-- Two readings that fail on the same elements, with the same errors, fail on the same lists. -/
theorem mapM_error_congr {f : α → Except ε β} {g : α → Except ε γ} {l : List α}
    (h : ∀ x ∈ l, ∀ e, f x = .error e ↔ g x = .error e) (e : ε) :
    l.mapM f = .error e ↔ l.mapM g = .error e := by
  have ok_iff {x : α} (hx : x ∈ l) := exists_eq_ok_congr (h x hx)
  rw [mapM_eq_error_iff, mapM_eq_error_iff]
  constructor
  · rintro ⟨before, x, after, rfl, earlier, hx⟩
    refine ⟨before, x, after, rfl, fun y hy => (ok_iff ?_).1 (earlier y hy), (h x ?_ e).1 hx⟩
    · exact List.mem_append_left _ hy
    · exact List.mem_append_right _ List.mem_cons_self
  · rintro ⟨before, x, after, rfl, earlier, hx⟩
    refine ⟨before, x, after, rfl, fun y hy => (ok_iff ?_).2 (earlier y hy), (h x ?_ e).2 hx⟩
    · exact List.mem_append_left _ hy
    · exact List.mem_append_right _ List.mem_cons_self

theorem mapM_append_eq_error {f : α → Except ε β} {l l' : List α} {e : ε} :
    (l ++ l').mapM f = .error e ↔
      l.mapM f = .error e ∨ (∃ ys, l.mapM f = .ok ys) ∧ l'.mapM f = .error e := by
  rw [List.mapM_append, bind_eq_error]
  refine or_congr_right ⟨?_, ?_⟩
  · rintro ⟨ys, hl, h⟩
    rcases bind_eq_error.1 h with h | ⟨_, _, h⟩
    · exact ⟨⟨ys, hl⟩, h⟩
    · cases h
  · rintro ⟨⟨ys, hl⟩, h⟩
    exact ⟨ys, hl, bind_eq_error.2 (.inl h)⟩

/-- Lists read one after another are read as one. -/
theorem mapM_flatMap_eq_error {f : β → Except ε γ} {g : α → List β} {l : List α} {e : ε} :
    (l.flatMap g).mapM f = .error e ↔ (l.mapM fun x => (g x).mapM f) = .error e := by
  induction l with
  | nil => exact ⟨nofun, nofun⟩
  | cons x l ih =>
    rw [List.flatMap_cons, mapM_append_eq_error, List.mapM_cons, bind_eq_error, ih]
    refine or_congr_right ⟨?_, ?_⟩
    · rintro ⟨⟨ys, hx⟩, h⟩
      exact ⟨ys, hx, bind_eq_error.2 (.inl h)⟩
    · rintro ⟨ys, hx, h⟩
      rcases bind_eq_error.1 h with h | ⟨_, _, h⟩
      · exact ⟨⟨ys, hx⟩, h⟩
      · cases h

theorem mapM_append_eq_ok {f : α → Except ε β} {l l' : List α} {ys : List β}
    (h : (l ++ l').mapM f = .ok ys) :
    ∃ as bs, l.mapM f = .ok as ∧ l'.mapM f = .ok bs ∧ ys = as ++ bs := by
  rw [List.mapM_append] at h
  obtain ⟨as, ha, h⟩ := bind_eq_ok.1 h
  obtain ⟨bs, hb, h⟩ := bind_eq_ok.1 h
  cases h
  exact ⟨as, bs, ha, hb, rfl⟩

theorem mapM_append_of_ok {f : α → Except ε β} {l l' : List α} {as bs : List β}
    (ha : l.mapM f = .ok as) (hb : l'.mapM f = .ok bs) : (l ++ l').mapM f = .ok (as ++ bs) := by
  rw [List.mapM_append, ha, hb]
  rfl

theorem forall₂_of_mapM {f : α → Except ε β} {R : α → β → Prop}
    (h : ∀ x y, f x = .ok y → R x y) {l : List α} {ys : List β} (hl : l.mapM f = .ok ys) :
    List.Forall₂ R l ys := by
  induction l generalizing ys with
  | nil =>
    cases hl
    exact .nil
  | cons x l ih =>
    rw [List.mapM_cons] at hl
    obtain ⟨y, hx, hl⟩ := bind_eq_ok.1 hl
    obtain ⟨ys, hrest, hl⟩ := bind_eq_ok.1 hl
    cases hl
    exact .cons (h x y hx) (ih hrest)

theorem mapM_eq_ok_iff_forall₂ {f : α → Except ε β} {l : List α} {ys : List β} :
    l.mapM f = .ok ys ↔ List.Forall₂ (fun x y => f x = .ok y) l ys := by
  constructor
  · exact forall₂_of_mapM fun _ _ h => h
  · intro h
    induction h with
    | nil => rfl
    | cons hx _ ih =>
      rw [List.mapM_cons, hx, ih]
      rfl

theorem reduceOption_of_mapM {f : α → Except ε (Option β)} {l : List α} {ys : List (Option β)}
    (h : l.mapM f = .ok ys) : ys.reduceOption = l.filterMap fun x => (f x).toOption.join := by
  have read := mapM_eq_ok_iff_forall₂.1 h
  induction read with
  | nil => rfl
  | @cons x y l ys hx read ih =>
    have rest := ih (mapM_eq_ok_iff_forall₂.2 read)
    have value : (f x).toOption.join = y := by
      rw [hx]
      rfl
    simp only [List.filterMap_cons, value]
    cases y with
    | none => rw [List.reduceOption_cons_of_none, rest]
    | some z => rw [List.reduceOption_cons_of_some, rest]

/-- Elements that are read as nothing may be left out. -/
theorem map_reduceOption_filter {f : α → Except ε (Option β)} {p : α → Bool}
    (nothing : ∀ x, p x = false → f x = .ok none) (l : List α) :
    ((l.filter p).mapM f).map List.reduceOption = (l.mapM f).map List.reduceOption := by
  induction l with
  | nil => rfl
  | cons x l ih =>
    cases hp : p x with
    | false =>
      rw [List.filter_cons_of_neg (by simp [hp]), ih, List.mapM_cons, nothing x hp]
      cases l.mapM f <;> rfl
    | true =>
      rw [List.filter_cons_of_pos hp, List.mapM_cons, List.mapM_cons]
      cases f x with
      | error e => rfl
      | ok y =>
        cases hl : l.mapM f with
        | error e =>
          rw [hl] at ih
          rw [map_eq_error.1 ih]
        | ok ys =>
          rw [hl] at ih
          obtain ⟨zs, hz, same⟩ := map_eq_ok.1 ih
          rw [hz]
          cases y <;> simp [pure, bind, Except.pure, Except.bind, Except.map, same]

/-- Lists of related elements are read to lists of related values, where single elements are. -/
theorem forall₂_mapM {f : α → Except ε β} {g : γ → Except ε δ} {S : α → γ → Prop}
    {R : β → δ → Prop} (hfg : ∀ x y a b, S x y → f x = .ok a → g y = .ok b → R a b) {xs : List α}
    {ys : List γ} (h : List.Forall₂ S xs ys) {as : List β} {bs : List δ} (ha : xs.mapM f = .ok as)
    (hb : ys.mapM g = .ok bs) : List.Forall₂ R as bs := by
  induction h generalizing as bs with
  | nil =>
    cases ha
    cases hb
    exact .nil
  | cons hxy _ ih =>
    rw [List.mapM_cons] at ha hb
    obtain ⟨a, hx, ha⟩ := bind_eq_ok.1 ha
    obtain ⟨as, hxs, ha⟩ := bind_eq_ok.1 ha
    obtain ⟨b, hy, hb⟩ := bind_eq_ok.1 hb
    obtain ⟨bs, hys, hb⟩ := bind_eq_ok.1 hb
    cases ha
    cases hb
    exact .cons (hfg _ _ _ _ hxy hx hy) (ih hxs hys)

end Except
