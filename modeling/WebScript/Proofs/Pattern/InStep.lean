import Mathlib.Data.List.Forall2
import WebScript.Proofs.Pattern.Lettering
import WebScript.Proofs.Pattern.Near

namespace WebScript.Pattern.Reading

/-- Readers at the same place of a text, of which so many tokens are left, with or without letters
in them. -/
structure Alike (passed : Passed) (m m' n : Nat) (r r' : Reader) : Prop where
  rest : r'.rest = lettered passed r.rest
  size : r.rest.length ≤ m
  size' : r'.rest.length ≤ m'
  strays : r.strays = n
  flags : r'.flags = r.flags
  names : r'.names = r.names
  groups : List.Forall₂ (Option.Rel (Width.Near n)) r.groups.toList r'.groups.toList
  groupsBefore : r'.groupsBefore = r.groupsBefore
  tested : r'.tested = r.tested
  flawed : r'.flawed = r.flawed

/-- Both have read something, or both have failed. -/
inductive InStep {α β : Type} (P : α → Reader → β → Reader → Prop) :
    Except Fault (α × Reader) → Except Fault (β × Reader) → Prop
  | ok {a r b r'} (h : P a r b r') : InStep P (.ok (a, r)) (.ok (b, r'))
  | error (f : Fault) : InStep P (.error f) (.error f)

def Same {α : Type} (m m' n : Nat) (a : α) (r : Reader) (b : α) (r' : Reader) : Prop :=
  b = a ∧ Alike .nothing m m' n r r'

variable {α β γ δ : Type} {P : α → Reader → β → Reader → Prop} {Q : γ → Reader → δ → Reader → Prop}
  {passed passed' : Passed} {m m' n k k' : Nat} {r r' s s' : Reader} {c : Char}
  {ts : List Token} {t : Token}

theorem InStep.bind {x : Reading α} {y : Reading β} {f : α → Reading γ} {g : β → Reading δ}
    (h : InStep P (x r) (y r'))
    (further : ∀ a s b s', P a s b s' → InStep Q (f a s) (g b s')) :
    InStep Q ((x >>= f) r) ((y >>= g) r') := by
  change InStep Q (x r >>= fun p => f p.1 p.2) (y r' >>= fun p => g p.1 p.2)
  generalize x r = first, y r' = second at h ⊢
  cases h with
  | ok h => exact further _ _ _ _ h
  | error f => exact .error f

theorem InStep.pure {a : α} {b : β} (h : P a r b r') :
    InStep P ((Pure.pure a : Reading α) r) ((Pure.pure b : Reading β) r') :=
  .ok h

theorem get_inStep {f : Reader → Reading γ} {g : Reader → Reading δ}
    (further : InStep Q (f r r) (g r' r')) : InStep Q ((get >>= f) r) ((get >>= g) r') :=
  further

theorem InStep.fail : InStep P ((fail : Reading α) r) ((fail : Reading β) r') :=
  .error .malformed

theorem InStep.failed {f : α → Reading γ} {g : β → Reading δ} :
    InStep Q ((Reading.fail >>= f) r) ((Reading.fail >>= g) r') :=
  .error .malformed

theorem InStep.ite {p : Prop} [Decidable p] {x y : Reading γ} {x' y' : Reading δ}
    (yes : p → InStep Q (x r) (x' r')) (no : ¬p → InStep Q (y r) (y' r')) :
    InStep Q ((if p then x else y) r) ((if p then x' else y') r') := by
  split
  · next h => exact yes h
  · next h => exact no h

theorem InStep.mono {P' : α → Reader → β → Reader → Prop} {x y} (h : InStep P x y)
    (weaker : ∀ a s b s', P a s b s' → P' a s b s') : InStep P' x y := by
  cases h with
  | ok h => exact .ok (weaker _ _ _ _ h)
  | error f => exact .error f

namespace Alike

theorem tight (h : Alike passed m m' n r r') :
    Alike passed r.rest.length r'.rest.length n r r' :=
  { h with size := Nat.le_refl _, size' := Nat.le_refl _ }

theorem mono (h : Alike passed m m' n r r') (le : m ≤ k) (le' : m' ≤ k') :
    Alike passed k k' n r r' :=
  { h with size := Nat.le_trans h.size le, size' := Nat.le_trans h.size' le' }

theorem goTo (h : Alike passed m m' n r r') (size : ts.length ≤ k)
    (size' : (lettered passed' ts).length ≤ k') :
    Alike passed' k k' n { r with rest := ts } { r' with rest := lettered passed' ts } :=
  { h with rest := rfl, size, size' }

theorem plain (h : Alike (Passed.nothing.after t) m m' n r r') (other : ¬t.IsBracket) :
    Alike .nothing m m' n r r' := by
  rwa [Passed.nothing_after other] at h

/-- After a bracket nothing is different, unless a name begins. -/
theorem calm (h : Alike .bracket m m' n r r') (calm : opensName r.rest = false) :
    Alike .nothing m m' n r r' :=
  { h with rest := by rw [h.rest, lettered_bracket calm] }

end Alike

theorem Same.mono {α : Type} {x y : Except Fault (α × Reader)} (h : InStep (Same m m' n) x y)
    (le : m ≤ k) (le' : m' ≤ k') : InStep (Same k k' n) x y := by
  apply h.mono
  rintro _ _ _ _ ⟨same, h⟩
  exact ⟨same, h.mono le le'⟩

theorem bind_of_ok {x : Reading α} {f : α → Reading γ} {a : α} (h : x r = .ok (a, s)) :
    (x >>= f) r = f a s := by
  change (x r >>= fun p => f p.1 p.2) = f a s
  rw [h]
  rfl

theorem bind_of_error {α γ : Type} {x : Reading α} {f : α → Reading γ} {fault : Fault}
    (h : x r = .error fault) : (x >>= f) r = .error fault := by
  change (x r >>= fun p => f p.1 p.2) = _
  rw [h]
  rfl

theorem goTo_of_calm (calm : ts.head? ≠ some .dangling) :
    goTo ts r = .ok ((), { r with rest := ts }) := by
  rw [goTo, if_neg calm]
  rfl

theorem goTo_of_dangling (dangling : ts.head? = some .dangling) :
    goTo ts r = .error .malformed := by
  rw [goTo, if_pos dangling]
  rfl

theorem next_of_nil (h : r.rest = []) : next r = .ok (none, r) := by
  cases r
  cases h
  rfl

theorem next_of_cons (h : r.rest = t :: ts) :
    next r = (goTo ts >>= fun _ => pure (some t)) r := by
  cases r
  cases h
  rfl

theorem next_bind_of_cons {α : Type} {t : Token} {f : Option Token → Reading α}
    (h : r.rest = t :: ts) :
    (next >>= f) r = (goTo ts >>= fun _ => f (some t)) r := by
  have first := next_of_cons h
  change (next r >>= fun p => f p.1 p.2) = (goTo ts r >>= fun p => f (some t) p.2)
  rw [first]
  change ((goTo ts r >>= fun p => pure (some t, p.2)) >>= fun p => f p.1 p.2) = _
  cases goTo ts r <;> rfl

theorem next_of_calm (h : r.rest = t :: ts) (calm : ts.head? ≠ some .dangling) :
    next r = .ok (some t, { r with rest := ts }) := by
  have moved : goTo ts r = .ok ((), { r with rest := ts }) := by
    rw [goTo, if_neg calm]
    rfl
  rw [next_of_cons h, bind_of_ok moved]
  rfl

theorem peek_bind (f : Option Token → Reading γ) : (peek >>= f) r = f r.rest.head? r :=
  rfl

theorem accept_of_ne (h : r.rest.head? ≠ some (.char c)) : accept c r = .ok (false, r) := by
  unfold accept
  change (if r.rest.head? = some (.char c) then _ else pure false : Reading Bool) r = _
  rw [if_neg h]
  rfl

theorem accept_of_head (h : r.rest = .char c :: ts) (calm : ts.head? ≠ some .dangling) :
    accept c r = .ok (true, { r with rest := ts }) := by
  unfold accept
  change (if r.rest.head? = some (.char c) then _ else pure false : Reading Bool) r = _
  rw [if_pos (by rw [h]; rfl), bind_of_ok (next_of_calm h calm)]
  rfl

theorem accept_of_dangling (h : r.rest = .char c :: ts) (dangling : ts.head? = some .dangling) :
    accept c r = .error .malformed := by
  unfold accept
  change (if r.rest.head? = some (.char c) then _ else pure false : Reading Bool) r = _
  rw [if_pos (by rw [h]; rfl), bind_of_error]
  rw [next_of_cons h, bind_of_error (goTo_of_dangling dangling)]

theorem goTo_inStep (h : Alike passed m m' n r r') (ne : passed' ≠ .mark) (size : ts.length ≤ k)
    (size' : (lettered passed' ts).length ≤ k') :
    InStep (fun _ s _ s' => s.rest = ts ∧ Alike passed' k k' n s s') (goTo ts r)
      (goTo (lettered passed' ts) r') := by
  unfold goTo
  rw [head?_lettered ne]
  split
  · exact .error _
  · exact .ok ⟨rfl, h.goTo size size'⟩

inductive Taken (r : Reader) (n : Nat) :
    Nat → Nat → Option Token → Reader → Option Token → Reader → Prop
  | none {m m' : Nat} {s s' : Reader} (nil : r.rest = []) (h : Alike .nothing m m' n s s') :
      Taken r n m m' none s none s'
  | some {m m' : Nat} {s s' : Reader} (t : Token) (split : r.rest = t :: s.rest)
      (h : Alike (Passed.nothing.after t) m m' n s s') :
      Taken r n (m + 1) (m' + 1) (some t) s (some t) s'

theorem next_inStep (h : Alike .nothing m m' n r r') :
    InStep (Taken r n m m') (next r) (next r') := by
  have rest' := h.rest
  have size := h.size
  have size' := h.size'
  cases split : r.rest with
  | nil =>
    rw [split] at rest'
    rw [next_of_nil split, next_of_nil rest']
    exact .ok (.none split h)
  | cons t ts =>
    rw [split, lettered_cons (by decide)] at rest'
    rw [split] at size
    rw [rest'] at size'
    rw [next_of_cons split, next_of_cons rest']
    obtain ⟨m, rfl⟩ := Nat.exists_eq_add_of_lt (Nat.lt_of_lt_of_le (Nat.zero_lt_succ _) size)
    obtain ⟨m', rfl⟩ := Nat.exists_eq_add_of_lt (Nat.lt_of_lt_of_le (Nat.zero_lt_succ _) size')
    simp only [Nat.zero_add, List.length_cons, Nat.add_le_add_iff_right] at size size' ⊢
    apply (goTo_inStep h (Passed.after_ne_mark (by decide)) size size').bind
    rintro _ _ _ _ ⟨moved, h⟩
    exact .ok (.some t (moved ▸ split) h)

theorem peek_inStep {f : Option Token → Reading γ} {g : Option Token → Reading δ}
    (h : Alike .nothing m m' n r r')
    (further : InStep Q (f r.rest.head? r) (g r.rest.head? r')) :
    InStep Q ((peek >>= f) r) ((peek >>= g) r') := by
  rw [peek_bind, peek_bind, h.rest, head?_lettered (by decide)]
  exact further

inductive Accepted (c : Char) (r : Reader) (n : Nat) :
    Nat → Nat → Bool → Reader → Bool → Reader → Prop
  | no {m m' : Nat} {s' : Reader} (other : r.rest.head? ≠ some (.char c))
      (h : Alike .nothing m m' n r s') :
      Accepted c r n m m' false r false s'
  | yes {m m' : Nat} {s s' : Reader} (split : r.rest = .char c :: s.rest)
      (h : Alike .nothing m m' n s s') : Accepted c r n (m + 1) (m' + 1) true s true s'

theorem accept_inStep (h : Alike .nothing m m' n r r') (hc : c ≠ '(') :
    InStep (Accepted c r n m m') (accept c r) (accept c r') := by
  unfold accept
  apply peek_inStep h
  split
  · next first =>
    apply (next_inStep h).bind
    intro _ _ _ _ taken
    cases taken with
    | none nil =>
      rw [nil] at first
      cases first
    | some t split h =>
      rw [split] at first
      cases first
      exact .ok (.yes split (h.plain (mt Token.isBracket_char.1 hc)))
  · next other => exact .ok (.no other h)

theorem accept_same (h : Alike .nothing m m' n r r') (hc : c ≠ '(') :
    InStep (Same m m' n) (accept c r) (accept c r') := by
  apply (accept_inStep h hc).mono
  intro _ _ _ _ accepted
  cases accepted with
  | no _ h => exact ⟨rfl, h⟩
  | yes _ h => exact ⟨rfl, h.mono (Nat.le_succ _) (Nat.le_succ _)⟩

theorem require_inStep (h : Alike .nothing m m' n r r') (hc : c ≠ '(') :
    InStep (fun _ s _ s' => Alike .nothing m m' n s s') (require c r) (require c r') := by
  unfold require
  apply (accept_inStep h hc).bind
  intro _ _ _ _ accepted
  cases accepted with
  | no => exact .fail
  | yes _ h => exact .ok (h.mono (Nat.le_succ _) (Nat.le_succ _))

end WebScript.Pattern.Reading
