import WebScript.Pattern.Reading
import WebScript.Proofs.Except

namespace WebScript.Pattern.Reading

def Refines {α : Type} (x y : Reading α) : Prop :=
  ∀ r v, x r = .ok v → y r = .ok v

namespace Refines

variable {α β : Type} {x y : Reading α} {f g : α → Reading β}

theorem refl (x : Reading α) : Refines x x :=
  fun _ _ h => h

theorem failed : Refines (fail >>= f) (fail >>= g) := by
  intro r v h
  cases h

theorem bind (h : Refines x y) (further : ∀ a, Refines (f a) (g a)) :
    Refines (x >>= f) (y >>= g) := by
  intro r v done
  change (x r >>= fun p => f p.1 p.2) = .ok v at done
  change (y r >>= fun p => g p.1 p.2) = .ok v
  cases first : x r with
  | error =>
    rw [first] at done
    cases done
  | ok p =>
    rw [first] at done
    rw [h r p first]
    exact further p.1 p.2 v done

theorem after (x : Reading α) (further : ∀ a, Refines (f a) (g a)) : Refines (x >>= f) (x >>= g) :=
  (refl x).bind further

theorem ite {p : Prop} [Decidable p] {x' y' : Reading α} (yes : Refines x x') (no : Refines y y') :
    Refines (if p then x else y) (if p then x' else y') := by
  split
  · exact yes
  · exact no

end Refines

theorem afterAngle_refines : Refines (afterAngle .lettered) (afterAngle .bare) := by
  unfold afterAngle
  apply Refines.after
  intro equals
  apply Refines.ite (.refl _)
  apply Refines.after
  intro bang
  apply Refines.ite (.refl _)
  intro r v h
  cases h

theorem opening_refines (flags : Flags) :
    Refines (opening .lettered flags) (opening .bare flags) := by
  unfold opening
  apply Refines.after
  intro marked
  apply Refines.ite (.refl _)
  apply Refines.after
  intro next
  split
  · exact .refl afterLetter
  · exact .refl _
  · exact .refl _
  · exact .refl _
  · exact .refl _
  · exact afterAngle_refines
  · exact .refl _
  · exact .refl _
  · exact .refl _
  · exact .refl _

variable {fuel : Nat}

/-- What is read with so much fuel is read the same where letters may be missing. -/
structure LenientWith (fuel : Nat) : Prop where
  alternatives (place : Place) (flags : Flags) :
    Refines (alternatives .lettered fuel place flags) (alternatives .bare fuel place flags)
  parts (place : Place) (flags : Flags) (done : List Part) :
    Refines (parts .lettered fuel place flags done) (parts .bare fuel place flags done)
  partsFrom (place : Place) (flags : Flags) (done : List Part) (c : Char) :
    Refines (partsFrom .lettered fuel place flags done c) (partsFrom .bare fuel place flags done c)
  bracket (place : Place) (flags : Flags) (done : List Part) :
    Refines (bracket .lettered fuel place flags done) (bracket .bare fuel place flags done)

theorem alternatives_refines (ih : LenientWith fuel) (place : Place) (flags : Flags) :
    Refines (alternatives .lettered (fuel + 1) place flags)
    (alternatives .bare (fuel + 1) place flags) := by
  rw [alternatives, alternatives]
  apply (ih.parts place flags []).bind
  intro _
  apply Refines.after
  intro bar
  apply Refines.ite _ (.refl _)
  apply Refines.after
  intro _
  apply (ih.alternatives _ _).bind
  exact fun _ => .refl _

theorem parts_refines (ih : LenientWith fuel) (place : Place) (flags : Flags) (done : List Part) :
    Refines (parts .lettered (fuel + 1) place flags done)
    (parts .bare (fuel + 1) place flags done) := by
  rw [parts, parts]
  apply Refines.after
  intro first
  cases first with
  | none => exact .refl (pure (whole done))
  | some t =>
    by_cases bar : t = .char '|'
    · subst bar
      exact .refl (pure (whole done))
    by_cases close : t = .char ')'
    · subst close
      exact .refl (pure (whole done))
    simp only []
    apply Refines.after
    intro _
    cases t with
    | dangling => exact .refl fail
    | escape c =>
      apply Refines.after
      intro _
      apply Refines.after
      exact fun _ => ih.parts _ _ _
    | char c => exact ih.partsFrom _ _ _ _

theorem partsFrom_refines (ih : LenientWith fuel) (place : Place) (flags : Flags) (done : List Part)
    (c : Char) : Refines (partsFrom .lettered (fuel + 1) place flags done c)
      (partsFrom .bare (fuel + 1) place flags done c) := by
  unfold partsFrom
  apply Refines.ite (ih.parts _ _ _)
  apply Refines.ite
  · apply Refines.after
    exact fun _ => ih.parts _ _ _
  · split
    · apply Refines.after
      exact fun _ => ih.parts _ _ _
    · exact ih.parts _ _ _
    · exact ih.parts _ _ _
    · exact ih.parts _ _ _
    · exact ih.bracket _ _ _
    · apply Refines.after
      intro bounds
      cases bounds with
      | none => exact ih.parts _ _ _
      | some =>
        apply Refines.after
        exact fun _ => ih.parts _ _ _

theorem bracket_refines (ih : LenientWith fuel) (place : Place) (flags : Flags) (done : List Part) :
    Refines (bracket .lettered (fuel + 1) place flags done)
    (bracket .bare (fuel + 1) place flags done) := by
  rw [bracket, bracket]
  apply (opening_refines flags).bind
  intro opening
  cases opening with
  | comment => exact .after _ fun _ => ih.parts _ _ _
  | flags on =>
    apply Refines.ite .failed
    apply Refines.after
    intro _
    apply Refines.after
    exact fun _ => ih.parts _ _ _
  | reference group => exact .after _ fun _ => ih.parts _ _ _
  | capture name =>
    apply Refines.after
    intro group
    apply (ih.alternatives _ _).bind
    intro _
    apply Refines.after
    intro _
    apply Refines.after
    exact fun _ => ih.parts _ _ _
  | plain inner =>
    apply (ih.alternatives _ _).bind
    intro _
    apply Refines.after
    exact fun _ => ih.parts _ _ _
  | atomic =>
    apply (ih.alternatives _ _).bind
    intro _
    apply Refines.after
    exact fun _ => ih.parts _ _ _
  | look behind negated =>
    apply Refines.after
    intro outermost
    apply (ih.alternatives _ _).bind
    intro _
    apply Refines.after
    intro _
    apply Refines.after
    intro _
    apply Refines.after
    exact fun _ => ih.parts _ _ _
  | condition group =>
    apply (ih.parts _ _ _).bind
    intro _
    apply Refines.after
    intro bar
    cases bar with
    | false =>
      rw [if_neg Bool.false_ne_true, if_neg Bool.false_ne_true]
      apply Refines.after
      intro _
      apply Refines.after
      exact fun _ => ih.parts _ _ _
    | true =>
      rw [if_pos rfl, if_pos rfl]
      apply (ih.parts _ _ _).bind
      intro _
      apply Refines.after
      exact fun _ => ih.parts _ _ _

theorem lenientWith (fuel : Nat) : LenientWith fuel := by
  induction fuel with
  | zero =>
    constructor
    · exact fun _ _ => .refl fail
    · exact fun _ _ _ => .refl fail
    · exact fun _ _ _ _ => .refl fail
    · exact fun _ _ _ => .refl fail
  | succ fuel ih =>
    exact ⟨alternatives_refines ih, parts_refines ih, partsFrom_refines ih, bracket_refines ih⟩

theorem pattern_refines (size : Nat) : Refines (pattern .lettered size) (pattern .bare size) := by
  unfold pattern
  apply Refines.after
  intro start
  apply Refines.after
  intro _
  apply ((lenientWith _).alternatives _ _).bind
  exact fun _ => .refl _

end Reading

theorem read_bare_of_lettered {text : List Char} {x : Pattern × Nat}
    (h : read .lettered text = .ok x) :
    read .bare text = .ok x := by
  obtain ⟨⟨p, r⟩, done, rfl⟩ := Except.map_eq_ok.1 h
  exact Except.map_eq_ok.2 ⟨_, Reading.pattern_refines _ _ _ done, rfl⟩

end WebScript.Pattern
