import WebScript.Proofs.Pattern.Names

namespace WebScript.Pattern.Reading

variable {passed : Passed} {m m' n k : Nat} {r r' s s' : Reader} {c : Char}

/-- Both have read a part; what is left of the text is at the same place. -/
def PartRead (m m' n : Nat) (p : Part) (r : Reader) (p' : Part) (r' : Reader) : Prop :=
  Part.Near n 0 p p' ∧ Alike .nothing m m' n r r'

theorem partRead {p : Part} (sound : p.width.Sound) (h : Alike .nothing m m' n r r') :
    PartRead m m' n p r p r' :=
  ⟨.refl p sound, h⟩

theorem sound_one (set : CharSet) : (Part.one set).width.Sound :=
  Width.sound_exactly 1

theorem rel_getElem? {α : Type} {R : α → α → Prop} {l l' : List α}
    (h : List.Forall₂ R l l') (i : Nat) :
    Option.Rel R l[i]? l'[i]? := by
  induction h generalizing i with
  | nil => exact .none
  | cons first _ ih =>
    cases i with
    | zero => exact .some first
    | succ i => exact ih i

/-- How wide a group is, if it is closed. -/
theorem Alike.group (h : Alike passed m m' n r r') (group : Nat) :
    Option.Rel (Width.Near n) (r.groups[group]?).join (r'.groups[group]?).join := by
  have related := rel_getElem? h.groups group
  rw [Array.getElem?_toList, Array.getElem?_toList] at related
  generalize r.groups[group]? = w, r'.groups[group]? = w' at related ⊢
  cases related with
  | some near => exact near
  | none => exact .none

theorem checkBehind_inStep (group : Nat) (h : Alike .nothing m m' n r r') :
    InStep (fun _ s _ s' =>
      Alike .nothing m m' n s s') (checkBehind group r) (checkBehind group r') := by
  have related := h.group group
  unfold checkBehind
  apply get_inStep
  rw [h.groupsBefore]
  cases r.groupsBefore with
  | none => exact .ok h
  | some before =>
    dsimp only
    generalize (r.groups[group]?).join = w, (r'.groups[group]?).join = w' at related
    cases related with
    | some => exact InStep.ite (fun _ => .fail) fun _ => .ok h
    | none => exact InStep.ite (fun _ => .fail) fun _ => .ok h

theorem backReference_inStep (flags : Flags) (group : Nat) (h : Alike .nothing m m' n r r') :
    InStep (PartRead m m' n) (backReference flags group r) (backReference flags group r') := by
  have related := h.group group
  unfold backReference
  apply get_inStep
  generalize (r.groups[group]?).join = w, (r'.groups[group]?).join = w' at related
  cases related with
  | none => exact .fail
  | some near =>
    dsimp only
    apply (checkBehind_inStep group h).bind
    intro _ _ _ _ h
    refine .ok ⟨⟨⟨rfl, near, ?_⟩, rfl⟩, h⟩
    rintro rfl
    rw [near.eq]

theorem numberEscape_inStep (flags : Flags) (c : Char) (h : Alike .nothing m m' n r r') :
    InStep (PartRead m m' n) (numberEscape flags c r) (numberEscape flags c r') := by
  unfold numberEscape
  apply (charsWhile_inStep (by decide) h (.inl rfl)).bind
  rintro _ s digits _ ⟨rfl, h⟩
  cases digits with
  | nil => exact backReference_inStep flags _ h
  | cons d digits =>
    have number := backReference_inStep flags (decimalValue [c, d]) h
    apply peek_inStep h
    cases first : s.rest.head? with
    | none => exact number
    | some t =>
      cases t with
      | escape e => exact number
      | dangling => exact number
      | char e =>
        by_cases octal : (isOctal c && isOctal d && isOctal e) = true
        · dsimp only
          rw [if_pos octal, pure_bind]
          apply (next_inStep h).bind
          intro _ _ _ _ taken
          cases taken with
          | none nil =>
            rw [nil] at first
            cases first
          | some t split h =>
            rw [split] at first
            cases first
            have other : e ≠ '(' := by
              rintro rfl
              exact absurd (Bool.and_eq_true_iff.1 octal).2 (by decide)
            have plain :=
              (h.plain (mt Token.isBracket_char.1 other)).mono (Nat.le_succ _) (Nat.le_succ _)
            exact InStep.ite (fun _ => .fail) fun _ => .ok (partRead (sound_one _) plain)
        · dsimp only
          rw [if_neg octal]
          exact number

/-- What an escape stands for: a part in itself, or one that is read from what follows. -/
inductive Escapes (flags : Flags) (c : Char) : Reading Part → Prop
  | fault : Escapes flags c fail
  | part {p : Part} (sound : p.width.Sound) : Escapes flags c (Pure.pure p)
  | codePoint {x : Reading Nat} (read : codePoint? c = some x) : Escapes flags c
      (x >>= fun code => Pure.pure (.one (.single code flags.mode)))
  | octal : Escapes flags c
      (charsWhile isOctal 2 >>= fun digits =>
        Pure.pure (.one (.single (octalValue digits) flags.mode)))
  | number : Escapes flags c (numberEscape flags c)

theorem escape_escapes (flags : Flags) (c : Char) : Escapes flags c (escape flags c) := by
  unfold escape
  dsimp only
  split
  · exact .part (Width.sound_exactly 0)
  · exact .part (Width.sound_exactly 0)
  · exact .part (Width.sound_exactly 0)
  · exact .part (Width.sound_exactly 0)
  · split
    · exact .part (sound_one _)
    · exact .part (sound_one _)
    · next _ _ _ read => exact .codePoint read
    · split
      · exact .octal
      · split
        · exact .number
        · split
          · exact .fault
          · exact .part (sound_one _)

theorem escape_inStep (flags : Flags) (c : Char) (h : Alike .nothing m m' n r r') :
    InStep (PartRead m m' n) (escape flags c r) (escape flags c r') := by
  generalize escaped : escape flags c = x
  cases escaped ▸ escape_escapes flags c with
  | fault => exact .fail
  | part sound => exact .ok (partRead sound h)
  | codePoint read =>
    apply (codePoint?_inStep read h).bind
    rintro _ _ code _ ⟨rfl, h⟩
    exact .ok (partRead (sound_one _) h)
  | octal =>
    apply (charsWhile_inStep (by decide) h (.inl rfl)).bind
    rintro _ _ digits _ ⟨rfl, h⟩
    exact .ok (partRead (sound_one _) h)
  | number => exact numberEscape_inStep flags c h

def BoundsRead (m m' n : Nat) (b : Option (Nat × Option Nat)) (r : Reader)
    (b' : Option (Nat × Option Nat)) (r' : Reader) : Prop :=
  b' = b ∧ (∀ p ∈ b, Width.Bounds p.1 p.2) ∧ Alike .nothing m m' n r r'

theorem checkBound_inStep (digits : List Char) (h : Alike .nothing m m' n r r') :
    InStep (fun _ s _ s' =>
      Alike .nothing m m' n s s') (checkBound digits r) (checkBound digits r') := by
  unfold checkBound
  dsimp only
  apply InStep.ite
  · exact fun _ => .error _
  · exact fun _ => InStep.ite (fun _ => .error _) fun _ => .ok h

theorem closedBounds_inStep (low high : List Char) (start : Alike .nothing m m' n r r')
    (h : Alike .nothing m m' n s s') :
    InStep (BoundsRead m m' n) (closedBounds r.rest low high s)
    (closedBounds r'.rest low high s') := by
  unfold closedBounds
  apply (accept_same h (by decide)).bind
  rintro _ _ closed _ ⟨rfl, h⟩
  cases closed with
  | false =>
    have size' : (lettered .nothing r.rest).length ≤ m' := start.rest ▸ start.size'
    have back := goTo_inStep h (by decide) start.size size'
    rw [← start.rest] at back
    apply back.bind
    rintro _ _ _ _ ⟨_, h⟩
    exact .ok ⟨rfl, nofun, h⟩
  | true =>
    apply (checkBound_inStep low h).bind
    intro _ _ _ _ h
    apply (checkBound_inStep high h).bind
    intro _ _ _ _ h
    apply InStep.ite
    · exact fun _ => .ok ⟨rfl, by simp [Width.Bounds], h⟩
    · intro _
      apply InStep.ite
      · exact fun _ => .fail
      · intro ordered
        exact .ok ⟨rfl, by simpa [Width.Bounds] using ordered, h⟩

theorem bounds?_inStep (h : Alike .nothing m m' n r r') :
    InStep (BoundsRead m m' n) (bounds? r) (bounds? r') := by
  unfold bounds?
  apply peek_inStep h
  apply InStep.ite
  · exact fun _ => .ok ⟨rfl, nofun, h⟩
  · intro _
    apply get_inStep
    apply (allWhile_inStep (by decide) h).bind
    rintro _ _ low _ ⟨rfl, along⟩
    apply (accept_same along (by decide)).bind
    rintro _ _ comma _ ⟨rfl, along⟩
    cases comma with
    | false => exact closedBounds_inStep low low h along
    | true =>
      apply (allWhile_inStep (by decide) along).bind
      rintro _ _ high _ ⟨rfl, along⟩
      exact closedBounds_inStep low high h along

theorem quantifier?_inStep (c : Char) (h : Alike .nothing m m' n r r') :
    InStep (BoundsRead m m' n) (quantifier? c r) (quantifier? c r') := by
  by_cases brace : c = '\x7b'
  · subst brace
    exact bounds?_inStep h
  · have pure : ∃ b, quantifier? c = Pure.pure b ∧ ∀ p ∈ b, Width.Bounds p.1 p.2 := by
      unfold quantifier?
      split
      · exact ⟨_, rfl, by simp [Width.Bounds]⟩
      · exact ⟨_, rfl, by simp [Width.Bounds]⟩
      · exact ⟨_, rfl, by simp [Width.Bounds]⟩
      · exact absurd rfl brace
      · exact ⟨_, rfl, by simp⟩
    obtain ⟨b, pure, bounds⟩ := pure
    rw [pure]
    exact .ok ⟨rfl, bounds, h⟩

theorem greed_inStep (h : Alike .nothing m m' n r r') :
    InStep (Same m m' n) (greed r) (greed r') := by
  unfold greed
  apply (accept_same h (by decide)).bind
  rintro _ _ lazy _ ⟨rfl, h⟩
  apply InStep.ite
  · exact fun _ => .ok ⟨rfl, h⟩
  · intro _
    apply (accept_same h (by decide)).bind
    rintro _ _ possessive _ ⟨rfl, h⟩
    exact InStep.ite (fun _ => .ok ⟨rfl, h⟩) fun _ => .ok ⟨rfl, h⟩

theorem Part.Near.repeated {p p' : Part} {least : Nat} {most : Option Nat} (h : Part.Near n k p p')
    (bounds : Width.Bounds least most) (greed : Greed) :
    Part.Near n k ⟨.repeated greed least most p.node, p.width.times least most, false⟩
      ⟨.repeated greed least most p'.node, p'.width.times least most, false⟩ := by
  refine ⟨⟨h.near.weight, h.near.width.times bounds, ?_⟩, rfl⟩
  rintro rfl
  rw [h.eq]

theorem quantified_inStep {ps ps' : List Part} {least : Nat} {most : Option Nat}
    (near : NearParts n k ps ps') (bounds : Width.Bounds least most)
    (h : Alike .nothing m m' n r r') :
    InStep (fun ps s ps' s' => NearParts n k ps ps' ∧ Alike .nothing m m' n s s')
      (quantified ps least most r) (quantified ps' least most r') := by
  unfold quantified
  cases near with
  | none => exact .fail
  | more last before =>
    dsimp only
    rw [last.quantifiable]
    apply InStep.ite
    · exact fun _ => .failed
    · intro _
      apply (greed_inStep h).bind
      rintro _ s greed s' ⟨rfl, h⟩
      refine .ok ⟨.more (last.repeated bounds greed) before, ?_⟩
      have flawed : (s'.flawed || s'.flags.unrepeated) = (s.flawed || s.flags.unrepeated) := by
        rw [h.flawed, h.flags]
      exact { h with flawed }

end WebScript.Pattern.Reading
