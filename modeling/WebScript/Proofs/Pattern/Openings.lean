import WebScript.Proofs.Pattern.Parts

namespace WebScript.Pattern.Reading

variable {passed : Passed} {m m' n k : Nat} {r r' : Reader} {flags : Flags} {ts : List Token}

theorem testedGroup_inStep (h : Alike passed m m' n r r') :
    InStep (Same m m' n) (testedGroup r) (testedGroup r') := by
  unfold testedGroup
  apply (textUntil_inStep (by decide) h).bind
  rintro text s text' s' ⟨rfl | ⟨angle, angle'⟩, h⟩
  · apply InStep.ite
    · intro _
      apply get_inStep
      rw [h.names]
      cases List.lookup (String.ofList text') _ with
      | none => exact .fail
      | some group => exact .ok ⟨rfl, h⟩
    · intro _
      cases Number.read? text' with
      | none => exact .fail
      | some number =>
        apply InStep.ite
        · exact fun _ => .failed
        · intro _
          have tested : number.toNat :: s'.tested = number.toNat :: s.tested := by rw [h.tested]
          exact .ok ⟨rfl, { h with tested }⟩
  · rw [isName_eq_false angle, isName_eq_false angle', read?_eq_none angle, read?_eq_none angle']
    exact .fail

theorem flagsUntil_of_bracket {stops : List Char} {fuel : Nat} :
    flagsUntil stops fuel flags '(' = fail := by
  cases fuel <;> rfl

/-- A flag is followed by other ones until one of some characters comes. -/
theorem flagsUntil_inStep {stops : List Char} (plain : '(' ∉ stops) {fuel fuel' : Nat}
    (flags : Flags)
    (c : Char) (h : Alike .nothing m m' n r r') (enough : m + 1 ≤ fuel) (enough' : m' + 1 ≤ fuel') :
    InStep (Same m m' n) (flagsUntil stops fuel flags c r) (flagsUntil stops fuel' flags c r') := by
  induction fuel generalizing fuel' m m' flags c r r' with
  | zero => omega
  | succ fuel ih =>
    obtain ⟨fuel', rfl⟩ : ∃ f, fuel' = f + 1 := ⟨fuel' - 1, by omega⟩
    rw [flagsUntil, flagsUntil]
    cases Flags.ofLetter? c with
    | none => exact .fail
    | some flag =>
      apply InStep.ite
      · exact fun _ => .failed
      · intro _
        apply (next_inStep h).bind
        intro _ _ _ _ taken
        cases taken with
        | none => exact .fail
        | some t _ h =>
          cases t with
          | escape d => exact .fail
          | dangling => exact .fail
          | char d =>
            by_cases bracket : d = '('
            · subst bracket
              dsimp only
              rw [flagsUntil_of_bracket, flagsUntil_of_bracket, if_neg (by simpa using plain)]
              exact .fail
            · have h := h.plain (mt Token.isBracket_char.1 bracket)
              apply InStep.ite
              · exact fun _ => .ok ⟨rfl, h.mono (Nat.le_succ _) (Nat.le_succ _)⟩
              · intro _
                apply InStep.mono (ih _ d h (by omega) (by omega))
                rintro _ _ _ _ ⟨same, h⟩
                exact ⟨same, h.mono (Nat.le_succ _) (Nat.le_succ _)⟩

theorem flagsOn_inStep (c : Char) (h : Alike .nothing m m' n r r') :
    InStep (Same m m' n) (flagsOn c r) (flagsOn c r') := by
  unfold flagsOn
  apply InStep.ite
  · exact fun _ => .ok ⟨rfl, h⟩
  · intro _
    apply get_inStep
    apply InStep.mono (flagsUntil_inStep (by decide) {} c h.tight (Nat.le_refl _) (Nat.le_refl _))
    rintro _ _ _ _ ⟨same, tight⟩
    exact ⟨same, tight.mono h.size h.size'⟩

theorem flagsOff_inStep (stop : Char) (h : Alike .nothing m m' n r r') :
    InStep (Same m m' n) (flagsOff stop r) (flagsOff stop r') := by
  unfold flagsOff
  apply InStep.ite
  · intro _
    apply (next_inStep h).bind
    intro _ _ _ _ taken
    cases taken with
    | none => exact .fail
    | some t _ h =>
      cases t with
      | escape c => exact .fail
      | dangling => exact .fail
      | char c =>
        by_cases bracket : c = '('
        · subst bracket
          exact .error .malformed
        · have h := h.plain (mt Token.isBracket_char.1 bracket)
          apply get_inStep
          apply (flagsUntil_inStep (by decide) {} c h.tight (Nat.le_refl _) (Nat.le_refl _)).bind
          rintro _ _ off _ ⟨rfl, tight⟩
          have h := tight.mono h.size h.size'
          exact .ok ⟨rfl, h.mono (Nat.le_succ _) (Nat.le_succ _)⟩
  · exact fun _ => .ok ⟨rfl, h⟩

theorem flagChange_inStep (c : Char) (h : Alike .nothing m m' n r r') :
    InStep (Same m m' n) (flagChange c r) (flagChange c r') := by
  unfold flagChange
  apply (flagsOn_inStep c h).bind
  rintro _ _ ⟨on, stop⟩ _ ⟨rfl, h⟩
  apply InStep.ite
  · exact fun _ => .ok ⟨rfl, h⟩
  · intro _
    apply InStep.ite
    · exact fun _ => .failed
    · intro _
      apply (flagsOff_inStep stop h).bind
      rintro _ _ off _ ⟨rfl, h⟩
      exact InStep.ite (fun _ => .failed) fun _ => .ok ⟨rfl, h⟩

theorem afterLetter_inStep (h : Alike .nothing m m' n r r') :
    InStep (Same m m' n) (afterLetter r) (afterLetter r') := by
  unfold afterLetter
  apply (accept_same h (by decide)).bind
  rintro _ _ named _ ⟨rfl, h⟩
  apply InStep.ite
  · intro _
    apply (nameUntil_inStep (by decide) h).bind
    rintro _ _ name _ ⟨rfl, h⟩
    exact .ok ⟨rfl, h⟩
  · intro _
    apply (accept_same h (by decide)).bind
    rintro _ _ again _ ⟨rfl, h⟩
    apply InStep.ite
    · intro _
      apply get_inStep
      rw [h.names]
      apply (nameUntil_inStep (by decide) h).bind
      rintro _ _ name _ ⟨rfl, h⟩
      cases List.lookup name _ with
      | none => exact .fail
      | some group => exact .ok ⟨rfl, h⟩
    · exact fun _ => .fail

theorem afterAngle_inStep (h : Alike .nothing m m' n r r') (looks : Looks r.rest) :
    InStep (Same m m' n) (afterAngle .bare r) (afterAngle .lettered r') := by
  unfold afterAngle
  apply (accept_inStep h (by decide)).bind
  intro _ _ _ _ accepted
  cases accepted with
  | yes _ h => exact .ok ⟨rfl, h.mono (Nat.le_succ _) (Nat.le_succ _)⟩
  | no equals h =>
    apply (accept_inStep h (by decide)).bind
    intro _ _ _ _ accepted
    cases accepted with
    | yes _ h => exact .ok ⟨rfl, h.mono (Nat.le_succ _) (Nat.le_succ _)⟩
    | no bang => exact absurd looks (not_or.2 ⟨equals, bang⟩)

/-- What a bracket begins where no name begins without a letter. -/
theorem opening_inStep_calm (flags : Flags) (h : Alike .nothing m m' n r r')
    (calm : opensName r.rest = false) :
    InStep (Same m m' n) (opening .bare flags r) (opening .lettered flags r') := by
  unfold opening
  apply (accept_inStep h (by decide)).bind
  intro _ s _ s' accepted
  cases accepted with
  | no _ h => exact .ok ⟨rfl, h⟩
  | yes mark h =>
    apply Same.mono _ (Nat.le_succ _) (Nat.le_succ _)
    apply (next_inStep h).bind
    intro _ u _ u' taken
    cases taken with
    | none => exact .fail
    | some t next h =>
      apply Same.mono _ (Nat.le_succ _) (Nat.le_succ _)
      cases t with
      | dangling => exact .fail
      | escape c => exact .fail
      | char c =>
        by_cases bracket : c = '('
        · subst bracket
          apply (testedGroup_inStep h).bind
          rintro _ _ group _ ⟨rfl, h⟩
          apply (checkBehind_inStep group h).bind
          intro _ _ _ _ h
          exact .ok ⟨rfl, h⟩
        have h := h.plain (mt Token.isBracket_char.1 bracket)
        by_cases letter : c = 'P'
        · subst letter
          exact afterLetter_inStep h
        by_cases angle : c = '<'
        · subst angle
          -- No name begins here, so that what comes next must look behind.
          apply afterAngle_inStep h
          apply Decidable.byContradiction
          intro name
          rw [mark, next, opensName_iff.2 ⟨_, rfl, name⟩] at calm
          cases calm
        by_cases single : c ∈ [':', '#', '=', '!', '>']
        · rcases (by simpa using single) with rfl | rfl | rfl | rfl | rfl
          all_goals exact .ok ⟨rfl, h⟩
        simp only [List.mem_cons, List.not_mem_nil, or_false, not_or] at single
        obtain ⟨colon, hash, equals, bang, close⟩ := single
        simp only []
        apply InStep.ite
        · intro _
          apply (flagChange_inStep c h).bind
          rintro _ _ change _ ⟨rfl, h⟩
          cases change with
          | pattern on => exact .ok ⟨rfl, h⟩
          | group on off => exact .ok ⟨rfl, h⟩
        · exact fun _ => .fail

/-- A group whose name comes next. -/
def namedGroup (ts : List Token) : Reading Opening := do
  goTo ts
  return .capture (some (← nameUntil '>'))

theorem opening_of_bare_name (h : r.rest = .char '?' :: .char '<' :: ts) (noLook : ¬Looks ts) :
    opening .bare flags r = namedGroup ts { r with rest := .char '<' :: ts } := by
  obtain ⟨equals, bang⟩ := not_or.1 noLook
  unfold opening namedGroup
  rw [bind_of_ok (accept_of_head h (by simp)), if_neg (by simp)]
  by_cases dangling : ts.head? = some .dangling
  · rw [bind_of_error (goTo_of_dangling dangling), bind_of_error]
    rw [next_of_cons rfl, bind_of_error (goTo_of_dangling dangling)]
  · rw [bind_of_ok (goTo_of_calm dangling), bind_of_ok (next_of_calm rfl dangling)]
    change (accept '=' >>= fun looks => _) _ = _
    rw [bind_of_ok (accept_of_ne equals), if_neg Bool.false_ne_true, bind_of_ok (accept_of_ne bang),
      if_neg Bool.false_ne_true, if_pos rfl]

theorem opening_of_lettered_name (h : r.rest = .char '?' :: .char 'P' :: .char '<' :: ts) :
    opening .lettered flags r = namedGroup ts { r with rest := .char '<' :: ts } := by
  unfold opening namedGroup
  rw [bind_of_ok (accept_of_head h (by simp)), if_neg (by simp),
    bind_of_ok (next_of_calm rfl (by simp))]
  change (accept '<' >>= fun named => _) _ = _
  by_cases dangling : ts.head? = some .dangling
  · rw [bind_of_error (goTo_of_dangling dangling), bind_of_error (accept_of_dangling rfl dangling)]
  · rw [bind_of_ok (goTo_of_calm dangling), bind_of_ok (accept_of_head rfl dangling), if_pos rfl]

/-- What a bracket begins before a name, without and with a letter. -/
theorem opening_inStep_name (flags : Flags) (h : Alike .bracket m m' n r r')
    (name : opensName r.rest = true) :
    InStep (Same m m' n) (opening .bare flags r) (opening .lettered flags r') := by
  obtain ⟨ts, rest, noLook⟩ := opensName_iff.1 name
  have rest' := h.rest
  have size := h.size
  have size' := h.size'
  rw [rest, lettered_bracket_name noLook] at rest'
  rw [rest, List.length_cons, List.length_cons] at size
  rw [rest', List.length_cons, List.length_cons, List.length_cons] at size'
  rw [opening_of_bare_name rest noLook, opening_of_lettered_name rest']
  have angle : lettered .nothing (.char '<' :: ts) = .char '<' :: lettered .nothing ts :=
    lettered_nothing_cons (by decide)
  have along : Alike .nothing m m' n { r with rest := .char '<' :: ts }
      { r' with rest := .char '<' :: lettered .nothing ts } := by
    rw [← angle]
    exact h.goTo (by rw [List.length_cons]; omega) (by rw [angle, List.length_cons]; omega)
  have size : ts.length ≤ m := by omega
  have size' : (lettered .nothing ts).length ≤ m' := by omega
  apply (goTo_inStep along (by decide) size size').bind
  rintro _ _ _ _ ⟨_, h⟩
  apply (nameUntil_inStep (by decide) h).bind
  rintro _ _ name _ ⟨rfl, h⟩
  exact .ok ⟨rfl, h⟩

theorem opening_inStep (flags : Flags) (h : Alike .bracket m m' n r r') :
    InStep (Same m m' n) (opening .bare flags r) (opening .lettered flags r') := by
  cases name : opensName r.rest with
  | true => exact opening_inStep_name flags h name
  | false => exact opening_inStep_calm flags (h.calm name) name

theorem size_groups (h : Alike passed m m' n r r') : r'.groups.size = r.groups.size := by
  rw [← Array.length_toList, ← Array.length_toList, h.groups.length_eq]

theorem Alike.opened (h : Alike passed m m' n r r') (names : List (String × Nat)) :
    Alike passed m m' n { r with groups := r.groups.push none, names }
      { r' with groups := r'.groups.push none, names } := by
  refine { h with names := rfl, groups := ?_ }
  rw [Array.toList_push, Array.toList_push]
  exact List.rel_append h.groups (.cons .none .nil)

theorem openGroup_inStep (name : Option String) (h : Alike .nothing m m' n r r') :
    InStep (Same m m' n) (openGroup name r) (openGroup name r') := by
  unfold openGroup
  apply get_inStep
  dsimp only
  rw [size_groups h, h.names]
  cases name with
  | none => exact .ok ⟨rfl, h.opened _⟩
  | some name =>
    apply InStep.ite
    · exact fun _ => .failed
    · exact fun _ => .ok ⟨rfl, h.opened _⟩

theorem rel_set {α : Type} {R : α → α → Prop} {l l' : List α} {a a' : α} (h : List.Forall₂ R l l')
    (i : Nat) (related : R a a') : List.Forall₂ R (l.set i a) (l'.set i a') := by
  induction h generalizing i with
  | nil => exact .nil
  | cons first others ih =>
    cases i with
    | zero => exact .cons related others
    | succ i => exact .cons first (ih i)

theorem closeGroup_inStep (group : Nat) {w w' : Width} (near : Width.Near n w w')
    (h : Alike .nothing m m' n r r') :
    InStep (fun _ s _ s' =>
      Alike .nothing m m' n s s') (closeGroup group w r) (closeGroup group w' r') := by
  refine .ok { h with groups := ?_ }
  rw [Array.toList_setIfInBounds, Array.toList_setIfInBounds]
  exact rel_set h.groups group (.some near)

theorem enterLook_inStep (behind : Bool) (h : Alike .nothing m m' n r r') :
    InStep (Same m m' n) (enterLook behind r) (enterLook behind r') := by
  unfold enterLook
  apply get_inStep
  rw [h.groupsBefore, size_groups h]
  apply InStep.ite
  · exact fun _ => .ok ⟨rfl, { h with groupsBefore := rfl }⟩
  · exact fun _ => .ok ⟨rfl, h⟩

theorem leaveLook_inStep (outermost : Bool) (h : Alike .nothing m m' n r r') :
    InStep (fun _ s _ s' =>
      Alike .nothing m m' n s s') (leaveLook outermost r) (leaveLook outermost r') := by
  unfold leaveLook
  apply InStep.ite
  · exact fun _ => .ok { h with groupsBefore := rfl }
  · exact fun _ => .ok h

theorem lookAround_inStep (behind negated : Bool) {p p' : Node} {w w' : Width}
    (near : Near n k (p, w) (p', w')) (h : Alike .nothing m m' n r r') :
    InStep (fun q s q' s' => Part.Near n k q q' ∧ Alike .nothing m m' n s s')
      (lookAround behind negated p w r) (lookAround behind negated p' w' r') := by
  have part :
    Part.Near n k ⟨.look (if behind then some w.least else none) negated p, .exactly 0, true⟩
      ⟨.look (if behind then some w'.least else none) negated p', .exactly 0, true⟩ := by
    refine ⟨⟨near.weight, .refl (Width.sound_exactly 0), ?_⟩, rfl⟩
    intro zero
    cases near.same zero
    rfl
  unfold lookAround
  rw [near.width.isNone_fixed?]
  apply InStep.ite
  · exact fun _ => .ok ⟨part, { h with flawed := rfl }⟩
  · exact fun _ => .ok ⟨part, h⟩

end WebScript.Pattern.Reading
