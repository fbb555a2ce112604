import WebScript.Proofs.Pattern.Names

namespace WebScript.Pattern.Reading

variable {passed : Passed} {m m' n k fuel fuel' : Nat} {r r' : Reader} {c : Char}
  {ts : List Token} {t : Token} {ms ms' : List Member}

theorem setEscape_inStep (h : Alike .nothing m m' n r r') :
    InStep (Same m m' n) (setEscape c r) (setEscape c r') := by
  unfold setEscape
  dsimp only
  cases (if c = 'b' then some 8 else controlCode? c) with
  | some code => exact .ok ⟨rfl, h⟩
  | none =>
    cases kind? c with
    | some member => exact .ok ⟨rfl, h⟩
    | none =>
      cases read : codePoint? c with
      | some x =>
        apply (codePoint?_inStep read h).bind
        rintro _ _ code _ ⟨rfl, h⟩
        exact .ok ⟨rfl, h⟩
      | none =>
        dsimp only
        apply InStep.ite
        · intro _
          apply (charsWhile_inStep (by decide) h (.inl rfl)).bind
          rintro _ _ digits _ ⟨rfl, h⟩
          apply InStep.ite
          · exact fun _ => .fail
          · exact fun _ => .ok ⟨rfl, h⟩
        · intro _
          apply InStep.ite
          · exact fun _ => .fail
          · exact fun _ => .ok ⟨rfl, h⟩

theorem between_cases (first last : Member) :
    between first last = fail ∨ ∃ member, between first last = Pure.pure member := by
  unfold between
  cases first with
  | kind => exact .inl rfl
  | range low _ =>
    cases last with
    | kind => exact .inl rfl
    | range high _ =>
      dsimp only
      split
      · exact .inl rfl
      · exact .inr ⟨_, rfl⟩

theorem rel_near_mono {w w' : Option Width} (h : Option.Rel (Width.Near n) w w') :
    Option.Rel (Width.Near (n + 1)) w w' := by
  cases h with
  | some near => exact .some (near.mono (Nat.le_succ n))
  | none => exact .none

theorem Alike.counted (h : Alike passed m m' n r r') (strays : Nat) :
    Alike passed m m' (n + 1) { r with strays := r.strays + 1 } { r' with strays } where
  rest := h.rest
  size := h.size
  size' := h.size'
  strays := congrArg (· + 1) h.strays
  flags := h.flags
  names := h.names
  groups := h.groups.imp fun _ _ near => rel_near_mono near
  groupsBefore := h.groupsBefore
  tested := h.tested
  flawed := h.flawed

/-- A bracket that stands for itself has been passed, and what follows it would be a name. -/
def Astray (m m' n : Nat) (r r' : Reader) : Prop :=
  Alike .bracket m m' (n + 1) r r' ∧ opensName r.rest = true

/-- The readers have come to the same place, unless a name is passed over. -/
def Come (m m' n : Nat) (r r' : Reader) : Prop :=
  Alike .nothing m m' n r r' ∨ Astray m m' n r r'

theorem Come.mono {l l' : Nat} (h : Come m m' n r r') (le : m ≤ l) (le' : m' ≤ l') :
    Come l l' n r r' :=
  h.imp (fun h => h.mono le le') fun h => ⟨h.1.mono le le', h.2⟩

theorem Astray.head (h : Astray m m' n r r') :
    r.rest.head? = some (.char '?') ∧ r'.rest.head? = some (.char '?') := by
  obtain ⟨ts, rest, noLook⟩ := opensName_iff.1 h.2
  rw [h.1.rest, rest, lettered_bracket_name noLook]
  exact ⟨rfl, rfl⟩

theorem passOver_of_calm (h : ¬(c = '(' ∧ opensName r.rest = true)) :
    passOver c r = .ok ((), r) := by
  have calm : (decide (c = '(') && opensName r.rest) = false := by simpa using h
  change Except.ok ((), if decide (c = '(') && opensName r.rest then _ else r) = _
  rw [calm]
  rfl

theorem exists_passOver (c : Char) (r : Reader) :
    ∃ strays, passOver c r = .ok ((), { r with strays }) := by
  by_cases h : c = '(' ∧ opensName r.rest = true
  · refine ⟨r.strays + 1, ?_⟩
    change Except.ok ((), if decide (c = '(') && opensName r.rest then _ else r) = _
    rw [if_pos (by simpa using h)]
  · exact ⟨r.strays, passOver_of_calm h⟩

theorem passOver_inStep (h : Alike (Passed.nothing.after t) m m' n r r')
    (own : t.IsBracket ↔ c = '(') :
    InStep (fun _ s _ s' => Come m m' n s s' ∧ (c ≠ '(' → Alike .nothing m m' n s s'))
      (passOver c r) (passOver c r') := by
  obtain ⟨strays, passed'⟩ := exists_passOver c r'
  have same : Alike (Passed.nothing.after t) m m' n r { r' with strays } := { h with }
  rw [passed']
  by_cases bracket : c = '('
  · rw [Passed.after_bracket (own.2 bracket)] at h same
    cases name : opensName r.rest with
    | true =>
      have passed : passOver c r = .ok ((), { r with strays := r.strays + 1 }) := by
        change Except.ok ((), if decide (c = '(') && opensName r.rest then _ else r) = _
        rw [if_pos (by simp [bracket, name])]
      rw [passed]
      exact .ok ⟨.inr ⟨h.counted strays, name⟩, fun other => absurd bracket other⟩
    | false =>
      rw [passOver_of_calm fun both => by simp [name] at both]
      exact .ok ⟨.inl (same.calm name), fun _ => same.calm name⟩
  · rw [passOver_of_calm fun both => bracket both.1]
    have plain := same.plain (mt own.1 bracket)
    exact .ok ⟨.inl plain, fun _ => plain⟩

theorem setMember_inStep (h : Alike (Passed.nothing.after t) m m' n r r') :
    InStep (fun a s b s' => b = a ∧ Come m m' n s s') (setMember t r) (setMember t r') := by
  cases t with
  | dangling => exact .fail
  | char c =>
    apply (passOver_inStep h Token.isBracket_char).bind
    rintro _ _ _ _ ⟨come, _⟩
    exact .ok ⟨rfl, come⟩
  | escape c =>
    apply (passOver_inStep h Token.isBracket_escape).bind
    rintro _ _ _ _ ⟨come, calm⟩
    by_cases bracket : c = '('
    · subst bracket
      exact .ok ⟨rfl, come⟩
    · apply InStep.mono (setEscape_inStep (calm bracket))
      rintro _ _ _ _ ⟨same, h⟩
      exact ⟨same, .inl h⟩

/-- Members of which the second are so many more. -/
structure NearMembers (n k : Nat) (ms ms' : List Member) : Prop where
  length : ms'.length = ms.length + k
  isEmpty : ms'.isEmpty = ms.isEmpty
  same : n = 0 → ms' = ms

theorem NearMembers.append (h : NearMembers n k ms ms') (a : Member) (more : List Member) :
    NearMembers n k (ms ++ a :: more) (ms' ++ a :: more) where
  length := by
    rw [List.length_append, List.length_append, h.length]
    omega
  isEmpty := by
    cases ms <;> cases ms' <;> rfl
  same zero := by rw [h.same zero]

theorem NearMembers.letter (h : NearMembers n k ms ms') (a b : Member) :
    NearMembers (n + 1) (k + 1) (ms ++ [a]) (ms' ++ [a] ++ [b]) where
  length := by
    rw [List.length_append, List.length_append, List.length_append, h.length, List.length_singleton,
      List.length_singleton]
    omega
  isEmpty := by
    cases ms <;> cases ms' <;> rfl
  same := nofun

/-- A character that stands for itself in a set. -/
theorem setMembers_of_char (h : r.rest = .char c :: ts) (hc : c ∉ [']', '('])
    (calm : ts.head? ≠ some .dangling) (single : ts.head? ≠ some (.char '-')) :
    setMembers (fuel + 1) ms r =
      setMembers fuel (ms ++ [.range c.toNat c.toNat]) { r with rest := ts } := by
  have close : c ≠ ']' := by
    rintro rfl
    exact hc (by decide)
  have bracket : c ≠ '(' := by
    rintro rfl
    exact hc (by decide)
  have stood : setMember (.char c) { r with rest := ts } =
      .ok (.range c.toNat c.toNat, { r with rest := ts }) := by
    change (passOver c >>= fun _ => pure (Member.range c.toNat c.toNat)) _ = _
    rw [bind_of_ok (passOver_of_calm fun both => bracket both.1)]
    rfl
  rw [setMembers, bind_of_ok (next_of_calm h calm)]
  simp only [Token.char.injEq, close, decide_false, Bool.false_and, Bool.false_eq_true, if_false]
  rw [bind_of_ok stood, bind_of_ok (accept_of_ne single), if_neg Bool.false_ne_true]

/-- Members read up to the end of a set, with those of names that have been passed over. -/
def MembersRead (m m' n k : Nat) (ms : List Member) (r : Reader) (ms' : List Member) (r' : Reader) :
    Prop :=
  ∃ j, Alike .nothing m m' (n + j) r r' ∧ NearMembers (n + j) (k + j) ms ms'

theorem MembersRead.later (h : MembersRead m m' (n + 1) (k + 1) ms r ms' r') :
    MembersRead m m' n k ms r ms' r' := by
  obtain ⟨j, alike, near⟩ := h
  refine ⟨j + 1, ?_, ?_⟩
  · rwa [Nat.add_comm j, ← Nat.add_assoc]
  · rwa [Nat.add_comm j, ← Nat.add_assoc, ← Nat.add_assoc]

theorem MembersRead.mono {l l' : Nat} (h : MembersRead m m' n k ms r ms' r') (le : m ≤ l)
    (le' : m' ≤ l') :
    MembersRead l l' n k ms r ms' r' := by
  obtain ⟨j, alike, near⟩ := h
  exact ⟨j, alike.mono le le', near⟩

theorem membersRead_mono {l l' : Nat} {x y : Except Fault (List Member × Reader)}
    (h : InStep (MembersRead m m' n k) x y) (le : m ≤ l) (le' : m' ≤ l') :
    InStep (MembersRead l l' n k) x y := by
  apply h.mono
  exact fun _ _ _ _ read => read.mono le le'

/-- The members of a set are read alike with so much fuel. -/
def SetsInStep (fuel : Nat) : Prop :=
  ∀ {fuel' m m' n k : Nat} {ms ms' : List Member} {r r' : Reader}, Alike .nothing m m' n r r' →
    m + 1 ≤ fuel → m' + 1 ≤ fuel' → NearMembers n k ms ms' →
    InStep (MembersRead m m' n k) (setMembers fuel ms r) (setMembers fuel' ms' r')

theorem setMembers_of_astray (ih : ∀ less < fuel, SetsInStep less) (h : Astray m m' n r r')
    (enough : m + 1 ≤ fuel) (enough' : m' + 1 ≤ fuel') (near : NearMembers n k ms ms') :
    InStep (MembersRead m m' n k) (setMembers fuel ms r) (setMembers fuel' ms' r') := by
  obtain ⟨h, name⟩ := h
  obtain ⟨ts, rest, noLook⟩ := opensName_iff.1 name
  have rest' := h.rest
  have size := h.size
  have size' := h.size'
  rw [rest, lettered_bracket_name noLook] at rest'
  rw [rest] at size
  rw [rest'] at size'
  simp only [List.length_cons] at size size'
  have angle : lettered .nothing (.char '<' :: ts) = .char '<' :: lettered .nothing ts :=
    lettered_nothing_cons (by decide)
  obtain ⟨fuel, rfl⟩ : ∃ f, fuel = f + 1 := ⟨fuel - 1, by omega⟩
  obtain ⟨fuel', rfl⟩ : ∃ f, fuel' = f + 2 := ⟨fuel' - 2, by omega⟩
  rw [setMembers_of_char rest (by decide) (by simp) (by simp),
    setMembers_of_char rest' (by decide) (by simp) (by simp),
    setMembers_of_char rfl (by decide) (by simp) (by simp), ← angle]
  have left : (Token.char '<' :: ts).length ≤ m - 1 := by
    rw [List.length_cons]
    omega
  have left' : (lettered .nothing (.char '<' :: ts)).length ≤ m' - 2 := by
    rw [angle, List.length_cons]
    omega
  have along := h.goTo left left'
  apply InStep.mono (ih fuel (Nat.lt_succ_self _) along (by omega) (by omega) (near.letter _ _))
  intro _ _ _ _ read
  exact read.later.mono (Nat.sub_le _ _) (Nat.sub_le _ _)

theorem setMembers_of_come (ih : ∀ less < fuel + 1, SetsInStep less) (h : Come m m' n r r')
    (enough : m + 1 ≤ fuel) (enough' : m' + 1 ≤ fuel') (near : NearMembers n k ms ms') :
    InStep (MembersRead m m' n k) (setMembers fuel ms r) (setMembers fuel' ms' r') := by
  rcases h with h | h
  · exact ih fuel (Nat.lt_succ_self fuel) h enough enough' near
  · exact setMembers_of_astray (fun less hl => ih less (Nat.lt_succ_of_lt hl)) h enough enough' near

def RangeRead (m m' n : Nat) (range : Option Member) (r : Reader) (range' : Option Member)
    (r' : Reader) : Prop :=
  range' = range ∧ Come m m' n r r' ∧ (range = none → Alike .nothing m m' n r r')

theorem rangeEnd_inStep (first : Member) (h : Alike .nothing m m' n r r') :
    InStep (RangeRead m m' n) (rangeEnd first r) (rangeEnd first r') := by
  unfold rangeEnd
  apply (next_inStep h).bind
  intro _ _ _ _ taken
  cases taken with
  | none => exact .fail
  | some t _ h =>
    apply InStep.ite
    · intro close
      subst close
      have plain := (h.plain (by decide)).mono (Nat.le_succ _) (Nat.le_succ _)
      exact .ok ⟨rfl, .inl plain, fun _ => plain⟩
    · intro _
      apply (setMember_inStep h).bind
      rintro _ _ last _ ⟨rfl, come⟩
      rcases between_cases first last with failed | ⟨range, between⟩
      · rw [failed]
        exact .failed
      · rw [between]
        exact .ok ⟨rfl, come.mono (Nat.le_succ _) (Nat.le_succ _), nofun⟩

theorem setMembers_inStep (fuel : Nat) : SetsInStep fuel := by
  induction fuel using Nat.strongRecOn with
  | _ fuel ih =>
    intro fuel' m m' n k ms ms' r r' h enough enough' near
    obtain ⟨fuel, rfl⟩ : ∃ f, fuel = f + 1 := ⟨fuel - 1, by omega⟩
    obtain ⟨fuel', rfl⟩ : ∃ f, fuel' = f + 1 := ⟨fuel' - 1, by omega⟩
    rw [setMembers, setMembers]
    apply (next_inStep h).bind
    intro _ _ _ _ taken
    cases taken with
    | none => exact .fail
    | some t _ h =>
      dsimp only
      rw [near.isEmpty]
      apply membersRead_mono _ (Nat.le_succ _) (Nat.le_succ _)
      apply InStep.ite
      · intro close
        have close : t = .char ']' := by simpa using (Bool.and_eq_true_iff.1 close).1
        subst close
        exact .ok ⟨0, h.plain (by decide), near⟩
      · intro _
        apply (setMember_inStep h).bind
        rintro _ _ first _ ⟨rfl, come⟩
        rcases come with h | astray
        · apply (accept_same h (by decide)).bind
          rintro _ _ dash _ ⟨rfl, h⟩
          apply InStep.ite
          · intro _
            apply (rangeEnd_inStep first h).bind
            rintro _ _ range _ ⟨rfl, come, closed⟩
            cases range with
            | none => exact .ok ⟨0, closed rfl, near.append first _⟩
            | some range =>
              exact setMembers_of_come ih come (by omega) (by omega) (near.append range [])
          · intro _
            exact ih fuel (Nat.lt_succ_self fuel) h (by omega) (by omega) (near.append first [])
        · -- A question mark comes next in both, so that the bracket does not begin a range.
          obtain ⟨head, head'⟩ := astray.head
          rw [bind_of_ok (accept_of_ne (by simp [head])),
            bind_of_ok (accept_of_ne (by simp [head'])),
            if_neg Bool.false_ne_true]
          exact setMembers_of_come ih (.inr astray) (by omega) (by omega) (near.append first [])

/-- A set has been read, with the letters of names that have been passed over in it. -/
def SetRead (m m' n : Nat) (p : Part) (r : Reader) (p' : Part) (r' : Reader) : Prop :=
  ∃ j, Part.Near (n + j) (0 + j) p p' ∧ Alike .nothing m m' (n + j) r r'

theorem near_set {ms ms' : List Member} (h : NearMembers n k ms ms') (negated : Bool)
    (mode : Mode) :
    Part.Near n k (.one ⟨ms, negated, mode⟩) (.one ⟨ms', negated, mode⟩) := by
  refine ⟨⟨h.length, .refl (Width.sound_exactly 1), ?_⟩, rfl⟩
  intro zero
  rw [h.same zero]

theorem charSet_inStep (flags : Flags) (h : Alike .nothing m m' n r r') :
    InStep (SetRead m m' n) (charSet flags r) (charSet flags r') := by
  unfold charSet
  apply (accept_same h (by decide)).bind
  rintro _ s negated s' ⟨rfl, h⟩
  apply get_inStep
  have none : NearMembers n 0 [] [] := ⟨rfl, rfl, fun _ => rfl⟩
  apply (setMembers_inStep _ h.tight (Nat.le_refl _) (Nat.le_refl _) none).bind
  rintro ms _ ms' _ ⟨j, tight, near⟩
  exact .ok ⟨j, near_set near _ _, tight.mono h.size h.size'⟩

end WebScript.Pattern.Reading
