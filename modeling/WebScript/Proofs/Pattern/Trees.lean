import WebScript.Proofs.Pattern.Openings
import WebScript.Proofs.Pattern.Sets

namespace WebScript.Pattern.Reading

variable {m m' n k i j fuel fuel' : Nat} {r r' s s' : Reader} {place : Place} {flags : Flags}
  {ps ps' : List Part} {p p' q q' : Node} {w w' v v' : Width} {c : Char} {ts : List Token}

/-- Both have read a pattern, the second one with the letters of names that have been passed over.
-/
def TreeRead (m m' n k : Nat) (x : Node × Width) (r : Reader) (x' : Node × Width) (r' : Reader) :
    Prop :=
  ∃ j, Alike .nothing m m' (n + j) r r' ∧ Near (n + j) (k + j) x x'

theorem TreeRead.after {x x' : Node × Width} (h : TreeRead m m' (n + j) (k + j) x r x' r') :
    TreeRead m m' n k x r x' r' := by
  obtain ⟨i, alike, near⟩ := h
  refine ⟨j + i, ?_, ?_⟩
  · rwa [← Nat.add_assoc]
  · rwa [← Nat.add_assoc, ← Nat.add_assoc]

theorem TreeRead.mono {l l' : Nat} {x x' : Node × Width} (h : TreeRead m m' n k x r x' r')
    (le : m ≤ l) (le' : m' ≤ l') : TreeRead l l' n k x r x' r' := by
  obtain ⟨j, alike, near⟩ := h
  exact ⟨j, alike.mono le le', near⟩

theorem treeRead_mono {l l' : Nat} {x y : Except Fault ((Node × Width) × Reader)}
    (h : InStep (TreeRead m m' n k) x y) (le : m ≤ l) (le' : m' ≤ l') :
    InStep (TreeRead l l' n k) x y := by
  apply h.mono
  exact fun _ _ _ _ read => read.mono le le'

/-- Two patterns joined into one of either width. -/
theorem near_either (h : Near n i (p, w) (p', w')) (h' : Near n j (q, v) (q', v'))
    (f : Node → Node → Node) (weight : ∀ p q, (f p q).weight = p.weight + q.weight) :
    Near n (i + j) (f p q, w.either v) (f p' q', w'.either v') where
  weight := by
    have first : p'.weight = p.weight + i := h.weight
    have second : q'.weight = q.weight + j := h'.weight
    simp only [weight]
    omega
  width := h.width.either h'.width
  same zero := by
    cases h.same zero
    cases h'.same zero
    rfl

/-- Readers with so much fuel keep in step. -/
structure StepsWith (fuel : Nat) : Prop where
  alternatives {fuel' m m' n : Nat} {r r' : Reader} (place : Place) (flags : Flags)
    (h : Alike .nothing m m' n r r') (enough : 4 * m + 2 ≤ fuel) (enough' : 4 * m' + 2 ≤ fuel') :
    InStep (TreeRead m m' n 0) (alternatives .bare fuel place flags r)
      (alternatives .lettered fuel' place flags r')
  parts {fuel' m m' n k : Nat} {r r' : Reader} {ps ps' : List Part} (place : Place) (flags : Flags)
    (h : Alike .nothing m m' n r r') (enough : 4 * m + 1 ≤ fuel) (enough' : 4 * m' + 1 ≤ fuel')
    (near : NearParts n k ps ps') :
    InStep (TreeRead m m' n k) (parts .bare fuel place flags ps r)
      (parts .lettered fuel' place flags ps' r')
  partsFrom {fuel' m m' n k : Nat} {r r' : Reader} {ps ps' : List Part} {c : Char} (place : Place)
    (flags : Flags) (h : Alike (Passed.nothing.after (.char c)) m m' n r r')
    (enough : 4 * m + 4 ≤ fuel) (enough' : 4 * m' + 4 ≤ fuel') (near : NearParts n k ps ps') :
    InStep (TreeRead m m' n k) (partsFrom .bare fuel place flags ps c r)
      (partsFrom .lettered fuel' place flags ps' c r')
  bracket {fuel' m m' n k : Nat} {r r' : Reader} {ps ps' : List Part} (place : Place)
    (flags : Flags) (h : Alike .bracket m m' n r r') (enough : 4 * m + 3 ≤ fuel)
    (enough' : 4 * m' + 3 ≤ fuel') (near : NearParts n k ps ps') :
    InStep (TreeRead m m' n k) (bracket .bare fuel place flags ps r)
      (bracket .lettered fuel' place flags ps' r')

theorem alternatives_inStep (ih : StepsWith fuel) (place : Place) (flags : Flags)
    (h : Alike .nothing m m' n r r') (enough : 4 * m + 2 ≤ fuel + 1)
    (enough' : 4 * m' + 2 ≤ fuel' + 1) :
    InStep (TreeRead m m' n 0) (alternatives .bare (fuel + 1) place flags r)
      (alternatives .lettered (fuel' + 1) place flags r') := by
  rw [alternatives, alternatives]
  apply (ih.parts place flags h (by omega) (by omega) .none).bind
  rintro ⟨p, w⟩ _ ⟨p', w'⟩ _ ⟨i, h, near⟩
  apply (accept_inStep h (by decide)).bind
  intro _ _ _ _ accepted
  cases accepted with
  | no _ h => exact .ok ⟨i, h, near⟩
  | yes _ h =>
    apply get_inStep
    dsimp only
    rw [h.flags]
    apply (ih.alternatives _ _ h (by omega) (by omega)).bind
    rintro ⟨q, v⟩ _ ⟨q', v'⟩ _ ⟨j, h, near'⟩
    refine .ok ⟨i + j, ?_, ?_⟩
    · rw [← Nat.add_assoc]
      exact h.mono (Nat.le_succ _) (Nat.le_succ _)
    · rw [← Nat.add_assoc, ← Nat.add_assoc]
      simpa using near_either (near_mono near (Nat.le_add_right _ j)) near' .orElse fun _ _ => rfl

/-- A part more has been read. -/
theorem further_inStep (ih : StepsWith fuel) (place : Place) (flags : Flags) {last last' : Part}
    (near : NearParts n k ps ps') (part : Part.Near (n + j) (0 + j) last last')
    (h : Alike .nothing m m' (n + j) r r') (enough : 4 * m + 1 ≤ fuel)
    (enough' : 4 * m' + 1 ≤ fuel') :
    InStep (TreeRead m m' n k) (parts .bare fuel place flags (last :: ps) r)
      (parts .lettered fuel' place flags (last' :: ps') r') := by
  have grown := (near.mono (Nat.le_add_right n j)).add part
  rw [Nat.zero_add, Nat.add_comm j k] at grown
  apply (ih.parts place flags h enough enough' grown).mono
  exact fun _ _ _ _ read => read.after

theorem near_part (h : Near n k (p, w) (p', w')) (f : Node → Node)
    (same : ∀ p, (f p).weight = p.weight) :
    Part.Near n k ⟨f p, w, true⟩ ⟨f p', w', true⟩ := by
  refine ⟨⟨?_, h.width, ?_⟩, rfl⟩
  · rw [same, same]
    exact h.weight
  · intro zero
    cases h.same zero
    rfl

theorem bracket_inStep (ih : StepsWith fuel) (place : Place) (flags : Flags)
    (h : Alike .bracket m m' n r r')
    (enough : 4 * m + 3 ≤ fuel + 1) (enough' : 4 * m' + 3 ≤ fuel' + 1)
    (near : NearParts n k ps ps') :
    InStep (TreeRead m m' n k) (bracket .bare (fuel + 1) place flags ps r)
      (bracket .lettered (fuel' + 1) place flags ps' r') := by
  have enoughParts : 4 * m + 1 ≤ fuel := by omega
  have enoughParts' : 4 * m' + 1 ≤ fuel' := by omega
  have enoughInside : 4 * m + 2 ≤ fuel := by omega
  have enoughInside' : 4 * m' + 2 ≤ fuel' := by omega
  rw [bracket, bracket]
  apply (opening_inStep flags h).bind
  rintro _ s opening s' ⟨rfl, h⟩
  cases opening with
  | comment =>
    apply (skipThrough_inStep (by decide) h).bind
    intro _ _ _ _ h
    exact ih.parts place flags h enoughParts enoughParts' near
  | flags on =>
    dsimp only
    rw [near.isEmpty_eq]
    apply InStep.ite
    · exact fun _ => .failed
    · intro _
      have flags : s'.flags.joined on = s.flags.joined on := by rw [h.flags]
      change InStep _
        (parts .bare fuel place (s.flags.joined on) ps { s with flags := s.flags.joined on })
        (parts .lettered fuel' place (s'.flags.joined on) ps'
          { s' with flags := s'.flags.joined on })
      rw [flags]
      exact ih.parts place _ { h with flags := rfl } enoughParts enoughParts' near
  | reference group =>
    apply (backReference_inStep flags group h).bind
    rintro _ _ _ _ ⟨part, h⟩
    exact further_inStep (j := 0) ih place flags near part h enoughParts enoughParts'
  | capture name =>
    apply (openGroup_inStep name h).bind
    rintro _ _ group _ ⟨rfl, h⟩
    apply (ih.alternatives _ flags h enoughInside enoughInside').bind
    rintro ⟨p, w⟩ _ ⟨p', w'⟩ _ ⟨j, h, tree⟩
    apply (require_inStep h (by decide)).bind
    intro _ _ _ _ h
    apply (closeGroup_inStep group tree.width h).bind
    intro _ _ _ _ h
    have part := near_part tree (.capture group) fun _ => rfl
    exact further_inStep ih place flags near part h enoughParts enoughParts'
  | plain inner =>
    apply (ih.alternatives _ inner h enoughInside enoughInside').bind
    rintro ⟨p, w⟩ _ ⟨p', w'⟩ _ ⟨j, h, tree⟩
    apply (require_inStep h (by decide)).bind
    intro _ _ _ _ h
    have part := near_part tree id fun _ => rfl
    exact further_inStep ih place flags near part h enoughParts enoughParts'
  | atomic =>
    apply (ih.alternatives _ flags h enoughInside enoughInside').bind
    rintro ⟨p, w⟩ _ ⟨p', w'⟩ _ ⟨j, h, tree⟩
    apply (require_inStep h (by decide)).bind
    intro _ _ _ _ h
    have part := near_part tree .atomic fun _ => rfl
    exact further_inStep ih place flags near part h enoughParts enoughParts'
  | look behind negated =>
    apply (enterLook_inStep behind h).bind
    rintro _ _ outermost _ ⟨rfl, h⟩
    apply (ih.alternatives _ flags h enoughInside enoughInside').bind
    rintro ⟨p, w⟩ _ ⟨p', w'⟩ _ ⟨j, h, tree⟩
    apply (leaveLook_inStep outermost h).bind
    intro _ _ _ _ h
    apply (require_inStep h (by decide)).bind
    intro _ _ _ _ h
    apply (lookAround_inStep behind negated tree h).bind
    rintro _ _ _ _ ⟨part, h⟩
    exact further_inStep ih place flags near part h enoughParts enoughParts'
  | condition group =>
    apply (ih.parts _ flags h enoughParts enoughParts' .none).bind
    rintro ⟨p, w⟩ _ ⟨p', w'⟩ _ ⟨i, h, tree⟩
    apply (accept_same h (by decide)).bind
    rintro _ _ bar _ ⟨rfl, h⟩
    cases bar with
    | false =>
      have none : Near (n + i) 0 (.empty, .exactly 0) (.empty, .exactly 0) :=
        ⟨rfl, .refl (Width.sound_exactly 0), fun _ => rfl⟩
      have both := near_either tree none (.given group) fun _ _ => rfl
      dsimp only
      rw [if_neg Bool.false_ne_true, if_neg Bool.false_ne_true, pure_bind, pure_bind]
      apply (require_inStep h (by decide)).bind
      intro _ _ _ _ h
      have part := near_part both id fun _ => rfl
      exact further_inStep ih place flags near part h enoughParts enoughParts'
    | true =>
      dsimp only
      rw [if_pos rfl, if_pos rfl]
      apply (ih.parts _ flags h enoughParts enoughParts' .none).bind
      rintro ⟨q, v⟩ _ ⟨q', v'⟩ _ ⟨j, h, tree'⟩
      have both :=
        near_either (near_mono tree (Nat.le_add_right _ j)) tree' (.given group) fun _ _ => rfl
      rw [Nat.add_assoc n i j] at both h
      have letters : 0 + i + (0 + j) = 0 + (i + j) := by omega
      rw [letters] at both
      apply (require_inStep h (by decide)).bind
      intro _ _ _ _ h
      have part := near_part both id fun _ => rfl
      exact further_inStep ih place flags near part h enoughParts enoughParts'

/-- What has been read, then something that may be missing, and a letter after it. -/
theorem NearWhole.letter (h : NearWhole n k ps ps') {p : Part} (loose : p.width.Loose)
    (sound : p.width.Sound) (code : Nat) (mode : Mode) :
    NearWhole (n + 1) (k + 1) (p :: ps) (.one (.single code mode) :: p :: ps') := by
  have weight : (whole ps').1.weight = (whole ps).1.weight + k := h.near.weight
  refine ⟨⟨?_, ⟨h.near.width.sound.add sound, ?_, .inr ⟨nofun, ?_, ?_⟩⟩, nofun⟩, nofun⟩
  · rw [weight_whole, weight_whole, weight_whole, weight]
    simp only [Part.one, CharSet.single, Node.weight, List.length_singleton]
    omega
  · exact (h.near.width.sound'.add sound).add (sound_one _)
  · exact loose.add_right h.near.width.sound
  · exact (loose.add_right h.near.width.sound').add_left (sound_one _)

/-- What would be a name where a bracket stands for itself goes on with characters of its own. -/
def Naming (c : Char) : Prop :=
  c = '?' ∨ c = 'P' ∨ c = '<'

theorem parts_of_naming {spelling : Spelling} (h : r.rest = .char c :: ts) (own : Naming c) :
    parts spelling (fuel + 1) place flags ps r =
      (goTo ts >>= fun _ => partsFrom spelling fuel place flags ps c) r := by
  have first : r.rest.head? = some (.char c) := by rw [h]; rfl
  rw [parts, peek_bind, first]
  rcases own with rfl | rfl | rfl
  all_goals exact next_bind_of_cons h

theorem partsFrom_question {spelling : Spelling} :
    partsFrom spelling (fuel + 1) place flags ps '?' =
    quantified ps 0 (some 1) >>= parts spelling fuel place flags := by
  unfold partsFrom
  change (if flags.verbose && false then _ else if flags.verbose && false then _ else _) = _
  rw [Bool.and_false, if_neg Bool.false_ne_true, if_neg Bool.false_ne_true]
  rfl

/-- A character that stands for itself. -/
theorem partsFrom_own {spelling : Spelling} (own : c = 'P' ∨ c = '<') :
    partsFrom spelling (fuel + 1) place flags ps c =
      parts spelling fuel place flags (.one (.single c.toNat flags.mode) :: ps) := by
  unfold partsFrom
  rcases own with rfl | rfl
  all_goals
    change (if flags.verbose && false then _ else if flags.verbose && false then _ else _) = _
    rw [Bool.and_false, if_neg Bool.false_ne_true, if_neg Bool.false_ne_true]
    rfl

theorem greed_of_ne (lazy : r.rest.head? ≠ some (.char '?'))
    (possessive : r.rest.head? ≠ some (.char '+')) :
    greed r = .ok (.greedy, r) := by
  unfold greed
  rw [bind_of_ok (accept_of_ne lazy), if_neg Bool.false_ne_true,
    bind_of_ok (accept_of_ne possessive)]
  rfl

def Part.atMostOne (set : CharSet) : Part :=
  ⟨.repeated .greedy 0 (some 1) (.one set), (Width.exactly 1).times 0 (some 1), false⟩

theorem loose_atMostOne (set : CharSet) : (Part.atMostOne set).width.Loose := by
  rintro _ ⟨⟩
  exact Nat.zero_lt_one

theorem sound_atMostOne (set : CharSet) : (Part.atMostOne set).width.Sound := by
  rintro _ ⟨⟩
  exact Nat.zero_le 1

/-- A question mark before an angle or a letter says that what comes before it may be missing. -/
theorem parts_of_question {spelling : Spelling} {set : CharSet}
    (h : r.rest = .char '?' :: .char c :: ts)
    (own : c = 'P' ∨ c = '<') :
    parts spelling (fuel + 2) place flags (.one set :: ps) r =
      parts spelling fuel place flags (.atMostOne set :: ps)
        { r with rest := .char c :: ts, flawed := r.flawed || r.flags.unrepeated } := by
  have greedy : greed { r with rest := .char c :: ts } =
      .ok (.greedy, { r with rest := .char c :: ts }) := by
    apply greed_of_ne
    · rcases own with rfl | rfl <;> simp
    · rcases own with rfl | rfl <;> simp
  rw [parts_of_naming h (.inl rfl), bind_of_ok (goTo_of_calm (by simp)), partsFrom_question]
  change ((greed >>= fun greed => _) >>= _) _ = _
  rw [bind_assoc, bind_of_ok greedy]
  rfl

/-- A letter or an angle, and what follows it. -/
theorem parts_of_own {spelling : Spelling} (h : r.rest = .char c :: ts) (own : c = 'P' ∨ c = '<') :
    parts spelling (fuel + 2) place flags ps r =
      (goTo ts >>= fun _ =>
        parts spelling fuel place flags (.one (.single c.toNat flags.mode) :: ps)) r := by
  rw [parts_of_naming h (.inr own), partsFrom_own own]

theorem parts_of_letter {spelling : Spelling} (h : r.rest = .char 'P' :: .char c :: ts) :
    parts spelling (fuel + 2) place flags ps r =
      parts spelling fuel place flags (.one (.single 'P'.toNat flags.mode) :: ps)
        { r with rest := .char c :: ts } := by
  rw [parts_of_own h (.inl rfl), bind_of_ok (goTo_of_calm (by simp))]

/-- After a bracket that stands for itself, one that may be missing and an angle are read instead of
a name. -/
theorem parts_astray (ih : ∀ less < fuel, StepsWith less) (place : Place) (flags : Flags)
    (h : Astray m m' n r r') (enough : 4 * m + 1 ≤ fuel) (enough' : 4 * m' + 1 ≤ fuel')
    (near : NearParts n k ps ps') (set : CharSet) :
    InStep (TreeRead m m' n k) (parts .bare fuel place flags (.one set :: ps) r)
      (parts .lettered fuel' place flags (.one set :: ps') r') := by
  obtain ⟨h, name⟩ := h
  obtain ⟨ts, rest, noLook⟩ := opensName_iff.1 name
  have rest' := h.rest
  have size := h.size
  have size' := h.size'
  have flawed : (r'.flawed || r'.flags.unrepeated) = (r.flawed || r.flags.unrepeated) := by
    rw [h.flawed, h.flags]
  rw [rest, lettered_bracket_name noLook] at rest'
  rw [rest, List.length_cons, List.length_cons] at size
  rw [rest', List.length_cons, List.length_cons, List.length_cons] at size'
  obtain ⟨fuel, rfl⟩ : ∃ f, fuel = f + 4 := ⟨fuel - 4, by omega⟩
  obtain ⟨fuel', rfl⟩ : ∃ f, fuel' = f + 6 := ⟨fuel' - 6, by omega⟩
  -- Without a letter the angle comes next; with one, the letter does, and the angle after it.
  rw [parts_of_question rest (.inr rfl), parts_of_own rfl (.inr rfl),
    parts_of_question rest' (.inl rfl),
    parts_of_letter rfl, parts_of_own rfl (.inr rfl), flawed]
  have angle : lettered .nothing (.char '<' :: ts) = .char '<' :: lettered .nothing ts :=
    lettered_nothing_cons (by decide)
  have start : Alike .nothing m m' (n + 1)
      { r with rest := .char '<' :: ts, flawed := r.flawed || r.flags.unrepeated }
      { r' with
        rest := .char '<' :: lettered .nothing ts
        flawed := r.flawed || r.flags.unrepeated } :=
    { h with
      rest := angle.symm
      size := Nat.le_of_succ_le size
      size' := Nat.le_of_succ_le (Nat.le_of_succ_le size')
      flawed := rfl }
  have left : ts.length ≤ m - 2 := by omega
  have left' : (lettered .nothing ts).length ≤ m' - 3 := by omega
  have letter := near.whole.letter (loose_atMostOne set) (sound_atMostOne set) 'P'.toNat flags.mode
  apply (goTo_inStep start (by decide) left left').bind
  rintro _ _ _ _ ⟨_, h⟩
  have last := Part.Near.refl (n := n + 1) (.one (.single '<'.toNat flags.mode)) (sound_one _)
  have both := NearParts.more last letter
  rw [Nat.zero_add] at both
  apply ((ih fuel (by omega)).parts place flags h (by omega) (by omega) both).mono
  intro _ _ _ _ read
  exact read.after.mono (Nat.sub_le _ _) (Nat.sub_le _ _)

/-- What an escape stands for has been read, and the parts after it. -/
theorem escaped_inStep (ih : ∀ less < fuel + 1, StepsWith less) (place : Place) (flags : Flags)
    (h : Alike (Passed.nothing.after (.escape c)) m m' n r r') (enough : 4 * m + 1 ≤ fuel)
    (enough' : 4 * m' + 1 ≤ fuel') (near : NearParts n k ps ps') :
    InStep (TreeRead m m' n k)
      ((do passOver c; parts .bare fuel place flags ((← escape flags c) :: ps) : Reading _) r)
      ((do passOver c; parts .lettered fuel' place flags ((← escape flags c) :: ps') : Reading _)
        r') := by
  have now : StepsWith fuel := ih fuel (Nat.lt_succ_self fuel)
  apply (passOver_inStep h Token.isBracket_escape).bind
  rintro _ s _ s' ⟨come, other⟩
  have calm (h : Alike .nothing m m' n s s') : InStep (TreeRead m m' n k)
      ((do parts .bare fuel place flags ((← escape flags c) :: ps) : Reading _) s)
      ((do parts .lettered fuel' place flags ((← escape flags c) :: ps') : Reading _) s') := by
    apply (escape_inStep flags c h).bind
    rintro _ _ _ _ ⟨part, h⟩
    exact further_inStep (j := 0) now place flags near part h enough enough'
  by_cases bracket : c = '('
  · rcases come with h | astray
    · exact calm h
    · subst bracket
      have earlier : ∀ less < fuel, StepsWith less := fun less hl => ih less (Nat.lt_succ_of_lt hl)
      exact parts_astray earlier place flags astray enough enough' near _
  · exact calm (other bracket)

theorem partsFrom_inStep (ih : StepsWith fuel) (place : Place) (flags : Flags)
    (h : Alike (Passed.nothing.after (.char c)) m m' n r r') (enough : 4 * m + 4 ≤ fuel + 1)
    (enough' : 4 * m' + 4 ≤ fuel' + 1) (near : NearParts n k ps ps') :
    InStep (TreeRead m m' n k) (partsFrom .bare (fuel + 1) place flags ps c r)
      (partsFrom .lettered (fuel' + 1) place flags ps' c r') := by
  have less : 4 * m + 1 ≤ fuel := by omega
  have less' : 4 * m' + 1 ≤ fuel' := by omega
  have further {s s' : Reader} (p : Part) (sound : p.width.Sound)
      (h : Alike .nothing m m' n s s') :=
    further_inStep (j := 0) ih place flags near (.refl p sound) h less less'
  unfold partsFrom
  by_cases bracket : c = '('
  · subst bracket
    rw [Passed.after_bracket (.inl rfl)] at h
    apply InStep.ite
    · exact fun both => absurd (Bool.and_eq_true_iff.1 both).2 (by decide)
    · intro _
      apply InStep.ite
      · exact fun both => absurd (Bool.and_eq_true_iff.1 both).2 (by decide)
      · exact fun _ => ih.bracket place flags h (by omega) (by omega) near
  have h := h.plain (mt Token.isBracket_char.1 bracket)
  apply InStep.ite
  · exact fun _ => ih.parts place flags h less less' near
  · intro _
    apply InStep.ite
    · intro _
      apply (skipThrough_inStep (by decide) h).bind
      intro _ _ _ _ h
      exact ih.parts place flags h less less' near
    · intro _
      by_cases square : c = '['
      · subst square
        apply (charSet_inStep flags h).bind
        rintro _ _ _ _ ⟨j, part, h⟩
        exact further_inStep ih place flags near part h less less'
      by_cases dot : c = '.'
      · subst dot
        exact further _ (sound_one _) h
      by_cases caret : c = '^'
      · subst caret
        exact further _ (Width.sound_exactly 0) h
      by_cases dollar : c = '$'
      · subst dollar
        exact further _ (Width.sound_exactly 0) h
      simp only []
      apply (quantifier?_inStep c h).bind
      rintro _ _ bounds _ ⟨rfl, limited, h⟩
      cases bounds with
      | none => exact further _ (sound_one _) h
      | some bounds =>
        apply (quantified_inStep near (limited _ rfl) h).bind
        rintro _ _ _ _ ⟨near, h⟩
        exact ih.parts place flags h less less' near

theorem parts_inStep (ih : ∀ less < fuel + 1, StepsWith less) (place : Place) (flags : Flags)
    (h : Alike .nothing m m' n r r') (enough : 4 * m + 1 ≤ fuel + 1)
    (enough' : 4 * m' + 1 ≤ fuel' + 1)
    (near : NearParts n k ps ps') :
    InStep (TreeRead m m' n k) (parts .bare (fuel + 1) place flags ps r)
      (parts .lettered (fuel' + 1) place flags ps' r') := by
  have finished : TreeRead m m' n k (whole ps) r (whole ps') r' := ⟨0, h, near.whole.near⟩
  rw [parts, parts]
  apply peek_inStep h
  cases first : r.rest.head? with
  | none => exact .ok finished
  | some t =>
    by_cases bar : t = .char '|'
    · subst bar
      exact .ok finished
    by_cases close : t = .char ')'
    · subst close
      exact .ok finished
    simp only []
    apply (next_inStep h).bind
    intro _ s _ s' taken
    cases taken with
    | none nil =>
      rw [nil] at first
      cases first
    | some t split h =>
      rw [split] at first
      cases first
      apply treeRead_mono _ (Nat.le_succ _) (Nat.le_succ _)
      cases t with
      | dangling => exact .fail
      | escape c => exact escaped_inStep ih place flags h (by omega) (by omega) near
      | char c =>
        exact (ih fuel (Nat.lt_succ_self fuel)).partsFrom place flags h (by omega) (by omega) near

theorem stepsWith (fuel : Nat) : StepsWith fuel := by
  -- All of the smaller fuels are needed, since a name that is passed over takes several steps at
  -- once.
  induction fuel using Nat.strongRecOn with
  | _ fuel ih =>
    cases fuel with
    | zero =>
      constructor
      all_goals omega
    | succ fuel =>
      have now : StepsWith fuel := ih fuel (Nat.lt_succ_self fuel)
      constructor
      · intro fuel' m m' n r r' place flags h enough enough'
        obtain ⟨fuel', rfl⟩ : ∃ f, fuel' = f + 1 := ⟨fuel' - 1, by omega⟩
        exact alternatives_inStep now place flags h enough enough'
      · intro fuel' m m' n k r r' ps ps' place flags h enough enough' near
        obtain ⟨fuel', rfl⟩ : ∃ f, fuel' = f + 1 := ⟨fuel' - 1, by omega⟩
        exact parts_inStep ih place flags h enough enough' near
      · intro fuel' m m' n k r r' ps ps' c place flags h enough enough' near
        obtain ⟨fuel', rfl⟩ : ∃ f, fuel' = f + 1 := ⟨fuel' - 1, by omega⟩
        exact partsFrom_inStep now place flags h enough enough' near
      · intro fuel' m m' n k r r' ps ps' place flags h enough enough' near
        obtain ⟨fuel', rfl⟩ : ∃ f, fuel' = f + 1 := ⟨fuel' - 1, by omega⟩
        exact bracket_inStep now place flags h enough enough' near

end WebScript.Pattern.Reading
