import WebScript.Proofs.Pattern.InStep
import WebScript.Proofs.Text.Find

namespace WebScript.Pattern.Reading

variable {passed : Passed} {m m' n k k' : Nat} {r r' : Reader} {c stop : Char}

/-- As many characters may be read in both, or as many as there are. -/
def Enough (k k' m m' : Nat) : Prop :=
  k' = k ∨ m ≤ k ∧ m' ≤ k'

theorem charsWhile_of_nil {p : Char → Bool} (h : r.rest = []) : charsWhile p k r = .ok ([], r) := by
  cases k with
  | zero => rfl
  | succ k =>
    rw [charsWhile, peek_bind, h]
    rfl

theorem Alike.nil (h : Alike passed m m' n r r') (none : m = 0 ∨ m' = 0) :
    r.rest = [] ∧ r'.rest = [] := by
  have rest := h.rest
  rcases none with rfl | rfl
  · have nil := List.length_eq_zero_iff.1 (Nat.le_zero.1 h.size)
    rw [nil] at rest
    exact ⟨nil, rest⟩
  · have nil := List.length_eq_zero_iff.1 (Nat.le_zero.1 h.size')
    refine ⟨?_, nil⟩
    cases split : r.rest with
    | nil => rfl
    | cons t ts =>
      rw [nil, split, lettered] at rest
      split at rest <;> cases rest

theorem charsWhile_inStep {p : Char → Bool} (hp : p '(' = false) (h : Alike .nothing m m' n r r')
    (enough : Enough k k' m m') :
    InStep (Same m m' n) (charsWhile p k r) (charsWhile p k' r') := by
  induction k generalizing k' m m' r r' with
  | zero =>
    rcases enough with rfl | ⟨none, _⟩
    · exact .ok ⟨rfl, h⟩
    · obtain ⟨nil, nil'⟩ := h.nil (.inl (Nat.le_zero.1 none))
      rw [charsWhile_of_nil nil, charsWhile_of_nil nil']
      exact .ok ⟨rfl, h⟩
  | succ k ih =>
    cases k' with
    | zero =>
      obtain ⟨nil, nil'⟩ := h.nil (.inr (by rcases enough with same | enough <;> omega))
      rw [charsWhile_of_nil nil, charsWhile_of_nil nil']
      exact .ok ⟨rfl, h⟩
    | succ k' =>
      rw [charsWhile, charsWhile]
      apply peek_inStep h
      cases first : r.rest.head? with
      | none => exact .ok ⟨rfl, h⟩
      | some t =>
        cases t with
        | escape c => exact .ok ⟨rfl, h⟩
        | dangling => exact .ok ⟨rfl, h⟩
        | char c =>
          dsimp only
          split
          · next takes =>
            apply (next_inStep h).bind
            intro _ _ _ _ taken
            cases taken with
            | none nil =>
              rw [nil] at first
              cases first
            | some t split h =>
              rw [split] at first
              cases first
              have other : c ≠ '(' := by
                rintro rfl
                rw [hp] at takes
                cases takes
              have further := ih (h.plain (mt Token.isBracket_char.1 other))
                (enough.imp Nat.succ.inj (by omega))
              apply further.bind
              rintro _ _ cs _ ⟨rfl, h⟩
              exact .ok ⟨rfl, h.mono (Nat.le_succ _) (Nat.le_succ _)⟩
          · exact .ok ⟨rfl, h⟩

theorem allWhile_inStep {p : Char → Bool} (hp : p '(' = false) (h : Alike .nothing m m' n r r') :
    InStep (Same m m' n) (allWhile p r) (allWhile p r') := by
  apply InStep.mono (charsWhile_inStep hp h.tight (.inr ⟨Nat.le_refl _, Nat.le_refl _⟩))
  rintro _ _ _ _ ⟨same, tight⟩
  exact ⟨same, tight.mono h.size h.size'⟩

def SameName (text text' : List Char) : Prop :=
  text' = text ∨ '<' ∈ text ∧ '<' ∈ text'

theorem sameName (ts : List Token) : SameName (ts.flatMap Token.chars)
    ((lettered passed ts).flatMap Token.chars) := by
  by_cases angle : .char '<' ∈ ts
  · right
    exact ⟨List.mem_flatMap.2 ⟨_, angle, by decide⟩,
      List.mem_flatMap.2 ⟨_, mem_lettered angle, by decide⟩⟩
  · left
    rw [lettered_of_not_mem angle]

theorem textUntil_inStep {stop : Char} (hs : Plain stop) (h : Alike passed m m' n r r') :
    InStep (fun text s text' s' => SameName text text' ∧ Alike .nothing m m' n s s')
      (textUntil stop r) (textUntil stop r') := by
  have size := h.size
  have size' := h.size'
  rw [h.rest] at size'
  unfold textUntil
  apply get_inStep
  dsimp only
  rw [Text.drop_length_takeWhile, Text.drop_length_takeWhile, h.rest, takeWhile_lettered hs]
  rcases cut_cases hs passed r.rest with ⟨nil, nil'⟩ | ⟨rest, cut, cut', shorter, shorter'⟩
  · rw [nil, nil']
    exact .fail
  · rw [cut, cut']
    dsimp only
    rw [contains_dangling_lettered, isEmpty_lettered]
    apply InStep.ite
    · exact fun _ => .failed
    · intro _
      apply (goTo_inStep h (by decide) (Nat.le_trans (Nat.le_of_lt shorter) size)
        (Nat.le_trans (Nat.le_of_lt shorter') size')).bind
      rintro _ _ _ _ ⟨_, h⟩
      exact .ok ⟨sameName _, h⟩

theorem skipThrough_inStep {stop : Char} {needed : Bool} (hs : Plain stop)
    (h : Alike passed m m' n r r') :
    InStep (fun _ s _ s' => Alike .nothing m m' n s s') (skipThrough stop needed r)
      (skipThrough stop needed r') := by
  have size := h.size
  have size' := h.size'
  rw [h.rest] at size'
  unfold skipThrough
  apply get_inStep
  apply get_inStep
  dsimp only
  rw [h.rest, contains_dangling_lettered, dropWhile_lettered hs, isEmpty_lettered,
    ← dropWhile_lettered hs passed]
  apply InStep.ite
  · exact fun _ => .failed
  · intro _
    apply InStep.ite
    · exact fun _ => .failed
    · intro _
      rcases cut_cases hs passed r.rest with ⟨nil, nil'⟩ | ⟨rest, cut, cut', shorter, shorter'⟩
      · rw [nil, nil']
        have size : (lettered .nothing []).length ≤ m' := Nat.zero_le _
        apply InStep.mono (goTo_inStep h (by decide) (Nat.zero_le _) size)
        exact fun _ _ _ _ moved => moved.2
      · rw [cut, cut']
        apply InStep.mono (goTo_inStep h (by decide) (Nat.le_trans (Nat.le_of_lt shorter) size)
          (Nat.le_trans (Nat.le_of_lt shorter') size'))
        exact fun _ _ _ _ moved => moved.2

theorem isName_eq_false {text : List Char} (h : '<' ∈ text) : Text.isName text = false := by
  have part : Text.isNamePart '<' = false := by decide
  have initial : Text.isNameInitial '<' = false := by decide
  cases text with
  | nil => rfl
  | cons c cs =>
    rw [Text.isName]
    rcases List.mem_cons.1 h with rfl | h
    · rw [initial, Bool.false_and]
    · have all : cs.all Text.isNamePart = false := List.all_eq_false.2 ⟨_, h, by simp [part]⟩
      rw [all, Bool.and_false]

theorem digits?_eq_none {text : List Char} (h : '<' ∈ text) : Number.digits? text = none := by
  have digit : Number.digitValue? '<' = none := by decide
  induction text using Number.digits?.induct with
  | case1 => rfl
  | case2 c =>
    rw [← List.mem_singleton.1 h, Number.digits?, digit]
    rfl
  | case3 c rest ih =>
    rw [Number.digits?]
    rcases List.mem_cons.1 h with rfl | h
    · rw [digit]
      rfl
    · have h : '<' ∈ rest := (List.mem_cons.1 h).resolve_left (by decide)
      rw [ih h]
      cases Number.digitValue? c <;> rfl
  | case4 c rest one score ih =>
    rw [Number.digits?.eq_4 c rest one score]
    rcases List.mem_cons.1 h with rfl | h
    · rw [digit]
      rfl
    · rw [ih h]
      cases Number.digitValue? c <;> rfl

theorem mem_dropWhile {drop : Char → Bool} {text : List Char} (h : c ∈ text)
    (kept : drop c = false) :
    c ∈ text.dropWhile drop := by
  rw [← List.takeWhile_append_dropWhile (p := drop) (l := text)] at h
  rcases List.mem_append.1 h with h | h
  · have := List.all_eq_true.1 List.all_takeWhile _ h
    rw [kept] at this
    cases this
  · exact h

theorem read?_eq_none {text : List Char} (h : '<' ∈ text) : Number.read? text = none := by
  have margin : Number.isMargin '<' = false := by decide
  have trimmed : '<' ∈ Text.trimWhere Number.isMargin text := by
    have first := List.mem_reverse.2 (mem_dropWhile h margin)
    exact List.mem_reverse.2 (mem_dropWhile first margin)
  have body : '<' ∈ (Number.splitSign (Text.trimWhere Number.isMargin text)).2 := by
    unfold Number.splitSign
    split
    · next rest split =>
      rw [split] at trimmed
      exact (List.mem_cons.1 trimmed).resolve_left (by decide)
    · next rest split =>
      rw [split] at trimmed
      exact (List.mem_cons.1 trimmed).resolve_left (by decide)
    · exact trimmed
  rw [Number.read?]
  dsimp only
  rw [digits?_eq_none body]
  rfl

theorem hexCode_inStep (size : Nat) (h : Alike .nothing m m' n r r') :
    InStep (Same m m' n) (hexCode size r) (hexCode size r') := by
  unfold hexCode
  apply (charsWhile_inStep (by decide) h (.inl rfl)).bind
  rintro _ _ digits _ ⟨rfl, h⟩
  cases Number.hexNumber? size digits with
  | none => exact .fail
  | some code =>
    dsimp only
    apply InStep.ite
    · exact fun _ => .error .tooLarge
    · exact fun _ => InStep.ite (fun _ => .fail) fun _ => .ok ⟨rfl, h⟩

theorem ofName?_eq_none {name : List Char} (h : '<' ∈ name) : Text.ofName? name = none := by
  have other : name.all Text.isNameLetter = false := List.all_eq_false.2 ⟨_, h, by decide⟩
  rw [Text.ofName?, other]
  rfl

theorem namedCode_inStep (h : Alike .nothing m m' n r r') :
    InStep (Same m m' n) (namedCode r) (namedCode r') := by
  unfold namedCode
  apply (require_inStep h (by decide)).bind
  intro _ _ _ _ h
  apply (textUntil_inStep (by decide) h).bind
  rintro name _ name' _ ⟨rfl | ⟨angle, angle'⟩, h⟩
  · cases Text.ofName? name' with
    | none => exact .fail
    | some code => exact .ok ⟨rfl, h⟩
  · rw [ofName?_eq_none angle, ofName?_eq_none angle']
    exact .fail

theorem codePoint?_inStep {x : Reading Nat} (read : codePoint? c = some x)
    (h : Alike .nothing m m' n r r') : InStep (Same m m' n) (x r) (x r') := by
  unfold codePoint? at read
  split at read <;> cases read
  · exact hexCode_inStep 2 h
  · exact hexCode_inStep 4 h
  · exact hexCode_inStep 8 h
  · exact namedCode_inStep h

theorem nameUntil_inStep (hs : Plain stop) (h : Alike passed m m' n r r') :
    InStep (Same m m' n) (nameUntil stop r) (nameUntil stop r') := by
  unfold nameUntil
  apply (textUntil_inStep hs h).bind
  rintro text _ text' _ ⟨rfl | ⟨angle, angle'⟩, h⟩
  · exact InStep.ite (fun _ => .ok ⟨rfl, h⟩) fun _ => .fail
  · rw [isName_eq_false angle, isName_eq_false angle']
    exact .fail

end WebScript.Pattern.Reading
