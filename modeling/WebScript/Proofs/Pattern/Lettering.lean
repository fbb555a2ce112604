import WebScript.Pattern.Reading

namespace WebScript.Pattern

/-- What has just been passed of what comes before a name without a letter. -/
inductive Passed where
  | nothing
  | bracket
  | mark
  deriving DecidableEq

def Token.IsBracket (t : Token) : Prop :=
  t = .char '(' ∨ t = .escape '('

instance (t : Token) : Decidable t.IsBracket :=
  inferInstanceAs (Decidable (_ ∨ _))

theorem Token.isBracket_char {c : Char} : (Token.char c).IsBracket ↔ c = '(' := by
  simp [IsBracket]

theorem Token.isBracket_escape {c : Char} : (Token.escape c).IsBracket ↔ c = '(' := by
  simp [IsBracket]

def Passed.after (passed : Passed) (t : Token) : Passed :=
  if t.IsBracket then bracket
  else if passed = bracket ∧ t = .char '?' then mark
  else nothing

/-- What looks behind goes on with one of two characters. -/
def Looks (rest : List Token) : Prop :=
  rest.head? = some (.char '=') ∨ rest.head? = some (.char '!')

instance (rest : List Token) : Decidable (Looks rest) :=
  inferInstanceAs (Decidable (_ ∨ _))

/-- Tokens with a letter before each name that has none. -/
def lettered (passed : Passed) : List Token → List Token
  | [] => []
  | t :: rest =>
    if passed = .mark ∧ t = .char '<' ∧ ¬Looks rest then .char 'P' :: t :: lettered .nothing rest
    else t :: lettered (passed.after t) rest

variable {passed : Passed} {t : Token} {ts rest : List Token} {c stop : Char} {cs : List Char}

theorem Passed.nothing_after (h : ¬t.IsBracket) : nothing.after t = nothing := by
  rw [after, if_neg h, if_neg (by simp)]

theorem Passed.after_ne_mark (h : passed ≠ bracket) : passed.after t ≠ mark := by
  rw [after]
  split
  · nofun
  · rw [if_neg fun mark => h mark.1]
    nofun

theorem Passed.after_bracket (h : t.IsBracket) : passed.after t = bracket :=
  if_pos h

theorem lettered_cons (h : passed ≠ .mark) :
    lettered passed (t :: rest) = t :: lettered (passed.after t) rest := by
  rw [lettered, if_neg fun gap => h gap.1]

theorem lettered_nothing_cons (h : ¬t.IsBracket) :
    lettered .nothing (t :: rest) = t :: lettered .nothing rest := by
  rw [lettered_cons (by decide), Passed.nothing_after h]

theorem head?_lettered (h : passed ≠ .mark) : (lettered passed ts).head? = ts.head? := by
  cases ts with
  | nil => rfl
  | cons t rest => rw [lettered_cons h, List.head?_cons, List.head?_cons]

theorem opensName_iff :
    opensName ts = true ↔ ∃ rest, ts = .char '?' :: .char '<' :: rest ∧ ¬Looks rest := by
  unfold opensName
  split
  · next rest => simp [Looks]
  · next h =>
    constructor
    · nofun
    · rintro ⟨rest, rfl, _⟩
      exact absurd rfl (h rest)

theorem lettered_mark (h : ∀ rest, ts = .char '<' :: rest → Looks rest) :
    lettered .mark ts = lettered .nothing ts := by
  cases ts with
  | nil => rfl
  | cons t rest =>
    rw [lettered, if_neg, lettered_cons (by decide)]
    · simp [Passed.after]
    · rintro ⟨_, rfl, name⟩
      exact name (h rest rfl)

/-- After a bracket nothing is different, unless a name begins. -/
theorem lettered_bracket (h : opensName ts = false) :
    lettered .bracket ts = lettered .nothing ts := by
  cases ts with
  | nil => rfl
  | cons t rest =>
    rw [lettered_cons (by decide), lettered_cons (by decide)]
    by_cases mark : t = .char '?'
    · subst mark
      apply congrArg
      apply lettered_mark
      rintro rest rfl
      apply Decidable.byContradiction
      intro name
      rw [opensName_iff.2 ⟨rest, rfl, name⟩] at h
      cases h
    · simp [Passed.after, mark]

theorem lettered_bracket_name (h : ¬Looks rest) :
    lettered .bracket (.char '?' :: .char '<' :: rest) =
      .char '?' :: .char 'P' :: .char '<' :: lettered .nothing rest := by
  have mark : Passed.bracket.after (.char '?') = .mark := by decide
  rw [lettered_cons (by decide), mark, lettered, if_pos ⟨rfl, rfl, h⟩]

theorem mem_lettered (h : t ∈ ts) : t ∈ lettered passed ts := by
  induction ts generalizing passed with
  | nil => cases h
  | cons u ts ih =>
    rw [lettered]
    rcases List.mem_cons.1 h with rfl | h
    · split <;> simp
    · split <;> simp [ih h]

theorem mem_of_mem_lettered (h : t ∈ lettered passed ts) (own : t ≠ .char 'P') : t ∈ ts := by
  induction ts generalizing passed with
  | nil => cases h
  | cons u ts ih =>
    rw [lettered] at h
    split at h
    · rw [List.mem_cons, List.mem_cons] at h
      rcases h with h | rfl | h
      · exact absurd h own
      · exact List.mem_cons_self
      · exact List.mem_cons_of_mem _ (ih h)
    · rcases List.mem_cons.1 h with rfl | h
      · exact List.mem_cons_self
      · exact List.mem_cons_of_mem _ (ih h)

theorem isEmpty_lettered : (lettered passed ts).isEmpty = ts.isEmpty := by
  cases ts with
  | nil => rfl
  | cons t ts =>
    rw [lettered]
    split <;> rfl

theorem contains_dangling_lettered :
    (lettered passed ts).contains .dangling = ts.contains .dangling := by
  rw [Bool.eq_iff_iff, List.contains_iff_mem, List.contains_iff_mem]
  exact ⟨fun h => mem_of_mem_lettered h (by decide), mem_lettered⟩

/-- Where no name begins there are no letters to put. -/
theorem lettered_of_not_mem (h : .char '<' ∉ ts) : lettered passed ts = ts := by
  induction ts generalizing passed with
  | nil => rfl
  | cons t ts ih =>
    rw [List.mem_cons, not_or] at h
    rw [lettered, if_neg fun gap => h.1 gap.2.1.symm, ih h.2]

/-- Characters that have nothing to do with names. -/
def Plain (stop : Char) : Prop :=
  stop ∉ ['(', '?', '<', 'P', '=', '!']

instance (stop : Char) : Decidable (Plain stop) :=
  inferInstanceAs (Decidable (_ ∉ _))

theorem Plain.ne (h : Plain stop) (c : Char) (hc : c ∈ ['(', '?', '<', 'P', '=', '!']) :
    Token.char c ≠ .char stop := by
  intro same
  apply h
  rwa [← Token.char.inj same]

theorem Plain.ne_bracket (h : Plain stop) : stop ≠ '(' := by
  rintro rfl
  exact absurd h (by decide)

theorem Plain.after (h : Plain stop) : passed.after (.char stop) = .nothing := by
  rw [Passed.after, if_neg (mt Token.isBracket_char.1 h.ne_bracket), if_neg]
  rintro ⟨_, same⟩
  exact h.ne '?' (by decide) same.symm

theorem dropWhile_lettered (h : Plain stop) (passed : Passed) (ts : List Token) :
    (lettered passed ts).dropWhile (· ≠ .char stop) =
      lettered .nothing (ts.dropWhile (· ≠ .char stop)) := by
  induction ts generalizing passed with
  | nil => rfl
  | cons t ts ih =>
    rw [lettered]
    split
    · next gap =>
      obtain ⟨_, rfl, _⟩ := gap
      have letter := h.ne 'P' (by decide)
      have angle := h.ne '<' (by decide)
      simp only [List.dropWhile_cons, letter, angle, ne_eq, not_false_eq_true, decide_true,
        if_true, ih]
    · by_cases same : t = .char stop
      · subst same
        simp only [List.dropWhile_cons, ne_eq, not_true_eq_false, decide_false,
          Bool.false_eq_true, if_false]
        rw [lettered_cons (by decide), h.after, h.after]
      · simp only [List.dropWhile_cons, ne_eq, same, not_false_eq_true, decide_true, if_true, ih]

theorem looks_takeWhile (h : Plain stop) : Looks (ts.takeWhile (· ≠ .char stop)) ↔ Looks ts := by
  have equals := h.ne '=' (by decide)
  have bang := h.ne '!' (by decide)
  cases ts with
  | nil => rfl
  | cons t ts =>
    by_cases same : t = .char stop
    · subst same
      simp [Looks, equals.symm, bang.symm]
    · simp [Looks, same]

theorem takeWhile_lettered (h : Plain stop) (passed : Passed) (ts : List Token) :
    (lettered passed ts).takeWhile (· ≠ .char stop) =
      lettered passed (ts.takeWhile (· ≠ .char stop)) := by
  induction ts generalizing passed with
  | nil => rfl
  | cons t ts ih =>
    rw [lettered]
    split
    · next gap =>
      obtain ⟨rfl, rfl, name⟩ := gap
      have letter := h.ne 'P' (by decide)
      have angle := h.ne '<' (by decide)
      simp only [List.takeWhile_cons, letter, angle, ne_eq, not_false_eq_true, decide_true,
        if_true, ih]
      rw [lettered, if_pos ⟨rfl, rfl, mt (looks_takeWhile h).1 name⟩]
    · next other =>
      by_cases same : t = .char stop
      · simp [same, lettered]
      · simp only [List.takeWhile_cons, ne_eq, same, not_false_eq_true, decide_true, if_true, ih]
        rw [lettered, if_neg]
        rintro ⟨mark, angle, name⟩
        exact other ⟨mark, angle, mt (looks_takeWhile h).2 name⟩

theorem dropWhile_eq_cons (h : ts.dropWhile (· ≠ .char stop) = t :: rest) :
    t = .char stop ∧ rest.length < ts.length := by
  have first := List.head?_dropWhile_not (fun t => decide (t ≠ .char stop)) ts
  have shorter := (List.dropWhile_suffix (l := ts) fun t => decide (t ≠ .char stop)).length_le
  rw [h] at first shorter
  exact ⟨by simpa using first, shorter⟩

/-- What is left after a stop, without and with letters. -/
theorem cut_cases (h : Plain stop) (passed : Passed) (ts : List Token) :
    (ts.dropWhile (· ≠ .char stop) = [] ∧ (lettered passed ts).dropWhile (· ≠ .char stop) = []) ∨
    ∃ rest, ts.dropWhile (· ≠ .char stop) = .char stop :: rest ∧
      (lettered passed ts).dropWhile (· ≠ .char stop) = .char stop :: lettered .nothing rest ∧
      rest.length < ts.length ∧ (lettered .nothing rest).length < (lettered passed ts).length := by
  have letters := dropWhile_lettered h passed ts
  cases left : ts.dropWhile (· ≠ .char stop) with
  | nil =>
    rw [left] at letters
    exact .inl ⟨rfl, letters⟩
  | cons t rest =>
    obtain ⟨rfl, shorter⟩ := dropWhile_eq_cons left
    rw [left, lettered_nothing_cons (mt Token.isBracket_char.1 h.ne_bracket)] at letters
    exact .inr ⟨rest, rfl, letters, shorter, (dropWhile_eq_cons letters).2⟩

theorem Token.ofText_cons (h : c ≠ '\\') : ofText (c :: cs) = .char c :: ofText cs := by
  rw [ofText]
  · rintro rfl
    exact absurd rfl h
  · rintro _ _ rfl
    exact absurd rfl h

theorem Token.ofText_eq_cons (h : ofText cs = .char c :: ts) :
    ∃ rest, cs = c :: rest ∧ ofText rest = ts := by
  unfold ofText at h
  split at h
  · cases h
  · cases h
  · cases h
  · cases h
    exact ⟨_, rfl, rfl⟩

theorem Token.head?_ofText (h : c ≠ '\\') :
    (ofText cs).head? = some (.char c) ↔ cs.head? = some c := by
  constructor
  · intro first
    obtain ⟨ts, split⟩ := List.head?_eq_some_iff.1 first
    obtain ⟨rest, rfl, _⟩ := ofText_eq_cons split
    rfl
  · intro first
    obtain ⟨rest, rfl⟩ := List.head?_eq_some_iff.1 first
    rw [ofText_cons h]
    rfl

theorem looks_ofText : Looks (Token.ofText cs) ↔ cs.head? = some '=' ∨ cs.head? = some '!' := by
  rw [Looks, Token.head?_ofText (by decide), Token.head?_ofText (by decide)]

theorem withNamedGroups_name (h : ¬Looks (Token.ofText cs)) :
    withNamedGroups ('(' :: '?' :: '<' :: cs) = '(' :: '?' :: 'P' :: '<' :: withNamedGroups cs := by
  have name := mt looks_ofText.2 h
  rw [withNamedGroups]
  simp [name]

theorem withNamedGroups_cons (h : c = '(' → opensName (Token.ofText cs) = false) :
    withNamedGroups (c :: cs) = c :: withNamedGroups cs := by
  by_cases name : c = '(' ∧ ∃ rest, cs = '?' :: '<' :: rest
  · obtain ⟨rfl, rest, rfl⟩ := name
    have name : opensName (.char '?' :: .char '<' :: Token.ofText rest) = false := by
      simpa [Token.ofText_cons] using h rfl
    have looks : Looks (Token.ofText rest) := by
      apply Decidable.byContradiction
      intro other
      rw [opensName_iff.2 ⟨_, rfl, other⟩] at name
      cases name
    simp [looks_ofText.1 looks, withNamedGroups]
  · rw [withNamedGroups]
    intro rest bracket split
    exact name ⟨bracket, rest, split⟩

/-- What becomes of a text after a bracket. -/
theorem exists_withNamedGroups_bracket (cs : List Char)
    (shorter : ∀ rest : List Char, rest.length ≤ cs.length →
      Token.ofText (withNamedGroups rest) = lettered .nothing (Token.ofText rest)) :
    ∃ rest, withNamedGroups ('(' :: cs) = '(' :: rest ∧
      Token.ofText rest = lettered .bracket (Token.ofText cs) := by
  cases name : opensName (Token.ofText cs) with
  | false =>
    refine ⟨_, withNamedGroups_cons fun _ => name, ?_⟩
    rw [lettered_bracket name, shorter cs (Nat.le_refl _)]
  | true =>
    obtain ⟨ts, split, noLook⟩ := opensName_iff.1 name
    obtain ⟨_, rfl, after⟩ := Token.ofText_eq_cons split
    obtain ⟨rest, rfl, rfl⟩ := Token.ofText_eq_cons after
    refine ⟨_, withNamedGroups_name noLook, ?_⟩
    have inner := shorter rest (by simp only [List.length_cons]; omega)
    simp [Token.ofText_cons, lettered_bracket_name noLook, inner]

/-- The letters that are put into a text are those that are put before its tokens. -/
theorem ofText_withNamedGroups (cs : List Char) :
    Token.ofText (withNamedGroups cs) = lettered .nothing (Token.ofText cs) := by
  induction size : cs.length using Nat.strongRecOn generalizing cs with
  | _ n ih =>
    subst size
    have shorter (rest : List Char) (h : rest.length < cs.length) :
        Token.ofText (withNamedGroups rest) = lettered .nothing (Token.ofText rest) :=
          ih _ h rest rfl
    cases cs with
    | nil => rfl
    | cons c cs =>
      by_cases escape : c = '\\'
      · subst escape
        rw [withNamedGroups_cons fun h => absurd h (by decide)]
        cases cs with
        | nil => rfl
        | cons c cs =>
          rw [Token.ofText]
          by_cases bracket : c = '('
          · subst bracket
            obtain ⟨rest, split, after⟩ := exists_withNamedGroups_bracket cs fun rest h =>
              shorter rest (by simp only [List.length_cons]; omega)
            rw [split, Token.ofText, after, lettered_cons (by decide),
              Passed.after_bracket (.inr rfl)]
          · have other := mt Token.isBracket_escape.1 bracket
            rw [withNamedGroups_cons fun h =>
              absurd h bracket, Token.ofText, lettered_nothing_cons other,
              shorter cs (by simp only [List.length_cons]; omega)]
      · rw [Token.ofText_cons escape]
        by_cases bracket : c = '('
        · subst bracket
          obtain ⟨rest, split, after⟩ := exists_withNamedGroups_bracket cs fun rest h =>
            shorter rest (by simp only [List.length_cons]; omega)
          rw [split, Token.ofText_cons escape, after, lettered_cons (by decide),
            Passed.after_bracket (.inl rfl)]
        · have other := mt Token.isBracket_char.1 bracket
          rw [withNamedGroups_cons fun h => absurd h bracket, Token.ofText_cons escape,
            lettered_nothing_cons other, shorter cs (by simp)]

end WebScript.Pattern
