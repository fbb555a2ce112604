import WebScript.Number.Whole
import WebScript.Proofs.Text.Ink

namespace WebScript.Number

variable {c : Char} {text before after : List Char} {s : String} {m : Nat} {n : Int}

section Digits

theorem isDigit_of_mem_natText (h : c ∈ natText m) : c.isDigit = true :=
  Nat.isDigit_of_mem_toDigits (by decide) (by decide) h

theorem natText_ne_nil (m : Nat) : natText m ≠ [] :=
  Nat.toDigits_ne_nil

theorem toNat_of_isDigit (h : c.isDigit = true) : 48 ≤ c.toNat ∧ c.toNat < 58 := by
  rw [Char.isDigit, Bool.and_eq_true, decide_eq_true_eq, decide_eq_true_eq] at h
  have low : 48 ≤ c.toNat := h.1
  have high : c.toNat ≤ 57 := h.2
  exact ⟨low, Nat.lt_succ_of_le high⟩

/-- The digits from `0` to `9` belong to the first series. -/
theorem digitValue?_of_isDigit (h : c.isDigit = true) : digitValue? c = some (c.toNat - 48) := by
  obtain ⟨low, high⟩ := toNat_of_isDigit h
  have first : zeros.find? (fun start => start ≤ c.toNat && c.toNat < start + 10) = some 48 := by
    apply List.find?_cons_of_pos
    rw [Bool.and_eq_true, decide_eq_true_eq, decide_eq_true_eq]
    exact ⟨low, high⟩
  rw [digitValue?, first]

theorem digits?_of_isDigit (nonempty : text ≠ []) (h : ∀ c ∈ text, c.isDigit = true) :
    digits? text = some (text.map fun c => c.toNat - 48) := by
  induction text using digits?.induct with
  | case1 => exact absurd rfl nonempty
  | case2 c =>
    rw [digits?, digitValue?_of_isDigit (h c List.mem_cons_self)]
    rfl
  | case3 c rest ih =>
    -- An underscore may stand between digits, but is none.
    have score : '_'.isDigit = true := h '_' (List.mem_cons_of_mem c List.mem_cons_self)
    cases score
  | case4 c rest one score ih =>
    obtain ⟨first, later⟩ := List.forall_mem_cons.1 h
    rw [digits?.eq_4 c rest one score, digitValue?_of_isDigit first, ih one later]
    rfl

theorem digits?_natText (m : Nat) :
    digits? (natText m) = some ((natText m).map fun c => c.toNat - 48) :=
  digits?_of_isDigit (natText_ne_nil m) fun _ hc => isDigit_of_mem_natText hc

theorem ofDigits_map (text : List Char) :
    ofDigits 10 (text.map fun c => c.toNat - 48) = Nat.ofDigitChars 10 text 0 := by
  rw [ofDigits, List.foldl_map, Nat.ofDigitChars_eq_foldl]
  congr
  funext n c
  rw [Nat.mul_comm]
  rfl

theorem ofDigits_natText (m : Nat) : ofDigits 10 ((natText m).map fun c => c.toNat - 48) = m := by
  rw [ofDigits_map]
  exact Nat.ofDigitChars_ten_toDigits

theorem length_natText_le {size : Nat} (positive : 0 < size) :
    (natText m).length ≤ size ↔ m < Nat.pow 10 size :=
  Nat.length_toDigits_le_iff (by decide) positive

end Digits

section Signs

theorem intText_ne_nil (n : Int) : intText n ≠ [] := by
  cases n with
  | ofNat n => exact natText_ne_nil n
  | negSucc n => exact List.cons_ne_nil _ _

theorem mem_intText (h : c ∈ intText n) : c = '-' ∨ c.isDigit = true := by
  cases n with
  | ofNat n => exact .inr (isDigit_of_mem_natText h)
  | negSucc n =>
    rcases List.mem_cons.1 h with sign | digit
    · exact .inl sign
    · exact .inr (isDigit_of_mem_natText digit)

theorem splitSign_natText (m : Nat) : splitSign (natText m) = (false, natText m) := by
  rw [splitSign.eq_def]
  split
  · next rest signed =>
    have digit : '-'.isDigit = true := isDigit_of_mem_natText (signed ▸ List.mem_cons_self)
    cases digit
  · next rest signed =>
    have digit : '+'.isDigit = true := isDigit_of_mem_natText (signed ▸ List.mem_cons_self)
    cases digit
  · rfl

theorem splitSign_intText (n : Int) :
    splitSign (intText n) = (decide (n < 0), natText n.natAbs) := by
  cases n with
  | ofNat n =>
    have unsigned : ¬Int.ofNat n < 0 := Int.not_lt.2 (Int.natCast_nonneg n)
    rw [decide_eq_false unsigned]
    exact splitSign_natText n
  | negSucc n =>
    rw [decide_eq_true (Int.negSucc_lt_zero n)]
    rfl

theorem signed_natAbs (n : Int) : (if decide (n < 0) then -(n.natAbs : Int) else n.natAbs) = n := by
  by_cases negative : n < 0
  · rw [decide_eq_true negative, if_pos rfl]
    omega
  · rw [decide_eq_false negative, if_neg Bool.false_ne_true]
    omega

theorem isBlank_of_mem_intText (h : c ∈ intText n) : Text.isBlank c = false := by
  rcases mem_intText h with rfl | digit
  · rfl
  · obtain ⟨low, high⟩ := toNat_of_isDigit digit
    rw [Text.isBlank, ← Bool.not_eq_true]
    simp only [Bool.or_eq_true, Bool.and_eq_true, decide_eq_true_eq, beq_iff_eq]
    omega

theorem isMargin_of_mem_intText (h : c ∈ intText n) : isMargin c = false := by
  rw [isMargin, isBlank_of_mem_intText h, Bool.false_and]

theorem trimWhere_intText (n : Int) : Text.trimWhere isMargin (intText n) = intText n := by
  have bare : Text.trimWhere isMargin ([] ++ intText n ++ []) = intText n :=
    Text.trimWhere_margins nofun (fun c hc => isMargin_of_mem_intText hc) (intText_ne_nil n)
  rwa [List.nil_append, List.append_nil] at bare

end Signs

section Reading

/-- The number can be written, and what is written can be read. -/
def IsShort (n : Int) : Prop :=
  n.natAbs < Nat.pow 10 maxDigits

instance (n : Int) : Decidable (IsShort n) :=
  inferInstanceAs (Decidable (_ < _))

/-- The text is the decimal form of the number, with any white space around it. -/
def Spells (n : Int) (s : String) : Prop :=
  ∃ before after, s.toList = before ++ intText n ++ after ∧
    ∀ c ∈ before ++ after, Text.isBlank c = true

theorem read?_intText (n : Int) : read? (intText n) = if IsShort n then some n else none := by
  have fits : (natText n.natAbs).length ≤ maxDigits ↔ IsShort n := length_natText_le (by decide)
  rw [read?, trimWhere_intText, splitSign_intText]
  dsimp only
  rw [digits?_natText, Option.bind_eq_bind, Option.bind_some, ofDigits_natText, signed_natAbs,
    List.length_map]
  by_cases short : IsShort n
  · rw [if_pos short, if_neg (Nat.not_lt.2 (fits.2 short))]
    rfl
  · rw [if_neg short, if_pos (Nat.lt_of_not_le (mt fits.1 short))]

theorem Spells.read? (h : Spells n s) :
    Number.read? (Text.trim s).toList = if IsShort n then some n else none := by
  obtain ⟨before, after, spelled, margins⟩ := h
  rw [Text.trim, String.toList_ofList, spelled,
    Text.trimWhere_margins margins (fun c hc => isBlank_of_mem_intText hc) (intText_ne_nil n),
    read?_intText]

theorem spells_ofList (margins : ∀ c ∈ before ++ after, Text.isBlank c = true) :
    Spells n (.ofList (before ++ intText n ++ after)) :=
  ⟨before, after, String.toList_ofList, margins⟩

theorem spells_intText (n : Int) : Spells n (.ofList (intText n)) :=
  ⟨[], [], by rw [String.toList_ofList, List.nil_append, List.append_nil], nofun⟩

theorem Spells.ne_empty (h : Spells n s) : s ≠ "" := by
  obtain ⟨before, after, spelled, -⟩ := h
  rintro rfl
  have nothing := (List.append_eq_nil_iff.1 spelled.symm).1
  exact intText_ne_nil n (List.append_eq_nil_iff.1 nothing).2

theorem Spells.comma_not_mem (h : Spells n s) : ',' ∉ s.toList := by
  obtain ⟨before, after, spelled, margins⟩ := h
  intro comma
  rw [spelled, List.append_assoc, List.mem_append, List.mem_append] at comma
  rcases comma with left | number | right
  · cases margins ',' (List.mem_append_left after left)
  · rcases mem_intText number with sign | digit
    · cases sign
    · cases digit
  · cases margins ',' (List.mem_append_right before right)

end Reading

end WebScript.Number
