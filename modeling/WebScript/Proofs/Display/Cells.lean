import Mathlib.Data.List.Infix
import Mathlib.Data.List.TakeWhile
import WebScript.Display.Layout
import WebScript.Proofs.Text.Find
import WebScript.Proofs.Text.Ink

namespace WebScript.Display

open Text (isBlank inked)

variable {c : Char} {s t text line word : List Char} {width used : Nat}

section Room

theorem room_cons (c : Char) (text : List Char) : room (c :: text) = roomOf c + room text := rfl

theorem room_append (s t : List Char) : room (s ++ t) = room s + room t := by
  induction s with
  | nil => exact (Nat.zero_add _).symm
  | cons c s ih => rw [List.cons_append, room_cons, room_cons, ih, Nat.add_assoc]

theorem roomOf_le_one (c : Char) : roomOf c ≤ 1 := by
  rw [roomOf]
  split <;> decide

theorem room_le_length (text : List Char) : room text ≤ text.length := by
  induction text with
  | nil => exact Nat.le_refl 0
  | cons c text ih =>
    have here := roomOf_le_one c
    rw [room_cons, List.length_cons]
    omega

end Room

section Runs

/-- A text of which each run without white space has room. -/
def Slim (width : Nat) (text : List Char) : Prop :=
  ∀ run, run <:+: text → (∀ c ∈ run, isBlank c = false) → room run ≤ width

theorem Slim.within (h : Slim width t) (part : s <:+: t) : Slim width s :=
  fun run inside => h run (inside.trans part)

theorem endsLine_of_not_blank (h : isBlank c = false) : endsLine c = false := by
  by_contra ends
  rw [Bool.not_eq_false, endsLine, List.contains_iff_mem] at ends
  simp only [List.mem_cons, List.not_mem_nil, or_false] at ends
  rcases ends with code | code | code | code | code | code | code <;> simp [isBlank, code] at h

/-- One character is measured: how wide lines have been, and how wide the present one is. -/
def measure (state : Nat × Nat) (c : Char) : Nat × Nat :=
  if endsLine c then (max state.1 state.2, 0) else (state.1, state.2 + roomOf c)

theorem widest_eq (text : List Char) :
    widest text = max (text.foldl measure (0, 0)).1 (text.foldl measure (0, 0)).2 := rfl

theorem le_measure (text : List Char) (state : Nat × Nat) :
    state.2 ≤ max (text.foldl measure state).1 (text.foldl measure state).2 ∧
      state.1 ≤ max (text.foldl measure state).1 (text.foldl measure state).2 := by
  induction text generalizing state with
  | nil => exact ⟨Nat.le_max_right _ _, Nat.le_max_left _ _⟩
  | cons c text ih =>
    rw [List.foldl_cons]
    obtain ⟨present, best⟩ := ih (measure state c)
    rw [measure] at present best
    split at present
    · next ends =>
      rw [if_pos ends] at best
      rw [measure, if_pos ends]
      omega
    · next ends =>
      rw [if_neg ends] at best
      rw [measure, if_neg ends]
      omega

theorem measure_run {run : List Char} (h : ∀ c ∈ run, isBlank c = false) (state : Nat × Nat) :
    run.foldl measure state = (state.1, state.2 + room run) := by
  induction run generalizing state with
  | nil => rfl
  | cons c run ih =>
    rw [List.foldl_cons, ih (fun d hd => h d (.tail _ hd)), measure,
      endsLine_of_not_blank (h c (.head _)), room_cons, ← Nat.add_assoc]
    rfl

theorem slim_of_widest (h : widest text ≤ width) : Slim width text := by
  rintro run ⟨before, after, rfl⟩ inside
  have present := (le_measure after (run.foldl measure (before.foldl measure (0, 0)))).1
  rw [widest_eq, List.foldl_append, List.foldl_append] at h
  have here := Nat.le_trans present h
  rw [measure_run inside] at here
  exact Nat.le_trans (Nat.le_add_left _ _) here

theorem infix_of_infix_replicate {run : List Char} (inside : ∀ c ∈ run, isBlank c = false)
    {size : Nat} (h : run <:+: List.replicate size ' ' ++ text) : run <:+: text := by
  induction size with
  | zero => exact h
  | succ size ih =>
    rw [List.replicate_succ, List.cons_append, List.infix_cons_iff] at h
    rcases h with start | later
    · cases run with
      | nil => exact List.nil_infix
      | cons d run =>
        obtain ⟨rfl, _⟩ := List.cons_prefix_cons.1 start
        cases inside ' ' (.head _)
    · exact ih later

theorem prefix_of_prefix_spread {run : List Char} {position : Nat}
    (inside : ∀ c ∈ run, isBlank c = false)
    (h : run <+: spread position text) : run <+: text := by
  induction text generalizing run position with
  | nil => exact h
  | cons c text ih =>
    cases run with
    | nil => exact List.nil_prefix
    | cons d run =>
      rw [spread] at h
      split at h
      · obtain ⟨size, same⟩ : ∃ size, 8 - position % 8 = size + 1 := ⟨7 - position % 8, by omega⟩
        dsimp only at h
        rw [same, List.replicate_succ, List.cons_append] at h
        obtain ⟨rfl, _⟩ := List.cons_prefix_cons.1 h
        cases inside ' ' (.head _)
      · obtain ⟨rfl, later⟩ := List.cons_prefix_cons.1 h
        exact List.cons_prefix_cons.2 ⟨rfl, ih (fun e he => inside e (.tail _ he)) later⟩

theorem infix_of_infix_spread {run : List Char} {position : Nat}
    (inside : ∀ c ∈ run, isBlank c = false)
    (h : run <:+: spread position text) : run <:+: text := by
  induction text generalizing position with
  | nil => exact h
  | cons c text ih =>
    by_cases tab : c = '\t'
    · rw [spread, if_pos tab] at h
      exact (ih (infix_of_infix_replicate inside h)).trans (List.suffix_cons c text).isInfix
    · have unfolded := h
      rw [spread, if_neg tab, List.infix_cons_iff] at unfolded
      rcases unfolded with start | later
      · apply List.IsPrefix.isInfix
        have whole : run <+: spread position (c :: text) := by rwa [spread, if_neg tab]
        exact prefix_of_prefix_spread inside whole
      · exact (ih later).trans (List.suffix_cons c text).isInfix

theorem Slim.spread (h : Slim width text) (position : Nat) : Slim width (spread position text) :=
  fun run part inside => h run (infix_of_infix_spread inside part) inside

end Runs

section Cutting

theorem dropEndBlanks_append (s : List Char) (h : ∃ c ∈ t, isBlank c = false) :
    dropEndBlanks (s ++ t) = s ++ dropEndBlanks t := by
  rw [dropEndBlanks, dropEndBlanks, List.reverse_append]
  have inside : t.reverse.dropWhile isBlank ≠ [] := by
    rw [ne_eq, List.dropWhile_eq_nil_iff]
    obtain ⟨c, hc, ink⟩ := h
    intro blank
    rw [blank c (List.mem_reverse.2 hc)] at ink
    cases ink
  rw [List.dropWhile_append, if_neg (by simpa using inside), List.reverse_append,
    List.reverse_reverse]

/-- A text is what is left of it without the white space at its end, and that white space. -/
theorem exists_dropEndBlanks (text : List Char) :
    ∃ space, (∀ c ∈ space, isBlank c = true) ∧ text = dropEndBlanks text ++ space ∧
      (text.reverse.takeWhile isBlank).length = space.length := by
  refine ⟨(text.reverse.takeWhile isBlank).reverse, ?_, ?_, by simp⟩
  · intro c hc
    exact List.mem_takeWhile_imp (List.mem_reverse.1 hc)
  · rw [dropEndBlanks, ← List.reverse_append, List.takeWhile_append_dropWhile, List.reverse_reverse]

theorem inked_of_blank (h : ∀ c ∈ text, isBlank c = true) : inked text = [] := by
  rw [inked, List.filter_eq_nil_iff]
  intro c hc
  rw [h c hc]
  exact Bool.false_ne_true

theorem inked_of_ink (h : ∀ c ∈ text, isBlank c = false) : inked text = text := by
  rw [inked, List.filter_eq_self]
  intro c hc
  rw [h c hc]
  rfl

theorem room_dropEndBlanks_le (text : List Char) : room (dropEndBlanks text) ≤ room text := by
  obtain ⟨space, _, split, _⟩ := exists_dropEndBlanks text
  have total := congrArg room split
  rw [room_append] at total
  omega

/-- Cutting begins with the white space at the end. -/
theorem take_eq_append_take {core space : List Char} :
    (core ++ space).take ((core ++ space).length -
      min space.length ((core ++ space).length - width)) = core ++
        space.take (width - core.length) := by
  rw [List.take_append, List.take_of_length_le, List.append_cancel_left_eq]
  · rw [List.length_append]
    rcases Nat.le_total space.length (width - core.length) with enough | less
    · rw [List.take_of_length_le enough, List.take_of_length_le]
      omega
    · congr 1
      omega
  · rw [List.length_append]
    omega

/-- A line that fits but for the white space at its end loses no more than that. -/
theorem inked_cutTo (fits : room (dropEndBlanks line) ≤ width) :
    inked (cutTo width line) = inked line := by
  obtain ⟨space, blank, split, size⟩ := exists_dropEndBlanks line
  generalize dropEndBlanks line = core at fits split
  subst split
  have spaceless := room_le_length (space.take (width - core.length))
  have long := room_le_length core
  rw [List.length_take] at spaceless
  have kept : ¬room (core ++ space.take (width - core.length)) > width := by
    rw [room_append]
    omega
  rw [cutTo, size, take_eq_append_take, if_neg kept, Text.inked_append, Text.inked_append,
    inked_of_blank blank, inked_of_blank fun c hc => blank c (List.mem_of_mem_take hc)]

theorem cutTo_eq (wide : width < room (dropEndBlanks line)) :
    cutTo width line = (dropEndBlanks line).take (width - 1) ++ ['…'] := by
  obtain ⟨space, blank, split, size⟩ := exists_dropEndBlanks line
  generalize dropEndBlanks line = core at wide split ⊢
  subst split
  have long := room_le_length core
  have none : width - core.length = 0 := by omega
  rw [cutTo, size, take_eq_append_take, none, List.take_zero, List.append_nil, if_pos wide]

end Cutting

section Words

/-- The white space before the first word of a line. -/
def indent (line : List Char) : List Char :=
  line.takeWhile isBlank

def firstWord (line : List Char) : List Char :=
  (line.dropWhile isBlank).takeWhile (!isBlank ·)

/-- A word with the white space after it. -/
structure IsWord (width : Nat) (word : List Char) : Prop where
  filled : ∃ c ∈ word, isBlank c = false
  fits : room (dropEndBlanks word) ≤ width

/-- The white space after the first word of a line. -/
def gap (line : List Char) : List Char :=
  ((line.dropWhile isBlank).dropWhile (!isBlank ·)).takeWhile isBlank

def laterWords (line : List Char) : List Char :=
  ((line.dropWhile isBlank).dropWhile (!isBlank ·)).dropWhile isBlank

theorem line_eq (line : List Char) :
    line = indent line ++ (firstWord line ++ (gap line ++ laterWords line)) := by
  simp only [indent, firstWord, gap, laterWords, List.takeWhile_append_dropWhile]

theorem infix_laterWords (line : List Char) : laterWords line <:+: line := by
  apply List.IsSuffix.isInfix
  exact ⟨indent line ++ (firstWord line ++ gap line), by simpa using (line_eq line).symm⟩

theorem length_laterWords_lt (filled : firstWord line ≠ []) :
    (laterWords line).length < line.length := by
  have size := congrArg List.length (line_eq line)
  have some := List.length_pos_of_ne_nil filled
  simp only [List.length_append] at size
  omega

theorem isBlank_of_mem_indent (h : c ∈ indent line) : isBlank c = true :=
  List.mem_takeWhile_imp h

theorem isBlank_of_mem_firstWord (h : c ∈ firstWord line) : isBlank c = false := by
  simpa using List.mem_takeWhile_imp h

theorem isBlank_of_mem_gap (h : c ∈ gap line) : isBlank c = true :=
  List.mem_takeWhile_imp h

theorem takeWhile_dropWhile (p : Char → Bool) (text : List Char) :
    (text.dropWhile p).takeWhile p = [] := by
  induction text with
  | nil => rfl
  | cons c text ih =>
    cases passed : p c with
    | true => rwa [List.dropWhile_cons_of_pos passed]
    | false =>
      have stays : ¬p c = true := by rw [passed]; exact Bool.false_ne_true
      rw [List.dropWhile_cons_of_neg stays, List.takeWhile_cons_of_neg stays]

theorem indent_laterWords (line : List Char) : indent (laterWords line) = [] :=
  takeWhile_dropWhile isBlank _

theorem inked_line (line : List Char) : inked line = firstWord line ++ inked (laterWords line) := by
  conv => lhs; rw [line_eq line]
  rw [Text.inked_append, Text.inked_append, Text.inked_append,
    inked_of_blank fun c => isBlank_of_mem_indent, inked_of_blank fun c => isBlank_of_mem_gap,
    inked_of_ink fun c => isBlank_of_mem_firstWord, List.nil_append, List.nil_append]

theorem firstWord_eq_nil_iff : firstWord line = [] ↔ inked line = [] := by
  constructor
  · intro empty
    have unblank := takeWhile_dropWhile isBlank line
    rw [firstWord] at empty
    rw [← Text.inked_dropWhile]
    cases rest : line.dropWhile isBlank with
    | nil => rfl
    | cons c rest' =>
      rw [rest] at empty unblank
      cases blank : isBlank c with
      | true => simp [blank] at unblank
      | false => simp [blank] at empty
  · intro none
    rw [inked_line] at none
    exact (List.append_eq_nil_iff.1 none).1

theorem dropEndBlanks_gap (line : List Char) :
    dropEndBlanks (firstWord line ++ gap line) = firstWord line := by
  have stays : (firstWord line).reverse.dropWhile isBlank = (firstWord line).reverse := by
    cases last : (firstWord line).reverse with
    | nil => rfl
    | cons c rest =>
      have ink : isBlank c = false :=
        isBlank_of_mem_firstWord (List.mem_reverse.1 (by rw [last]; exact .head _))
      exact List.dropWhile_cons_of_neg (by rw [ink]; exact Bool.false_ne_true)
  rw [dropEndBlanks, List.reverse_append, List.dropWhile_append_of_pos, stays, List.reverse_reverse]
  intro c hc
  exact isBlank_of_mem_gap (List.mem_reverse.1 hc)

theorem wordsOf_succ (fuel : Nat) (line : List Char) :
    wordsOf (fuel + 1) line = if (firstWord line).isEmpty then []
      else (indent line ++ firstWord line ++ gap line) :: wordsOf fuel (laterWords line) := by
  rw [wordsOf]
  simp only [Text.drop_length_takeWhile]
  rfl

/-- The words after the first have no indent, and they are as slim as the line. -/
theorem wordsOf_ok {fuel : Nat} (enough : line.length < fuel) (slim : Slim width line)
    (unindented : indent line = []) :
    (∀ w ∈ wordsOf fuel line, IsWord width w) ∧ inked (wordsOf fuel line).flatten = inked line := by
  induction fuel generalizing line with
  | zero => cases enough
  | succ fuel ih =>
    rw [wordsOf_succ]
    split
    · next empty =>
      exact ⟨nofun, (firstWord_eq_nil_iff.1 (List.isEmpty_iff.1 empty)).symm⟩
    · next filled =>
      have shorter := length_laterWords_lt (mt List.isEmpty_iff.2 filled)
      have first : firstWord line <:+: line := ⟨indent line, gap line ++ laterWords line,
        by simpa using (line_eq line).symm⟩
      obtain ⟨ok, all⟩ :=
        ih (by omega) (slim.within (infix_laterWords line)) (indent_laterWords line)
      rw [unindented, List.nil_append]
      constructor
      · apply List.forall_mem_cons.2 ⟨⟨?_, ?_⟩, ok⟩
        · obtain ⟨c, hc⟩ := List.exists_mem_of_ne_nil _ (mt List.isEmpty_iff.2 filled)
          exact ⟨c, List.mem_append_left _ hc, isBlank_of_mem_firstWord hc⟩
        · rw [dropEndBlanks_gap]
          exact slim _ first fun c => isBlank_of_mem_firstWord
      · rw [List.flatten_cons, Text.inked_append, Text.inked_append, all, inked_line line,
          inked_of_ink fun c => isBlank_of_mem_firstWord,
          inked_of_blank fun c => isBlank_of_mem_gap,
          List.append_nil]

/-- After each word that is put on a line, nothing of the lines before is lost. -/
theorem inked_fillLines {words before : List (List Char)} (ok : ∀ w ∈ words, IsWord width w) :
    inked ((fillLines width (line :: before) (room line) words).reverse.map (cutTo width)).flatten =
      inked ((line :: before).reverse.map (cutTo width)).flatten ++ inked words.flatten := by
  induction words generalizing line before with
  | nil =>
    rw [fillLines, List.flatten_nil, Text.inked_nil, List.append_nil]
  | cons word words ih =>
    have here := ok word (.head _)
    have later : ∀ w ∈ words, IsWord width w := fun w hw => ok w (.tail _ hw)
    rw [fillLines]
    split
    · next fits =>
      have joined : room (dropEndBlanks (line ++ word)) ≤ width := by
        rw [dropEndBlanks_append line here.filled, room_append]
        exact fits
      have alone : room (dropEndBlanks line) ≤ width :=
        Nat.le_trans (room_dropEndBlanks_le line) (Nat.le_trans (Nat.le_add_right _ _) fits)
      rw [← room_append, ih later]
      simp [inked_cutTo joined, inked_cutTo alone]
    · rw [ih later]
      simp [inked_cutTo here.fits]

/-- A line whose first word fits behind its indent, or is too short for an ellipsis to change it. -/
def Fits (width : Nat) (line : List Char) : Prop :=
  room (indent line) + room (firstWord line) ≤ width ∨ firstWord line = [] ∨ firstWord line = ['…']

theorem dropEndBlanks_firstWord (filled : firstWord line ≠ []) :
    dropEndBlanks (indent line ++ firstWord line ++ gap line) = indent line ++ firstWord line := by
  obtain ⟨c, hc⟩ := List.exists_mem_of_ne_nil _ filled
  rw [List.append_assoc, dropEndBlanks_append, dropEndBlanks_gap]
  exact ⟨c, List.mem_append_left _ hc, isBlank_of_mem_firstWord hc⟩

/-- An ellipsis takes the place of what does not fit. -/
theorem inked_cutTo_of_wide (filled : firstWord line ≠ [])
    (wide : width < room (indent line) + room (firstWord line)) :
    inked (cutTo width (indent line ++ firstWord line ++ gap line)) =
      (firstWord line).take (width - 1 - (indent line).length) ++ ['…'] := by
  have core := dropEndBlanks_firstWord filled
  rw [cutTo_eq (by rwa [core, room_append]), core, Text.inked_append, List.take_append,
    Text.inked_append, inked_of_blank fun c hc => isBlank_of_mem_indent (List.mem_of_mem_take hc),
    inked_of_ink fun c hc => isBlank_of_mem_firstWord (List.mem_of_mem_take hc)]
  rfl

theorem inked_cutTo_firstWord (filled : firstWord line ≠ []) :
    (inked (cutTo width (indent line ++ firstWord line ++ gap line))).length ≤
      (firstWord line).length ∧
      (inked (cutTo width (indent line ++ firstWord line ++ gap line)) = firstWord line ↔
        Fits width line) := by
  by_cases fits : room (indent line) + room (firstWord line) ≤ width
  · have all : inked (cutTo width (indent line ++ firstWord line ++ gap line)) =
        firstWord line := by
      rw [inked_cutTo (by rwa [dropEndBlanks_firstWord filled, room_append]), Text.inked_append,
        Text.inked_append, inked_of_blank fun c => isBlank_of_mem_indent,
        inked_of_ink fun c => isBlank_of_mem_firstWord, inked_of_blank fun c => isBlank_of_mem_gap,
        List.nil_append, List.append_nil]
    rw [all]
    exact ⟨Nat.le_refl _, iff_of_true rfl (.inl fits)⟩
  · have some := List.length_pos_of_ne_nil filled
    have indentRoom := room_le_length (indent line)
    have wordRoom := room_le_length (firstWord line)
    rw [inked_cutTo_of_wide filled (Nat.lt_of_not_le fits)]
    constructor
    · rw [List.length_append, List.length_take, List.length_singleton]
      omega
    constructor
    · intro same
      have size := congrArg List.length same
      rw [List.length_append, List.length_take, List.length_singleton] at size
      have none : (firstWord line).take (width - 1 - (indent line).length) = [] := by
        rw [← List.length_eq_zero_iff, List.length_take]
        omega
      rw [none] at same
      exact .inr (.inr same.symm)
    · rintro (fits' | empty | ellipsis)
      · exact absurd fits' fits
      · exact absurd empty filled
      · rw [ellipsis] at wordRoom fits ⊢
        have none : width - 1 - (indent line).length = 0 := by
          rw [List.length_singleton] at wordRoom
          omega
        rw [none]
        rfl

theorem fillLines_ne_nil {words before : List (List Char)} :
    fillLines width (line :: before) used words ≠ [] := by
  induction words generalizing line before used with
  | nil => exact List.cons_ne_nil _ _
  | cons word words ih =>
    rw [fillLines]
    split
    · exact ih
    · exact ih

/-- The lines for a line without tabulators. -/
def broken (width : Nat) (line : List Char) : List (List Char) :=
  match fillLines width [] 0 (wordsOf (line.length + 1) line) with
  | [] => [cutTo width line]
  | lines => lines.reverse.map (cutTo width)

theorem broken_of_blank (empty : firstWord line = []) : broken width line = [cutTo width line] := by
  rw [broken, wordsOf_succ, empty]
  rfl

theorem broken_of_word (filled : firstWord line ≠ []) :
    broken width line = ((fillLines width [indent line ++ firstWord line ++ gap line]
      (room (indent line ++ firstWord line ++ gap line))
      (wordsOf line.length (laterWords line))).reverse.map (cutTo width)) := by
  rw [broken, wordsOf_succ, if_neg (mt List.isEmpty_iff.1 filled), fillLines]
  split
  · next none => exact absurd none fillLines_ne_nil
  · rfl

/-- What is left of a line is less than the line unless its first word fits. -/
theorem inked_broken (slim : Slim width line) :
    (inked (broken width line).flatten).length ≤ (inked line).length ∧
      (inked (broken width line).flatten = inked line ↔ Fits width line) := by
  by_cases empty : firstWord line = []
  · have blank := firstWord_eq_nil_iff.1 empty
    have coreless : dropEndBlanks line = [] := by
      rw [dropEndBlanks, List.reverse_eq_nil_iff, List.dropWhile_eq_nil_iff]
      intro c hc
      simpa using List.filter_eq_nil_iff.1 blank c (List.mem_reverse.1 hc)
    have all : inked (broken width line).flatten = inked line := by
      rw [broken_of_blank empty, List.flatten_singleton,
        inked_cutTo (by rw [coreless]; exact Nat.zero_le _)]
    rw [all]
    exact ⟨Nat.le_refl _, iff_of_true rfl (.inr (.inl empty))⟩
  · obtain ⟨ok, all⟩ := wordsOf_ok (length_laterWords_lt empty)
      (slim.within (infix_laterWords line)) (indent_laterWords line)
    obtain ⟨fewer, kept⟩ : _ ∧ (_ ↔ Fits width line) := inked_cutTo_firstWord empty
    rw [broken_of_word empty, inked_fillLines ok, all, inked_line line]
    simp only [List.reverse_cons, List.reverse_nil, List.nil_append, List.map_cons, List.map_nil,
      List.flatten_cons, List.flatten_nil, List.append_nil, List.append_cancel_right_eq,
      List.length_append]
    exact ⟨Nat.add_le_add_right fewer _, kept⟩

theorem inked_spread (position : Nat) (text : List Char) :
    inked (spread position text) = inked text := by
  induction text generalizing position with
  | nil => rfl
  | cons c text ih =>
    rw [spread]
    split
    · next tab =>
      subst tab
      rw [Text.inked_append, ih, inked_of_blank, Text.inked_cons_of_blank (by decide)]
      · rfl
      · intro c hc
        rw [(List.mem_replicate.1 hc).2]
        rfl
    · rw [inked, inked, List.filter_cons, List.filter_cons]
      have later := ih (position + roomOf c)
      rw [inked, inked] at later
      rw [later]

theorem spread_of_tabless (h : '\t' ∉ text) (position : Nat) : spread position text = text := by
  induction text generalizing position with
  | nil => rfl
  | cons c text ih =>
    rw [List.mem_cons, not_or] at h
    rw [spread, if_neg (Ne.symm h.1), ih h.2]

theorem foldLine_eq (width : Nat) (line : List Char) :
    foldLine width line = broken width (spread 0 line) := by
  have spreading : (if line.contains '\t' then spread 0 line else line) = spread 0 line := by
    split
    · rfl
    · next tabless => rw [spread_of_tabless (by simpa using tabless)]
  change broken width (if line.contains '\t' then spread 0 line else line) = _
  rw [spreading]

end Words

theorem inked_foldLines {lines : List (List Char)} (slim : ∀ line ∈ lines, Slim width line) :
    (inked (lines.flatMap (foldLine width)).flatten).length ≤ (inked lines.flatten).length ∧
      (inked (lines.flatMap (foldLine width)).flatten = inked lines.flatten ↔
        ∀ line ∈ lines, Fits width (spread 0 line)) := by
  induction lines with
  | nil => simp
  | cons line lines ih =>
    obtain ⟨fewer, kept⟩ := ih fun l hl => slim l (.tail _ hl)
    obtain ⟨fewerHere, keptHere⟩ := inked_broken ((slim line (.head _)).spread 0)
    rw [inked_spread, ← foldLine_eq] at fewerHere keptHere
    rw [List.flatMap_cons, List.flatten_append, List.flatten_cons, Text.inked_append,
      Text.inked_append, List.forall_mem_cons, ← kept, ← keptHere, List.length_append,
      List.length_append]
    refine ⟨Nat.add_le_add fewerHere fewer, fun same => ?_, fun ⟨here, later⟩ => by
      rw [here, later]⟩
    have size := congrArg List.length same
    rw [List.length_append, List.length_append] at size
    exact List.append_inj same (by omega)

/-- A cell in a column that is wide enough keeps all but white space if and only if the first word
of each of its lines fits. -/
theorem inked_cellLines {cell : String} (wide : widest cell.toList ≤ width) :
    inked (cellLines width cell).flatten = inked cell.toList ↔
      ∀ line ∈ Text.pieces '\n' cell.toList, Fits width (spread 0 line) := by
  have slim : ∀ line ∈ Text.pieces '\n' cell.toList, Slim width line :=
    fun line hl => (slim_of_widest wide).within (Text.infix_of_mem_pieces hl)
  rw [← (inked_foldLines slim).2, Text.inked_pieces, cellLines]

end WebScript.Display
