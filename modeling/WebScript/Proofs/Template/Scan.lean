import WebScript.Proofs.Template.Placeholder

namespace WebScript.Template

variable {source : Source} {c : Char} {text rest done : List Char} {p : Placeholder}

/-- The placeholder after an opener, up to the first closer, if there is one. -/
def closing? (source : Source) (rest : List Char) : Option Placeholder :=
  (Text.cutAt? [source.closer] rest).map fun (name, after) => ⟨[], source, name, after⟩

def heading? : List Char → Option Placeholder
  | '$' :: '\x7b' :: rest => closing? .outputs rest
  | '$' :: '(' :: rest => closing? .inputs rest
  | _ => none

def Source.bracket : Source → Char
  | outputs => '\x7b'
  | inputs => '('

theorem Source.opener_eq (source : Source) : source.opener = ['$', source.bracket] := by
  cases source <;> rfl

theorem Source.closer_ne_bracket (source : Source) : source.closer ≠ source.bracket := by
  cases source <;> decide

theorem closing?_eq_none : closing? source rest = none ↔ source.closer ∉ rest := by
  rw [closing?, Option.map_eq_none_iff, Text.cutAt?_eq_none, List.singleton_infix_iff]

theorem heading?_opener (source : Source) (rest : List Char) :
    heading? (source.opener ++ rest) = closing? source rest := by
  cases source <;> rfl

theorem heading?_cases (text : List Char) :
    (∃ (source : Source) (rest : List Char), text = source.opener ++ rest) ∨
      heading? text = none := by
  unfold heading?
  split
  · exact .inl ⟨.outputs, _, rfl⟩
  · exact .inl ⟨.inputs, _, rfl⟩
  · exact .inr rfl

/-- No placeholder begins a text exactly if no opener does, or none that is closed. -/
theorem heading?_eq_none_iff :
    heading? text = none ↔
      ∀ (source : Source) (rest : List Char), text = source.opener ++ rest →
        source.closer ∉ rest := by
  constructor
  · rintro none source rest rfl
    rw [heading?_opener] at none
    exact closing?_eq_none.1 none
  · intro unclosed
    rcases heading?_cases text with ⟨source, rest, opened⟩ | none
    · rw [opened, heading?_opener]
      exact closing?_eq_none.2 (unclosed source rest opened)
    · exact none

theorem heading?_of_ne (h : c ≠ '$') (text : List Char) : heading? (c :: text) = none := by
  apply heading?_eq_none_iff.2
  intro source rest opened
  rw [Source.opener_eq] at opened
  exact absurd (List.cons.inj opened).1 h

theorem heading?_eq_some (h : heading? text = some p) : p.before = [] ∧ p.rest = text := by
  rcases heading?_cases text with ⟨source, rest, rfl⟩ | none
  · rw [heading?_opener] at h
    obtain ⟨⟨name, after⟩, cut, h⟩ := Option.map_eq_some_iff.1 h
    cases h
    have split := Text.cutAt?_eq_some cut
    refine ⟨rfl, ?_⟩
    rw [← split]
    simp [Placeholder.rest]
  · cases none.symm.trans h

/-- The placeholder in a text with one more character in front. -/
def Placeholder.later (c : Char) (p : Placeholder) : Placeholder :=
  { p with before := c :: p.before }

theorem firstOf_opener (source : Source) (rest : List Char) :
    firstOf source (source.opener ++ rest) = closing? source rest := by
  have cut : Text.cutAt? source.opener (source.opener ++ rest) = some ([], rest) := by
    cases source <;> rfl
  rw [firstOf, cut, closing?, Option.bind_eq_bind, Option.bind_some]
  cases hc : Text.cutAt? [source.closer] rest <;> simp [hc]

theorem firstOf_cons (h : ¬source.opener <+: c :: text) :
    firstOf source (c :: text) = (firstOf source text).map (.later c) := by
  have other : Text.afterStart? source.opener (c :: text) = none := by
    apply Option.eq_none_iff_forall_ne_some.2
    intro rest found
    exact h ⟨rest, Text.afterStart?_eq_some.1 found⟩
  rw [firstOf, firstOf, Text.cutAt?, other]
  cases Text.cutAt? source.opener text with
  | none => rfl
  | some cut =>
    obtain ⟨before, rest⟩ := cut
    cases hc : Text.cutAt? [source.closer] rest <;> simp [hc, Placeholder.later]

/-- An opener that is not closed hides no placeholder of its kind after it: that would have the same
closer. -/
theorem firstOf_cons_of_heading? (h : heading? (c :: text) = none) (source : Source) :
    firstOf source (c :: text) = (firstOf source text).map (.later c) := by
  by_cases opens : source.opener <+: c :: text
  · obtain ⟨rest, opened⟩ := opens
    have unclosed := heading?_eq_none_iff.1 h source rest opened.symm
    have shape := opened
    rw [Source.opener_eq] at shape
    obtain ⟨-, shape⟩ := List.cons.inj shape
    have nothing : firstOf source text = none := by
      apply firstOf_eq_none_iff.2
      rintro ⟨rest', later, closed⟩
      have inside : source.closer ∈ source.bracket :: rest := by
        have place : source.closer ∈ text := later.mem (List.mem_append_right _ closed)
        rwa [← shape] at place
      rcases List.mem_cons.1 inside with same | inside
      · exact source.closer_ne_bracket same
      · exact unclosed inside
    rw [nothing, ← opened, firstOf_opener]
    exact closing?_eq_none.2 unclosed
  · exact firstOf_cons opens

/-- To look for the first placeholder of each kind comes to the same as to try one place of the text
after the other. -/
theorem next?_cons (c : Char) (text : List Char) :
    next? (c :: text) = (heading? (c :: text)).or ((next? text).map (.later c)) := by
  cases here : heading? (c :: text) with
  | none =>
    rw [next?, firstOf_cons_of_heading? here, firstOf_cons_of_heading? here, next?]
    cases firstOf .outputs text with
    | none => simp
    | some p =>
      cases firstOf .inputs text with
      | none => simp
      | some q =>
        by_cases earlier : q.before.length < p.before.length <;> simp [earlier, Placeholder.later]
  | some p =>
    rcases heading?_cases (c :: text) with ⟨source, rest, opened⟩ | none
    · have found : firstOf source (c :: text) = some p := by
        rw [opened, firstOf_opener, ← heading?_opener, ← opened, here]
      have start : p.before = [] := (heading?_eq_some here).1
      have other (source' : Source) (differs : source'.bracket ≠ source.bracket) :
          firstOf source' (c :: text) = (firstOf source' text).map (.later c) := by
        apply firstOf_cons
        rintro ⟨rest', opened'⟩
        rw [opened, Source.opener_eq, Source.opener_eq] at opened'
        simp only [List.cons_append, List.cons.injEq] at opened'
        exact differs opened'.2.1
      rw [Option.some_or, next?]
      cases source with
      | outputs =>
        rw [found, other .inputs (by decide)]
        cases firstOf .inputs text <;> simp [start]
      | inputs =>
        rw [found, other .outputs (by decide)]
        cases firstOf .outputs text <;> simp [start, Placeholder.later]
    · cases none.symm.trans here

theorem length_after_lt (h : heading? text = some p) : p.after.length < text.length := by
  rw [← (heading?_eq_some h).2]
  simp only [Placeholder.rest, List.length_append, List.length_cons]
  omega

/-- What a scan meets in a text: a character that stands for itself, or a placeholder. -/
inductive Piece where
  | char (c : Char)
  | placeholder (source : Source) (name : List Char)
  deriving DecidableEq, Repr

namespace Piece

def written : Piece → List Char
  | char c => [c]
  | placeholder source name => source.opener ++ name ++ [source.closer]

def value (scope : Scope) : Piece → List Char
  | char c => [c]
  | placeholder source name => (Template.value scope source name).toList

@[simp]
theorem written_chars (text : List Char) : (text.map char).flatMap Piece.written = text := by
  induction text with
  | nil => rfl
  | cons c text ih => simp [Piece.written, ih]

@[simp]
theorem value_chars (scope : Scope) (text : List Char) :
    (text.map char).flatMap (value scope) = text := by
  induction text with
  | nil => rfl
  | cons c text ih => simp [value, ih]

end Piece

/-- Cuts a text into pieces, from left to right. A placeholder is taken where one begins, and the
scan goes on after its closer. -/
def scan : List Char → List Piece
  | [] => []
  | c :: text => match _h : heading? (c :: text) with
    | some p => .placeholder p.source p.name :: scan p.after
    | none => .char c :: scan text
termination_by text => text.length
decreasing_by
  · exact length_after_lt _h
  · exact Nat.lt_succ_self _

theorem scan_of_heading? (h : heading? text = some p) :
    scan text = .placeholder p.source p.name :: scan p.after := by
  cases text with
  | nil => cases h
  | cons c text =>
    rw [scan]
    split
    · next q hq =>
      cases h.symm.trans hq
      rfl
    · next hn => cases h.symm.trans hn

theorem scan_cons (h : heading? (c :: text) = none) : scan (c :: text) = .char c :: scan text := by
  rw [scan]
  split
  · next q hq => cases h.symm.trans hq
  · rfl

/-- The pieces of a text make it up again. -/
theorem flatMap_written_scan (text : List Char) : (scan text).flatMap Piece.written = text := by
  induction hl : text.length using Nat.strong_induction_on generalizing text with
  | _ l ih =>
    cases text with
    | nil => rw [scan]; rfl
    | cons c text =>
      cases hd : heading? (c :: text) with
      | none =>
        have shorter : text.length < l := by simp [← hl]
        rw [scan_cons hd, List.flatMap_cons, ih _ shorter text rfl]
        rfl
      | some p =>
        have shorter : p.after.length < l := hl ▸ length_after_lt hd
        rw [scan_of_heading? hd, List.flatMap_cons, ih _ shorter p.after rfl,
          ← (heading?_eq_some hd).2]
        simp [Placeholder.rest, Piece.written]

/-- No placeholder begins in the first part of a text. -/
def Quiet (done rest : List Char) : Prop :=
  ∀ before c inner, done = before ++ c :: inner → heading? (c :: inner ++ rest) = none

theorem Quiet.scan (h : Quiet done rest) :
    scan (done ++ rest) = done.map .char ++ scan rest := by
  induction done with
  | nil => rfl
  | cons c done ih =>
    have here : heading? (c :: (done ++ rest)) = none := h [] c done rfl
    have later : Quiet done rest := by
      intro before c' inner split
      apply h (c :: before) c' inner
      rw [split, List.cons_append]
    rw [List.cons_append, scan_cons here, ih later]
    rfl

/-- The first placeholder of a text begins where none has begun before. -/
theorem quiet_of_next? (h : next? text = some p) : Quiet p.before p.rest ∧
    heading? p.rest = some { p with before := [] } := by
  induction text generalizing p with
  | nil => cases h
  | cons c text ih =>
    rw [next?_cons] at h
    cases hd : heading? (c :: text) with
    | some q =>
      rw [hd] at h
      cases h
      obtain ⟨start, whole⟩ := heading?_eq_some hd
      rw [whole, hd, start]
      obtain ⟨before, source, name, after⟩ := p
      cases start
      refine ⟨fun before c inner split => ?_, rfl⟩
      simp at split
    | none =>
      rw [hd, Option.none_or] at h
      obtain ⟨q, found, rfl⟩ := Option.map_eq_some_iff.1 h
      obtain ⟨quiet, begins⟩ := ih found
      refine ⟨fun before c' inner split => ?_, begins⟩
      have split : c :: q.before = before ++ c' :: inner := split
      -- Either the place is the one in front, or it stood in the rest of the text already.
      rcases List.cons_eq_append_iff.1 split with ⟨rfl, same⟩ | ⟨before', rfl, later⟩
      · cases same
        have whole := text_of_next? found
        rw [← whole] at hd
        exact hd
      · exact quiet before' c' inner later

theorem scan_of_next? (h : next? text = some p) :
    scan text = p.before.map .char ++ .placeholder p.source p.name :: scan p.after := by
  obtain ⟨quiet, begins⟩ := quiet_of_next? h
  rw [← text_of_next? h, quiet.scan, scan_of_heading? begins]

theorem scan_of_none (h : next? text = none) : scan text = text.map .char := by
  induction text with
  | nil => rw [scan]; rfl
  | cons c text ih =>
    rw [next?_cons, Option.or_eq_none_iff, Option.map_eq_none_iff] at h
    rw [scan_cons h.1, ih h.2]
    rfl

end WebScript.Template
