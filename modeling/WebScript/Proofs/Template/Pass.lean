import WebScript.Proofs.Template.Replacement
import WebScript.Proofs.Template.Scan

namespace WebScript.Template

variable {scope : Scope} {source : Source} {c : Char} {text rest done result name : List Char}
  {before pieces after : List Piece} {p : Placeholder} {n : ℕ}

def pass (scope : Scope) (text : List Char) : List Char :=
  (scan text).flatMap (Piece.value scope)

/-- The characters that placeholders are written with. -/
def marks : List Char := ['$', '\x7b', '\x7d', '(', ')']

theorem Source.bracket_mem_marks (source : Source) : source.bracket ∈ marks := by
  cases source <;> decide

theorem Source.closer_mem_marks (source : Source) : source.closer ∈ marks := by
  cases source <;> decide

/-- Each placeholder among pieces has a value, or else does not stand right after a `$`. -/
def Apart (scope : Scope) (pieces : List Piece) : Prop :=
  ∀ before source name after, pieces = before ++ .placeholder source name :: after →
    value scope source name ≠ "" ∨ (before.flatMap Piece.written).getLast? ≠ some '$'

/-- At a place where no placeholder begins none comes about when text without marks takes the place
of one after it. -/
theorem heading?_fill {inner value after : List Char} (h : heading? (c :: (inner ++ rest)) = none)
    (clean : ∀ c ∈ marks, c ∉ value) (apart : inner = [] → value = [] → c ≠ '$')
    (fewer : after ⊆ rest) : heading? (c :: (inner ++ value ++ after)) = none := by
  by_cases dollar : c = '$'
  · subst dollar
    apply heading?_eq_none_iff.2
    intro source rest' opened closed
    rw [Source.opener_eq] at opened
    obtain ⟨-, bracket⟩ := List.cons.inj opened
    cases inner with
    | nil =>
      cases value with
      | nil => exact apart rfl rfl rfl
      | cons c value =>
        obtain ⟨rfl, -⟩ := List.cons.inj bracket
        exact clean _ source.bracket_mem_marks List.mem_cons_self
    | cons c inner =>
      obtain ⟨rfl, rfl⟩ := List.cons.inj bracket
      -- The same opener stood there before; its closer, which is none of the value's, did too.
      have unclosed : source.closer ∉ inner ++ rest := by
        apply heading?_eq_none_iff.1 h source
        rw [Source.opener_eq]
        rfl
      have place : source.closer ∈ inner ∨ source.closer ∈ value ∨ source.closer ∈ after := by
        simpa using closed
      rcases place with early | inside | late
      · exact unclosed (List.mem_append_left _ early)
      · exact clean _ source.closer_mem_marks inside
      · exact unclosed (List.mem_append_right _ (fewer late))
  · exact heading?_of_ne dollar _

theorem Quiet.fill {value after : List Char} (h : Quiet done rest) (clean : ∀ c ∈ marks, c ∉ value)
    (apart : value = [] → done.getLast? ≠ some '$') (fewer : after ⊆ rest) :
    Quiet (done ++ value) after := by
  intro before c inner split
  have of_mem (inside : c ∈ value) : heading? (c :: inner ++ after) = none := by
    apply heading?_of_ne
    rintro rfl
    exact clean '$' (by decide) inside
  rcases List.append_eq_append_iff.1 split with ⟨later, -, inside⟩ | ⟨later, outside, inside⟩
  · apply of_mem
    rw [inside]
    simp
  cases later with
  | nil =>
    apply of_mem
    rw [List.nil_append] at inside
    rw [← inside]
    simp
  | cons c' inner' =>
    obtain ⟨rfl, rfl⟩ := List.cons.inj inside
    apply heading?_fill (h before c inner' outside) clean ?_ fewer
    rintro rfl missing rfl
    apply apart missing
    rw [outside]
    simp

/-- A placeholder among pieces stands after all characters at their start. -/
theorem chars_append_eq (h : done.map .char ++ pieces = before ++
    .placeholder source name :: after) :
    ∃ later, before = done.map .char ++ later ∧
      pieces = later ++ .placeholder source name :: after := by
  rcases List.append_eq_append_iff.1 h with ⟨later, early, late⟩ | ⟨later, early, late⟩
  · exact ⟨later, early, late⟩
  · cases later with
    | nil => exact ⟨[], by simpa using early.symm, late.symm⟩
    | cons piece later =>
      obtain ⟨rfl, -⟩ := List.cons.inj late
      have char : Piece.placeholder source name ∈ done.map Piece.char := by
        rw [early]
        simp
      simp at char

theorem Apart.first (h : Apart scope (done.map .char ++ .placeholder source name :: pieces)) :
    value scope source name = "" → done.getLast? ≠ some '$' := by
  intro missing
  rcases h _ source name pieces rfl with valued | apart
  · exact absurd missing valued
  · rwa [Piece.written_chars] at apart

/-- When a placeholder is filled in, those after it stay apart: no `$` comes to stand before them.
-/
theorem Apart.fill (h : Apart scope (done.map .char ++ .placeholder source name :: pieces))
    (clean : '$' ∉ (value scope source name).toList) :
    Apart scope ((done ++ (value scope source name).toList).map .char ++ pieces) := by
  intro before source' name' after split
  obtain ⟨later, rfl, rfl⟩ := chars_append_eq split
  have known :=
    h (done.map .char ++ .placeholder source name :: later) source' name' after (by simp)
  refine known.imp_right fun apart => ?_
  rw [List.flatMap_append, List.flatMap_cons, Piece.written_chars, ← List.append_assoc,
    List.getLast?_append] at apart
  rw [List.flatMap_append, Piece.written_chars, List.getLast?_append]
  cases ends : (later.flatMap Piece.written).getLast? with
  | some c => rwa [ends, Option.some_or] at apart
  | none =>
    rw [Option.none_or, List.getLast?_append]
    cases last : (value scope source name).toList.getLast? with
    | some c =>
      rintro same
      cases same
      exact clean (List.mem_of_getLast? last)
    | none =>
      apply h.first
      rw [← String.toList_inj]
      simpa using last

theorem scan_fill (clean : scope.Lacks marks) (found : next? text = some p)
    (apart : Apart scope (scan text)) :
    scan (p.fill scope) = (p.before ++ (value scope p.source p.name).toList).map .char ++
      scan p.after := by
  obtain ⟨quiet, -⟩ := quiet_of_next? found
  rw [scan_of_next? found] at apart
  apply Quiet.scan
  apply quiet.fill
  · intro c hc
    exact not_mem_value clean hc p.source p.name
  · intro missing
    apply apart.first
    rw [← String.toList_inj]
    simpa using missing
  · intro c hc
    simp [Placeholder.rest, hc]

/-- Replacements lead to what a single pass makes of a text, as each of them leaves that the same.
-/
theorem Replaced.eq_pass (h : Replaced scope n text result) (last : next? result = none)
    (clean : scope.Lacks marks) (apart : Apart scope (scan text)) : result = pass scope text := by
  induction h with
  | refl text => rw [pass, scan_of_none last, Piece.value_chars]
  | @head n text result p found onward ih =>
    have filled := scan_fill clean found apart
    have same : pass scope (p.fill scope) = pass scope text := by
      rw [pass, pass, filled, scan_of_next? found]
      simp [Piece.value]
    rw [← same]
    apply ih last
    rw [filled]
    rw [scan_of_next? found] at apart
    exact apart.fill (not_mem_value clean List.mem_cons_self p.source p.name)

/-- Where the values have no marks, and no placeholder without a value stands right after a `$`,
resolving a text is a single pass through it, from left to right, which reads nothing twice. -/
theorem resolving_eq_pass (scope : Scope) (text : String) (clean : scope.Lacks marks)
    (apart : Apart scope (scan text.toList)) :
    (scan text.toList).flatMap Piece.written = text.toList ∧
      resolve? scope text = some (.ofList (pass scope text.toList)) := by
  refine ⟨flatMap_written_scan text.toList, ?_⟩
  have noDollar : scope.Lacks ['$'] := clean.sub (by decide)
  obtain ⟨n, -, result, replaced, last⟩ :=
    exists_replaced_of_measure (List.count '$') (fun _ _ => count_fill_lt noDollar) text.toList
  rw [resolve?, replaced.resolveList? last, replaced.eq_pass last clean apart]
  rfl

def counted : Scope := { inputs := ⟨[("a", "1")]⟩ }

theorem scan_counted : scan "$\x7b $$(A)$(n$(m)".toList =
    "$\x7b $".toList.map .char ++
      [.placeholder .inputs ['A'], .placeholder .inputs "n$(m".toList] := by
  have first : next? "$\x7b $$(A)$(n$(m)".toList =
      some ⟨"$\x7b $".toList, .inputs, ['A'], "$(n$(m)".toList⟩ := by decide
  have second : next? "$(n$(m)".toList = some ⟨[], .inputs, "n$(m".toList, []⟩ := by decide
  rw [scan_of_next? first, scan_of_next? second, scan_of_none rfl]
  rfl

/-- An opener that nothing closes stays, one inside a name is part of it, and of the placeholders
one has a value after a `$`, and the other none after a closer. -/
theorem counted_pass : counted.Lacks marks ∧ Apart counted (scan "$\x7b $$(A)$(n$(m)".toList) ∧
    resolve? counted "$\x7b $$(A)$(n$(m)" = some "$\x7b $1" := by
  have clean : counted.Lacks marks := by decide
  have apart : Apart counted (scan "$\x7b $$(A)$(n$(m)".toList) := by
    intro before source name after whole
    rw [scan_counted] at whole
    obtain ⟨later, rfl, both⟩ := chars_append_eq whole
    rcases List.cons_eq_append_iff.1 both with ⟨rfl, first⟩ | ⟨later, rfl, other⟩
    · cases first
      exact .inl (by decide)
    · rcases List.cons_eq_append_iff.1 other with ⟨rfl, second⟩ | ⟨later, rfl, nothing⟩
      · cases second
        exact .inr (by decide)
      · simp at nothing
  have resolved := (resolving_eq_pass counted "$\x7b $$(A)$(n$(m)" clean apart).2
  rw [pass, scan_counted] at resolved
  exact ⟨clean, apart, resolved⟩

end WebScript.Template
