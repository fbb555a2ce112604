import Mathlib.Algebra.Group.Nat.Defs
import WebScript.Proofs.Except
import WebScript.Yaml.Token

namespace WebScript.Yaml

variable {cs : List Char} {c : Cursor}

/-- A number that stands in a text and is too large: the code of an escape that is none of a
character, or a version of too many digits. -/
inductive Overflow (cs : List Char) : Fault → Prop
  | code {rest : List Char} {n : Nat} {f : Fault} (stands : '\\' :: 'U' :: rest <:+ cs)
      (number : Number.hexNumber? 8 rest = some n) (none : ofCode n = .error f) : Overflow cs f
  | version {digits : List Char} (stands : digits <:+: cs) (all : ∀ d ∈ digits, d.isDigit = true)
      (long : Number.maxDigits < digits.length) : Overflow cs .badValue

/-- What reading tokens may fail for. -/
def Scannable (cs : List Char) (f : Fault) : Prop :=
  f = .malformed ∨ Overflow cs f

namespace Cursor

def Within (cs : List Char) (c : Cursor) : Prop :=
  c.rest <:+ cs

theorem next_rest : c.next.rest = c.rest.tail := by
  rw [next]
  split
  · next h => rw [h]; rfl
  · next h =>
    rw [h]
    split
    · rfl
    · split <;> rfl

namespace Within

variable (h : c.Within cs)
include h

theorem next : c.next.Within cs := by
  rw [Within, next_rest]
  exact (List.tail_suffix _).trans h

theorem skip (n : Nat) : (c.skip n).Within cs := by
  induction n generalizing c with
  | zero => exact h
  | succ n ih => exact ih h.next

theorem takeWhile (p : Char → Bool) : (c.takeWhile p).2.Within cs :=
  h.skip _

theorem skipWhile (p : Char → Bool) : (c.skipWhile p).Within cs :=
  h.skip _

theorem skipSpaces : c.skipSpaces.Within cs :=
  h.skip _

theorem skipLine : c.skipLine.Within cs :=
  h.skip _

theorem skipComment : c.skipComment.Within cs := by
  rw [Cursor.skipComment]
  split
  · exact h.skipLine
  · exact h

theorem lineBreak : c.lineBreak.2.Within cs := by
  unfold Cursor.lineBreak
  split
  · exact h.skip 2
  · split
    · exact h.next
    · split
      · exact h.next
      · exact h
  · exact h

end Within
end Cursor

open Cursor

section Content

abbrev Reads {α : Type} (cs : List Char) (x : Except Fault (α × Cursor)) : Prop :=
  x.Meets (·.2.Within cs) (Scannable cs)

theorem reads_malformed {α : Type} : Reads cs (.error .malformed : Except Fault (α × Cursor)) :=
  .fail (.inl rfl)

theorem reads_quotedBreaks (fuel : Nat) (h : c.Within cs) : Reads cs (quotedBreaks fuel c) := by
  induction fuel generalizing c with
  | zero => exact reads_malformed
  | succ fuel ih =>
    rw [quotedBreaks]
    refine .ite reads_malformed (.ite ?_ (.ok (h.skipWhile _)))
    exact .bind (ih (h.skipWhile _).lineBreak) fun _ hc => .pure hc

theorem hexValue?_lt {a : Char} {d : Nat} (h : Number.hexValue? a = some d) : d < 16 := by
  unfold Number.hexValue? at h
  simp only [Char.le_def, UInt32.le_iff_toNat_le] at h
  split at h
  · next range =>
    cases h
    have : a.toNat ≤ 57 := range.2
    omega
  · split at h
    · next range =>
      cases h
      have : a.toNat ≤ 102 := range.2
      omega
    · split at h
      · next range =>
        cases h
        have : a.toNat ≤ 70 := range.2
        omega
      · cases h

theorem hexNumber?_lt {width n : Nat} (h : Number.hexNumber? width cs = some n) :
    n < 16 ^ width := by
  have bound (ds : List Nat) (small : ∀ d ∈ ds, d < 16) (n : Nat) :
      ds.foldl (fun n d => 16 * n + d) n < 16 ^ ds.length * (n + 1) := by
    induction ds generalizing n with
    | nil => simp
    | cons d ds ih =>
      have hd := small d List.mem_cons_self
      refine Nat.lt_of_lt_of_le (ih (fun e he => small e (List.mem_cons_of_mem _ he)) _) ?_
      rw [List.length_cons, Nat.pow_succ, Nat.mul_assoc]
      exact Nat.mul_le_mul_left _ (show 16 * n + d + 1 ≤ 16 * (n + 1) by omega)
  unfold Number.hexNumber? at h
  dsimp only at h
  split at h
  · next length =>
    cases h
    rw [beq_iff_eq] at length
    have small : ∀ d ∈ (cs.take width).filterMap Number.hexValue?, d < 16 := by
      intro d hd
      obtain ⟨a, _, ha⟩ := List.mem_filterMap.1 hd
      exact hexValue?_lt ha
    simpa [length] using bound _ small 0
  · cases h

theorem reads_coded (width : Nat) (h : c.Within cs)
    (fits : ∀ n f, Number.hexNumber? width c.rest = some n → ofCode n = .error f → Overflow cs f) :
    Reads cs (coded width c) := by
  rw [coded]
  split
  · exact reads_malformed
  · next n number =>
    exact .bind ⟨fun _ _ => trivial, fun f hf => .inr (fits n f number hf)⟩ fun _ _ =>
      .pure (h.skip _)

theorem reads_escaped (h : c.Within cs) (after : '\\' :: c.rest <:+ cs) : Reads cs (escaped c) := by
  have narrow {width : Nat} (small : 16 ^ width ≤ 0x10FFFF) : Reads cs (coded width c.next) := by
    refine reads_coded width h.next fun n f number none => ?_
    have := hexNumber?_lt number
    rw [ofCode, if_neg (by omega), if_neg (by omega)] at none
    cases none
  rw [escaped]
  split
  · exact reads_malformed
  · next a peeked =>
    split
    · exact .ok h.next
    · refine .ite (narrow (by decide)) (.ite (narrow (by decide)) ?_)
      split
      · next wide =>
        refine reads_coded 8 h.next fun n f number none => .code ?_ number none
        rw [beq_iff_eq] at wide
        have rest : c.rest = 'U' :: c.next.rest := by
          rw [next_rest, ← wide]
          cases found : c.rest with
          | nil => rw [peek, found] at peeked; cases peeked
          | cons b rest => rw [peek, found] at peeked; cases peeked; rfl
        rwa [← rest]
      · exact .ite (reads_quotedBreaks _ h.lineBreak) reads_malformed

theorem reads_quotedGap (h : c.Within cs) : Reads cs (quotedGap c) := by
  rw [quotedGap]
  dsimp only
  split
  · exact reads_malformed
  · refine .ite ?_ (.pure (h.takeWhile _))
    exact .bind (reads_quotedBreaks _ (h.takeWhile _).lineBreak) fun _ hc => .pure hc

theorem reads_quotedContent (double : Bool) (fuel : Nat) (h : c.Within cs) :
    Reads cs (quotedContent double fuel c) := by
  induction fuel generalizing c with
  | zero => exact reads_malformed
  | succ fuel ih =>
    have follow (part : List Char) {c : Cursor} (hc : c.Within cs) :
        Reads cs (quotedContent double fuel c >>= fun r => pure (part ++ r.1, r.2)) :=
      .bind (ih hc) fun _ hc => .pure hc
    rw [quotedContent]
    dsimp only
    split
    · exact reads_malformed
    · next a rest found =>
      refine .ite (follow _ (h.skip 2)) (.ite (.ok h.next) ?_)
      split
      · next escape =>
        have after : '\\' :: c.next.rest <:+ cs := by
          simp only [Bool.and_eq_true, beq_iff_eq] at escape
          rw [next_rest, found, List.tail_cons, ← escape.2, ← found]
          exact h
        exact .bind (reads_escaped h.next after) fun r hr => follow r.1 hr
      · exact .ite (.bind (reads_quotedGap h) fun r hr => follow r.1 hr) (follow _ h.next)

theorem within_plainBreaks (fuel : Nat) (h : c.Within cs) : (plainBreaks fuel c).2.2.Within cs := by
  induction fuel generalizing c with
  | zero => exact h
  | succ fuel ih =>
    rw [plainBreaks]
    dsimp only
    split
    · exact ih h.next
    · split
      · split
        · exact h.lineBreak
        · exact ih h.lineBreak
      · exact h

theorem within_plainGap (h : c.Within cs) : (plainGap c).2.2.Within cs := by
  rw [plainGap]
  dsimp only
  split
  · split
    · exact (h.takeWhile _).lineBreak
    · exact within_plainBreaks _ (h.takeWhile _).lineBreak
  · exact h.takeWhile _

theorem within_plainContent (flow : Bool) (indent : Int) (fuel : Nat) (h : c.Within cs) :
    (plainContent flow indent fuel c).2.2.Within cs := by
  induction fuel generalizing c with
  | zero => exact h
  | succ fuel ih =>
    rw [plainContent]
    have gap := within_plainGap (h.skip (plainRun flow c.rest).length)
    dsimp only
    split
    · exact gap
    · exact ih gap

theorem within_blockMarks (h : c.Within cs) : (blockMarks c).2.2.Within cs := by
  rw [blockMarks]
  split
  · split
    · exact h.skip 2
    · exact h.next
  · split
    · split
      · exact h.skip 2
      · exact h.next
    · exact h

theorem meets_blockHeader (h : c.Within cs) :
    (blockHeader c).Meets (·.2.2.Within cs) (Scannable cs) :=
  .ite (.fail (.inl rfl)) (.ite (.fail (.inl rfl))
    (.ok (within_blockMarks h).skipSpaces.skipComment.lineBreak))

theorem within_blockIndentation (fuel width : Nat) (h : c.Within cs) :
    (blockIndentation fuel width c).2.2.Within cs := by
  induction fuel generalizing width c with
  | zero => exact h
  | succ fuel ih =>
    rw [blockIndentation]
    dsimp only
    split
    · exact ih _ h.next
    · split
      · exact ih _ h.lineBreak
      · exact h

theorem within_indentTo (column : Nat) (h : c.Within cs) : (indentTo column c).Within cs :=
  h.skip _

theorem within_blockBreaks (indent fuel : Nat) (h : c.Within cs) :
    (blockBreaks indent fuel c).2.Within cs := by
  induction fuel generalizing c with
  | zero => exact h
  | succ fuel ih =>
    rw [blockBreaks]
    dsimp only
    split
    · exact ih (within_indentTo indent h).lineBreak
    · exact within_indentTo indent h

theorem within_blockLines (folded : Bool) (chomp : Chomp) (indent fuel : Nat) (breaks : List Char)
    (h : c.Within cs) : (blockLines folded chomp indent fuel breaks c).2.Within cs := by
  induction fuel generalizing breaks c with
  | zero => exact h
  | succ fuel ih =>
    rw [blockLines]
    have after :=
      within_blockBreaks indent (((c.takeWhile (!isBreak ·)).2.lineBreak.2.rest.length) + 1)
      (h.takeWhile (!isBreak ·)).lineBreak
    dsimp only
    split
    · exact ih _ after
    · exact after

theorem within_blockStart (least : Nat) (increment : Option Nat) (h : c.Within cs) :
    (blockStart least increment c).2.2.Within cs := by
  cases increment with
  | none => exact within_blockIndentation (c.rest.length + 1) 0 h
  | some n => exact within_blockBreaks (least + n - 1) (c.rest.length + 1) h

theorem reads_blockContent (folded : Bool) (parent : Int) (h : c.Within cs) :
    Reads cs (blockContent folded parent c) := by
  refine .bind (meets_blockHeader h) fun (chomp, increment, c) hc => ?_
  have started := within_blockStart (max 1 (parent + 1)).toNat increment hc
  exact .ite (.pure (within_blockLines _ _ _ _ _ started)) (.pure started)

end Content

namespace Scan

variable {s : Scan}

theorem takeWhile_infix (p : Char → Bool) (h : c.Within cs) :
    (c.takeWhile p).1 <:+: cs ∧ ∀ d ∈ (c.takeWhile p).1, p d = true :=
  ⟨(List.takeWhile_prefix p).isInfix.trans h.isInfix, List.all_eq_true.1 List.all_takeWhile⟩

theorem reads_versionNumber (h : c.Within cs) : Reads cs (versionNumber c) := by
  obtain ⟨stands, all⟩ := takeWhile_infix Char.isDigit h
  refine .ite reads_malformed ?_
  split
  · next long => exact .fail (.inr (.version stands all long))
  · exact .ok (h.takeWhile _)

theorem reads_escapedBytes (fuel : Nat) (h : c.Within cs) : Reads cs (escapedBytes fuel c) := by
  induction fuel generalizing c with
  | zero => exact .ok h
  | succ fuel ih =>
    refine .ite ?_ (.ok h)
    split
    · exact reads_malformed
    · exact .bind (ih (h.skip 3)) fun _ hc => .pure hc

theorem reads_tagText (fuel : Nat) (h : c.Within cs) : Reads cs (tagText fuel c) := by
  induction fuel generalizing c with
  | zero => exact .ok h
  | succ fuel ih =>
    rw [tagText]
    split
    · exact .ok h
    · refine .ite (.bind (ih h.next) fun _ hc => .pure hc) (.ite ?_ (.ok h))
      refine .bind (reads_escapedBytes _ h) fun (bytes, c) hc => ?_
      dsimp only
      split
      · exact reads_malformed
      · exact .bind (ih hc) fun _ hc => .pure hc

theorem reads_tagText1 (h : c.Within cs) : Reads cs (tagText1 c) := by
  refine .bind (reads_tagText _ h) fun (text, c) hc => ?_
  exact .ite (.fail_bind (.inl rfl)) (.pure hc)

theorem reads_handle (h : c.Within cs) : Reads cs (handle c) := by
  unfold handle
  split
  · exact .ok h.next
  · exact .ite (.ok (h.skip _)) reads_malformed
  · exact reads_malformed

theorem reads_versionDirective (h : c.Within cs) : Reads cs (versionDirective c) := by
  refine .bind (reads_versionNumber h.skipSpaces) fun (_, c) hc => .ite reads_malformed ?_
  exact .bind (reads_versionNumber hc.next) fun _ hc => .ite reads_malformed (.pure hc)

theorem reads_tagDirective (h : c.Within cs) : Reads cs (tagDirective c) := by
  refine .bind (reads_handle h.skipSpaces) fun (_, c) hc => .ite reads_malformed ?_
  exact .bind (reads_tagText1 hc.skipSpaces) fun _ hc => .ite reads_malformed (.pure hc)

theorem reads_directive (h : c.Within cs) : Reads cs (directive c) := by
  have named := h.next.takeWhile isNameChar
  have parts :
      Reads cs (directiveOf (c.next.takeWhile isNameChar).1 (c.next.takeWhile isNameChar).2) :=
    .ite (reads_versionDirective named) (.ite (reads_tagDirective named) (.ok named.skipLine))
  refine .ite reads_malformed (.bind parts fun _ hc => ?_)
  exact .ite reads_malformed (.pure hc.skipSpaces.skipComment.lineBreak)

theorem reads_anchorName (h : c.Within cs) : Reads cs (anchorName c) :=
  .ite reads_malformed (.ok (h.next.takeWhile _))

theorem reads_tagHandle (h : c.Within cs) : Reads cs (tagHandle c) :=
  .ite (reads_handle h) (.ok h.next)

theorem reads_handledTag (h : c.Within cs) : Reads cs (handledTag c) :=
  .bind (reads_tagHandle h) fun _ hc => .bind (reads_tagText1 hc) fun _ hc => .pure hc

theorem reads_verbatimTag (h : c.Within cs) : Reads cs (verbatimTag c) :=
  .bind (reads_tagText1 h) fun _ hc => .ite reads_malformed (.pure hc.next)

theorem reads_tag (h : c.Within cs) : Reads cs (tag c) :=
  .ite (reads_verbatimTag (h.skip 2)) (.ite (.ok h.next) (reads_handledTag h))

theorem reads_tagProperty (h : c.Within cs) : Reads cs (tagProperty c) :=
  .bind (reads_tag h) fun _ hc => .ite reads_malformed (.pure hc)

abbrev Scans (cs : List Char) (x : Except Fault Scan) : Prop :=
  x.Meets (·.cursor.Within cs) (Scannable cs)

theorem scans_malformed : Scans cs (.error .malformed) :=
  .fail (.inl rfl)

theorem within_unwindTo (column : Int) (outer : List Int) (h : s.cursor.Within cs) :
    (unwindTo column outer s).cursor.Within cs := by
  induction outer generalizing s with
  | nil => exact h
  | cons indent outer ih =>
    rw [unwindTo]
    split
    · exact ih h
    · exact h

theorem within_unwind (column : Int) (h : s.cursor.Within cs) :
    (s.unwind column).cursor.Within cs := by
  rw [unwind]
  split
  · exact within_unwindTo _ _ h
  · exact h

theorem within_skipToToken (fuel : Nat) (h : s.cursor.Within cs) :
    (s.skipToToken fuel).cursor.Within cs := by
  induction fuel generalizing s with
  | zero => exact h
  | succ fuel ih =>
    rw [skipToToken]
    split
    · exact ih h.skipSpaces.skipComment.lineBreak
    · exact h.skipSpaces.skipComment

variable (h : s.cursor.Within cs)
include h

theorem scans_dropCandidate : Scans cs s.dropCandidate := by
  rw [dropCandidate]
  split
  · exact .ite scans_malformed (.ok h)
  · exact .ok h

theorem scans_dropStale : Scans cs s.dropStale :=
  .ite scans_malformed (.ok h)

theorem scans_noteCandidate : Scans cs s.noteCandidate :=
  .ite (.bind (scans_dropCandidate h) fun _ hs => .pure hs) (.ok h)

theorem scans_openBlock (t : Token) : Scans cs (s.openBlock t) := by
  refine .ite (.ok h) (.ite scans_malformed ?_)
  rw [indentTo]
  split
  · next opened =>
    split at opened <;> cases opened
    exact .ok h
  · exact .ok h

theorem scans_readToken {read : Cursor → Except Fault (Token × Cursor)}
    (hr : ∀ {c : Cursor}, c.Within cs → Reads cs (read c)) : Scans cs (s.readToken read) :=
  .bind (scans_noteCandidate h) fun _ hs => .bind (hr hs) fun _ hc => .pure hc

theorem scans_mark (t : Token) (keyAllowed : Bool) : Scans cs (s.mark t keyAllowed) :=
  .bind (scans_dropCandidate h) fun _ hs => .pure (hs.skip 1)

omit h in
theorem openAtKey_cursor (k : Candidate) : (s.openAtKey k).cursor = s.cursor := by
  rw [openAtKey, indentTo]
  split
  · rfl
  · split
    · next opened =>
      split at opened <;> cases opened
      rfl
    · rfl

theorem scans_valueColon : Scans cs s.valueColon := by
  rw [valueColon]
  split
  · refine .ok (Within.skip ?_ 1)
    rw [openAtKey_cursor]
    exact h
  · exact .bind (scans_openBlock h _) fun _ hs => scans_mark hs _ _

theorem scans_documentMarker (t : Token) : Scans cs (s.documentMarker t) :=
  .bind (scans_dropCandidate (within_unwind _ h)) fun _ hs => .pure (hs.skip 3)

theorem scans_directiveLine : Scans cs s.directiveLine :=
  .bind (scans_dropCandidate (within_unwind _ h)) fun _ hs => .bind (reads_directive hs) fun _ hc =>
    .pure hc

theorem scans_openFlow (t : Token) : Scans cs (s.openFlow t) :=
  .bind (scans_noteCandidate h) fun _ hs => .pure (hs.skip 1)

theorem scans_closeFlow (t : Token) : Scans cs (s.closeFlow t) :=
  .bind (scans_dropCandidate h) fun _ hs => .ite scans_malformed (.pure (hs.skip 1))

theorem scans_blockScalar (folded : Bool) : Scans cs (s.blockScalar folded) :=
  .bind (scans_dropCandidate h) fun _ hs =>
    .bind (reads_blockContent _ _ hs.next) fun _ hc => .pure hc

theorem scans_plainScalar : Scans cs s.plainScalar := by
  refine .bind (scans_noteCandidate h) fun s hs => ?_
  have after := within_plainContent (s.flow != 0) (s.indent + 1) (s.cursor.rest.length + 1) hs
  exact .pure after

theorem scans_token (a : Char) : Scans cs (s.token a) := by
  refine .ite (scans_directiveLine h) <| .ite (scans_documentMarker h _) <|
    .ite (scans_openFlow h _) <| .ite (scans_openFlow h _) <|
    .ite (scans_closeFlow h _) <| .ite (scans_closeFlow h _) <|
    .ite (scans_mark h _ _) <|
    .ite (.bind (scans_openBlock h _) fun _ hs => scans_mark hs _ _) <|
    .ite (.bind (scans_openBlock h _) fun _ hs => scans_mark hs _ _) <|
    .ite (scans_valueColon h) <|
    .ite (scans_readToken h fun hc => ?_) <| .ite (scans_readToken h fun hc => ?_) <|
    .ite (scans_readToken h reads_tagProperty) <|
    .ite (scans_blockScalar h _) <|
    .ite (scans_readToken h fun hc => ?_) <|
    .ite (scans_plainScalar h) scans_malformed
  · exact .bind (reads_anchorName hc) fun _ hc => .pure hc
  · exact .bind (reads_anchorName hc) fun _ hc => .pure hc
  · exact .bind (reads_quotedContent _ _ hc.next) fun _ hc => .pure hc

theorem meets_step : s.step.Meets (fun next => ∀ s ∈ next, s.cursor.Within cs) (Scannable cs) := by
  refine .bind (scans_dropStale (within_skipToToken _ h)) fun s hs => ?_
  dsimp only
  split
  · exact .pure nofun
  · next a _ =>
    refine .bind (scans_token (within_unwind _ hs) a) fun _ hs => .pure ?_
    rintro _ ⟨⟩
    exact hs

theorem scans_finish : Scans cs s.finish :=
  .bind (scans_dropCandidate (within_unwind _ (within_skipToToken _ h))) fun _ hs => .pure hs

theorem scannable_run (fuel : Nat) : Scannable cs (run fuel s).fault := by
  induction fuel generalizing s with
  | zero => exact .inl rfl
  | succ fuel ih =>
    rw [run]
    split
    · next f stopped => exact (meets_step h).error f stopped
    · next s' stepped => exact ih ((meets_step h).value _ stepped s' rfl)
    · split
      · next f stopped => exact (scans_finish h).error f stopped
      · exact .inl rfl

end Scan

/-- The tokens of a text end with a fault only where it is malformed or where a number in it is too
large. -/
theorem Tokens.scannable_ofText (cs : List Char) : Scannable cs (Tokens.ofText cs).fault := by
  apply Scan.scannable_run
  dsimp only
  split
  · exact Within.next (List.suffix_refl _)
  · exact List.suffix_refl _

end WebScript.Yaml
