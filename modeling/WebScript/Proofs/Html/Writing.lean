import WebScript.Html.Writer
import WebScript.Proofs.Text.Find

namespace WebScript.Html.Writer

variable {c : Char} {s t text inside rest : List Char} {fuel fuel' : Nat} {n : Node}
  {nodes : List Node}

/-- What a text is without declarations of the content's type. -/
def kept (text : List Char) : List Char :=
  withoutTypeDeclarations text.length text

def Closed (text : List Char) : Prop :=
  ∀ before rest, text = before ++ '<' :: rest → '>' ∈ rest

section Declarations

/-- What follows a declaration at the start of a text. -/
def declared? (text : List Char) : Option (List Char) :=
  match Text.afterStart? typeDeclaration text with
  | some inside => (Text.cutAt? ['>'] inside).map (·.2)
  | none => none

theorem typeDeclaration_starts : ∃ word, typeDeclaration = '<' :: word :=
  ⟨"meta http-equiv=\"Content-Type\"".toList, by decide⟩

theorem declared?_eq_some :
    declared? text = some rest ↔ ∃ inside, text = typeDeclaration ++ (inside ++ '>' :: rest) ∧
    '>' ∉ inside := by
  rw [declared?]
  constructor
  · intro h
    split at h
    · next found =>
      obtain ⟨⟨inside, _⟩, cut, rfl⟩ := Option.map_eq_some_iff.1 h
      obtain ⟨rfl, open'⟩ := Text.cutAt?_singleton.1 cut
      exact ⟨inside, (Text.afterStart?_eq_some.1 found).symm, open'⟩
    · cases h
  · rintro ⟨inside, rfl, open'⟩
    rw [Text.afterStart?_eq_some.2 rfl]
    dsimp only
    rw [Text.cutAt?_append open']
    rfl

theorem length_lt_of_declared? (h : declared? text = some rest) : rest.length < text.length := by
  obtain ⟨inside, rfl, _⟩ := declared?_eq_some.1 h
  simp only [List.length_append, List.length_cons]
  omega

theorem withoutTypeDeclarations_cons :
    withoutTypeDeclarations (fuel + 1) (c :: rest) =
      ((declared? (c :: rest)).map (withoutTypeDeclarations fuel)).getD
      (c :: withoutTypeDeclarations fuel rest) := by
  rw [withoutTypeDeclarations, declared?]
  cases Text.afterStart? typeDeclaration (c :: rest) with
  | none => rfl
  | some inside =>
    dsimp only
    cases Text.cutAt? ['>'] inside <;> rfl

theorem withoutTypeDeclarations_nil : withoutTypeDeclarations fuel [] = [] := by
  cases fuel <;> rfl

theorem withoutTypeDeclarations_eq (enough : text.length ≤ fuel) (enough' : text.length ≤ fuel') :
    withoutTypeDeclarations fuel text = withoutTypeDeclarations fuel' text := by
  induction fuel generalizing text fuel' with
  | zero =>
    obtain rfl := List.length_eq_zero_iff.1 (Nat.le_zero.1 enough)
    rw [withoutTypeDeclarations_nil, withoutTypeDeclarations_nil]
  | succ fuel ih =>
    cases text with
    | nil => rw [withoutTypeDeclarations_nil, withoutTypeDeclarations_nil]
    | cons c rest =>
      rw [List.length_cons] at enough enough'
      obtain ⟨fuel', rfl⟩ : ∃ f, fuel' = f + 1 := ⟨fuel' - 1, by omega⟩
      rw [withoutTypeDeclarations_cons, withoutTypeDeclarations_cons]
      cases found : declared? (c :: rest) with
      | none => exact congrArg (c :: ·) (ih (by omega) (by omega))
      | some after =>
        have shorter := length_lt_of_declared? found
        rw [List.length_cons] at shorter
        exact ih (by omega) (by omega)

theorem kept_of_declared? (h : declared? (c :: text) = some rest) :
    kept (c :: text) = kept rest := by
  have shorter := length_lt_of_declared? h
  rw [List.length_cons] at shorter
  rw [kept, List.length_cons, withoutTypeDeclarations_cons, h]
  exact withoutTypeDeclarations_eq (by omega) (Nat.le_refl _)

theorem kept_of_none (h : declared? (c :: text) = none) : kept (c :: text) = c :: kept text := by
  rw [kept, List.length_cons, withoutTypeDeclarations_cons, h]
  rfl

end Declarations

section Closed

theorem closed_of_suffix (closed : Closed text) (suffix : rest <:+ text) : Closed rest := by
  obtain ⟨front, rfl⟩ := suffix
  intro before after split
  exact closed (front ++ before) after (by rw [split, List.append_assoc])

theorem closed_append (hs : Closed s) (ht : Closed t) : Closed (s ++ t) := by
  intro before rest split
  rcases List.append_eq_append_iff.1 split with ⟨more, rfl, rest'⟩ | ⟨more, rfl, rest'⟩
  · exact ht _ _ rest'
  · cases more with
    | nil => exact ht [] rest rest'.symm
    | cons c more =>
      obtain ⟨rfl, rfl⟩ := List.cons.inj rest'
      exact List.mem_append_left _ (hs before more rfl)

theorem closed_of_not_mem (none : '<' ∉ text) : Closed text := by
  rintro before rest rfl
  exact absurd (List.mem_append_right _ List.mem_cons_self) none

theorem closed_concat (text : List Char) : Closed (text ++ ['>']) := by
  intro before rest split
  have last : (before ++ '<' :: rest).getLast? = some '>' := by rw [← split, List.getLast?_concat]
  cases rest with
  | nil =>
    rw [List.getLast?_concat] at last
    cases last
  | cons c rest =>
    rw [List.getLast?_append_cons, List.getLast?_cons_cons] at last
    exact List.mem_of_getLast? last

/-- A declaration in a closed text ends there, whatever follows the text. -/
theorem declared?_append (closed : Closed (c :: s)) :
    declared? (c :: s ++ t) = (declared? (c :: s)).map (· ++ t) := by
  cases found : declared? (c :: s) with
  | some rest =>
    obtain ⟨inside, split, open'⟩ := declared?_eq_some.1 found
    apply declared?_eq_some.2
    exact ⟨inside, by rw [split]; simp, open'⟩
  | none =>
    cases later : declared? (c :: s ++ t) with
    | none => rfl
    | some rest =>
      obtain ⟨inside, split, open'⟩ := declared?_eq_some.1 later
      obtain ⟨word, starts⟩ := typeDeclaration_starts
      rw [starts] at split
      obtain ⟨rfl, -⟩ := List.cons.inj split
      obtain ⟨before, after, rfl, first⟩ := List.eq_append_cons_of_mem (closed [] s rfl)
      rw [← starts, ← List.append_assoc] at split
      have here : Text.cutAt? ['>'] ('<' :: (before ++ '>' :: after) ++ t) =
          some ('<' :: before, after ++ t) :=
        Text.cutAt?_singleton.2 ⟨by simp, by simp [first]⟩
      have there : Text.cutAt? ['>'] ('<' :: (before ++ '>' :: after) ++ t) =
          some (typeDeclaration ++ inside, rest) := by
        refine Text.cutAt?_singleton.2 ⟨split, ?_⟩
        rw [List.mem_append, not_or]
        exact ⟨by decide, open'⟩
      rw [here] at there
      obtain ⟨same, -⟩ := Prod.mk.inj (Option.some.inj there)
      have sooner : declared? ('<' :: (before ++ '>' :: after)) = some after := by
        refine declared?_eq_some.2 ⟨inside, ?_, open'⟩
        rw [← List.append_assoc, ← same, List.cons_append]
      rw [found] at sooner
      cases sooner

/-- What is left out of two texts is left out of each by itself, where the first is closed. -/
theorem kept_append (closed : Closed s) : kept (s ++ t) = kept s ++ kept t := by
  induction h : s.length using Nat.strongRecOn generalizing s with
  | ind k ih =>
    subst h
    cases s with
    | nil => rfl
    | cons c s =>
      have inner := closed_of_suffix closed (List.suffix_cons c s)
      have both := declared?_append (t := t) closed
      cases found : declared? (c :: s) with
      | none =>
        rw [found] at both
        rw [kept_of_none found]
        exact (kept_of_none both).trans
          (congrArg (c :: ·) (ih s.length (Nat.lt_succ_self _) inner rfl))
      | some rest =>
        rw [found] at both
        have shorter := length_lt_of_declared? found
        have suffix : rest <:+ c :: s := by
          obtain ⟨inside, split, _⟩ := declared?_eq_some.1 found
          exact ⟨typeDeclaration ++ (inside ++ ['>']), by rw [split]; simp⟩
        rw [kept_of_declared? found]
        exact (kept_of_declared? both).trans
          (ih rest.length shorter (closed_of_suffix closed suffix) rfl)

end Closed

section Write

/-- The characters that are written as references in a text. -/
def isSpecial (c : Char) : Bool :=
  c == '&' || c == '<' || c == '>'

theorem escapeText_of_not_special (plain : isSpecial c = false) : escapeText c = [c] := by
  simp only [isSpecial, Bool.or_eq_false_iff, beq_eq_false_iff_ne] at plain
  obtain ⟨⟨ampersand, opening⟩, closing⟩ := plain
  exact escapeText.eq_4 c ampersand opening closing

theorem not_mem_escapeText (c : Char) : '<' ∉ escapeText c := by
  unfold escapeText
  split
  · decide
  · decide
  · decide
  · next other _ => exact fun mem => other (List.mem_singleton.1 mem).symm

theorem not_mem_escaped (text : List Char) : '<' ∉ text.flatMap escapeText := by
  intro mem
  obtain ⟨c, _, mem⟩ := List.mem_flatMap.1 mem
  exact not_mem_escapeText c mem

theorem kept_of_not_mem (none : '<' ∉ text) : kept text = text := by
  induction text with
  | nil => rfl
  | cons c text ih =>
    obtain ⟨other, none⟩ := not_or.1 (mt List.mem_cons.2 none)
    have undeclared : declared? (c :: text) = Option.none := by
      cases found : declared? (c :: text) with
      | none => rfl
      | some rest =>
        obtain ⟨inside, split, _⟩ := declared?_eq_some.1 found
        obtain ⟨word, starts⟩ := typeDeclaration_starts
        rw [starts] at split
        exact absurd (List.cons.inj split).1.symm other
    rw [kept_of_none undeclared, ih none]

theorem closed_write (n : Node) : Closed (write false n) := by
  cases n with
  | text content => exact closed_of_not_mem (not_mem_escaped _)
  | comment content =>
    have ends : write false (.comment content) =
        ("<!--".toList ++ content.toList ++ ['-', '-']) ++ ['>'] := by
      rw [write, List.append_assoc _ ['-', '-']]
      rfl
    rw [ends]
    exact closed_concat _
  | element name attributes nodes =>
    rw [write]
    split
    · exact closed_concat _
    · split
      · exact closed_concat _
      · have ends (text : List Char) : text ++ '<' :: '/' :: name.toList ++ ['>'] =
            (text ++ '<' :: '/' :: name.toList) ++ ['>'] := rfl
        exact closed_concat _

theorem closed_writeAll (nodes : List Node) : Closed (writeAll false nodes) := by
  induction nodes with
  | nil => exact closed_of_not_mem nofun
  | cons n nodes ih => exact closed_append (closed_write n) ih

theorem writeMarkup_cons (n : Node) (nodes : List Node) :
    writeMarkup false (n :: nodes) = kept (write false n) ++ writeMarkup false nodes :=
  kept_append (closed_write n)

def startTag (name : String) (attributes : List (String × Option String)) : List Char :=
  openingText name attributes ++ ['>']

def endTag (name : String) (nodes : List Node) : List Char :=
  if voidElements.contains name || (nodes.isEmpty && name == "li") then []
  else '<' :: '/' :: name.toList ++ ['>']

end Write

end WebScript.Html.Writer
