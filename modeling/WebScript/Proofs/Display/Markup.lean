import Mathlib.Data.List.TakeWhile
import WebScript.Display.Lines
import WebScript.Proofs.Display.Styles

namespace WebScript.Display

variable {c : Char} {text after tag before rest : List Char} {slashes fuel n k : Nat}

def isBracket (c : Char) : Bool :=
  c == '[' || c == ']'

/-- What stands between the brackets of a tag. -/
inductive TagText : List Char → Prop
  | intro {c inside} (start : startsTag c = true) (plain : ∀ d ∈ inside, isBracket d = false) :
      TagText (c :: inside)

section TagAt

theorem tagAt?_backslash (text : List Char) :
    tagAt? ('\\' :: text) = (tagAt? text).map fun (slashes, rest) => (slashes + 1, rest) := by
  have drop (n : Nat) : ('\\' :: text).drop (n + 1) = text.drop n := rfl
  rw [tagAt?, tagAt?, List.takeWhile_cons_of_pos rfl, List.length_cons]
  dsimp only
  rw [drop]
  split
  · split <;> rfl
  · rfl

theorem tagAt?_other (backslash : c ≠ '\\') (bracket : c ≠ '[') (text : List Char) :
    tagAt? (c :: text) = none := by
  rw [tagAt?, List.takeWhile_cons_of_neg (by simpa using backslash), List.length_nil]
  dsimp only [List.drop_zero]
  split
  · next h => exact absurd (List.cons.inj h).1 bracket
  · rfl

theorem tagAt?_bracket :
    tagAt? ('[' :: text) = some (slashes, tag, after) ↔
      slashes = 0 ∧ TagText tag ∧ text = tag ++ ']' :: after := by
  rw [tagAt?, List.takeWhile_cons_of_neg (by decide), List.length_nil]
  dsimp only [List.drop_zero]
  constructor
  · intro h
    split at h
    · next c rest split =>
      split at h
      · next start closed =>
        cases h
        obtain ⟨-, rfl⟩ := List.cons.inj split
        refine ⟨rfl, .intro start ?_, ?_⟩
        · intro d hd
          simpa [isBracket, not_or] using List.mem_takeWhile_imp hd
        · rw [List.cons_append, ← closed,
            List.prefix_iff_eq_append.1 (List.takeWhile_prefix _)]
      · cases h
    · cases h
  · rintro ⟨rfl, ⟨start, plain⟩, rfl⟩
    next c inside =>
    have inner : ∀ d ∈ inside, (d != '[' && d != ']') = true := by
      intro d hd
      simpa [isBracket] using plain d hd
    have whole : (inside ++ ']' :: after).takeWhile (fun d => d != '[' && d != ']') = inside := by
      rw [List.takeWhile_append_of_pos inner, List.takeWhile_cons_of_neg (by decide),
        List.append_nil]
    simp only [List.cons_append, List.drop_zero, whole, start, List.drop_left]

theorem tagAt?_eq_some :
    tagAt? text = some (slashes, tag, after) ↔
      TagText tag ∧ text = List.replicate slashes '\\' ++ '[' :: (tag ++ ']' :: after) := by
  induction text generalizing slashes with
  | nil => simp [tagAt?]
  | cons c text ih =>
    by_cases backslash : c = '\\'
    · subst backslash
      rw [tagAt?_backslash]
      cases slashes with
      | zero => simp
      | succ slashes => simp [ih, List.replicate_succ]
    · by_cases bracket : c = '['
      · subst bracket
        rw [tagAt?_bracket]
        cases slashes with
        | zero => simp
        | succ slashes => simp [List.replicate_succ]
      · rw [tagAt?_other backslash bracket]
        cases slashes with
        | zero => simp [bracket]
        | succ slashes => simp [List.replicate_succ, backslash]

end TagAt

theorem escapeTags_of_none (h : tagAt? (c :: rest) = none) :
    escapeTags fuel (c :: rest) = c :: escapeTags (fuel - 1) rest := by
  cases fuel with
  | zero => rfl
  | succ fuel => rw [escapeTags, h]; rfl

theorem escapeTags_of_tag (h : tagAt? text = some (slashes, tag, after)) :
    escapeTags (fuel + 1) text =
      List.replicate (2 * slashes + 1) '\\' ++ '[' :: (tag ++ ']' :: escapeTags fuel after) := by
  cases text with
  | nil => cases h
  | cons c rest => rw [escapeTags, h]; simp

theorem escapeTags_nil (fuel : Nat) : escapeTags fuel [] = [] := by
  cases fuel <;> rfl

/-- The style of a panel's text. -/
def red : List Char := ['r', 'e', 'd']

theorem isBracket_red : ∀ d ∈ red, isBracket d = false := by
  simp [red, isBracket]

/-- The tag that closes a panel's text, after backslashes. -/
def closingTag (k : Nat) : List Char :=
  List.replicate k '\\' ++ '[' :: '/' :: (red ++ [']'])

theorem tagAt?_closingTag (k : Nat) : tagAt? (closingTag k) = some (k, '/' :: red, []) := by
  rw [tagAt?_eq_some]
  exact ⟨.intro (by decide) isBracket_red, rfl⟩

theorem find?_backslashes (k : Nat) (rest : List Char) :
    (List.replicate k '\\' ++ '[' :: rest).find? isBracket = some '[' := by
  rw [List.find?_append, List.find?_replicate, List.find?_cons_of_pos (by decide)]
  simp [isBracket]

/-- No bracket is closed anew where a text is escaped. -/
theorem find?_of_escapeTags
    (h : (escapeTags fuel text ++ closingTag k).find? isBracket = some ']') :
    text.find? isBracket = some ']' := by
  have opens : (closingTag k).find? isBracket = some '[' := find?_backslashes k _
  induction fuel generalizing text with
  | zero =>
    rw [escapeTags, List.find?_append, opens] at h
    cases found : text.find? isBracket with
    | none =>
      rw [found] at h
      cases h
    | some c =>
      rw [found] at h
      exact h
  | succ fuel ih =>
    cases text with
    | nil =>
      rw [escapeTags, List.nil_append, opens] at h
      cases h
    | cons c rest =>
      cases found : tagAt? (c :: rest) with
      | none =>
        rw [escapeTags_of_none found, List.cons_append, List.find?_cons] at h
        rw [List.find?_cons]
        split at h
        · exact h
        · exact ih h
      | some t =>
        rw [escapeTags_of_tag found, List.append_assoc, List.cons_append, find?_backslashes] at h
        cases h

theorem tagAt?_bracket_isSome :
    (tagAt? ('[' :: text)).isSome ↔
      ∃ c rest, text = c :: rest ∧ startsTag c = true ∧ rest.find? isBracket = some ']' := by
  rw [Option.isSome_iff_exists]
  constructor
  · rintro ⟨⟨slashes, tag, after⟩, h⟩
    obtain ⟨-, ⟨start, plain⟩, rfl⟩ := tagAt?_bracket.1 h
    refine ⟨_, _, rfl, start, List.find?_eq_some_iff_append.2 ⟨by decide, _, _, rfl, ?_⟩⟩
    simpa using plain
  · rintro ⟨c, rest, rfl, start, found⟩
    obtain ⟨-, inside, after, rfl, plain⟩ := List.find?_eq_some_iff_append.1 found
    exact ⟨_, tagAt?_bracket.2 ⟨rfl, .intro start (by simpa using plain), rfl⟩⟩

/-- The first character of an escaped text is that of the text, or a backslash. -/
theorem escapeTags_cons (fuel : Nat) (c : Char) (rest : List Char) :
    (∃ rest', escapeTags fuel (c :: rest) = '\\' :: rest') ∨
      escapeTags fuel (c :: rest) = c :: escapeTags (fuel - 1) rest := by
  cases found : tagAt? (c :: rest) with
  | none => exact .inr (escapeTags_of_none found)
  | some t =>
    cases fuel with
    | zero => exact .inr rfl
    | succ fuel => exact .inl ⟨_, escapeTags_of_tag found⟩

theorem tagAt?_bracket_escapeTags (h : tagAt? ('[' :: rest) = none) :
    tagAt? ('[' :: (escapeTags fuel rest ++ closingTag k)) = none := by
  rw [← Option.not_isSome_iff_eq_none] at h ⊢
  intro tagged
  obtain ⟨d, rest', split, start, found⟩ := tagAt?_bracket_isSome.1 tagged
  have noBackslash {rest'' : List Char} : d :: rest' ≠ '\\' :: rest'' := by
    rintro ⟨⟩
    cases start
  cases rest with
  | nil =>
    rw [escapeTags_nil, List.nil_append] at split
    cases k with
    | zero =>
      cases split
      cases start
    | succ k => exact noBackslash split.symm
  | cons c rest =>
    rcases escapeTags_cons fuel c rest with ⟨rest'', escaped⟩ | same
    · rw [escaped] at split
      exact noBackslash split.symm
    · rw [same] at split
      obtain ⟨rfl, rfl⟩ := List.cons.inj split
      exact h (tagAt?_bracket_isSome.2 ⟨c, rest, rfl, start, find?_of_escapeTags found⟩)

/-- Where a text has no tag, neither has the escaped one, unless it is the closing tag behind it. -/
theorem tagAt?_escapeTags (h : tagAt? text = none) (fuel k : Nat) :
    tagAt? (escapeTags fuel text ++ closingTag k) = none ∨
      ∃ slashes, tagAt? (escapeTags fuel text ++ closingTag k) =
        some (slashes, '/' :: red, []) := by
  induction text generalizing fuel with
  | nil =>
    rw [escapeTags_nil, List.nil_append]
    exact .inr ⟨k, tagAt?_closingTag k⟩
  | cons c rest ih =>
    rw [escapeTags_of_none h, List.cons_append]
    by_cases backslash : c = '\\'
    · subst backslash
      rw [tagAt?_backslash] at h ⊢
      rcases ih (Option.map_eq_none_iff.1 h) (fuel - 1) with none | ⟨slashes, closing⟩
      · exact .inl (Option.map_eq_none_iff.2 none)
      · rw [closing]
        exact .inr ⟨slashes + 1, rfl⟩
    by_cases bracket : c = '['
    · subst bracket
      exact .inl (tagAt?_bracket_escapeTags h)
    · exact .inl (tagAt?_other backslash bracket _)

theorem tagAt?_escaped (h : tagAt? text = some (slashes, tag, after)) (tail : List Char) :
    tagAt? (escapeTags (fuel + 1) text ++ tail) =
      some (2 * slashes + 1, tag, escapeTags fuel after ++ tail) := by
  rw [escapeTags_of_tag h, tagAt?_eq_some]
  exact ⟨(tagAt?_eq_some.1 h).1, by simp⟩

section Shown

theorem pieces_of_none (h : tagAt? (c :: rest) = none) :
    pieces (fuel + 1) before (c :: rest) = pieces fuel (c :: before) rest := by
  rw [pieces, h]

theorem pieces_of_tag (h : tagAt? text = some (slashes, tag, after)) :
    pieces (fuel + 1) before text =
      plainPiece before.reverse ++ (plainPiece (List.replicate (slashes / 2) '\\') ++
        (if slashes % 2 = 1 then .plain ('[' :: tag ++ [']']) else .tag tag) ::
          pieces fuel [] after) := by
  cases text with
  | nil => cases h
  | cons c rest =>
    rw [pieces, h]
    exact List.append_assoc _ _ _

theorem isPlain_of_mem_plainPiece {p : Piece} (h : p ∈ plainPiece text) : p.IsPlain := by
  rw [plainPiece] at h
  split at h
  · cases h
  · exact ⟨_, List.mem_singleton.1 h⟩

theorem Tame.plainPiece_append (text : List Char) {style : List Char} {ps : List Piece}
    (h : Tame style ps) : Tame style (plainPiece text ++ ps) := by
  rw [plainPiece]
  split
  · exact h
  · exact .plain text h

theorem tame_plainPiece (text : List Char) : Tame red (plainPiece text) :=
  .of_plain fun _ => isPlain_of_mem_plainPiece

theorem tame_of_closing (h : tagAt? text = some (slashes, '/' :: red, [])) :
    Tame red (pieces fuel before text) := by
  cases fuel with
  | zero => exact tame_plainPiece _
  | succ fuel =>
    have last : pieces fuel [] [] = [] := by cases fuel <;> rfl
    rw [pieces_of_tag h, last]
    refine .plainPiece_append _ (.plainPiece_append _ ?_)
    split
    · exact .plain _ .nil
    · exact .closing nofun

theorem length_lt_of_tagAt? (h : tagAt? text = some (slashes, tag, after)) :
    after.length < text.length := by
  rw [(tagAt?_eq_some.1 h).2]
  simp only [List.length_append, List.length_cons]
  omega

theorem tame_pieces (enough : text.length ≤ n) :
    Tame red (pieces fuel before (escapeTags n text ++ closingTag k)) := by
  induction fuel generalizing before text n with
  | zero => exact tame_plainPiece _
  | succ fuel ih =>
    cases found : tagAt? text with
    | some t =>
      -- An odd number of backslashes stands before each tag of an escaped text, so it is plain.
      obtain ⟨slashes, tag, after⟩ := t
      have shorter := length_lt_of_tagAt? found
      obtain ⟨n, rfl⟩ : ∃ m, n = m + 1 := ⟨n - 1, by omega⟩
      rw [pieces_of_tag (tagAt?_escaped found _), if_pos (by omega)]
      exact .plainPiece_append _ (.plainPiece_append _ (.plain _ (ih (by omega))))
    | none =>
      rcases tagAt?_escapeTags found n k with untagged | ⟨slashes, closing⟩
      · cases text with
        | nil =>
          rw [escapeTags_nil]
          exact tame_of_closing (tagAt?_closingTag k)
        | cons c rest =>
          rw [escapeTags_of_none found, List.cons_append] at untagged ⊢
          rw [pieces_of_none untagged]
          rw [List.length_cons] at enough
          exact ih (by omega)
      · exact tame_of_closing closing

end Shown

theorem escape_toList (m : String) :
    ∃ k, (escape m).toList = escapeTags m.length m.toList ++ List.replicate k '\\' := by
  unfold escape
  dsimp only
  split
  · exact ⟨0, by simp⟩
  · exact ⟨1, by simp⟩
  · exact ⟨0, by simp⟩

theorem rendered_of_calm [Styling] {markup : String} {ps : List Piece}
    (read : pieces (markup.length + 1) [] markup.toList = ps) (calm : Styling.fault? ps = none) :
    rendered markup = .ok (.ofList (display ps)) := by
  rw [rendered, read, calm]

/-- A panel shows any text. -/
theorem panel_escape [Styling] (sound : Styling.Sound) (title m : String) :
    ∃ lines, panel title ("[red]" ++ escape m ++ "[/red]") = .ok lines := by
  obtain ⟨k, escaped⟩ := escape_toList m
  have markup : ("[red]" ++ escape m ++ "[/red]").toList =
      '[' :: (red ++ ']' :: (escapeTags m.length m.toList ++ closingTag k)) := by
    simp [escaped, closingTag, red]
  have opening :
      tagAt? ('[' :: (red ++ ']' :: (escapeTags m.length m.toList ++ closingTag k))) =
        some (0, red, escapeTags m.length m.toList ++ closingTag k) :=
    tagAt?_bracket.2 ⟨rfl, .intro (by decide) fun d hd => isBracket_red d (.tail _ hd), rfl⟩
  have tame (fuel : Nat) :
      Tame red (pieces fuel [] (escapeTags m.length m.toList ++ closingTag k)) :=
    tame_pieces (Nat.le_of_eq String.length_toList)
  have calm := sound.styled (.head _) (tame ("[red]" ++ escape m ++ "[/red]").length)
  rw [panel, block, rendered_of_calm (by rw [markup, pieces_of_tag opening]; rfl) calm]
  exact ⟨_, rfl⟩

end WebScript.Display
