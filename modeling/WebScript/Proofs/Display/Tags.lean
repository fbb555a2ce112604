import WebScript.Proofs.Display.Literal

namespace WebScript.Display

section Runs

variable {text after tag before u v : List Char} {c : Char} {slashes n k : Nat}

theorem getLast?_ne_of_append (h : (u ++ v).getLast? ≠ some c) : v.getLast? ≠ some c := by
  intro last
  rw [List.getLast?_append, last] at h
  exact h rfl

theorem tagAt?_append_of_bracketless (bracketless : '[' ∉ u) (filled : u ≠ [])
    (ends : u.getLast? ≠ some '\\') : tagAt? (u ++ v) = none := by
  induction u with
  | nil => exact absurd rfl filled
  | cons c u ih =>
    rw [List.mem_cons, not_or] at bracketless
    by_cases backslash : c = '\\'
    · subst backslash
      have more : u ≠ [] := by
        rintro rfl
        exact ends rfl
      rw [List.getLast?_cons_of_ne_nil more] at ends
      rw [List.cons_append, tagAt?_backslash, ih bracketless.2 more ends]
      rfl
    · exact tagAt?_other backslash (Ne.symm bracketless.1) _

theorem tagAt?_of_bracketless (bracketless : '[' ∉ u) : tagAt? u = none := by
  cases found : tagAt? u with
  | none => rfl
  | some t =>
    have split := (tagAt?_eq_some.1 found).2
    rw [split] at bracketless
    simp at bracketless

theorem piecesFrom_of_bracketless (bracketless : '[' ∉ u) :
    piecesFrom before u = plainPiece (before.reverse ++ u) := by
  induction u generalizing before with
  | nil => rw [piecesFrom_nil, List.append_nil]
  | cons c u ih =>
    rw [piecesFrom_of_none (tagAt?_of_bracketless bracketless), ih fun h => bracketless (.tail _ h)]
    simp

/-- A text without opening brackets is read through, unless a backslash at its end guards what
follows. -/
theorem piecesFrom_append_of_bracketless (bracketless : '[' ∉ u) (ends : u.getLast? ≠ some '\\') :
    piecesFrom before (u ++ v) = piecesFrom (u.reverse ++ before) v := by
  induction u generalizing before with
  | nil => rfl
  | cons c u ih =>
    have untagged : tagAt? (c :: (u ++ v)) = none :=
      tagAt?_append_of_bracketless bracketless (List.cons_ne_nil c u) ends
    rw [List.cons_append, piecesFrom_of_none untagged,
      ih (fun h => bracketless (.tail _ h)) (getLast?_ne_of_append (u := [c]) ends)]
    simp

/-- A tag does not go on in a text that begins with no closing bracket. -/
theorem tagAt?_append (h : tagAt? u = none) (filled : u ≠ []) (ends : u.getLast? ≠ some '\\')
    (calm : v.find? isBracket ≠ some ']') : tagAt? (u ++ v) = none := by
  induction u with
  | nil => exact absurd rfl filled
  | cons c u ih =>
    by_cases backslash : c = '\\'
    · subst backslash
      have more : u ≠ [] := by
        rintro rfl
        exact ends rfl
      rw [List.getLast?_cons_of_ne_nil more] at ends
      rw [tagAt?_backslash, Option.map_eq_none_iff] at h
      rw [List.cons_append, tagAt?_backslash, ih h more ends]
      rfl
    by_cases bracket : c = '['
    · subst bracket
      rw [← Option.not_isSome_iff_eq_none, tagAt?_bracket_isSome] at h
      rw [List.cons_append, ← Option.not_isSome_iff_eq_none, tagAt?_bracket_isSome]
      rintro ⟨d, rest, split, start, closed⟩
      cases u with
      | nil =>
        rw [List.nil_append] at split
        subst split
        have plain : isBracket d = false :=
          TagText.isBracket (.intro start fun _ => nofun : TagText [d]) d (.head _)
        rw [List.find?_cons_of_neg (by rw [plain]; exact Bool.false_ne_true)] at calm
        exact calm closed
      | cons d' u =>
        obtain ⟨rfl, rest⟩ := List.cons.inj split
        rw [← rest, List.append_eq, List.find?_append] at closed
        cases found : u.find? isBracket with
        | none =>
          rw [found] at closed
          exact calm closed
        | some b =>
          rw [found] at closed
          exact h ⟨d', u, rfl, start, found.trans closed⟩
    · exact tagAt?_other backslash bracket _

theorem piecesFrom_bracket (inside : TagText tag) (before after : List Char) :
    piecesFrom before ('[' :: (tag ++ ']' :: after)) =
      plainPiece before.reverse ++ .tag tag :: piecesFrom [] after :=
  piecesFrom_of_tag (tagAt?_bracket.2 ⟨rfl, inside, rfl⟩)

theorem find?_of_tagAt? (h : tagAt? text = some (slashes, tag, after)) :
    text.find? isBracket = some '[' := by
  rw [(tagAt?_eq_some.1 h).2]
  exact find?_backslashes _ _

theorem tagAt?_append_right (h : tagAt? text = some (slashes, tag, after)) (v : List Char) :
    tagAt? (text ++ v) = some (slashes, tag, after ++ v) := by
  obtain ⟨inside, rfl⟩ := tagAt?_eq_some.1 h
  exact tagAt?_eq_some.2 ⟨inside, by simp⟩

/-- At a tag the reading begins anew. -/
theorem piecesFrom_append_of_tag (ends : u.getLast? ≠ some '\\')
    (tagged : tagAt? v = some (slashes, tag, after)) (before : List Char) :
    piecesFrom before (u ++ v) = piecesFrom before u ++ piecesFrom [] v := by
  induction u using tag_induction generalizing before with
  | nil =>
    rw [List.nil_append, piecesFrom_of_tag tagged, piecesFrom_of_tag tagged, piecesFrom_nil]
    rfl
  | none c u found ih =>
    have calm : v.find? isBracket ≠ some ']' := by
      rw [find?_of_tagAt? tagged]
      decide
    have untagged : tagAt? (c :: (u ++ v)) = none :=
      tagAt?_append found (List.cons_ne_nil c u) ends calm
    rw [List.cons_append, piecesFrom_of_none untagged, piecesFrom_of_none found,
      ih (getLast?_ne_of_append (u := [c]) ends)]
  | tag u slashes tag rest found ih =>
    have whole := (tagAt?_eq_some.1 found).2
    have later : rest.getLast? ≠ some '\\' := by
      apply getLast?_ne_of_append (u := List.replicate slashes '\\' ++ '[' :: (tag ++ [']']))
      rw [List.append_assoc, List.cons_append, List.append_assoc, List.singleton_append, ← whole]
      exact ends
    rw [piecesFrom_of_tag (tagAt?_append_right found v), piecesFrom_of_tag found, ih later]
    simp only [List.append_assoc, List.cons_append]

end Runs

section Reading

variable {text text' tag after before u v u' v' : List Char} {slashes n k : Nat} {ps : List Piece}

/-- Pieces that are all plain and make up a text. -/
def ReadsAs (ps : List Piece) (text : List Char) : Prop :=
  (∀ p ∈ ps, p.IsPlain) ∧ wording ps = text

theorem readsAs_plainPiece (text : List Char) : ReadsAs (plainPiece text) text :=
  ⟨fun _ => isPlain_of_mem_plainPiece, wording_plainPiece text⟩

theorem tagAt?_escapeTags_append (h : tagAt? text = none) (n k : Nat) :
    tagAt? (escapeTags n text ++ List.replicate k '\\') = none := by
  cases found : tagAt? (escapeTags n text ++ List.replicate k '\\') with
  | none => rfl
  | some t =>
    obtain ⟨slashes, tag, after⟩ := t
    have longer := tagAt?_append_right found (closingTag 0)
    rw [List.append_assoc] at longer
    rcases tagAt?_escapeTags h n k with none | ⟨slashes', closing⟩
    · cases none.symm.trans longer
    · have same := closing.symm.trans longer
      simp [closingTag] at same

/-- Escaped markup reads as the text that it comes from. -/
theorem readsAs_escapeTags (enough : text.length ≤ n) (k : Nat) (before : List Char) :
    ReadsAs (piecesFrom before (escapeTags n text ++ List.replicate k '\\'))
      (before.reverse ++ (text ++ List.replicate k '\\')) := by
  induction text using tag_induction generalizing n before with
  | nil =>
    rw [escapeTags_nil, List.nil_append, piecesFrom_of_bracketless (by simp)]
    exact readsAs_plainPiece _
  | none c rest found ih =>
    rw [List.length_cons] at enough
    have untagged := tagAt?_escapeTags_append found n k
    rw [escapeTags_of_none found, List.cons_append] at untagged ⊢
    rw [piecesFrom_of_none untagged]
    have read := ih (n := n - 1) (by omega) (c :: before)
    rwa [List.reverse_cons, List.append_assoc, List.singleton_append] at read
  | tag text slashes tag after found ih =>
    have shorter := length_lt_of_tagAt? found
    obtain ⟨n, rfl⟩ := Nat.exists_eq_add_of_le' (Nat.le_trans (Nat.zero_lt_of_lt shorter) enough)
    have tagged : tagAt? (escapeTags (n + 1) text ++ List.replicate k '\\') =
        some (2 * slashes + 1, tag, escapeTags n after ++ List.replicate k '\\') :=
      tagAt?_escaped found _
    obtain ⟨plain, said⟩ := ih (n := n) (by omega) []
    have odd : (2 * slashes + 1) % 2 = 1 := by omega
    have half : (2 * slashes + 1) / 2 = slashes := by omega
    refine ⟨(isPlain_piecesFrom_of_tag tagged).2 ⟨odd, plain⟩, ?_⟩
    rw [wording_piecesFrom_of_tag tagged, if_pos odd, half, said, (tagAt?_eq_some.1 found).2]
    simp only [List.reverse_nil, List.nil_append, List.append_assoc, List.cons_append]

theorem marked_escape (text : String) :
    ∃ more, Marked (escape text).toList more ∧ Sheds false more text.toList := by
  obtain ⟨k, same⟩ := escape_toList text
  refine ⟨text.toList ++ List.replicate k '\\', ?_, ?_⟩
  · rw [same]
    exact (marked_escapeTags _ _).append (.refl _)
  · have padded := (Sheds.nil.backslashes k rfl).append_left text.toList
    rwa [List.append_nil, List.append_nil] at padded

/-- Markup does not read as its text if there is a tag in the text that is not escaped. -/
theorem Marked.not_readsAs_of_tag (hu : Marked u u') (ends : u.getLast? ≠ some '\\')
    (tagged : tagAt? text = some (slashes, tag, after)) (hv : Marked after v') :
    ¬ReadsAs (piecesFrom [] (u ++ text)) (u' ++
      (List.replicate slashes '\\' ++ '[' :: (tag ++ ']' :: v'))) := by
  rintro ⟨plain, said⟩
  rw [piecesFrom_append_of_tag ends tagged, List.forall_mem_append,
    isPlain_piecesFrom_of_tag tagged] at plain
  rw [piecesFrom_append_of_tag ends tagged, wording_append,
    wording_piecesFrom_of_tag tagged] at said
  have odd := plain.2.1
  have front := (hu.worn []).1.length_le
  have back := (hv.worn []).1.length_le
  have size := congrArg List.length said
  simp only [if_pos odd, List.reverse_nil, List.nil_append, List.length_append,
    List.length_replicate, List.length_cons, List.length_nil] at front back size
  omega

/-- Pieces that show what their markup comes from are all that it reads as. -/
theorem Marked.readsAs_of_spelled {markup more : List Char} (h : Marked markup more)
    (added : Sheds false more text) (spelled : Spelled (piecesFrom [] markup) text) :
    ReadsAs (piecesFrom [] markup) more := by
  obtain ⟨-, ⟨plain, lost⟩ | swallowed⟩ := h.worn []
  · exact ⟨plain, (added.eq_of_inked lost (congrArg Text.inked spelled.whole)).2⟩
  · rw [List.reverse_nil, List.nil_append, added.count_eq (by decide), spelled.whole] at swallowed
    exact absurd swallowed (Nat.lt_irrefl _)

theorem Spelled.readsAs (h : Spelled ps text) : ReadsAs ps text :=
  ⟨fun p hp => (h.literal p hp).imp fun _ => And.left, h.whole⟩

theorem infix_wording {p : Piece} (h : p ∈ ps) : p.wording <:+: wording ps := by
  obtain ⟨front, back, rfl⟩ := List.append_of_mem h
  exact ⟨wording front, wording back, by simp⟩

/-- A calm text is shown as soon as its markup reads as the text. -/
theorem ReadsAs.spelled (h : ReadsAs ps text) (calm : Calm text) : Spelled ps text := by
  refine ⟨fun p hp => ?_, h.2⟩
  obtain ⟨t, rfl⟩ := h.1 p hp
  have part := infix_wording hp
  rw [h.2] at part
  exact ⟨t, rfl, (calm.within part).literal⟩

theorem getLast?_escapeTags (n : Nat) (text : List Char) :
    (escapeTags n text).getLast? = text.getLast? := by
  induction text using tag_induction generalizing n with
  | nil => rw [escapeTags_nil]
  | none c rest found ih =>
    rw [escapeTags_of_none found, List.getLast?_cons, List.getLast?_cons, ih]
  | tag text slashes tag after found ih =>
    cases n with
    | zero => rfl
    | succ n =>
      rw [escapeTags_of_tag found]
      conv => rhs; rw [(tagAt?_eq_some.1 found).2]
      simp [List.getLast?_append, List.getLast?_cons, ih]

/-- Nothing is added at the end of a text that does not end with a backslash. -/
theorem escape_of_ends {text : String} (ends : text.toList.getLast? ≠ some '\\') :
    (escape text).toList = escapeTags text.length text.toList := by
  rw [← getLast?_escapeTags text.length, List.getLast?_eq_head?_reverse] at ends
  unfold escape
  dsimp only
  split
  · exact String.toList_ofList
  · next last => rw [last] at ends; exact absurd rfl ends
  · exact String.toList_ofList

theorem escapeTags_of_bracketless (h : '[' ∉ u) (n : Nat) : escapeTags n u = u := by
  induction u generalizing n with
  | nil => exact escapeTags_nil n
  | cons c u ih =>
    rw [escapeTags_of_none (tagAt?_of_bracketless h), ih fun later => h (.tail _ later)]

/-- Some words in a style, before other markup. -/
theorem piecesFrom_styled {style word : List Char} (inside : TagText style)
    (bracketless : '[' ∉ word) (filled : word ≠ []) (ends : word.getLast? ≠ some '\\')
    (markup : List Char) :
    piecesFrom [] ('[' :: (style ++ ']' :: (word ++ '[' :: ('/' :: style ++ ']' :: markup)))) =
      .tag style :: .plain word :: .tag ('/' :: style) :: piecesFrom [] markup := by
  have last : TagText ('/' :: style) := .intro (by decide) inside.isBracket
  have whole : plainPiece word = [.plain word] := by
    rw [plainPiece, if_neg (mt List.isEmpty_iff.1 filled)]
  rw [piecesFrom_bracket inside, piecesFrom_append_of_bracketless bracketless ends,
    piecesFrom_bracket last, List.append_nil, List.reverse_reverse, whole]
  rfl

end Reading

end WebScript.Display
