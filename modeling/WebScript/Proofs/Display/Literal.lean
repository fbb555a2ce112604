import WebScript.Proofs.Display.Pieces
import WebScript.Proofs.Text.Find

namespace WebScript.Display

variable {c : Char} {text after rest name mark symbol : List Char} {fuel : Nat}

section Pictographs

/-- Lines without a colon. -/
inductive Colonless : List String → Prop
  | nil : Colonless []
  | cons {line : List Char} {lines : List String} (h : line.all (· != ':') = true)
      (rest : Colonless lines) : Colonless (.ofList line :: lines)

theorem Colonless.not_mem {lines : List String} (h : Colonless lines) :
    ∀ line ∈ lines, ':' ∉ line.toList := by
  induction h with
  | nil => simp
  | cons h _ ih =>
    apply List.forall_mem_cons.2 ⟨?_, ih⟩
    rw [String.toList_ofList]
    intro colon
    exact absurd (List.all_eq_true.1 h ':' colon) (by decide)

theorem Colonless.append {lines lines' : List String} (h : Colonless lines)
    (h' : Colonless lines') :
    Colonless (lines ++ lines') := by
  induction h with
  | nil => exact h'
  | cons h _ ih => exact .cons h ih

/-- The parts of the table are gone through line by line. -/
theorem colonless_lines : Colonless EmojiTable.lines := by
  unfold EmojiTable.lines
  apply_rules [Colonless.append]
  all_goals
    repeat apply Colonless.cons rfl
    exact .nil

theorem colon_not_mem_lines : ∀ line ∈ EmojiTable.lines, ':' ∉ line.toList :=
  colonless_lines.not_mem

theorem mem_of_mem_pairUp {words : List (List Char)} {entry : String × List Char}
    (h : entry ∈ pairUp words) : entry.2 ∈ words := by
  fun_induction pairUp words with
  | case1 name symbol rest ih =>
    rcases List.mem_cons.1 h with rfl | h
    · exact .tail _ (.head _)
    · exact .tail _ (.tail _ (ih h))
  | case2 => cases h

theorem getElem?_foldl_insert {entries : List (String × List Char)}
    {m : Std.HashMap String (List Char)} {name : String}
    (h : (entries.foldl (fun m (name, symbol) => m.insert name symbol) m)[name]? = some symbol) :
    m[name]? = some symbol ∨ ∃ entry ∈ entries, entry.2 = symbol := by
  induction entries generalizing m with
  | nil => exact .inl h
  | cons entry entries ih =>
    rcases ih h with found | ⟨entry', later, same⟩
    · rw [Std.HashMap.getElem?_insert] at found
      split at found
      · cases found
        exact .inr ⟨entry, .head _, rfl⟩
      · exact .inl found
    · exact .inr ⟨entry', .tail _ later, same⟩

theorem colon_not_mem_of_lines {lines : List String} {name : String}
    (calm : ∀ line ∈ lines, ':' ∉ line.toList)
    (h : ((lines.flatMap fun line => pairUp (Text.pieces ' ' line.toList)).foldl
      (fun m (name, symbol) => m.insert name symbol) (∅ : Std.HashMap String (List Char)))[name]? =
        some symbol) : ':' ∉ symbol := by
  rcases getElem?_foldl_insert h with found | ⟨entry, listed, rfl⟩
  · cases Std.HashMap.getElem?_empty.symm.trans found
  · obtain ⟨line, known, paired⟩ := List.mem_flatMap.1 listed
    intro colon
    exact calm line known ((Text.infix_of_mem_pieces (mem_of_mem_pairUp paired)).subset colon)

/-- No pictograph holds a colon. -/
theorem colon_not_mem_emoji {name : String} (h : emoji[name]? = some symbol) : ':' ∉ symbol :=
  colon_not_mem_of_lines colon_not_mem_lines h

theorem emojiOr_eq_or (written name mark : List Char) :
    emojiOr written name mark = written ∨
      ∃ symbol, ':' ∉ symbol ∧ emojiOr written name mark = symbol ++ mark := by
  rw [emojiOr]
  cases known : emoji[Text.lower (.ofList name)]? with
  | none => exact .inl Option.getD_none
  | some symbol => exact .inr ⟨symbol, colon_not_mem_emoji known, Option.getD_some⟩

theorem colon_not_mem_of_form {word : List Char} (h : (word, mark) ∈ emojiForms) : ':' ∉ mark := by
  simp only [emojiForms, List.mem_cons, Prod.mk.injEq, List.not_mem_nil, or_false] at h
  rcases h with ⟨-, rfl⟩ | ⟨-, rfl⟩ <;> decide

theorem emojiName?_eq_some (h : emojiName? text = some (name, mark, after)) :
    after <:+ text ∧ ':' ∉ mark := by
  induction text generalizing name with
  | nil => cases h
  | cons c text ih =>
    rw [emojiName?] at h
    split at h
    · next found formed =>
      cases h
      obtain ⟨⟨word, mark⟩, form, marked⟩ := List.exists_of_findSome?_eq_some formed
      obtain ⟨rest, start, same⟩ := Option.map_eq_some_iff.1 marked
      cases same
      exact ⟨⟨word, Text.afterStart?_eq_some.1 start⟩, colon_not_mem_of_form form⟩
    · split at h
      · cases h
        exact ⟨List.suffix_cons _ _, List.not_mem_nil⟩
      · split at h
        · cases h
        · obtain ⟨⟨name', mark', after'⟩, found, same⟩ := Option.map_eq_some_iff.1 h
          cases same
          obtain ⟨later, calm⟩ := ih found
          exact ⟨later.trans (List.suffix_cons _ _), calm⟩

theorem count_cons_lt {s t : List Char} (h : s.count ':' < t.count ':') (c : Char) :
    (c :: s).count ':' < (c :: t).count ':' := by
  rw [List.count_cons, List.count_cons]
  exact Nat.add_lt_add_right h _

/-- A name that is replaced loses its colons. -/
theorem showEmoji_eq_or_count_lt (fuel : Nat) (text : List Char) :
    showEmoji fuel text = text ∨ (showEmoji fuel text).count ':' < text.count ':' := by
  induction fuel generalizing text with
  | zero => exact .inl rfl
  | succ fuel ih =>
    cases text with
    | nil => exact .inl rfl
    | cons c rest =>
      rw [showEmoji]
      split
      · next colon =>
        subst colon
        split
        · exact (ih rest).imp (congrArg _) (count_cons_lt · _)
        · next name mark after named =>
          obtain ⟨⟨front, rfl⟩, unmarked⟩ := emojiName?_eq_some named
          rw [List.length_append, Nat.add_sub_cancel, List.take_left]
          have later := ih after
          rcases emojiOr_eq_or (':' :: front) name mark with same | ⟨symbol, unsigned, shown⟩
          · rw [same, List.cons_append]
            rcases later with same | fewer
            · exact .inl (by rw [same])
            · apply Or.inr (count_cons_lt ?_ _)
              rw [List.count_append, List.count_append]
              exact Nat.add_lt_add_left fewer _
          · have fewer : (showEmoji fuel after).count ':' ≤ after.count ':' :=
              later.elim (fun same => by rw [same]) Nat.le_of_lt
            refine .inr ?_
            rw [shown, List.count_append, List.count_append, List.count_eq_zero.2 unmarked,
              List.count_eq_zero.2 unsigned, List.count_cons_self, List.count_append]
            omega
      · exact (ih rest).imp (congrArg _) (count_cons_lt · _)

end Pictographs

/-- A text of which every character is shown, but for white space. -/
structure Literal (text : List Char) : Prop where
  bracket : ¬['\\', '['] <:+: text
  pictograph : showEmoji text.length text = text
  control : ∀ c ∈ text, isDropped c = true → Text.isBlank c = true

theorem bareBrackets_eq_self_iff : bareBrackets text = text ↔ ¬['\\', '['] <:+: text := by
  fun_induction bareBrackets text with
  | case1 rest =>
    apply iff_of_false
    · intro h
      cases h
    · exact not_not_intro ⟨[], rest, rfl⟩
  | case2 c rest unguarded ih =>
    rw [List.cons_inj_right, ih, List.infix_cons_iff, not_or]
    refine (and_iff_right ?_).symm
    rintro ⟨rest', start⟩
    obtain ⟨rfl, same⟩ := List.cons.inj start
    exact unguarded rest' rfl same.symm
  | case3 => simp

theorem sheds_bareBrackets (text : List Char) : Sheds true text (bareBrackets text) := by
  fun_induction bareBrackets text with
  | case1 rest ih => exact .drop (opens_bracket 0 rest) (.keep '[' ih)
  | case2 c rest _ ih => exact .keep c ih
  | case3 => exact .nil

theorem Sheds.count_eq {guarding : Bool} {t s : List Char} (h : Sheds guarding t s)
    (other : c ≠ '\\') :
    t.count c = s.count c := by
  induction h with
  | nil => rfl
  | keep d _ ih => rw [List.count_cons, List.count_cons, ih]
  | drop _ _ ih => rw [List.count_cons_of_ne other.symm, ih]

section PlainText

theorem count_plainText (visible : isDropped c = false) (text : List Char) :
    (plainText text).count c = (showEmoji text.length (bareBrackets text)).count c := by
  rw [plainText, List.count_filter]
  rw [visible]
  rfl

theorem showEmoji_eq_self_of_count (h : text.count ':' ≤ (plainText text).count ':') :
    showEmoji text.length (bareBrackets text) = bareBrackets text := by
  rw [count_plainText rfl, (sheds_bareBrackets text).count_eq (by decide)] at h
  exact (showEmoji_eq_or_count_lt _ _).resolve_right (Nat.not_lt.2 h)

theorem count_colon_plainText_le (text : List Char) :
    (plainText text).count ':' ≤ text.count ':' := by
  rw [count_plainText rfl, (sheds_bareBrackets text).count_eq (by decide)]
  exact (showEmoji_eq_or_count_lt _ _).elim (fun same => by rw [same]) Nat.le_of_lt

theorem inked_filter_dropped (h : ∀ c ∈ text, isDropped c = true → Text.isBlank c = true) :
    Text.inked (text.filter (!isDropped ·)) = Text.inked text := by
  rw [Text.inked, Text.inked, List.filter_filter]
  apply List.filter_congr
  intro c hc
  cases dropped : isDropped c with
  | true => rw [h c hc dropped]; rfl
  | false => exact Bool.and_true _

theorem Literal.inked_plainText (h : Literal text) :
    Text.inked (plainText text) = Text.inked text := by
  rw [plainText, bareBrackets_eq_self_iff.2 h.bracket, h.pictograph, inked_filter_dropped h.control]

theorem plainText_of_calm (h : ∀ c ∈ text, c ≠ ':' ∧ c ≠ '\\' ∧ isDropped c = false) :
    plainText text = text := by
  have unguarded : bareBrackets text = text := by
    apply bareBrackets_eq_self_iff.2
    intro guarded
    exact (h '\\' (guarded.subset (.head _))).2.1 rfl
  have unnamed : showEmoji text.length text = text := by
    apply (showEmoji_eq_or_count_lt _ _).resolve_right
    have none : text.count ':' = 0 := List.count_eq_zero.2 fun colon => (h ':' colon).1 rfl
    rw [none]
    exact Nat.not_lt_zero _
  rw [plainText, unguarded, unnamed, List.filter_eq_self]
  intro c hc
  rw [(h c hc).2.2]
  rfl

end PlainText

theorem display_plain (text : List Char) (ps : List Piece) :
    display (.plain text :: ps) = plainText text ++ display ps := rfl

theorem display_tag (inside : List Char) (ps : List Piece) :
    display (.tag inside :: ps) = display ps := rfl

/-- Pieces that say a text and show all of it. -/
structure Spelled (ps : List Piece) (text : List Char) : Prop where
  literal : ∀ p ∈ ps, ∃ t, p = .plain t ∧ Literal t
  whole : wording ps = text

section Spelled

/-- Where nothing is lost of all pieces together, nothing is lost of any. -/
theorem count_le_of_flatMap {f : Piece → List Char} (count : List Char → Nat)
    (additive : ∀ s t, count (s ++ t) = count s + count t) {ps : List Piece}
    (fewer : ∀ p, count (f p) ≤ count p.wording)
    (same : count (wording ps) ≤ count (ps.flatMap f)) :
    ∀ p ∈ ps, count p.wording ≤ count (f p) := by
  have all (ps : List Piece) : count (ps.flatMap f) ≤ count (wording ps) := by
    induction ps with
    | nil => exact Nat.le_refl _
    | cons p ps ih =>
      rw [List.flatMap_cons, wording_cons, additive, additive]
      exact Nat.add_le_add (fewer p) ih
  induction ps with
  | nil => exact nofun
  | cons p ps ih =>
    rw [List.flatMap_cons, wording_cons, additive, additive] at same
    have here := fewer p
    have later := all ps
    exact List.forall_mem_cons.2 ⟨by omega, ih (by omega)⟩

theorem sheds_flatMap_bareBrackets (ps : List Piece) :
    Sheds true (wording ps) (ps.flatMap fun p => bareBrackets p.wording) := by
  induction ps with
  | nil => exact .nil
  | cons p ps ih => exact (sheds_bareBrackets p.wording).append ih

theorem not_mem_display (dropped : isDropped c = true) (ps : List Piece) : c ∉ display ps := by
  intro h
  obtain ⟨p, _, shown⟩ := List.mem_flatMap.1 h
  have kept := (List.mem_filter.1 shown).2
  rw [dropped] at kept
  cases kept

theorem count_eq_of_inked {s t : List Char} (ink : Text.isBlank c = false)
    (same : Text.inked s = Text.inked t) : s.count c = t.count c := by
  have counted := congrArg (List.count c) same
  rwa [Text.inked, Text.inked, List.count_filter (by rw [ink]; rfl),
    List.count_filter (by rw [ink]; rfl)] at counted

theorem inked_display_congr {f : List Char → List Char} (ps : List Piece)
    (h : ∀ p ∈ ps, Text.inked (plainText p.wording) = Text.inked (f p.wording)) :
    Text.inked (display ps) = Text.inked (ps.flatMap fun p => f p.wording) := by
  induction ps with
  | nil => rfl
  | cons p ps ih =>
    rw [display, List.flatMap_cons, List.flatMap_cons, Text.inked_append, Text.inked_append,
      h p (.head _), ← ih fun q hq => h q (.tail _ hq)]
    rfl

theorem Spelled.inked_display {ps : List Piece} (h : Spelled ps text) :
    Text.inked (display ps) = Text.inked text := by
  have same : Text.inked (display ps) = Text.inked (ps.flatMap fun p => id p.wording) := by
    apply inked_display_congr
    intro p hp
    obtain ⟨t, rfl, literal⟩ := h.literal p hp
    exact literal.inked_plainText
  rw [same, ← h.whole]
  rfl

section Lost

variable {ps : List Piece} {more : List Char} (added : Sheds false more text)
  (said : (wording ps).Sublist more) (same : Text.inked (display ps) = Text.inked text)

include added said same

/-- A name that is replaced would be missed. -/
theorem showEmoji_of_inked_display :
    ∀ p ∈ ps, showEmoji p.wording.length (bareBrackets p.wording) = bareBrackets p.wording := by
  have colons : (wording ps).count ':' ≤ (display ps).count ':' := by
    rw [count_eq_of_inked rfl same, ← added.count_eq (by decide)]
    exact said.count_le ':'
  intro p hp
  apply showEmoji_eq_self_of_count
  exact count_le_of_flatMap (List.count ':') (fun _ _ => List.count_append)
    (fun p => count_colon_plainText_le p.wording) colons p hp

/-- So would a character that is dropped. -/
theorem isBlank_of_inked_display :
    ∀ p ∈ ps, ∀ c ∈ p.wording, isDropped c = true → Text.isBlank c = true := by
  intro p hp c hc dropped
  by_contra ink
  rw [Bool.not_eq_true] at ink
  have other : c ≠ '\\' := by
    rintro rfl
    cases dropped
  have kept : 0 < more.count c :=
    List.count_pos_iff.2 (said.subset (List.mem_flatMap_of_mem hp hc))
  rw [added.count_eq other, ← count_eq_of_inked ink same,
    List.count_eq_zero.2 (not_mem_display dropped ps)] at kept
  cases kept

theorem inked_display_bare :
    Text.inked (display ps) = Text.inked (ps.flatMap fun p => bareBrackets p.wording) := by
  apply inked_display_congr
  intro p hp
  rw [plainText, showEmoji_of_inked_display added said same p hp]
  apply inked_filter_dropped
  intro c hc
  exact isBlank_of_inked_display added said same p hp c
    ((sheds_bareBrackets p.wording).sublist.subset hc)

end Lost

/-- What pieces show is the text, but for white space, only if they say it and are all literal. The
text may have come to them with more backslashes, from which some may then be lost before brackets.
-/
theorem inked_display_eq_iff {ps : List Piece} {more : List Char} (added : Sheds false more text)
    (said : (wording ps).Sublist more)
    (worn : (∀ p ∈ ps, p.IsPlain) ∧ Sheds true more (wording ps) ∨
      (wording ps).count '[' < more.count '[') :
    Text.inked (display ps) = Text.inked text ↔ Spelled ps text := by
  refine ⟨fun same => ?_, Spelled.inked_display⟩
  have shown := inked_display_bare added said same
  have tagless : ¬(wording ps).count '[' < more.count '[' := by
    rw [added.count_eq (by decide), ← count_eq_of_inked rfl same, count_eq_of_inked rfl shown,
      (sheds_flatMap_bareBrackets ps).count_eq (by decide)]
    exact Nat.lt_irrefl _
  obtain ⟨plain, lost⟩ := worn.resolve_right tagless
  obtain ⟨unpadded, bare⟩ := added.eq_of_inked (lost.trans (sheds_flatMap_bareBrackets ps))
    (shown.symm.trans same)
  subst unpadded
  have whole : wording ps = text := by
    have fewer := (sheds_flatMap_bareBrackets ps).sublist
    rw [bare] at fewer
    exact said.antisymm fewer
  have unguarded : ∀ p ∈ ps, bareBrackets p.wording = p.wording :=
    fun p hp => (sheds_bareBrackets p.wording).sublist.eq_of_length_le
      (count_le_of_flatMap List.length (fun _ _ => List.length_append)
        (fun p => (sheds_bareBrackets p.wording).sublist.length_le) (by rw [bare, whole]) p hp)
  refine ⟨fun p hp => ?_, whole⟩
  obtain ⟨t, rfl⟩ := plain p hp
  have named := showEmoji_of_inked_display added said same _ hp
  rw [unguarded _ hp] at named
  exact ⟨t, rfl, bareBrackets_eq_self_iff.1 (unguarded _ hp), named,
    isBlank_of_inked_display added said same _ hp⟩

/-- Pieces show the text that their markup comes from, but for white space, if and only if they are
all literal and make up all of it. -/
theorem Marked.inked_display_iff {markup more text : List Char} (h : Marked markup more)
    (added : Sheds false more text) :
    Text.inked (display (piecesFrom [] markup)) = Text.inked text ↔
      Spelled (piecesFrom [] markup) text := by
  obtain ⟨said, worn⟩ := h.worn []
  exact inked_display_eq_iff added said worn

end Spelled

section Spaced

variable {s t : List Char}

/-- A text in which white space follows each colon. -/
def Spaced : List Char → Prop
  | [] => True
  | c :: text => (c = ':' → ∀ d ∈ text.head?, Text.isBlank d = true) ∧ Spaced text

instance decidableSpaced : DecidablePred Spaced
  | [] => .isTrue trivial
  | c :: text =>
    have := decidableSpaced text
    have : Decidable (∀ d ∈ text.head?, Text.isBlank d = true) := Option.decidableForallMem _
    inferInstanceAs (Decidable ((c = ':' → ∀ d ∈ text.head?, Text.isBlank d = true) ∧ Spaced text))

theorem spaced_of_colonless (h : ':' ∉ text) : Spaced text := by
  induction text with
  | nil => trivial
  | cons c text ih =>
    rw [List.mem_cons, not_or] at h
    exact ⟨fun colon => absurd colon.symm h.1, ih h.2⟩

theorem Spaced.append (hs : Spaced s) (ht : Spaced t)
    (between : s.getLast? = some ':' → ∀ d ∈ t.head?, Text.isBlank d = true) : Spaced (s ++ t) := by
  induction s with
  | nil => exact ht
  | cons c s ih =>
    cases s with
    | nil => exact ⟨fun colon => between (congrArg some colon), ht⟩
    | cons d s => exact ⟨hs.1, ih hs.2 between⟩

theorem Spaced.of_append (h : Spaced (s ++ t)) : Spaced s ∧ Spaced t := by
  induction s with
  | nil => exact ⟨trivial, h⟩
  | cons c s ih =>
    obtain ⟨hs, ht⟩ := ih h.2
    refine ⟨⟨fun colon d hd => h.1 colon d ?_, hs⟩, ht⟩
    cases s with
    | nil => cases hd
    | cons => exact hd

theorem head?_of_form {word mark : List Char} (h : (word, mark) ∈ emojiForms) :
    word.head? = some '-' := by
  simp only [emojiForms, List.mem_cons, Prod.mk.injEq, List.not_mem_nil, or_false] at h
  rcases h with ⟨rfl, -⟩ | ⟨rfl, -⟩ <;> rfl

theorem emojiName?_of_blank (blank : ∀ d ∈ text.head?, Text.isBlank d = true) :
    emojiName? text = none := by
  cases text with
  | nil => rfl
  | cons d text =>
    have space := blank d rfl
    rw [emojiName?]
    split
    · next found formed =>
      obtain ⟨⟨word, mark⟩, form, marked⟩ := List.exists_of_findSome?_eq_some formed
      obtain ⟨rest, start, -⟩ := Option.map_eq_some_iff.1 marked
      have begins := congrArg List.head? (Text.afterStart?_eq_some.1 start)
      rw [List.head?_append, head?_of_form form] at begins
      cases begins
      cases space
    · have colon : d ≠ ':' := by
        rintro rfl
        cases space
      rw [if_neg colon, if_pos space]

theorem showEmoji_of_spaced (h : Spaced text) (fuel : Nat) : showEmoji fuel text = text := by
  induction fuel generalizing text with
  | zero => rfl
  | succ fuel ih =>
    cases text with
    | nil => rw [showEmoji]
    | cons c text =>
      rw [showEmoji, ih h.2]
      split
      · next colon => rw [emojiName?_of_blank (h.1 colon)]
      · rfl

/-- A text without backslashes, bells and backspaces, in which white space follows each colon. -/
structure Calm (text : List Char) : Prop where
  spaced : Spaced text
  unguarded : '\\' ∉ text
  control : ∀ c ∈ text, isDropped c = true → Text.isBlank c = true

instance : DecidablePred Calm := fun text =>
  have : Decidable (∀ c ∈ text, isDropped c = true → Text.isBlank c = true) :=
    List.decidableBAll _ _
  decidable_of_iff
    (Spaced text ∧ '\\' ∉ text ∧ ∀ c ∈ text, isDropped c = true → Text.isBlank c = true)
    ⟨fun ⟨spaced, unguarded, control⟩ => ⟨spaced, unguarded, control⟩,
      fun h => ⟨h.spaced, h.unguarded, h.control⟩⟩

theorem Calm.literal (h : Calm text) : Literal text where
  bracket guarded := h.unguarded (guarded.subset (.head _))
  pictograph := showEmoji_of_spaced h.spaced _
  control := h.control

theorem Calm.ends (h : Calm text) : text.getLast? ≠ some '\\' :=
  fun last => h.unguarded (List.mem_of_getLast? last)

theorem Calm.append (hs : Calm s) (ht : Calm t)
    (between : s.getLast? = some ':' → ∀ d ∈ t.head?, Text.isBlank d = true) : Calm (s ++ t) where
  spaced := hs.spaced.append ht.spaced between
  unguarded h := (List.mem_append.1 h).elim hs.unguarded ht.unguarded
  control c hc := (List.mem_append.1 hc).elim (hs.control c) (ht.control c)

theorem Calm.within (h : Calm t) (part : s <:+: t) : Calm s := by
  obtain ⟨before, after, rfl⟩ := part
  refine ⟨h.spaced.of_append.1.of_append.2, fun hs => h.unguarded ?_, fun c hc => h.control c ?_⟩
  · simp [hs]
  · simp [hc]

end Spaced

end WebScript.Display
