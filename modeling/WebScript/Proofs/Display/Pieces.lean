import Mathlib.Data.List.Count
import WebScript.Proofs.Display.Markup
import WebScript.Proofs.Text.Ink

namespace WebScript.Display

variable {c : Char} {text after tag before rest markup s t : List Char} {slashes fuel n k : Nat}

/-- A text is read tag by tag and, where none begins, character by character. -/
@[elab_as_elim]
theorem tag_induction {motive : List Char → Prop} (text : List Char) (nil : motive [])
    (none : ∀ c rest, tagAt? (c :: rest) = none → motive rest → motive (c :: rest))
    (tag : ∀ text slashes tag after, tagAt? text = some (slashes, tag, after) → motive after →
      motive text) : motive text := by
  induction size : text.length using Nat.strong_induction_on generalizing text with
  | _ size ih =>
    subst size
    cases found : tagAt? text with
    | some t =>
      obtain ⟨slashes, inside, after⟩ := t
      exact tag text slashes inside after found (ih _ (length_lt_of_tagAt? found) after rfl)
    | none =>
      cases text with
      | nil => exact nil
      | cons c rest => exact none c rest found (ih _ (Nat.lt_succ_self _) rest rfl)

/-- The pieces of markup with just the fuel that it takes. -/
def piecesFrom (before text : List Char) : List Piece :=
  pieces text.length before text

theorem pieces_of_enough (enough : text.length ≤ fuel) :
    pieces fuel before text = piecesFrom before text := by
  induction text using tag_induction generalizing fuel before with
  | nil => cases fuel <;> rfl
  | none c rest found ih =>
    obtain ⟨fuel, rfl⟩ := Nat.exists_eq_add_of_le' (Nat.le_trans (Nat.le_add_left 1 _) enough)
    rw [piecesFrom, List.length_cons, pieces_of_none found, pieces_of_none found]
    exact ih (Nat.le_of_succ_le_succ enough)
  | tag text slashes tag after found ih =>
    have shorter := length_lt_of_tagAt? found
    obtain ⟨fuel, rfl⟩ := Nat.exists_eq_add_of_le' (Nat.le_trans (Nat.zero_lt_of_lt shorter) enough)
    obtain ⟨size, same⟩ := Nat.exists_eq_add_of_le' (Nat.zero_lt_of_lt shorter)
    rw [piecesFrom, same, pieces_of_tag found, pieces_of_tag found, ih (by omega), ih (by omega)]

theorem piecesFrom_nil (before : List Char) : piecesFrom before [] = plainPiece before.reverse :=
  rfl

theorem piecesFrom_of_none (h : tagAt? (c :: rest) = none) :
    piecesFrom before (c :: rest) = piecesFrom (c :: before) rest := by
  rw [piecesFrom, List.length_cons, pieces_of_none h, piecesFrom]

theorem piecesFrom_of_tag (h : tagAt? text = some (slashes, tag, after)) :
    piecesFrom before text =
      plainPiece before.reverse ++ (plainPiece (List.replicate (slashes / 2) '\\') ++
        (if slashes % 2 = 1 then .plain ('[' :: tag ++ [']']) else .tag tag) ::
          piecesFrom [] after) := by
  have shorter := length_lt_of_tagAt? h
  obtain ⟨size, same⟩ := Nat.exists_eq_add_of_le' (Nat.zero_lt_of_lt shorter)
  rw [piecesFrom, same, pieces_of_tag h, pieces_of_enough (by omega)]

theorem piecesFrom_toList (markup : String) :
    pieces (markup.length + 1) [] markup.toList = piecesFrom [] markup.toList := by
  apply pieces_of_enough
  rw [String.length_toList]
  exact Nat.le_succ _

section Wording

def wording (ps : List Piece) : List Char :=
  ps.flatMap Piece.wording

@[simp] theorem wording_nil : wording [] = [] := rfl

@[simp] theorem wording_cons (p : Piece) (ps : List Piece) :
    wording (p :: ps) = p.wording ++ wording ps := rfl

@[simp] theorem wording_append (ps qs : List Piece) :
    wording (ps ++ qs) = wording ps ++ wording qs :=
  List.flatMap_append

@[simp] theorem wording_plainPiece (text : List Char) : wording (plainPiece text) = text := by
  rw [plainPiece]
  cases text with
  | nil => rfl
  | cons c text => simp [Piece.wording]

/-- The pieces of markup are plain unless one of its tags is, after an even number of backslashes.
-/
theorem isPlain_piecesFrom_of_tag (h : tagAt? text = some (slashes, tag, after)) :
    (∀ p ∈ piecesFrom before text, p.IsPlain) ↔
      slashes % 2 = 1 ∧ ∀ p ∈ piecesFrom [] after, p.IsPlain := by
  rw [piecesFrom_of_tag h]
  simp only [List.forall_mem_append, List.forall_mem_cons]
  constructor
  · intro ⟨_, _, here, later⟩
    refine ⟨?_, later⟩
    by_contra even
    rw [if_neg even] at here
    obtain ⟨text, same⟩ := here
    cases same
  · intro ⟨odd, later⟩
    rw [if_pos odd]
    exact ⟨fun p => isPlain_of_mem_plainPiece, fun p => isPlain_of_mem_plainPiece, ⟨_, rfl⟩, later⟩

theorem wording_piecesFrom_of_tag (h : tagAt? text = some (slashes, tag, after)) :
    wording (piecesFrom before text) =
      before.reverse ++ (List.replicate (slashes / 2) '\\' ++
        ((if slashes % 2 = 1 then '[' :: (tag ++ [']']) else []) ++
          wording (piecesFrom [] after))) := by
  rw [piecesFrom_of_tag h]
  simp only [wording_append, wording_cons, wording_plainPiece]
  split <;> rfl

end Wording

section Marked

/-- Markup that comes from a text by escaping some of its tags. -/
inductive Marked : (markup text : List Char) → Prop
  | nil : Marked [] []
  | cons (c : Char) {markup text} (h : Marked markup text) : Marked (c :: markup) (c :: text)
  | tag (k : Nat) {tag markup text} (inside : TagText tag) (h : Marked markup text) :
      Marked (List.replicate (2 * k + 1) '\\' ++ '[' :: (tag ++ ']' :: markup))
        (List.replicate k '\\' ++ '[' :: (tag ++ ']' :: text))

theorem Marked.refl (text : List Char) : Marked text text := by
  induction text with
  | nil => exact .nil
  | cons c _ ih => exact .cons c ih

theorem Marked.append {markup' text' : List Char} (h : Marked markup text)
    (h' : Marked markup' text') : Marked (markup ++ markup') (text ++ text') := by
  induction h with
  | nil => exact h'
  | cons c _ ih => exact .cons c ih
  | tag k inside _ ih =>
    simp only [List.append_assoc, List.cons_append]
    exact .tag k inside ih

theorem marked_escapeTags (n : Nat) (text : List Char) : Marked (escapeTags n text) text := by
  induction text using tag_induction generalizing n with
  | nil =>
    rw [escapeTags_nil]
    exact .nil
  | none c rest found ih =>
    rw [escapeTags_of_none found]
    exact .cons c (ih _)
  | tag text slashes tag after found ih =>
    cases n with
    | zero => exact .refl text
    | succ n =>
      obtain ⟨inside, rfl⟩ := tagAt?_eq_some.1 found
      rw [escapeTags_of_tag found]
      exact .tag slashes inside (ih n)

theorem TagText.isBracket (h : TagText tag) : ∀ d ∈ tag, isBracket d = false := by
  obtain @⟨c, inside, start, plain⟩ := h
  intro d hd
  rcases List.mem_cons.1 hd with rfl | hd
  · by_contra bracket
    rw [Bool.not_eq_false, Display.isBracket, Bool.or_eq_true, beq_iff_eq, beq_iff_eq] at bracket
    rcases bracket with rfl | rfl <;> cases start
  · exact plain d hd

theorem marked_bracket (plain : ∀ d ∈ tag, isBracket d = false)
    (h : Marked (tag ++ ']' :: markup) text) :
    ∃ rest, text = tag ++ ']' :: rest ∧ Marked markup rest := by
  induction tag generalizing text with
  | nil =>
    generalize same : [] ++ ']' :: markup = whole at h
    cases h with
    | nil => cases same
    | cons c h =>
      cases same
      exact ⟨_, rfl, h⟩
    | tag k =>
      rw [List.replicate_succ] at same
      cases same
  | cons d tag ih =>
    generalize same : d :: tag ++ ']' :: markup = whole at h
    cases h with
    | nil => cases same
    | cons c h =>
      cases same
      obtain ⟨rest, rfl, later⟩ := ih (fun e he => plain e (.tail _ he)) h
      exact ⟨rest, rfl, later⟩
    | tag k =>
      -- The first bracket is a closing one, so no tag begins before it.
      have opens := congrArg (List.find? isBracket) same
      rw [find?_backslashes, List.find?_append,
        List.find?_eq_none.2 fun e he => by rw [plain e he]; exact Bool.false_ne_true] at opens
      cases opens

/-- A tag of the markup is one of the text, before which there are at least half of the backslashes.
-/
theorem marked_of_tag (inside : TagText tag)
    (h : Marked (List.replicate n '\\' ++ '[' :: (tag ++ ']' :: markup)) text) :
    ∃ m rest, n / 2 ≤ m ∧ text = List.replicate m '\\' ++ '[' :: (tag ++ ']' :: rest) ∧
      Marked markup rest := by
  induction n generalizing text with
  | zero =>
    generalize same : List.replicate 0 '\\' ++ '[' :: (tag ++ ']' :: markup) = whole at h
    cases h with
    | nil => cases same
    | cons c h =>
      cases same
      obtain ⟨rest, rfl, later⟩ := marked_bracket inside.isBracket h
      exact ⟨0, rest, Nat.le_refl 0, rfl, later⟩
    | tag k =>
      rw [List.replicate_succ] at same
      cases same
  | succ n ih =>
    generalize same : List.replicate (n + 1) '\\' ++ '[' :: (tag ++ ']' :: markup) = whole at h
    cases h with
    | nil => cases same
    | cons c h =>
      cases same
      obtain ⟨m, rest, half, rfl, later⟩ := ih h
      exact ⟨m + 1, rest, by omega, rfl, later⟩
    | @tag k tag' markup' text' inside' h =>
      have read : tagAt? (List.replicate (n + 1) '\\' ++ '[' :: (tag ++ ']' :: markup)) =
          some (2 * k + 1, tag', markup') := tagAt?_eq_some.2 ⟨inside', same⟩
      rw [tagAt?_eq_some.2 ⟨inside, rfl⟩] at read
      cases read
      exact ⟨k, text', by omega, rfl, h⟩

end Marked

section Sheds

/-- Whether an opening bracket comes next in a text but for backslashes and white space. -/
def opens (text : List Char) : Bool :=
  text.find? (fun c => c != '\\' && !Text.isBlank c) == some '['

/-- A text after the loss of backslashes: of some before opening brackets, or of some elsewhere. -/
inductive Sheds (guarding : Bool) : (text left : List Char) → Prop
  | nil : Sheds guarding [] []
  | keep (c : Char) {text left} (h : Sheds guarding text left) :
      Sheds guarding (c :: text) (c :: left)
  | drop {text left} (next : opens text = guarding) (h : Sheds guarding text left) :
      Sheds guarding ('\\' :: text) left

variable {guarding : Bool}

theorem opens_cons (c : Char) (text : List Char) :
    opens (c :: text) = if c != '\\' && !Text.isBlank c then c == '[' else opens text := by
  rw [opens, List.find?_cons]
  cases c != '\\' && !Text.isBlank c with
  | true => simp
  | false => rfl

theorem opens_append (h : opens t = true) (s : List Char) : opens (t ++ s) = true := by
  rw [opens, beq_iff_eq] at h ⊢
  rw [List.find?_append, h]
  rfl

theorem opens_append_of_calm (h : opens t = false) (h' : opens s = false) :
    opens (t ++ s) = false := by
  rw [opens, beq_eq_false_iff_ne] at h h' ⊢
  rw [List.find?_append]
  cases found : t.find? (fun c => c != '\\' && !Text.isBlank c) with
  | none => exact h'
  | some c => rwa [found] at h

theorem opens_bracket (k : Nat) (text : List Char) :
    opens (List.replicate k '\\' ++ '[' :: text) = true := by
  rw [opens, List.find?_append, List.find?_replicate]
  simp [Text.isBlank]

theorem opens_inked (text : List Char) : opens (Text.inked text) = opens text := by
  induction text with
  | nil => rfl
  | cons c text ih =>
    cases blank : Text.isBlank c with
    | true =>
      rw [Text.inked_cons_of_blank blank, ih, opens_cons, blank, Bool.not_true, Bool.and_false]
      rfl
    | false => rw [Text.inked_cons_of_not_blank blank, opens_cons, opens_cons, ih]

namespace Sheds

theorem append_left (u : List Char) (h : Sheds guarding t s) :
    Sheds guarding (u ++ t) (u ++ s) := by
  induction u with
  | nil => exact h
  | cons c _ ih => exact .keep c ih

theorem refl (text : List Char) : Sheds guarding text text := by
  induction text with
  | nil => exact .nil
  | cons c _ ih => exact .keep c ih

theorem opens_eq (h : Sheds guarding t s) : opens t = opens s := by
  induction h with
  | nil => rfl
  | keep c _ ih => rw [opens_cons, opens_cons, ih]
  | drop _ _ ih => exact (opens_cons _ _).trans ih

theorem trans {r : List Char} (h : Sheds guarding t s) (h' : Sheds guarding s r) :
    Sheds guarding t r := by
  induction h generalizing r with
  | nil => exact h'
  | keep c h ih =>
    cases h' with
    | keep _ h' => exact .keep c (ih h')
    | drop next h' => exact .drop (h.opens_eq.trans next) (ih h')
  | drop next _ ih => exact .drop next (ih h')

theorem append {t' s' : List Char} (h : Sheds true t s) (h' : Sheds true t' s') :
    Sheds true (t ++ t') (s ++ s') := by
  induction h with
  | nil => exact h'
  | keep c _ ih => exact .keep c ih
  | drop next _ ih => exact .drop (opens_append next _) ih

theorem append_of_calm {t' s' : List Char} (h : Sheds false t s) (h' : Sheds false t' s')
    (calm : opens t' = false) : Sheds false (t ++ t') (s ++ s') := by
  induction h with
  | nil => exact h'
  | keep c _ ih => exact .keep c ih
  | drop next _ ih => exact .drop (opens_append_of_calm next calm) ih

theorem bracket {m : Nat} (fewer : k ≤ m) (h : Sheds true t s) :
    Sheds true (List.replicate m '\\' ++ '[' :: t) (List.replicate k '\\' ++ '[' :: s) := by
  induction fewer with
  | refl => exact (Sheds.keep '[' h).append_left _
  | @step m _ ih =>
    rw [List.replicate_succ, List.cons_append]
    exact .drop (opens_bracket m t) ih

theorem backslashes (k : Nat) (h : Sheds false t s) (next : opens s = false) :
    Sheds false (List.replicate k '\\' ++ t) s := by
  induction k with
  | zero => exact h
  | succ k ih =>
    rw [List.replicate_succ, List.cons_append]
    exact .drop (ih.opens_eq.trans next) ih

theorem sublist (h : Sheds guarding t s) : s.Sublist t := by
  induction h with
  | nil => exact .slnil
  | keep c _ ih => exact .cons_cons c ih
  | drop _ _ ih => exact .cons _ ih

theorem eq_of_length (h : Sheds guarding t s)
    (same : (Text.inked s).length = (Text.inked t).length) : s = t := by
  induction h with
  | nil => rfl
  | keep c _ ih =>
    rw [ih]
    cases blank : Text.isBlank c with
    | true => rwa [Text.inked_cons_of_blank blank, Text.inked_cons_of_blank blank] at same
    | false =>
      rw [Text.inked_cons_of_not_blank blank, Text.inked_cons_of_not_blank blank] at same
      exact Nat.succ_inj.1 same
  | drop _ h _ =>
    rw [Text.inked_cons_of_not_blank (by decide), List.length_cons] at same
    have fewer := (h.sublist.filter (!Text.isBlank ·)).length_le
    rw [Text.inked, Text.inked] at same
    omega

end Sheds

/-- How many backslashes stand before opening brackets. -/
def guards : List Char → Nat
  | [] => 0
  | c :: text => guards text + if c == '\\' && opens text then 1 else 0

theorem guards_inked (text : List Char) : guards (Text.inked text) = guards text := by
  induction text with
  | nil => rfl
  | cons c text ih =>
    cases blank : Text.isBlank c with
    | true =>
      have other : (c == '\\') = false := by
        rw [beq_eq_false_iff_ne]
        rintro rfl
        cases blank
      rw [Text.inked_cons_of_blank blank, ih, guards, other]
      rfl
    | false => rw [Text.inked_cons_of_not_blank blank, guards, guards, ih, opens_inked]

theorem Sheds.guards_eq (h : Sheds false t s) : guards t = guards s := by
  induction h with
  | nil => rfl
  | keep c h ih => rw [guards, guards, h.opens_eq, ih]
  | drop next _ ih =>
    rw [guards, next, Bool.and_false, ih]
    rfl

theorem Sheds.guards_add (h : Sheds true t s) :
    guards t + (Text.inked s).length = guards s + (Text.inked t).length := by
  induction h with
  | nil => rfl
  | keep c h ih =>
    rw [guards, guards, h.opens_eq]
    cases blank : Text.isBlank c with
    | true =>
      rw [Text.inked_cons_of_blank blank, Text.inked_cons_of_blank blank]
      omega
    | false =>
      rw [Text.inked_cons_of_not_blank blank, Text.inked_cons_of_not_blank blank, List.length_cons,
        List.length_cons]
      omega
  | drop next _ ih =>
    rw [guards, next, Text.inked_cons_of_not_blank (by decide), List.length_cons]
    simp only [beq_self_eq_true, Bool.and_self, if_true]
    omega

/-- Backslashes that are lost before brackets never make up for others that come in elsewhere. -/
theorem Sheds.eq_of_inked {u : List Char} (added : Sheds false u t) (lost : Sheds true u s)
    (same : Text.inked s = Text.inked t) : t = u ∧ s = u := by
  have lengths := lost.guards_add
  have guarded : guards s = guards u := by
    rw [← guards_inked s, same, guards_inked, added.guards_eq]
  have kept : s = u := lost.eq_of_length (by omega)
  exact ⟨added.eq_of_length (by rw [← same, kept]), kept⟩

end Sheds

/-- The wording of markup from a text is the text, unless a tag is not escaped or backslashes before
brackets are lost. -/
theorem Marked.worn (h : Marked markup text) (before : List Char) :
    (wording (piecesFrom before markup)).Sublist (before.reverse ++ text) ∧
      ((∀ p ∈ piecesFrom before markup, p.IsPlain) ∧
          Sheds true (before.reverse ++ text) (wording (piecesFrom before markup)) ∨
        (wording (piecesFrom before markup)).count '[' < (before.reverse ++ text).count '[') := by
  induction markup using tag_induction generalizing text before with
  | nil =>
    cases h
    rw [piecesFrom_nil, wording_plainPiece, List.append_nil]
    exact ⟨.refl _, .inl ⟨fun p => isPlain_of_mem_plainPiece, .refl _⟩⟩
  | none c markup found ih =>
    generalize same : c :: markup = whole at h
    cases h with
    | nil => cases same
    | @cons _ _ text h =>
      cases same
      rw [piecesFrom_of_none found]
      have shifted : before.reverse ++ c :: text = (c :: before).reverse ++ text := by simp
      rw [shifted]
      exact ih h (c :: before)
    | tag k inside =>
      rw [same, tagAt?_eq_some.2 ⟨inside, rfl⟩] at found
      cases found
  | tag markup slashes tag after found ih =>
    obtain ⟨inside, rfl⟩ := tagAt?_eq_some.1 found
    obtain ⟨m, rest, half, rfl, later⟩ := marked_of_tag inside h
    obtain ⟨fewer, worn⟩ := ih later []
    rw [List.reverse_nil, List.nil_append] at fewer worn
    rw [isPlain_piecesFrom_of_tag found, wording_piecesFrom_of_tag found]
    have slashesLeft : (List.replicate (slashes / 2) '\\').Sublist (List.replicate m '\\') :=
      List.replicate_sublist_replicate '\\' |>.2 half
    by_cases odd : slashes % 2 = 1
    · rw [if_pos odd, List.cons_append, List.append_assoc, List.singleton_append]
      constructor
      · exact (slashesLeft.append
          (((fewer.cons_cons ']').append_left tag).cons_cons '[')).append_left _
      · rcases worn with ⟨plain, shed⟩ | swallowed
        · exact .inl ⟨⟨odd, plain⟩,
            (Sheds.bracket half ((Sheds.keep ']' shed).append_left tag)).append_left _⟩
        · refine .inr ?_
          simp only [List.count_append, List.count_cons, List.count_replicate] at swallowed ⊢
          simpa using swallowed
    · rw [if_neg odd, List.nil_append]
      constructor
      · exact (slashesLeft.append ((fewer.cons ']').trans
          (List.sublist_append_right tag _) |>.cons '[')).append_left _
      · refine .inr ?_
        have fewerBrackets := fewer.count_le '['
        simp only [List.count_append, List.count_cons, List.count_replicate]
        simp
        omega

end WebScript.Display
