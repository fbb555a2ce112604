import WebScript.Pattern.Match
import WebScript.Proofs.Pattern.Leniency
import WebScript.Proofs.Pattern.Trees

namespace WebScript.Pattern

namespace Reading

variable {m m' n size size' : Nat} {r r' : Reader}

/-- Both have read a whole pattern, the second with a letter more for each bracket that has been
counted. -/
structure PatternRead (p : Pattern) (r : Reader) (p' : Pattern) (r' : Reader) : Prop where
  weight : p'.node.weight = p.node.weight + r.strays
  names : p'.names = p.names
  same : r.strays = 0 → p' = p

theorem pattern_inStep (h : Alike .nothing m m' 0 r r') (enough : m ≤ size) (enough' : m' ≤ size') :
    InStep PatternRead (pattern .bare size r) (pattern .lettered size' r') := by
  unfold pattern
  apply get_inStep
  have left : (lettered .nothing r.rest).length ≤ m' := h.rest ▸ h.size'
  rw [h.rest]
  apply (goTo_inStep h (by decide) h.size left).bind
  rintro _ s _ s' ⟨_, along⟩
  rw [h.flags]
  apply ((stepsWith _).alternatives _ _ along (by omega) (by omega)).bind
  rintro ⟨p, w⟩ u ⟨p', w'⟩ u' ⟨j, h, tree⟩
  apply get_inStep
  rw [h.flags, h.rest, h.flawed, h.tested, size_groups h, h.names, isEmpty_lettered]
  apply InStep.ite
  · exact fun _ => .error _
  · intro _
    apply InStep.ite
    · exact fun _ => .failed
    · intro _
      have weight : p'.weight = p.weight + (0 + j) := tree.weight
      refine .ok ⟨by rw [weight, h.strays], rfl, ?_⟩
      intro none
      have zero : 0 + j = 0 := h.strays ▸ none
      cases tree.same zero
      rfl

end Reading

/-- What the reader begins with, on a text in either spelling. -/
theorem alike_start (tokens : List Token) (flags : Flags) :
    Reading.Alike .nothing tokens.length (lettered .nothing tokens).length 0
      { rest := tokens, flags } { rest := lettered .nothing tokens, flags } where
  rest := rfl
  size := Nat.le_refl _
  size' := Nat.le_refl _
  strays := rfl
  flags := rfl
  names := rfl
  groups := .cons .none .nil
  groupsBefore := rfl
  tested := rfl
  flawed := rfl

theorem ofText_cases (text : String) :
    (∃ f, read .bare text.toList = .error f ∧ ofText text = .error f) ∨
    ∃ q strays p, read .bare text.toList = .ok (q, strays) ∧ ofText text = .ok p ∧
      p.node.weight = q.node.weight + strays ∧ p.names = q.names ∧ (strays = 0 → p = q) := by
  unfold ofText read
  dsimp only
  rw [ofText_withNamedGroups]
  have both := Reading.pattern_inStep (alike_start (Token.ofText text.toList)
      { ignoreCase := true, multiline := true })
    (Nat.le_refl _) (Nat.le_refl _)
  generalize Reading.pattern .bare _ _ = x, Reading.pattern .lettered _ _ = y at both ⊢
  cases both with
  | error f => exact .inl ⟨f, rfl, rfl⟩
  | ok h => exact .inr ⟨_, _, _, rfl, rfl, h.weight, h.names, h.same⟩

/-- A pattern denotes what it is with all names of groups spelled with a letter, unless a bracket
before what would be a name stands for itself; the letter after it is then one more character to
match. -/
theorem spelled_with_letters (text : String) :
    (∀ f, ofText text = .error f ↔ read .bare text.toList = .error f) ∧
    (∀ q strays, read .bare text.toList = .ok (q, strays) →
      ∃ p, ofText text = .ok p ∧ p.names = q.names ∧ p.node.weight = q.node.weight + strays ∧
        (p = q ↔ strays = 0)) ∧
    ∀ q strays, read .lettered text.toList = .ok (q, strays) →
      (ofText text = .ok q ↔ strays = 0) := by
  rcases ofText_cases text with ⟨f, bare, compiled⟩ | ⟨q, strays, p, bare, compiled, heavier,
    names, same⟩
  · rw [bare, compiled]
    refine ⟨fun _ => by rw [Except.error.injEq, Except.error.injEq], nofun, ?_⟩
    intro q strays lettered
    rw [read_bare_of_lettered lettered] at bare
    cases bare
  · have equal : p = q ↔ strays = 0 := by
      constructor
      · rintro rfl
        omega
      · exact same
    rw [bare, compiled]
    refine ⟨fun _ => ⟨nofun, nofun⟩, ?_, ?_⟩
    · rintro _ _ ⟨⟩
      exact ⟨p, rfl, names, heavier, equal⟩
    · intro _ _ lettered
      cases bare.symm.trans (read_bare_of_lettered lettered)
      rw [Except.ok.injEq]
      exact equal

theorem named_price :
    ∃ q, read .bare "(?<price>\\d+)".toList = .ok (q, 0) ∧ ofText "(?<price>\\d+)" = .ok q := by
  have unlettered : (read .bare "(?<price>\\d+)".toList).map (·.2) = .ok 0 := by decide +kernel
  obtain ⟨⟨q, strays⟩, bare, none⟩ := Except.map_eq_ok.1 unlettered
  obtain ⟨p, compiled, _, _, same⟩ := (spelled_with_letters "(?<price>\\d+)").2.1 q strays bare
  cases same.2 none
  cases none
  exact ⟨_, bare, compiled⟩

/-- A bracket that is escaped is no group, yet a letter is put after it: what matched no longer
does. -/
theorem escaped_bracket_named :
    ∃ q n p, read .lettered "\\(?<b>(?P<price>\\d+)".toList = .ok (q, n) ∧
    ofText "\\(?<b>(?P<price>\\d+)" = .ok p ∧ (find q "<b>5".toList.toArray).isSome ∧
    find p "<b>5".toList.toArray = none := by
  have plain : (read .lettered "\\(?<b>(?P<price>\\d+)".toList).map
      (fun x => (find x.1 "<b>5".toList.toArray).isSome) = .ok true := by decide +kernel
  have compiled : (ofText "\\(?<b>(?P<price>\\d+)").map
      (fun p => (find p "<b>5".toList.toArray).isNone) = .ok true := by decide +kernel
  obtain ⟨⟨q, n⟩, plain, found⟩ := Except.map_eq_ok.1 plain
  obtain ⟨p, compiled, lost⟩ := Except.map_eq_ok.1 compiled
  exact ⟨q, n, p, plain, compiled, found, Option.isNone_iff_eq_none.1 lost⟩

end WebScript.Pattern
