import Mathlib.Data.List.Infix
import WebScript.Text.Find

namespace WebScript.Text

variable {needle start text before after rest : List Char} {separator : Char}
  {parts : List (List Char)}

theorem afterStart?_eq_some : afterStart? start text = some rest ↔ start ++ rest = text := by
  induction start generalizing text with
  | nil =>
    rw [afterStart?, Option.some_inj, List.nil_append]
    exact eq_comm
  | cons a start ih =>
    cases text with
    | nil => exact ⟨nofun, nofun⟩
    | cons b text =>
      by_cases same : a = b
      · rw [afterStart?, if_pos same, ih, List.cons_append, same, List.cons_inj_right]
      · rw [afterStart?, if_neg same, List.cons_append]
        exact ⟨nofun, fun h => absurd (List.cons.inj h).1 same⟩

theorem cutAt?_eq_some (h : cutAt? needle text = some (before, after)) :
    before ++ needle ++ after = text := by
  induction text generalizing before with
  | nil =>
    rw [cutAt?] at h
    split at h
    · next found =>
      cases h
      exact afterStart?_eq_some.1 found
    · cases h
  | cons c text ih =>
    rw [cutAt?] at h
    split at h
    · next found =>
      cases h
      exact afterStart?_eq_some.1 found
    · obtain ⟨⟨before', after'⟩, cut, h⟩ := Option.map_eq_some_iff.1 h
      cases h
      rw [List.cons_append, List.cons_append, ih cut]

theorem cutAt?_eq_none : cutAt? needle text = none ↔ ¬needle <:+: text := by
  induction text with
  | nil =>
    rw [cutAt?]
    split
    · next found =>
      have here : needle <:+: [] := ⟨[], _, afterStart?_eq_some.1 found⟩
      exact ⟨nofun, fun h => absurd here h⟩
    · next lost =>
      refine iff_of_true rfl fun h => ?_
      obtain rfl := List.infix_nil.1 h
      cases lost
  | cons c text ih =>
    rw [cutAt?]
    split
    · next found =>
      have here : needle <:+: c :: text := ⟨[], _, afterStart?_eq_some.1 found⟩
      exact ⟨nofun, fun h => absurd here h⟩
    · next lost =>
      rw [Option.map_eq_none_iff, ih, List.infix_cons_iff, not_or]
      refine (and_iff_right ?_).symm
      rintro ⟨rest, h⟩
      cases lost.symm.trans (afterStart?_eq_some.2 h)

theorem cutAt?_append {c : Char} (absent : c ∉ before) :
    cutAt? [c] (before ++ c :: after) = some (before, after) := by
  induction before with
  | nil => simp [cutAt?, afterStart?]
  | cons a before ih =>
    obtain ⟨other, absent⟩ := not_or.1 (mt List.mem_cons.2 absent)
    rw [List.cons_append, cutAt?, afterStart?, if_neg other, ih absent]
    rfl

theorem cutAt?_singleton {c : Char} :
    cutAt? [c] text = some (before, after) ↔ text = before ++ c :: after ∧ c ∉ before := by
  constructor
  · intro h
    induction text generalizing before with
    | nil => cases h
    | cons a text ih =>
      by_cases here : c = a
      · simp only [cutAt?, afterStart?, if_pos here] at h
        cases h
        exact ⟨by rw [here]; rfl, nofun⟩
      · simp only [cutAt?, afterStart?, if_neg here] at h
        obtain ⟨⟨before, after⟩, cut, h⟩ := Option.map_eq_some_iff.1 h
        cases h
        obtain ⟨split, absent⟩ := ih cut
        exact ⟨by rw [split]; rfl, by simp [here, absent]⟩
  · rintro ⟨rfl, absent⟩
    exact cutAt?_append absent

/-- Whatever follows the needle anywhere follows it at the cut as well. -/
theorem suffix_of_cutAt? (h : cutAt? needle text = some (before, after))
    (place : needle ++ rest <:+ text) : rest <:+ after := by
  induction text generalizing before with
  | nil =>
    obtain ⟨_, rfl⟩ := List.append_eq_nil_iff.1 (List.suffix_nil.1 place)
    exact List.nil_suffix
  | cons c text ih =>
    rw [cutAt?] at h
    split at h
    · next found =>
      cases h
      have whole := afterStart?_eq_some.1 found
      have shorter := place.length_le
      rw [← whole, List.length_append, List.length_append, Nat.add_le_add_iff_left] at shorter
      have end₁ : rest <:+ c :: text := (List.suffix_append needle rest).trans place
      have end₂ : after <:+ c :: text := ⟨needle, whole⟩
      exact List.suffix_of_suffix_length_le end₁ end₂ shorter
    · next lost =>
      obtain ⟨⟨before', after'⟩, cut, h⟩ := Option.map_eq_some_iff.1 h
      cases h
      rcases List.suffix_cons_iff.1 place with here | later
      · cases lost.symm.trans (afterStart?_eq_some.2 here)
      · exact ih cut later

theorem drop_length_takeWhile {α : Type} (p : α → Bool) (l : List α) :
    l.drop (l.takeWhile p).length = l.dropWhile p := by
  have split : l.takeWhile p ++ l.dropWhile p = l := List.takeWhile_append_dropWhile
  calc l.drop (l.takeWhile p).length
    _ = (l.takeWhile p ++ l.dropWhile p).drop (l.takeWhile p).length := by rw [split]
    _ = l.dropWhile p := List.drop_left

theorem pieces_of_absent (absent : separator ∉ text) : pieces separator text = [text] := by
  induction text with
  | nil => rfl
  | cons c text ih =>
    obtain ⟨other, absent⟩ := not_or.1 (mt List.mem_cons.2 absent)
    rw [pieces, if_neg (Ne.symm other), ih absent]

theorem pieces_append (absent : separator ∉ before) :
    pieces separator (before ++ separator :: after) = before :: pieces separator after := by
  induction before with
  | nil => rw [List.nil_append, pieces, if_pos rfl]
  | cons c before ih =>
    obtain ⟨other, absent⟩ := not_or.1 (mt List.mem_cons.2 absent)
    rw [List.cons_append, pieces, if_neg (Ne.symm other), ih absent]

/-- Parts that a separator joins are the pieces of the text, if it stands in none of them. -/
theorem pieces_intercalate (nonempty : parts ≠ []) (absent : ∀ part ∈ parts, separator ∉ part) :
    pieces separator ([separator].intercalate parts) = parts := by
  induction parts with
  | nil => exact absurd rfl nonempty
  | cons part parts ih =>
    obtain ⟨here, later⟩ := List.forall_mem_cons.1 absent
    cases parts with
    | nil => rw [List.intercalate_singleton, pieces_of_absent here]
    | cons next parts =>
      rw [List.intercalate_cons_cons, List.append_assoc, List.singleton_append, pieces_append here,
        ih (List.cons_ne_nil _ _) later]

theorem flatten_pieces (separator : Char) (text : List Char) :
    (pieces separator text).flatten = text.filter (· != separator) := by
  fun_induction pieces separator text with
  | case1 => rfl
  | case2 text ih => simpa using ih
  | case3 c text other none ih =>
    rw [none] at ih
    simpa [other] using ih
  | case4 c text other piece rest split ih =>
    rw [split] at ih
    simpa [other] using ih

theorem exists_pieces_eq_cons (separator : Char) (text : List Char) :
    ∃ first rest, pieces separator text = first :: rest ∧ first <+: text ∧
      ∀ piece ∈ rest, piece <:+: text := by
  fun_induction pieces separator text with
  | case1 => exact ⟨[], [], rfl, List.prefix_rfl, nofun⟩
  | case2 text ih =>
    obtain ⟨first, rest, split, start, parts⟩ := ih
    refine ⟨[], _, rfl, List.nil_prefix, ?_⟩
    intro piece hp
    rw [split] at hp
    rcases List.mem_cons.1 hp with rfl | hp
    · exact List.infix_cons start.isInfix
    · exact List.infix_cons (parts piece hp)
  | case3 c text other none ih =>
    obtain ⟨first, rest, split, _⟩ := ih
    cases none.symm.trans split
  | case4 c text other piece rest split ih =>
    obtain ⟨first, rest', split', start, parts⟩ := ih
    cases split.symm.trans split'
    refine ⟨_, _, rfl, List.cons_prefix_cons.2 ⟨rfl, start⟩, ?_⟩
    intro piece hp
    exact List.infix_cons (parts piece hp)

theorem infix_of_mem_pieces {separator : Char} {piece : List Char}
    (h : piece ∈ pieces separator text) : piece <:+: text := by
  obtain ⟨first, rest, split, start, parts⟩ := exists_pieces_eq_cons separator text
  rw [split] at h
  rcases List.mem_cons.1 h with rfl | later
  · exact start.isInfix
  · exact parts piece later

end WebScript.Text
