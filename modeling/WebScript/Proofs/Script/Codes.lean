import WebScript.Proofs.Number
import WebScript.Proofs.Script.Obstacles
import WebScript.Proofs.Text.Find

namespace WebScript

variable {codes : List Int} {texts : List String} {items : List Value} {v : Value} {n : Int}

section Items

def SpelledBy (n : Int) (item : Value) : Prop :=
  Number.Spells n item.asText

theorem spelledBy_int (n : Int) : SpelledBy n (.int n) :=
  Number.spells_intText n

/-- The items that spell some numbers give these numbers, or nothing where one of them is too long.
-/
theorem mapM_read? (spelled : List.Forall₂ SpelledBy codes items) :
    (items.mapM fun item => Number.read? (Text.trim item.asText).toList) =
      if ∀ n ∈ codes, Number.IsShort n then some codes else none := by
  induction spelled with
  | nil => exact (if_pos nofun).symm
  | @cons n item codes items here later ih =>
    rw [List.mapM_cons, Number.Spells.read? here, ih]
    by_cases short : Number.IsShort n
    · rw [if_pos short]
      by_cases rest : ∀ n ∈ codes, Number.IsShort n
      · rw [if_pos rest, if_pos (List.forall_mem_cons.2 ⟨short, rest⟩)]
        rfl
      · rw [if_neg rest, if_neg fun h => rest (List.forall_mem_cons.1 h).2]
        rfl
    · rw [if_neg short, if_neg fun h => short (List.forall_mem_cons.1 h).1]
      rfl

/-- Whatever has items that spell some numbers lists just these numbers, be its items numbers or
texts, and is refused where one of them is too long. -/
theorem statusCodes_of_items (listed : statusItems? v = some items) (nonempty : codes ≠ [])
    (spelled : List.Forall₂ SpelledBy codes items) :
    statusCodes v =
      if ∀ n ∈ codes, Number.IsShort n then .ok codes else v.raiseShowing .badStatusCodes := by
  unfold statusCodes
  split
  · cases listed
  · -- The empty text has one piece, which spells no number.
    cases listed
    cases spelled with
    | cons here later => exact absurd rfl (Number.Spells.ne_empty here)
  · cases listed
    cases spelled
    exact absurd rfl nonempty
  · rw [listed, Option.bind_some, mapM_read? spelled]
    by_cases short : ∀ n ∈ codes, Number.IsShort n
    · rw [if_pos short, if_pos short]
    · rw [if_neg short, if_neg short]

theorem statusCodes_eq_ok_iff_of_items (listed : statusItems? v = some items)
    (nonempty : codes ≠ []) (spelled : List.Forall₂ SpelledBy codes items) :
    statusCodes v = .ok codes ↔ ∀ n ∈ codes, Number.IsShort n := by
  rw [statusCodes_of_items listed nonempty spelled]
  by_cases short : ∀ n ∈ codes, Number.IsShort n
  · rw [if_pos short]
    exact iff_of_true rfl short
  · rw [if_neg short]
    exact iff_of_false (Value.raiseShowing_ne_ok codes) short

end Items

section Notations

theorem spelled_numbers (codes : List Int) :
    List.Forall₂ SpelledBy codes (codes.map Value.int) := by
  rw [List.forall₂_map_right_iff, List.forall₂_same]
  intro n _
  exact spelledBy_int n

theorem spelled_texts (spelled : List.Forall₂ Number.Spells codes texts) :
    List.Forall₂ SpelledBy codes (texts.map Value.text) :=
  List.forall₂_map_right_iff.2 spelled

theorem comma_not_mem_of_spelled (spelled : List.Forall₂ Number.Spells codes texts) :
    ∀ text ∈ texts, ',' ∉ text.toList := by
  induction spelled with
  | nil => exact nofun
  | cons here later ih => exact List.forall_mem_cons.2 ⟨here.comma_not_mem, ih⟩

/-- The parts of the text are the texts that were joined, since none of them holds a comma. -/
theorem statusItems?_joined (nonempty : codes ≠ [])
    (spelled : List.Forall₂ Number.Spells codes texts) :
    statusItems? (.text (",".intercalate texts)) = some (texts.map Value.text) := by
  have parts : texts.map String.toList ≠ [] := by
    intro none
    cases List.map_eq_nil_iff.1 none
    cases spelled
    exact nonempty rfl
  have commaless : ∀ part ∈ texts.map String.toList, ',' ∉ part := by
    intro part hp
    obtain ⟨text, ht, rfl⟩ := List.mem_map.1 hp
    exact comma_not_mem_of_spelled spelled text ht
  have separator : ",".toList = [','] := rfl
  rw [statusItems?, String.toList_intercalate, separator, Text.pieces_intercalate parts commaless,
    List.map_map]
  congr 2
  funext text
  exact congrArg Value.text (String.ofList_toList)

/-- Status codes come out as they are listed, in each of the notations: as numbers, as the texts of
these, and as these texts with commas between. The one condition is that all of them are short
enough to be read. -/
theorem statusCodes_as_listed (nonempty : codes ≠ [])
    (spelled : List.Forall₂ Number.Spells codes texts) :
    (statusCodes (.list (codes.map .int)) = .ok codes ↔ ∀ n ∈ codes, Number.IsShort n) ∧
    (statusCodes (.list (texts.map .text)) = .ok codes ↔ ∀ n ∈ codes, Number.IsShort n) ∧
    (statusCodes (.text (",".intercalate texts)) = .ok codes ↔ ∀ n ∈ codes, Number.IsShort n) := by
  have parts := spelled_texts spelled
  refine ⟨?_, ?_, ?_⟩
  · exact statusCodes_eq_ok_iff_of_items rfl nonempty (spelled_numbers codes)
  · exact statusCodes_eq_ok_iff_of_items rfl nonempty parts
  · exact statusCodes_eq_ok_iff_of_items (statusItems?_joined nonempty spelled) nonempty parts

/-- The longest negative number. -/
def lowestCode : Int :=
  -(Nat.pow 10 Number.maxDigits - 1 : Nat)

def spacedCodes : List Int :=
  [404, lowestCode, 404, 0]

def spacedTexts : List String :=
  ["404", .ofList (['\t'] ++ Number.intText lowestCode ++ ['\u001c']), "\u3000404 ", "0\n"]

theorem spacedTexts_spell : List.Forall₂ Number.Spells spacedCodes spacedTexts := by
  have first : Number.Spells 404 "404" := ⟨[], [], by decide, nofun⟩
  have second :
      Number.Spells lowestCode (.ofList (['\t'] ++ Number.intText lowestCode ++ ['\u001c'])) :=
    Number.spells_ofList (List.all_eq_true.1 rfl)
  have third : Number.Spells 404 "\u3000404 " :=
    ⟨['\u3000'], [' '], by decide, List.all_eq_true.1 rfl⟩
  have last : Number.Spells 0 "0\n" := ⟨[], ['\n'], by decide, List.all_eq_true.1 rfl⟩
  exact .cons first (.cons second (.cons third (.cons last .nil)))

theorem spacedCodes_listed :
    spacedCodes ≠ [] ∧ List.Forall₂ Number.Spells spacedCodes spacedTexts ∧
    statusCodes (.list (spacedCodes.map .int)) = .ok spacedCodes ∧
    statusCodes (.list (spacedTexts.map .text)) = .ok spacedCodes ∧
    statusCodes (.text (",".intercalate spacedTexts)) = .ok spacedCodes := by
  have nonempty : spacedCodes ≠ [] := List.cons_ne_nil _ _
  have short : ∀ n ∈ spacedCodes, Number.IsShort n := by decide +kernel
  obtain ⟨numbers, parts, joined⟩ := statusCodes_as_listed nonempty spacedTexts_spell
  exact ⟨nonempty, spacedTexts_spell, numbers.2 short, parts.2 short, joined.2 short⟩

end Notations

section Refusal

theorem isWritable_int_iff : (Value.int n).isWritable = true ↔ Number.IsShort n := by
  rw [Value.isWritable, decide_eq_true_eq]
  rfl

theorem areWritable_texts (texts : List String) : Value.areWritable (texts.map .text) = true := by
  induction texts with
  | nil => rfl
  | cons text texts ih => exact ih

/-- Where a code is too long, none comes out of any notation. The texts are refused, but the numbers
break the reading down, since the error that refuses them cannot show them. -/
theorem statusCodes_of_long (spelled : List.Forall₂ Number.Spells codes texts)
    (long : ∃ n ∈ codes, ¬Number.IsShort n) :
    statusCodes (.list (codes.map .int)) = .error (.breakdown (.badValue "")) ∧
    statusCodes (.list (texts.map .text)) =
      (LoadError.badStatusCodes (Value.list (texts.map .text)).shown).raise ∧
    statusCodes (.text (",".intercalate texts)) =
      (LoadError.badStatusCodes (Value.text (",".intercalate texts)).shown).raise := by
  obtain ⟨n, hn, tooLong⟩ := long
  have nonempty : codes ≠ [] := List.ne_nil_of_mem hn
  have refused : ¬∀ n ∈ codes, Number.IsShort n := fun short => tooLong (short n hn)
  have oversize : (Value.int n).isWritable = false :=
    Bool.eq_false_iff.2 (mt isWritable_int_iff.1 tooLong)
  have unwritten : (Value.list (codes.map .int)).isWritable = false :=
    Value.areWritable_eq_false.2 ⟨.int n, List.mem_map_of_mem hn, oversize⟩
  have written : (Value.list (texts.map .text)).isWritable = true := areWritable_texts texts
  have writtenJoined : (Value.text (",".intercalate texts)).isWritable = true := rfl
  refine ⟨?_, ?_, ?_⟩
  · rw [statusCodes_of_items rfl nonempty (spelled_numbers codes), if_neg refused,
      Value.raiseShowing, unwritten]
    rfl
  · rw [statusCodes_of_items rfl nonempty (spelled_texts spelled), if_neg refused,
      Value.raiseShowing, if_pos written]
  · rw [statusCodes_of_items (statusItems?_joined nonempty spelled) nonempty
      (spelled_texts spelled), if_neg refused, Value.raiseShowing, if_pos writtenJoined]

end Refusal

end WebScript
