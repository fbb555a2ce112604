import Mathlib.Algebra.Order.BigOperators.Group.List
import Mathlib.Algebra.Order.Ring.Nat
import WebScript.Page.Form
import WebScript.Proofs.Dict

namespace WebScript

open Html

namespace Form

variable {form input first : Node} {others fields : List Node} {name key : String} {d : Dict}
  {as : Bool} {h : List Char → ℕ}

def fieldNames (element : String) (form : Node) : List String :=
  (namedFields element form).map (·.1)

def inputsNamed (name : String) (form : Node) : List Node :=
  ((namedFields "input" form).filter (·.1 = name)).map (·.2)

structure OnlyInputs (name : String) (form : Node) : Prop where
  input : name ∈ fieldNames "input" form
  noArea : name ∉ fieldNames "textarea" form
  noSelection : name ∉ fieldNames "select" form

def isChecked (input : Node) : Bool :=
  (input.attribute? "checked").isSome

def hasValue (input : Node) : Bool :=
  (input.attribute? "value").isSome

/-- What an input contributes when it is taken as a choice, or as none. -/
def contributionAs (choice : Bool) (input : Node) : Option String :=
  if choice then
    if isChecked input then some ((input.attribute? "value").getD "on") else none
  else some ((input.attribute? "value").getD "")

def contribution? (input : Node) : Option String :=
  contributionAs (isChoice input) input

/-- Each input that is of another kind than the first is checked and has a value. -/
def Uniform (first : Node) (fields : List Node) : Prop :=
  ∀ input ∈ fields, isChoice input ≠ isChoice first → isChecked input = true ∧ hasValue input = true

/-- After a choice at first, nothing is checked, and there is one input that is no choice, which is
empty. -/
structure Blank (first : Node) (fields : List Node) : Prop where
  choice : isChoice first = true
  unchecked : ∀ input ∈ fields, isChecked input = false
  single : ∃ input, fields.filter (!isChoice ·) = [input] ∧ (input.attribute? "value").getD "" = ""

theorem inputValues_cons (first : Node) (others : List Node) :
    inputValues (first :: others) =
      (first :: others).filterMap (contributionAs (isChoice first)) := by
  cases kind : isChoice first with
  | true =>
    have taken : contributionAs true = fun f =>
        if isChecked f then some ((f.attribute? "value").getD "on") else none := rfl
    rw [inputValues, List.head?_cons, Option.any_some, kind, if_pos rfl, taken]
    induction first :: others with
    | nil => rfl
    | cons f rest ih =>
      rw [List.filterMap_cons, List.filter_cons]
      cases checked : isChecked f with
      | true =>
        have marked : (f.attribute? "checked").isSome = true := checked
        simp [marked, ih]
      | false =>
        have unmarked : (f.attribute? "checked").isSome = false := checked
        simp [unmarked, ih]
  | false =>
    have taken : contributionAs false = some ∘ fun f => (f.attribute? "value").getD "" := rfl
    rw [inputValues, List.head?_cons, Option.any_some, kind, taken, List.filterMap_eq_map]
    rfl

/-- A measure of texts that adds up gives of joined texts the sum of theirs, each with a comma, less
one. -/
theorem measure_joined (add : ∀ s t, h (s ++ t) = h s + h t) {l : List String} (nonempty : l ≠ []) :
    h (joined l).toList + h [','] = (l.map fun s => h s.toList + h [',']).sum := by
  induction l with
  | nil => exact absurd rfl nonempty
  | cons s l ih =>
    cases l with
    | nil => simp [joined]
    | cons t l =>
      have rest := ih (List.cons_ne_nil t l)
      have comma : ",".toList = [','] := rfl
      rw [joined] at rest
      rw [joined, String.intercalate_cons_cons, String.toList_append,
        String.toList_append, add, add, comma, List.map_cons, List.sum_cons, ← rest]
      omega

theorem joined_eq_empty {l : List String} : joined l = "" ↔ l = [] ∨ l = [""] := by
  constructor
  · intro empty
    cases l with
    | nil => exact .inl rfl
    | cons s l =>
      cases l with
      | nil =>
        have blank : s = "" := by simpa [joined] using empty
        exact .inr (by rw [blank])
      | cons t l =>
        have total := measure_joined (h := List.length) (fun _ _ => List.length_append)
          (List.cons_ne_nil s (t :: l))
        rw [empty] at total
        simp at total
        omega
  · rintro (rfl | rfl) <;> rfl

theorem sum_map_filterMap {α β : Type} (f : α → Option β) (w : β → ℕ) (l : List α) :
    ((l.filterMap f).map w).sum = (l.map fun a => (f a).elim 0 w).sum := by
  induction l with
  | nil => rfl
  | cons a l ih =>
    rw [List.filterMap_cons, List.map_cons, List.sum_cons, ← ih]
    cases f a <;> simp

/-- Where one sum is nowhere greater than another that equals it, all their parts are equal. -/
theorem eq_of_sum_eq {α : Type} {u v : α → ℕ} {l : List α} (le : ∀ a ∈ l, u a ≤ v a)
    (same : (l.map u).sum = (l.map v).sum) : ∀ a ∈ l, u a = v a := by
  intro a ha
  by_contra differs
  have less := List.sum_lt_sum u v le ⟨a, ha, Nat.lt_of_le_of_ne (le a ha) differs⟩
  exact absurd same less.ne

/-- What a contribution adds to the measure of joined texts, with the comma after it. -/
def measured (h : List Char → ℕ) (as : Bool) (input : Node) : ℕ :=
  (contributionAs as input).elim 0 fun s => h s.toList + h [',']

theorem sum_measured (add : ∀ s t, h (s ++ t) = h s + h t)
    (same : joined (fields.filterMap (contributionAs as)) = joined (fields.filterMap contribution?))
    (nonempty : fields.filterMap (contributionAs as) ≠ [])
    (nonempty' : fields.filterMap contribution? ≠ []) :
    (fields.map (measured h as)).sum =
      (fields.map fun input => measured h (isChoice input) input).sum := by
  have sums := measure_joined add nonempty
  rw [same, measure_joined add nonempty', sum_map_filterMap, sum_map_filterMap] at sums
  exact sums.symm

/-- Where contributions measure the same in sum, and taking an input in one way never measures more
than taking it in the other, each of them measures the same. -/
theorem measured_eq (up : Bool)
    (le : ∀ input ∈ fields, isChoice input ≠ as → measured h (!up) input ≤ measured h up input)
    (same : (fields.map (measured h as)).sum =
      (fields.map fun input => measured h (isChoice input) input).sum) :
    ∀ input ∈ fields, measured h as input = measured h (isChoice input) input := by
  by_cases most : as = up
  · have above : ∀ input ∈ fields, measured h (isChoice input) input ≤ measured h as input := by
      intro input hi
      by_cases kind : isChoice input = as
      · rw [kind]
      · have other : isChoice input = !up := by
          rw [← most]
          exact Bool.eq_not_of_ne kind
        rw [other, most]
        exact le input hi kind
    intro input hi
    exact (eq_of_sum_eq above same.symm input hi).symm
  · have below : ∀ input ∈ fields, measured h as input ≤ measured h (isChoice input) input := by
      intro input hi
      by_cases kind : isChoice input = as
      · rw [kind]
      · have least : as = !up := Bool.eq_not_of_ne most
        have other : isChoice input = up := by
          rw [Bool.eq_not_of_ne kind, least, Bool.not_not]
        rw [other, least]
        exact le input hi kind
    exact eq_of_sum_eq below same

theorem commas_le (input : Node) :
    measured (List.count ',') true input ≤ measured (List.count ',') false input := by
  cases checked : isChecked input <;> cases value : input.attribute? "value" <;>
    simp [measured, contributionAs, checked, value]

theorem isChecked_of_commas
    (same : measured (List.count ',') true input = measured (List.count ',') false input) :
    isChecked input = true := by
  cases checked : isChecked input with
  | true => rfl
  | false => simp [measured, contributionAs, checked] at same

theorem length_le (checked : isChecked input = true) :
    measured List.length false input ≤ measured List.length true input := by
  cases value : input.attribute? "value" <;> simp [measured, contributionAs, checked, value]

theorem hasValue_of_length (checked : isChecked input = true)
    (same : measured List.length true input = measured List.length false input) :
    hasValue input = true := by
  cases value : input.attribute? "value" with
  | some v => simp [hasValue, value]
  | none => simp [measured, contributionAs, checked, value] at same

theorem contributionAs_congr (checked : isChecked input = true) (value : hasValue input = true)
    (as as' : Bool) : contributionAs as input = contributionAs as' input := by
  obtain ⟨v, hv⟩ := Option.isSome_iff_exists.1 value
  cases as <;> cases as' <;> simp [contributionAs, checked, hv]

theorem swap_of_ne {α : Type} {u : Bool → α} {b : Bool} (kind : b ≠ as) (same : u as = u b) :
    u true = u false := by
  cases as <;> cases b <;> simp_all

theorem uniform_of_joined
    (same : joined (fields.filterMap (contributionAs (isChoice first))) =
      joined (fields.filterMap contribution?))
    (nonempty : fields.filterMap (contributionAs (isChoice first)) ≠ [])
    (nonempty' : fields.filterMap contribution? ≠ []) : Uniform first fields := by
  have commas := sum_measured (h := List.count ',') (fun _ _ => List.count_append) same nonempty
    nonempty'
  have lengths := sum_measured (h := List.length) (fun _ _ => List.length_append) same nonempty
    nonempty'
  -- A choice never has more commas than a field that always counts, so no other input makes up for
  -- a lost one.
  have checked : ∀ input ∈ fields, isChoice input ≠ isChoice first → isChecked input = true := by
    intro input hi kind
    have each := measured_eq false (fun input _ _ => commas_le input) commas input hi
    exact isChecked_of_commas (swap_of_ne (u := (measured (List.count ',') · input)) kind each)
  -- Of checked inputs, a choice is the longer one: it is on where a field would be empty.
  intro input hi kind
  have each := measured_eq true (fun input hi kind => length_le (checked input hi kind))
    lengths input hi
  exact ⟨checked input hi kind, hasValue_of_length (checked input hi kind)
    (swap_of_ne (u := (measured List.length · input)) kind each)⟩

theorem filterMap_of_uniform (h : Uniform first fields) :
    fields.filterMap (contributionAs (isChoice first)) = fields.filterMap contribution? := by
  apply List.filterMap_congr
  intro input hi
  by_cases kind : isChoice input = isChoice first
  · rw [contribution?, kind]
  · obtain ⟨checked, value⟩ := h input hi kind
    exact contributionAs_congr checked value _ _

theorem contributionAs_eq_none :
    contributionAs as input = none ↔ as = true ∧ isChecked input = false := by
  cases as <;> simp [contributionAs]

/-- Where nothing is checked, only inputs that are no choices contribute. -/
theorem filterMap_of_unchecked (unchecked : ∀ input ∈ fields, isChecked input = false) :
    fields.filterMap (contributionAs true) = [] ∧ fields.filterMap contribution? =
      (fields.filter (!isChoice ·)).map fun input => (input.attribute? "value").getD "" := by
  induction fields with
  | nil => exact ⟨rfl, rfl⟩
  | cons input fields ih =>
    have bare := unchecked input List.mem_cons_self
    obtain ⟨none, others⟩ := ih fun input hi => unchecked input (List.mem_cons_of_mem _ hi)
    constructor
    · rw [List.filterMap_cons_none (by simp [contributionAs, bare]), none]
    · cases kind : isChoice input with
      | true =>
        rw [List.filterMap_cons_none (by simp [contribution?, contributionAs, kind, bare]), others]
        simp [kind]
      | false =>
        rw [List.filterMap_cons_some (by simp [contribution?, contributionAs, kind]; rfl), others]
        simp [kind]

theorem uniform_or_blank (choice : isChoice first = true)
    (unchecked : ∀ input ∈ fields, isChecked input = false)
    (empty : joined (fields.filterMap contribution?) = "") :
    Uniform first fields ∨ Blank first fields := by
  rw [(filterMap_of_unchecked unchecked).2] at empty
  rcases joined_eq_empty.1 empty with none | blank
  · have choices : fields.filter (!isChoice ·) = [] := List.map_eq_nil_iff.1 none
    left
    intro input hi kind
    have other : isChoice input = true := by
      simpa using List.filter_eq_nil_iff.1 choices input hi
    exact absurd (other.trans choice.symm) kind
  · obtain ⟨input, single, empty⟩ := List.map_eq_singleton_iff.1 blank
    exact .inr ⟨choice, unchecked, input, single, empty⟩

/-- Taken as the first of them is, inputs give what each of them contributes exactly if those of
another kind make no difference. -/
theorem joined_filterMap_eq_iff :
    joined ((first :: others).filterMap (contributionAs (isChoice first))) =
        joined ((first :: others).filterMap contribution?) ↔
      Uniform first (first :: others) ∨ Blank first (first :: others) := by
  constructor
  · intro same
    by_cases nothing : ∀ input ∈ first :: others, contributionAs (isChoice first) input = none
    · have choice := (contributionAs_eq_none.1 (nothing first List.mem_cons_self)).1
      have unchecked : ∀ input ∈ first :: others, isChecked input = false := by
        intro input hi
        exact (contributionAs_eq_none.1 (nothing input hi)).2
      rw [choice, (filterMap_of_unchecked unchecked).1] at same
      exact uniform_or_blank choice unchecked same.symm
    · left
      apply uniform_of_joined same
      · rwa [ne_eq, List.filterMap_eq_nil_iff]
      · rw [ne_eq, List.filterMap_eq_nil_iff]
        intro each
        apply nothing
        intro input hi
        have choice := (contributionAs_eq_none.1 (each first List.mem_cons_self)).1
        exact contributionAs_eq_none.2 ⟨choice, (contributionAs_eq_none.1 (each input hi)).2⟩
  · rintro (uniform | blank)
    · rw [filterMap_of_uniform uniform]
    · obtain ⟨none, each⟩ := filterMap_of_unchecked blank.unchecked
      obtain ⟨input, single, empty⟩ := blank.single
      rw [blank.choice, none, each, single, List.map_singleton, empty]
      rfl

theorem foldl_keeps {α : Type} {seed : Dict → α → Dict} {l : List α}
    (keeps : ∀ a ∈ l, ∀ d, (seed d a).get? key = d.get? key) (d : Dict) :
    (l.foldl seed d).get? key = d.get? key := by
  induction l generalizing d with
  | nil => rfl
  | cons a l ih =>
    have later := ih fun b hb => keeps b (List.mem_cons_of_mem a hb)
    exact (later _).trans (keeps a List.mem_cons_self d)

theorem seedArea_keeps {area : String × Node} (other : area.1 ≠ key) (d : Dict) :
    (seedArea d area).get? key = d.get? key := by
  rw [seedArea, Dict.get?_put, if_neg other.symm]

theorem seedSelect_keeps {select : String × Node} (other : select.1 ≠ key) (d : Dict) :
    (seedSelect d select).get? key = d.get? key := by
  rw [seedSelect]
  split
  · rfl
  · split
    · rw [Dict.get?_put, if_neg other.symm]
    · rw [Dict.get?_put, if_neg other.symm]

theorem get?_foldl_seedInput (inputs : List (String × Node)) (names : List String) (d : Dict) :
    (names.foldl (seedInput inputs) d).get? key =
      if key ∈ names then some (joined (inputValues ((inputs.filter (·.1 = key)).map (·.2))))
      else d.get? key := by
  induction names generalizing d with
  | nil => rfl
  | cons name names ih =>
    rw [List.foldl_cons, ih, seedInput, Dict.get?_put]
    by_cases later : key ∈ names
    · simp [later]
    · by_cases here : key = name
      · simp [here]
      · simp [later, here]

theorem get?_seeded_of_onlyInputs (only : OnlyInputs name form) :
    (seeded form).get? name = some (joined (inputValues (inputsNamed name form))) := by
  have areas : ∀ area ∈ namedFields "textarea" form, ∀ d,
      (seedArea d area).get? name = d.get? name := by
    intro area ha
    apply seedArea_keeps
    intro same
    exact only.noArea (same ▸ List.mem_map_of_mem ha)
  have selects : ∀ select ∈ namedFields "select" form, ∀ d,
      (seedSelect d select).get? name = d.get? name := by
    intro select hs
    apply seedSelect_keeps
    intro same
    exact only.noSelection (same ▸ List.mem_map_of_mem hs)
  rw [seeded, foldl_keeps selects, foldl_keeps areas, get?_foldl_seedInput, if_pos]
  · rfl
  · exact only.input

theorem foldl_spellingsDiffer {α : Type} {seed : Dict → α → Dict}
    (keeps : ∀ d a, d.SpellingsDiffer → (seed d a).SpellingsDiffer) (l : List α)
    (differ : d.SpellingsDiffer) : (l.foldl seed d).SpellingsDiffer := by
  induction l generalizing d with
  | nil => exact differ
  | cons a l ih => exact ih (keeps d a differ)

theorem seedSelect_spellingsDiffer (d : Dict) (select : String × Node)
    (differ : d.SpellingsDiffer) :
    (seedSelect d select).SpellingsDiffer := by
  rw [seedSelect]
  split
  · exact differ
  · split <;> exact Dict.put_spellingsDiffer differ _ _

/-- No two values of a form have the same name. -/
theorem seeded_spellingsDiffer (form : Node) : (seeded form).SpellingsDiffer := by
  apply foldl_spellingsDiffer seedSelect_spellingsDiffer
  apply foldl_spellingsDiffer fun _ _ differ => Dict.put_spellingsDiffer differ _ _
  apply foldl_spellingsDiffer fun _ _ differ => Dict.put_spellingsDiffer differ _ _
  exact List.nodup_nil

theorem exists_inputsNamed (known : name ∈ fieldNames "input" form) :
    ∃ first others, inputsNamed name form = first :: others := by
  obtain ⟨field, hf, same⟩ := List.mem_map.1 known
  apply List.exists_cons_of_ne_nil
  apply List.ne_nil_of_mem (a := field.2)
  apply List.mem_map_of_mem
  exact List.mem_filter.2 ⟨hf, by simpa using same⟩

/-- The value of a name that inputs alone have joins what they contribute when all are taken as the
first of them is. That is what each contributes as what it is, an unchecked choice nothing and any
other field its value, exactly if each input of another kind than the first is checked and has a
value, or the only one that is no choice is empty, nothing is checked, and a choice comes first. -/
theorem seeded_inputs_iff (element : Node) (only : OnlyInputs name element) :
    ∃ first others, inputsNamed name element = first :: others ∧
      (ofElement element).values.get? name =
        some (joined ((first :: others).filterMap (contributionAs (isChoice first)))) ∧
      ((ofElement element).values.get? name =
          some (joined ((inputsNamed name element).filterMap contribution?)) ↔
        Uniform first (first :: others) ∨ Blank first (first :: others)) := by
  obtain ⟨first, others, fields⟩ := exists_inputsNamed only.input
  have value : (ofElement element).values.get? name =
      some (joined ((first :: others).filterMap (contributionAs (isChoice first)))) := by
    rw [← inputValues_cons, ← fields]
    exact get?_seeded_of_onlyInputs only
  refine ⟨first, others, fields, value, ?_⟩
  rw [value, fields, Option.some_inj]
  exact joined_filterMap_eq_iff

end Form

/-- A form in which a hidden input stands before a checkbox of its name. -/
def giftForm (marks : List (String × Option String)) : Node :=
  .element "form" [] [
    .element "input" [("type", some "hidden"), ("name", some "gift"), ("value", some "0")] [],
    .element "input"
    ([("type", some "checkbox"), ("name", some "gift"), ("value", some "1")] ++ marks) []]

theorem gift_onlyInputs (marks : List (String × Option String)) :
    Form.OnlyInputs "gift" (giftForm marks) :=
  ⟨List.mem_cons_self, List.not_mem_nil, List.not_mem_nil⟩

/-- With the checkbox checked, both inputs contribute as what they are. -/
theorem gift_checked :
    Form.OnlyInputs "gift" (giftForm [("checked", none)]) ∧
    (Form.ofElement (giftForm [("checked", none)])).values.get? "gift" =
      some (Form.joined ((Form.inputsNamed "gift" (giftForm [("checked", none)])).filterMap
        Form.contribution?)) ∧
    (Form.ofElement (giftForm [("checked", none)])).values.get? "gift" = some "0,1" := by
  have only := gift_onlyInputs [("checked", none)]
  obtain ⟨first, others, fields, value, each⟩ := Form.seeded_inputs_iff _ only
  cases fields
  refine ⟨only, each.2 (.inl ?_), value⟩
  intro input hi kind
  rcases List.mem_pair.1 hi with rfl | rfl
  · exact absurd rfl kind
  · exact ⟨rfl, rfl⟩

/-- A checkbox that is not checked contributes its value all the same after a hidden input. -/
theorem gift_unchecked :
    Form.OnlyInputs "gift" (giftForm []) ∧
    Form.joined ((Form.inputsNamed "gift" (giftForm [])).filterMap Form.contribution?) = "0" ∧
    (Form.ofElement (giftForm [])).values.get? "gift" = some "0,1" :=
  ⟨gift_onlyInputs [], by decide, by decide⟩

end WebScript
