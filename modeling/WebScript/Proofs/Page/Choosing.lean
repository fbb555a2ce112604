import WebScript.Page.Submit
import WebScript.Proofs.Precedence

namespace WebScript

variable {choice : FormChoice} {page : Page} {form : Form} {read read' : Form → String}
  {wanted wanted' label : String}

/-- A form has a value where a criterion looks for it, case aside. -/
def Form.Meets (read : Form → String) (wanted : String) (form : Form) : Prop :=
  Text.fold (read form) = Text.fold wanted

instance (read : Form → String) (wanted : String) (form : Form) :
    Decidable (form.Meets read wanted) :=
  inferInstanceAs (Decidable (_ = _))

namespace FormChoice

/-- The first criterion that is set: where it looks, and for what. -/
inductive Decides (choice : FormChoice) : (Form → String) → String → Prop
  | clientId {wanted : String} (set : filled? choice.clientId = some wanted) :
      Decides choice Form.clientId wanted
  | formName {wanted : String} (noId : filled? choice.clientId = none)
      (set : filled? choice.formName = some wanted) : Decides choice Form.name wanted
  | action {wanted : String} (noId : filled? choice.clientId = none)
      (noName : filled? choice.formName = none)
      (set : filled? choice.action = some wanted) : Decides choice Form.action wanted

structure Undecided (choice : FormChoice) : Prop where
  clientId : filled? choice.clientId = none
  formName : filled? choice.formName = none
  action : filled? choice.action = none

inductive Means (choice : FormChoice) (page : Page) : Form → Prop
  | first {read : Form → String} {wanted : String} {form : Form}
      (decides : choice.Decides read wanted)
      (first : IsFirst (Form.Meets read wanted) page.forms form) : Means choice page form
  | place {i : Nat} {form : Form} (undecided : choice.Undecided) (index : choice.index.getD 0 = i)
      (there : page.forms[i]? = some form) : Means choice page form

inductive Finds (choice : FormChoice) (page : Page) : Prop
  | met {read : Form → String} {wanted : String} (decides : choice.Decides read wanted)
      (met : ∃ form ∈ page.forms, form.Meets read wanted) : Finds choice page
  | place (undecided : choice.Undecided) (fromStart : 0 ≤ choice.index.getD 0)
      (inside : choice.index.getD 0 < page.forms.length) : Finds choice page

theorem decides_or_undecided (choice : FormChoice) :
    (∃ read wanted, choice.Decides read wanted) ∨ choice.Undecided := by
  cases noId : filled? choice.clientId with
  | some id => exact .inl ⟨_, _, .clientId noId⟩
  | none =>
    cases noName : filled? choice.formName with
    | some name => exact .inl ⟨_, _, .formName noId noName⟩
    | none =>
      cases noAction : filled? choice.action with
      | some action => exact .inl ⟨_, _, .action noId noName noAction⟩
      | none => exact .inr ⟨noId, noName, noAction⟩

theorem Decides.exists_select (decides : choice.Decides read wanted) (page : Page) :
    ∃ label, choice.select (some page) = page.formBy label read wanted := by
  cases decides with
  | clientId set =>
    rw [select, set]
    exact ⟨_, rfl⟩
  | formName noId set =>
    rw [select, noId, set]
    exact ⟨_, rfl⟩
  | action noId noName set =>
    rw [select, noId, noName, set]
    exact ⟨_, rfl⟩

theorem Undecided.select (undecided : choice.Undecided) (page : Page) :
    choice.select (some page) =
      if choice.index.getD 0 < 0 then
        .error (.formNotFound (.outOfRange (choice.index.getD 0) page.forms.length))
      else match page.forms[(choice.index.getD 0).toNat]? with
        | some form => .ok form
        | none => .error (.formNotFound (.outOfRange (choice.index.getD 0) page.forms.length)) := by
  rewrite [FormChoice.select, undecided.clientId, undecided.formName, undecided.action]
  rfl

theorem Decides.unique (decides : choice.Decides read wanted)
    (decides' : choice.Decides read' wanted') :
    read = read' ∧ wanted = wanted' := by
  cases decides <;> cases decides' <;> simp_all

theorem Decides.not_undecided (decides : choice.Decides read wanted) : ¬choice.Undecided := by
  intro undecided
  cases decides with
  | clientId set => cases set.symm.trans undecided.clientId
  | formName _ set => cases set.symm.trans undecided.formName
  | action _ _ set => cases set.symm.trans undecided.action

end FormChoice

theorem Page.formBy_eq_ok_iff :
    page.formBy label read wanted = .ok form ↔
    IsFirst (Form.Meets read wanted) page.forms form := by
  rw [isFirst_iff_find?, formBy]
  change (match page.forms.find? fun f => decide (f.Meets read wanted) with
    | some f => _
    | none => _) = _ ↔ _
  cases page.forms.find? fun f => decide (f.Meets read wanted) with
  | some f => rw [Except.ok.injEq, Option.some_inj]
  | none => exact ⟨nofun, nofun⟩

namespace FormChoice

theorem Undecided.select_eq_ok_iff (undecided : choice.Undecided) :
    choice.select (some page) = .ok form ↔
      ∃ i : Nat, choice.index.getD 0 = i ∧ page.forms[i]? = some form := by
  rw [undecided.select]
  generalize choice.index.getD 0 = index
  constructor
  · intro found
    split at found
    · cases found
    · next fromStart =>
      split at found
      · next there =>
        cases found
        exact ⟨index.toNat, by omega, there⟩
      · cases found
  · rintro ⟨i, rfl, there⟩
    rw [if_neg (by omega), Int.toNat_natCast, there]

theorem select_eq_ok_iff : choice.select (some page) = .ok form ↔ choice.Means page form := by
  rcases choice.decides_or_undecided with ⟨read, wanted, decides⟩ | undecided
  · obtain ⟨label, selected⟩ := decides.exists_select page
    rw [selected, Page.formBy_eq_ok_iff]
    constructor
    · exact .first decides
    · intro means
      cases means with
      | first decides' first =>
        obtain ⟨rfl, rfl⟩ := decides.unique decides'
        exact first
      | place undecided _ _ => exact absurd undecided decides.not_undecided
  · rw [undecided.select_eq_ok_iff]
    constructor
    · rintro ⟨i, index, there⟩
      exact .place undecided index there
    · intro means
      cases means with
      | first decides _ => exact absurd undecided decides.not_undecided
      | @place i form _ index there => exact ⟨i, index, there⟩

theorem exists_means_iff : (∃ form, choice.Means page form) ↔ choice.Finds page := by
  constructor
  · rintro ⟨form, means⟩
    cases means with
    | first decides first => exact .met decides ⟨form, first.mem, first.holds⟩
    | place undecided index there =>
      obtain ⟨inside, -⟩ := List.getElem?_eq_some_iff.1 there
      exact .place undecided (by omega) (by omega)
  · intro finds
    cases finds with
    | met decides met =>
      obtain ⟨form, first⟩ := exists_isFirst met
      exact ⟨form, .first decides first⟩
    | place undecided fromStart inside =>
      have there :=
        List.getElem?_eq_getElem (l := page.forms) (i := (choice.index.getD 0).toNat) (by omega)
      exact ⟨_, .place undecided (by omega) there⟩

/-- What keeps a choice from a form is always that there is none. -/
theorem select_ends (choice : FormChoice) (page : Option Page) :
    (∃ form, choice.select page = .ok form) ∨
    ∃ e, choice.select page = .error (.formNotFound e) := by
  cases page with
  | none => exact .inr ⟨_, rfl⟩
  | some page =>
    rcases choice.decides_or_undecided with ⟨read, wanted, decides⟩ | undecided
    · obtain ⟨label, selected⟩ := decides.exists_select page
      rw [selected, Page.formBy]
      split
      · exact .inl ⟨_, rfl⟩
      · exact .inr ⟨_, rfl⟩
    · rw [undecided.select]
      split
      · exact .inr ⟨_, rfl⟩
      · split
        · exact .inl ⟨_, rfl⟩
        · exact .inr ⟨_, rfl⟩

/-- A form is chosen exactly if there is a page on which some form meets the first criterion that is
set, or, where none is set, has the position that is asked for, counted from the start. It is the
first form to meet the criterion, or the one at the position. -/
theorem form_chosen_iff (choice : FormChoice) (page : Option Page) :
    (∀ form, choice.select page = .ok form ↔ ∃ p, page = some p ∧ choice.Means p form) ∧
    ((∃ form, choice.select page = .ok form) ↔ ∃ p, page = some p ∧ choice.Finds p) ∧
    ((∃ e, choice.select page = .error (.formNotFound e)) ↔
      ∀ p, page = some p → ¬choice.Finds p) := by
  have chosen : ∀ form, choice.select page = .ok form ↔
      ∃ p, page = some p ∧ choice.Means p form := by
    intro form
    cases page with
    | none => exact ⟨nofun, nofun⟩
    | some page =>
      rw [select_eq_ok_iff]
      constructor
      · exact fun means => ⟨page, rfl, means⟩
      · intro ⟨p, same, means⟩
        cases same
        exact means
  have exists_chosen : (∃ form, choice.select page = .ok form) ↔
      ∃ p, page = some p ∧ choice.Finds p := by
    simp only [chosen, ← exists_means_iff]
    exact exists_comm.trans (exists_congr fun p => exists_and_left)
  have lost : (∃ e, choice.select page = .error (.formNotFound e)) ↔
      ¬∃ form, choice.select page = .ok form := by
    constructor
    · rintro ⟨e, failed⟩ ⟨form, found⟩
      cases failed.symm.trans found
    · exact (choice.select_ends page).resolve_left
  refine ⟨chosen, exists_chosen, ?_⟩
  rw [lost, exists_chosen]
  simp only [not_exists, not_and]

end FormChoice

def signInForm : Form :=
  .ofElement (.element "form" [("id", some "SignIn")] [])

def searchPage : Page :=
  ⟨"http://shop/", "", none, [.ofElement (.element "form" [("id", some "search")] []), signInForm]⟩

/-- The first criterion decides although the second one is met by no form, and the last position
from the end is none from the start. -/
theorem signIn_chosen :
    FormChoice.select { clientId := some "signin", formName := some "search" } (some searchPage) =
      .ok signInForm ∧
    ∃ e, FormChoice.select { index := some (-1) } (some searchPage) = .error (.formNotFound e) := by
  constructor
  · apply ((FormChoice.form_chosen_iff _ _).1 signInForm).2
    have first : IsFirst (Form.Meets Form.clientId "signin") searchPage.forms signInForm := by
      refine ⟨by decide, [_], [], rfl, ?_⟩
      intro form member
      rw [List.mem_singleton.1 member]
      decide
    exact ⟨searchPage, rfl, .first (.clientId rfl) first⟩
  · apply (FormChoice.form_chosen_iff _ _).2.2.2
    intro page same finds
    cases same
    cases finds with
    | met decides _ => exact decides.not_undecided ⟨rfl, rfl, rfl⟩
    | place _ fromStart _ => exact absurd fromStart (by decide)

end WebScript
