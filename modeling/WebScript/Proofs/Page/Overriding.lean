import WebScript.Proofs.Page.Merging
import WebScript.Proofs.Page.Seeding

namespace WebScript

open Html

/-- What an override gives to a field: its literal value, or else the value of the option with its
text. -/
inductive Override.Gives (form : Form) (scope : Scope) (field : String) (o : Override) :
    Except ScriptError String → Prop
  | literal {template value} (given : filled? o.value = some template)
      (resolved : Template.resolve? scope template = some value) :
      Gives form scope field o (.ok value)
  | text {template shown} (noLiteral : filled? o.value = none)
      (given : filled? o.text = some template)
      (resolved : Template.resolve? scope template = some shown) :
      Gives form scope field o (form.valueByText field shown)

theorem Override.template?_of_literal {o : Override} {template : String}
    (h : filled? o.value = some template) : o.template? = some template := by
  rw [template?, h, Option.some_or]

theorem Override.template?_of_no_literal {o : Override} (h : filled? o.value = none) :
    o.template? = filled? o.text := by
  rw [template?, h, Option.none_or]

theorem Override.Gives.of_literal {form : Form} {scope : Scope} {field template : String}
    {o : Override} {result : Except ScriptError String} (h : o.Gives form scope field result)
    (literal : filled? o.value = some template) :
    ∃ value, Template.resolve? scope template = some value ∧ result = .ok value := by
  cases h with
  | @literal template' value given resolved =>
    cases literal.symm.trans given
    exact ⟨value, resolved, rfl⟩
  | text noLiteral => cases literal.symm.trans noLiteral

namespace Form

variable {form : Form} {scope : Scope} {names earlier later : List String} {name field key : String}
  {o u : Override} {overrides before after : List Override} {d merged : Dict} {e : ScriptError}

/-- The field that overrides of a name go to: the last of the form's that has the name but for its
case, or else one in the spelling of the first override. -/
def fieldOf (form : Form) (overrides : List Override) (name : String) : String :=
  spelling form.seededNames (((firstFor overrides name).map (·.name)).getD name)

theorem fold_spelling (names : List String) (name : String) :
    Text.fold (spelling names name) = Text.fold name := by
  by_cases known : Knows names name
  · exact (spelling_of_knows known).2
  · rw [spelling_of_not_knows known]

theorem Knows.spelling_congr (known : Knows names name) (same : Text.fold name = Text.fold key) :
    spelling names name = spelling names key := by
  cases found : names.reverse.find? fun n => Text.fold n = Text.fold key with
  | some n => rw [spelling, spelling, same, found]; rfl
  | none =>
    obtain ⟨n, hn, folds⟩ := known
    have differs := List.find?_eq_none.1 found n (List.mem_reverse.2 hn)
    exact absurd (folds.trans same) (by simpa using differs)

theorem spelling_append_cons (earlier later : List String) (name : String) :
    spelling (earlier ++ name :: later) name = spelling later name := by
  rw [spelling, spelling, List.reverse_append, List.reverse_cons, List.append_assoc,
    List.find?_append]
  cases later.reverse.find? fun n => Text.fold n = Text.fold name <;> simp

theorem noteAll_append (names : List String) (before after : List Override) :
    noteAll names (before ++ after) = noteAll (noteAll names before) after := by
  induction before generalizing names with
  | nil => rfl
  | cons o before ih => exact ih (noteName names o.name)

theorem Knows.noteAll (known : Knows names name) (overrides : List Override) :
    Knows (noteAll names overrides) name := by
  induction overrides generalizing names with
  | nil => exact known
  | cons o overrides ih => exact ih (known.spelling_noteName o.name).1

theorem knows_noteAll (ho : o ∈ overrides) (names : List String) :
    Knows (noteAll names overrides) o.name := by
  induction overrides generalizing names with
  | nil => cases ho
  | cons u overrides ih =>
    rcases List.mem_cons.1 ho with rfl | ho
    · exact (spelling_noteName_self names o.name).1.noteAll overrides
    · exact ih ho _

theorem spelling_noteAll_append (ho : o ∈ before) (names : List String) (after : List Override) :
    spelling (noteAll names (before ++ after)) o.name = spelling (noteAll names before) o.name := by
  rw [noteAll_append]
  exact (knows_noteAll ho names).spelling_noteAll after

theorem spelling_noteAll_eq_fieldOf (ho : o ∈ overrides) :
    spelling (noteAll form.seededNames overrides) o.name = form.fieldOf overrides o.name := by
  obtain ⟨first, found, -, same⟩ := exists_firstFor ho
  rw [fieldOf, found, Option.map_some, Option.getD_some]
  by_cases known : Knows form.seededNames o.name
  · rw [known.spelling_noteAll, known.spelling_congr same.symm]
  -- The first override has noted its own spelling, by which the others find it.
  · rw [spelling_noteAll_of_firstFor known found, spelling_of_not_knows]
    intro other
    exact known (other.congr same)

theorem fold_fieldOf (ho : o ∈ overrides) :
    Text.fold (form.fieldOf overrides o.name) = Text.fold o.name := by
  rw [← spelling_noteAll_eq_fieldOf ho]
  exact fold_spelling _ _

theorem given?_eq_some {result : Except ScriptError (Option String)}
    (h : form.given? scope field o = some result) :
    (o.template? = none ∧ result = .ok none) ∨
      ∃ r, o.Gives form scope field r ∧ result = r.map some := by
  rw [given?] at h
  split at h
  · next silent =>
    cases h
    exact .inl ⟨silent, rfl⟩
  · next template speaks =>
    obtain ⟨value, resolved, h⟩ := Option.map_eq_some_iff.1 h
    right
    cases literal : filled? o.value with
    | some text =>
      cases (Override.template?_of_literal literal).symm.trans speaks
      rw [literal, Option.isSome_some, if_pos rfl] at h
      exact ⟨_, .literal literal resolved, h.symm⟩
    | none =>
      rw [Override.template?_of_no_literal literal] at speaks
      rw [literal] at h
      exact ⟨_, .text literal speaks resolved, h.symm⟩

theorem given?_of_gives {r : Except ScriptError String} (h : o.Gives form scope field r) :
    form.given? scope field o = some (r.map some) := by
  cases h with
  | literal given resolved =>
    rw [given?, Override.template?_of_literal given]
    simp only [resolved, given]
    rfl
  | text noLiteral given resolved =>
    rw [given?, Override.template?_of_no_literal noLiteral, given]
    simp only [resolved, noLiteral]
    rfl

theorem given?_plain {text : String}
    (literal : filled? o.value = some text) (plain : Template.hasOpener text = false) :
    form.given? scope field o = some (.ok (some text)) :=
  given?_of_gives (.literal literal (Template.resolve?_of_no_opener plain))

theorem override_append (names : List String) (before after : List Override) (d : Dict) :
    form.override scope names (before ++ after) d =
      (form.override scope names before d).bind fun
        | .error e => some (.error e)
        | .ok d => form.override scope (noteAll names before) after d := by
  induction before generalizing names d with
  | nil => rfl
  | cons o before ih =>
    rw [List.cons_append, override, override]
    cases form.given? scope (spelling names o.name) o with
    | none => rfl
    | some result =>
      cases result with
      | error e => rfl
      | ok v => exact ih _ _

theorem override_append_eq_ok
    (h : form.override scope names (before ++ after) d = some (.ok merged)) :
    ∃ d', form.override scope names before d = some (.ok d') ∧
      form.override scope (noteAll names before) after d' = some (.ok merged) := by
  rw [override_append] at h
  obtain ⟨result, first, rest⟩ := Option.bind_eq_some_iff.1 h
  cases result with
  | error e => cases rest
  | ok d' => exact ⟨d', first, rest⟩

/-- Fields keep their places, and others follow them. -/
theorem names_override (h : form.override scope names overrides d = some (.ok merged)) :
    ∃ added, merged.map (·.1) = d.map (·.1) ++ added := by
  induction overrides generalizing names d with
  | nil =>
    cases h
    exact ⟨[], (List.append_nil _).symm⟩
  | cons o overrides ih =>
    obtain ⟨v, -, rest⟩ := override_cons_eq_ok h
    obtain ⟨added, after⟩ := ih rest
    cases v with
    | none => exact ⟨added, after⟩
    | some value =>
      rw [Option.elim_some, Dict.names_put] at after
      split at after
      · exact ⟨added, after⟩
      · exact ⟨spelling names o.name :: added, by rw [after, List.append_assoc]; rfl⟩

theorem override_spellingsDiffer (h : form.override scope names overrides d = some (.ok merged))
    (differ : d.SpellingsDiffer) : merged.SpellingsDiffer := by
  induction overrides generalizing names d with
  | nil =>
    cases h
    exact differ
  | cons o overrides ih =>
    obtain ⟨v, -, rest⟩ := override_cons_eq_ok h
    apply ih rest
    cases v with
    | none => exact differ
    | some value => exact Dict.put_spellingsDiffer differ _ _

/-- A field to which no override gives a value keeps its own. -/
theorem get?_override (h : form.override scope names overrides d = some (.ok merged))
    (others : ∀ o ∈ overrides, o.template?.isSome →
      spelling (noteAll names overrides) o.name ≠ key) :
    merged.get? key = d.get? key := by
  induction overrides generalizing names d with
  | nil =>
    cases h
    rfl
  | cons o overrides ih =>
    obtain ⟨v, given, rest⟩ := override_cons_eq_ok h
    rw [ih rest fun u hu => others u (List.mem_cons_of_mem o hu)]
    cases v with
    | none => rfl
    | some value =>
      have speaks : o.template?.isSome = true := (given?_isSome given).symm
      have other := others o List.mem_cons_self speaks
      rw [spelling_noteAll_cons] at other
      rw [Option.elim_some, Dict.get?_put, if_neg other.symm]

/-- The last override of a name that gives a value decides. -/
theorem override_decides
    (h : form.override scope names (before ++ o :: after) d = some (.ok merged))
    (speaks : o.template?.isSome)
    (last : ∀ u ∈ after, u.template?.isSome → Text.fold u.name ≠ Text.fold o.name) :
    ∃ value,
      o.Gives form scope (spelling (noteAll names (before ++ o :: after)) o.name) (.ok value) ∧
      merged.get? (spelling (noteAll names (before ++ o :: after)) o.name) = some value := by
  obtain ⟨d', -, rest⟩ := override_append_eq_ok h
  obtain ⟨v, given, rest⟩ := override_cons_eq_ok rest
  rw [noteAll_append, spelling_noteAll_cons]
  rcases given?_eq_some given with ⟨silent, -⟩ | ⟨r, gives, same⟩
  · rw [silent] at speaks
    cases speaks
  · cases r with
    | error e => cases same
    | ok value =>
      cases same
      refine ⟨value, gives, ?_⟩
      -- What comes after goes to other fields, which have other names in any case.
      rw [get?_override rest, Option.elim_some, Dict.get?_put, if_pos rfl]
      intro u hu speaks same
      apply last u hu speaks
      rw [← fold_spelling, same, fold_spelling]

/-- Where merging fails, the first override that finds no option does. -/
theorem override_eq_error (h : form.override scope names overrides d = some (.error e)) :
    ∃ before o after d', overrides = before ++ o :: after ∧
      form.override scope names before d = some (.ok d') ∧
      o.Gives form scope (spelling (noteAll names overrides) o.name) (.error e) := by
  induction overrides generalizing names d with
  | nil => cases h
  | cons o overrides ih =>
    cases given : form.given? scope (spelling names o.name) o with
    | none =>
      rw [override, given] at h
      cases h
    | some result =>
      cases result with
      | error e' =>
        rw [override, given] at h
        cases h
        rcases given?_eq_some given with ⟨-, same⟩ | ⟨r, gives, same⟩
        · cases same
        · cases r with
          | ok value => cases same
          | error e' =>
            cases same
            refine ⟨[], o, overrides, d, rfl, rfl, ?_⟩
            rwa [spelling_noteAll_cons]
      | ok v =>
        rw [override_cons given] at h
        obtain ⟨before, u, after, d', split, first, gives⟩ := ih h
        refine ⟨o :: before, u, after, d', by rw [split, List.cons_append], ?_, gives⟩
        rw [override_cons given, first]

theorem not_gives_error (h : form.override scope names overrides d = some (.ok merged))
    (ho : o ∈ overrides) (e : ScriptError) :
    ¬o.Gives form scope (spelling (noteAll names overrides) o.name) (.error e) := by
  intro gives
  obtain ⟨before, after, rfl⟩ := List.append_of_mem ho
  obtain ⟨d', -, rest⟩ := override_append_eq_ok h
  obtain ⟨v, given, -⟩ := override_cons_eq_ok rest
  rw [noteAll_append, spelling_noteAll_cons] at gives
  cases given.symm.trans (given?_of_gives gives)

/-- What overrides make of a form's values. -/
structure Submits (form : Form) (overrides : List Override) (scope : Scope) (merged : Dict) :
    Prop where
  /-- The fields stay in front. Behind them stands each other name that an override gives a value
  to, once and in the spelling of its first override. -/
  front : ∃ added, merged.map (·.1) = form.seededNames ++ added ∧ added.Nodup ∧
    ∀ key, key ∈ added ↔ ¬Knows form.seededNames key ∧
      (firstFor overrides key).map (·.name) = some key ∧
      ∃ o ∈ overrides, Text.fold o.name = Text.fold key ∧ o.template?.isSome
  kept : ∀ field ∈ form.seededNames,
    (∀ o ∈ overrides, o.template?.isSome → Text.fold o.name ≠ Text.fold field) →
      merged.get? field = form.values.get? field
  /-- Of the fields of one name, only the last is overridden. -/
  beside : ∀ field ∈ form.seededNames, spelling form.seededNames field ≠ field →
    merged.get? field = form.values.get? field
  decided : ∀ before o after, overrides = before ++ o :: after → o.template?.isSome →
    (∀ u ∈ after, u.template?.isSome → Text.fold u.name ≠ Text.fold o.name) →
      ∃ value, o.Gives form scope (form.fieldOf overrides o.name) (.ok value) ∧
        merged.get? (form.fieldOf overrides o.name) = some value

/-- An override asks for an option that its field does not have. -/
def AtFault (form : Form) (overrides : List Override) (scope : Scope) (o : Override)
    (e : ScriptError) : Prop :=
  o.Gives form scope (form.fieldOf overrides o.name) (.error e)

def FirstAtFault (form : Form) (overrides : List Override) (scope : Scope) (e : ScriptError) :
    Prop :=
  ∃ before o after, overrides = before ++ o :: after ∧
    (∀ u ∈ before, ∀ e, ¬form.AtFault overrides scope u e) ∧ form.AtFault overrides scope o e

theorem not_atFault (h : form.merged overrides scope = some (.ok merged)) (ho : o ∈ overrides)
    (e : ScriptError) : ¬form.AtFault overrides scope o e := by
  rw [AtFault, ← spelling_noteAll_eq_fieldOf ho]
  exact not_gives_error h ho e

theorem firstAtFault_of_merged (h : form.merged overrides scope = some (.error e)) :
    form.FirstAtFault overrides scope e := by
  obtain ⟨before, o, after, d, rfl, first, gives⟩ := override_eq_error h
  have gives : o.Gives form scope
      (spelling (noteAll form.seededNames (before ++ o :: after)) o.name) (.error e) := gives
  refine ⟨before, o, after, rfl, ?_, ?_⟩
  · intro u hu e'
    rw [AtFault, ← spelling_noteAll_eq_fieldOf (List.mem_append_left _ hu),
      spelling_noteAll_append hu]
    exact not_gives_error first hu e'
  · rwa [AtFault, ← spelling_noteAll_eq_fieldOf (List.mem_append_right _ List.mem_cons_self)]

theorem get?_merged (h : form.merged overrides scope = some (.ok merged))
    (others : ∀ o ∈ overrides, o.template?.isSome → form.fieldOf overrides o.name ≠ key) :
    merged.get? key = form.values.get? key := by
  apply get?_override h
  intro o ho speaks
  have other := others o ho speaks
  rwa [← spelling_noteAll_eq_fieldOf ho] at other

theorem fieldOf_of_knows (ho : o ∈ overrides) (known : Knows form.seededNames o.name) :
    form.fieldOf overrides o.name = spelling form.seededNames o.name := by
  rw [← spelling_noteAll_eq_fieldOf ho, known.spelling_noteAll]

theorem get?_merged_beside (h : form.merged overrides scope = some (.ok merged))
    (seeds : field ∈ form.seededNames) (beside : spelling form.seededNames field ≠ field) :
    merged.get? field = form.values.get? field := by
  apply get?_merged h
  intro o ho speaks same
  have folds : Text.fold field = Text.fold o.name := by
    rw [← same]
    exact fold_fieldOf ho
  have known : Knows form.seededNames field := ⟨field, seeds, rfl⟩
  apply beside
  rw [known.spelling_congr folds, ← fieldOf_of_knows ho (known.congr folds), same]

theorem merged_decides (h : form.merged (before ++ o :: after) scope = some (.ok merged))
    (speaks : o.template?.isSome)
    (last : ∀ u ∈ after, u.template?.isSome → Text.fold u.name ≠ Text.fold o.name) :
    ∃ value, o.Gives form scope (form.fieldOf (before ++ o :: after) o.name) (.ok value) ∧
      merged.get? (form.fieldOf (before ++ o :: after) o.name) = some value := by
  rw [← spelling_noteAll_eq_fieldOf (List.mem_append_right before List.mem_cons_self)]
  exact override_decides h speaks last

theorem merged_front (h : form.merged overrides scope = some (.ok merged))
    (differ : form.values.SpellingsDiffer) :
    ∃ added, merged.map (·.1) = form.seededNames ++ added ∧ added.Nodup ∧
      ∀ key, key ∈ added ↔ ¬Knows form.seededNames key ∧
        (firstFor overrides key).map (·.name) = some key ∧
        ∃ o ∈ overrides, Text.fold o.name = Text.fold key ∧ o.template?.isSome := by
  obtain ⟨added, names⟩ := names_override h
  have names : merged.map (·.1) = form.seededNames ++ added := names
  have nodup : (form.seededNames ++ added).Nodup := by
    rw [← names]
    exact override_spellingsDiffer h differ
  -- As all names differ, a name behind those of the form is none of them.
  obtain ⟨-, nodup, apart⟩ := List.nodup_append'.1 nodup
  refine ⟨added, names, nodup, ?_⟩
  intro key
  have submitted : key ∈ merged.map (·.1) ↔ _ := mem_names_merged h
  rw [names, List.mem_append] at submitted
  constructor
  · intro new
    rcases submitted.1 (.inr new) with own | foreign
    · exact absurd new (apart own)
    · exact foreign
  · intro foreign
    rcases submitted.2 (.inr foreign) with own | new
    · exact absurd ⟨key, own, rfl⟩ foreign.1
    · exact new

theorem merged_submits (h : form.merged overrides scope = some (.ok merged))
    (differ : form.values.SpellingsDiffer) : form.Submits overrides scope merged where
  front := merged_front h differ
  kept field seeds others := by
    apply get?_merged h
    intro o ho speaks same
    apply others o ho speaks
    rw [← same, fold_fieldOf ho]
  beside field := get?_merged_beside h
  decided before o after split speaks last := by
    subst split
    exact merged_decides h speaks last

/-- A later field of the form has the name but for its case. -/
def Shadowed (form : Form) (field : String) : Prop :=
  ∃ earlier later, form.seededNames = earlier ++ field :: later ∧ Knows later field

theorem not_shadowed_iff (differ : form.values.SpellingsDiffer) (seeds : field ∈ form.seededNames) :
    ¬form.Shadowed field ↔ spelling form.seededNames field = field := by
  constructor
  · intro alone
    obtain ⟨earlier, later, split⟩ := List.append_of_mem seeds
    have unknown : ¬Knows later field := fun known => alone ⟨earlier, later, split, known⟩
    rw [split, spelling_append_cons, spelling_of_not_knows unknown]
  · rintro same ⟨earlier, later, split, known⟩
    have mem := (spelling_of_knows known).1
    have nodup : form.seededNames.Nodup := differ
    rw [split, spelling_append_cons] at same
    rw [split] at nodup
    rw [same] at mem
    exact (List.nodup_cons.1 (List.nodup_append'.1 nodup).2.1).1 mem

/-- A literal value under a field's exact name, with no override of that name after it in any case,
goes to the last field that has the name but for its case, and to no other of these. So it is the
field's own value exactly if no later field has its name but for the case, or if it is what the
field holds anyway. -/
theorem exact_name_iff (element : Node) {template : String}
    (h : (ofElement element).merged (before ++ o :: after) scope = some (.ok merged))
    (seeds : o.name ∈ (ofElement element).seededNames) (literal : filled? o.value = some template)
    (last : ∀ u ∈ after, Text.fold u.name ≠ Text.fold o.name) :
    ∃ value, Template.resolve? scope template = some value ∧
      merged.get? (spelling (ofElement element).seededNames o.name) = some value ∧
      (∀ field ∈ (ofElement element).seededNames, Text.fold field = Text.fold o.name →
        field ≠ spelling (ofElement element).seededNames o.name →
          merged.get? field = (ofElement element).values.get? field) ∧
      (merged.get? o.name = some value ↔
        ¬(ofElement element).Shadowed o.name ∨
        (ofElement element).values.get? o.name = some value) := by
  have differ : (ofElement element).values.SpellingsDiffer := seeded_spellingsDiffer element
  have speaks : o.template?.isSome := by
    rw [Override.template?_of_literal literal, Option.isSome_some]
  have known : Knows (ofElement element).seededNames o.name := ⟨o.name, seeds, rfl⟩
  have mem : o ∈ before ++ o :: after := List.mem_append_right before List.mem_cons_self
  have own := fieldOf_of_knows mem known
  obtain ⟨value, gives, put⟩ := merged_decides h speaks fun u hu _ => last u hu
  rw [own] at put
  obtain ⟨value', resolved, same⟩ := gives.of_literal literal
  cases same
  refine ⟨value, resolved, put, ?_, ?_⟩
  · intro field seeded folds other
    apply get?_merged_beside h seeded
    have known' : Knows (ofElement element).seededNames field := ⟨field, seeded, rfl⟩
    rw [known'.spelling_congr folds]
    exact other.symm
  · rw [not_shadowed_iff differ seeds]
    by_cases same : spelling (ofElement element).seededNames o.name = o.name
    · rw [same] at put
      exact iff_of_true put (.inl same)
    · rw [get?_merged_beside h seeds same]
      exact (or_iff_right same).symm

end Form

/-- A form with two fields whose names differ only in case. -/
def twinForm : Node :=
  .element "form" [] [
    .element "input" [("name", some "user"), ("value", some "1")] [],
    .element "input" [("name", some "USER"), ("value", some "2")] []]

def ada : Override := ⟨"user", some "ada", none⟩

def eve : Override := ⟨"USER", some "eve", none⟩

/-- Of two fields whose names differ only in case the second can be overridden under its name. -/
theorem twin_second :
    (Form.ofElement twinForm).merged ([ada] ++ eve :: []) {} =
      some (.ok [("user", "1"), ("USER", "eve")]) ∧
    ¬(Form.ofElement twinForm).Shadowed eve.name ∧
    Dict.get? "USER" [("user", "1"), ("USER", "eve")] = some "eve" := by
  have merged : (Form.ofElement twinForm).merged ([ada] ++ eve :: []) {} =
      some (.ok [("user", "1"), ("USER", "eve")]) := by
    rw [Form.merged, List.singleton_append, Form.override_cons (Form.given?_plain rfl (by decide)),
      Form.override_cons (Form.given?_plain rfl (by decide))]
    rfl
  have alone : ¬(Form.ofElement twinForm).Shadowed eve.name :=
    (Form.not_shadowed_iff (Form.seeded_spellingsDiffer twinForm) (by decide)).2 (by decide)
  obtain ⟨value, resolved, -, -, own⟩ :=
    Form.exact_name_iff twinForm merged (by decide) rfl (by simp)
  cases resolved.symm.trans (Template.resolve?_of_no_opener (by decide))
  exact ⟨merged, alone, own.2 (.inl alone)⟩

theorem twin_merged :
    (Form.ofElement twinForm).merged [ada] {} = some (.ok [("user", "1"), ("USER", "ada")]) := by
  rw [Form.merged, Form.override_cons (Form.given?_plain rfl (by decide))]
  rfl

/-- The first one cannot: its value goes to the second. -/
theorem twin_first :
    ada.name = "user" ∧ "user" ∈ (Form.ofElement twinForm).seededNames ∧
    (Form.ofElement twinForm).merged [ada] {} = some (.ok [("user", "1"), ("USER", "ada")]) :=
  ⟨rfl, by decide, twin_merged⟩

end WebScript
