import WebScript.Proofs.Run.Submissions
import WebScript.Proofs.Script.WellFormed

namespace WebScript

variable {σ : Type} {s : Session σ} {v item literal : Value} {fields entries : Fields}
  {before after : List Value} {name : String} {step : Step} {scope : Scope} {form : Form}
  {o : Override} {overrides earlier later : List Override} {d merged : Dict}

/-- An item of a list of values is for a field. -/
def Value.IsFor (item : Value) (name : String) : Prop :=
  ∃ entries, item.fields? = some entries ∧ entries.Has "name" name

/-- Under a name, in whatever case, one value goes out. -/
def Dict.Sends (d : Dict) (name value : String) : Prop :=
  ∃ field, Text.fold field = Text.fold name ∧ d.get? field = some value ∧
    ∀ other ∈ d.map (·.1), Text.fold other = Text.fold name → other = field

/-- No two fields have names that differ only in case. -/
def Form.NamesApart (form : Form) : Prop :=
  ∀ field ∈ form.seededNames, ∀ other ∈ form.seededNames,
    Text.fold field = Text.fold other → field = other

def Override.withoutLiteral (o : Override) : Override :=
  { o with value := none }

theorem Fields.text?_of_given? {keys : List String} {text : Option String}
    (given : fields.given? keys = some v) (read : fields.text? keys = .ok text) :
    text = some v.asText := by
  rw [text?, given] at read
  obtain ⟨_, written, rfl⟩ := Except.map_eq_ok.1 read
  rw [(Value.written_eq_ok.1 written).2]

/-- The items of a step are its overrides, in their order. -/
theorem overridesOf_split (h : overridesOf fields = .ok overrides)
    (listed : fields.get? "values" = some (.list (before ++ item :: after))) :
    ∃ earlier i o later, overrides = earlier ++ o :: later ∧ Override.ofValue i item = .ok o ∧
      ∀ u ∈ later, ∃ j, ∃ other ∈ after, Override.ofValue j other = .ok u := by
  rw [overridesOf, listed] at h
  obtain ⟨earlier, rest, rfl, -, read⟩ := eachItem_append_eq_ok h
  obtain ⟨o, made, read⟩ := Except.bind_eq_ok.1 read
  obtain ⟨later, others, same⟩ := Except.bind_eq_ok.1 read
  cases same
  exact ⟨earlier, _, o, later, rfl, made, fun u hu => exists_of_mem_eachItem others hu⟩

/-- The last item for a field becomes the last override of its name, with its literal value as a
text. -/
theorem Step.literal_of_ofValue (described : Describes v .submit fields)
    (loaded : ofValue v = .ok step)
    (listed : fields.get? "values" = some (.list (before ++ item :: after)))
    (mapping : item.fields? = some entries) (named : entries.Has "name" name)
    (given : entries.given? ["value"] = some literal)
    (last : ∀ other ∈ after, ∀ name', other.IsFor name' → Text.fold name' ≠ Text.fold name) :
    ∃ choice earlier o later x, step = .submit choice (earlier ++ o :: later) x ∧
      o.name = name ∧ o.value = some literal.asText ∧ entries.text? ["text"] = .ok o.text ∧
      ∀ u ∈ later, Text.fold u.name ≠ Text.fold o.name := by
  obtain ⟨kind, fields', described', made⟩ := exists_of_ofValue_eq_ok loaded
  obtain ⟨rfl, rfl⟩ := described.unique described'
  obtain ⟨overrides, choice, x, listed', -, -, rfl⟩ := submitOf_eq_ok made
  obtain ⟨earlier, i, o, later, rfl, read, others⟩ := overridesOf_split listed' listed
  obtain ⟨entries', mapping', named', value, text⟩ := Override.ofValue_eq_ok.1 read
  cases mapping.symm.trans mapping'
  have own : o.name = name := by
    cases named'.1.symm.trans named.1
    rfl
  refine ⟨choice, earlier, o, later, x, rfl, own, Fields.text?_of_given? given value, text, ?_⟩
  intro u hu
  obtain ⟨j, other, hother, madeOf⟩ := others u hu
  obtain ⟨entries', mapping', named', -⟩ := Override.ofValue_eq_ok.1 madeOf
  rw [own]
  exact last other hother u.name ⟨entries', mapping', named'⟩

namespace Form

theorem given?_withoutLiteral (field : String) (empty : filled? o.value = none) :
    form.given? scope field o.withoutLiteral = form.given? scope field o := by
  have none : filled? o.withoutLiteral.value = none := rfl
  rw [given?, given?, Override.template?, Override.template?, none, empty]
  rfl

/-- An override with an empty literal value counts as one without. -/
theorem merged_withoutLiteral (empty : filled? o.value = none) :
    form.merged (earlier ++ o.withoutLiteral :: later) scope =
      form.merged (earlier ++ o :: later) scope := by
  have same (names : List String) (d : Dict) :
      form.override scope names (o.withoutLiteral :: later) d =
        form.override scope names (o :: later) d := by
    rw [override, override, given?_withoutLiteral _ empty]
    rfl
  rw [merged, merged, override_append, override_append]
  simp only [same]

/-- Where no names differ only in case, only one field of a submission has a name in any case. -/
theorem NamesApart.eq_fieldOf (apart : form.NamesApart)
    (h : form.merged overrides scope = some (.ok merged)) (ho : o ∈ overrides) {key : String}
    (hkey : key ∈ merged.map (·.1)) (same : Text.fold key = Text.fold o.name) :
    key = form.fieldOf overrides o.name := by
  rcases (mem_names_merged h).1 hkey with own | ⟨unknown, first, -⟩
  · have known : Knows form.seededNames o.name := ⟨key, own, same⟩
    obtain ⟨mem, folds⟩ := spelling_of_knows known
    rw [fieldOf_of_knows ho known]
    exact apart key own _ mem (same.trans folds.symm)
  · rw [fieldOf, firstFor_congr overrides same.symm, first, Option.getD_some,
      spelling_of_not_knows unknown]

theorem NamesApart.sends_iff (apart : form.NamesApart)
    (h : form.merged overrides scope = some (.ok merged)) (ho : o ∈ overrides) {value : String} :
    merged.Sends o.name value ↔ merged.get? (form.fieldOf overrides o.name) = some value := by
  constructor
  · rintro ⟨field, folds, sent, -⟩
    have mem : field ∈ merged.map (·.1) := Dict.mem_names_of_get? sent
    rwa [← apart.eq_fieldOf h ho mem folds]
  · intro sent
    refine ⟨_, fold_fieldOf ho, sent, ?_⟩
    intro other mem folds
    exact apart.eq_fieldOf h ho mem folds

/-- The literal value of the last override of a name goes out if it is not empty, or if the field
has the empty value without it. -/
theorem NamesApart.literal_sent_iff {template : String} (apart : form.NamesApart)
    (h : form.merged (earlier ++ o :: later) scope = some (.ok merged))
    (literal : o.value = some template)
    (last : ∀ u ∈ later, Text.fold u.name ≠ Text.fold o.name) :
    ∃ value, Template.resolve? scope template = some value ∧
      (merged.Sends o.name value ↔ template ≠ "" ∨
        ∃ others, form.merged (earlier ++ o.withoutLiteral :: later) scope = some (.ok others) ∧
          others.Sends o.name "") := by
  by_cases empty : template = ""
  · have unfilled : filled? o.value = none := by
      rw [literal, empty]
      rfl
    have resolved : Template.resolve? scope template = some "" := by
      rw [empty]
      exact Template.resolve?_of_no_opener rfl
    refine ⟨"", resolved, ?_⟩
    -- Merging cannot tell the empty text from no value, so both sides speak of the same submission.
    rw [merged_withoutLiteral unfilled, h]
    simp [empty]
  · have filled : filled? o.value = some template := by
      rw [literal, filled?, Option.filter_some, if_pos (by simpa using empty)]
    have speaks : o.template?.isSome := by
      rw [Override.template?_of_literal filled, Option.isSome_some]
    have mem : o ∈ earlier ++ o :: later := List.mem_append_right earlier List.mem_cons_self
    obtain ⟨value, gives, sent⟩ := merged_decides h speaks fun u hu _ => last u hu
    obtain ⟨value', resolved, same⟩ := gives.of_literal filled
    cases same
    refine ⟨value, resolved, iff_of_true ?_ (.inl empty)⟩
    exact (apart.sends_iff h mem).2 sent

end Form

theorem merged_of_submitRequest {choice : FormChoice} {x : Exchange} {request : Request}
    (chosen : choice.select s.page = .ok form)
    (h : submitRequest choice overrides x s = some (.ok request)) :
    ∃ url values, request = .submit url values x.options ∧
      form.merged overrides s.scope = some (.ok values) := by
  rw [submitRequest, chosen] at h
  obtain ⟨outcome, merged, made⟩ := Option.map_eq_some_iff.1 h
  cases outcome with
  | error fault => cases made
  | ok values =>
    cases target : form.target ((s.page.map Page.url).getD "") with
    | error b => cases (submission_of_target_error target).symm.trans made
    | ok url =>
      cases (submission_of_target target).symm.trans made
      exact ⟨url, values, rfl, merged⟩

/-- A literal value that the last item for a field has goes out, resolved, with each request that
the step makes, exactly if its text is not empty, or if the field has the empty value anyway without
it. -/
theorem literal_wins_iff (described : Describes v .submit fields)
    (loaded : Step.ofValue v = .ok step)
    (listed : fields.get? "values" = some (.list (before ++ item :: after)))
    (mapping : item.fields? = some entries) (named : entries.Has "name" name)
    (given : entries.given? ["value"] = some literal)
    (last : ∀ other ∈ after, ∀ name', other.IsFor name' → Text.fold name' ≠ Text.fold name) :
    ∃ choice earlier o later x, step = .submit choice (earlier ++ o :: later) x ∧
      o.name = name ∧ o.value = some literal.asText ∧ entries.text? ["text"] = .ok o.text ∧
      ∀ (s : Session σ) form request, choice.select s.page = .ok form → form.NamesApart →
        submitRequest choice (earlier ++ o :: later) x s = some (.ok request) →
        ∃ url values value, request = .submit url values x.options ∧
          Template.resolve? s.scope literal.asText = some value ∧
          (values.Sends name value ↔ literal.asText ≠ "" ∨
            ∃ others, form.merged (earlier ++ o.withoutLiteral :: later) s.scope =
              some (.ok others) ∧
              others.Sends name "") := by
  obtain ⟨choice, earlier, o, later, x, made, rfl, value, text, others⟩ :=
    Step.literal_of_ofValue described loaded listed mapping named given last
  refine ⟨choice, earlier, o, later, x, made, rfl, value, text, ?_⟩
  intro s form request chosen apart sent
  obtain ⟨url, values, same, merged⟩ := merged_of_submitRequest chosen sent
  obtain ⟨shown, resolved, wins⟩ := apart.literal_sent_iff merged value others
  exact ⟨url, values, shown, same, resolved, wins⟩

def searchItem (literal : Value) : Value :=
  .map [(.text "name", .text "Q"), (.text "value", literal)]

def searchFields (literal : Value) : Fields :=
  [(.text "values", .list [searchItem literal])]

def searchFor (literal : Value) : Value :=
  .map [(.text "submit", .map (searchFields literal))]

def searchForm : Form :=
  .ofElement (.element "form" [] [.element "input" [("name", some "q"), ("value", some "old")] []])

def atSearch : Session Unit :=
  { page := some ⟨"http://shop/", "", none, [searchForm]⟩, remote := () }

theorem searchFor_describes (literal : Value) :
    Describes (searchFor literal) .submit (searchFields literal) :=
  ⟨_, _, rfl, rfl, by decide, rfl⟩

theorem searchForm_apart : searchForm.NamesApart := by
  intro field hf other ho _
  cases List.mem_singleton.1 hf
  cases List.mem_singleton.1 ho
  rfl

theorem searchForm_sent {overrides : List Override} {values : Dict}
    (merged : searchForm.merged overrides {} = some (.ok values)) :
    submitRequest {} overrides {} atSearch = some (.ok (.submit "http://shop/" values [])) := by
  have chosen : FormChoice.select {} atSearch.page = .ok searchForm := rfl
  rw [submitRequest_of_merged chosen merged]
  rfl

/-- A value that is false counts as its text. -/
theorem searchFor_false :
    Step.ofValue (searchFor (.bool false)) = .ok (.submit {} [⟨"Q", some "False", none⟩] {}) ∧
    searchForm.NamesApart ∧
    submitRequest {} [⟨"Q", some "False", none⟩] {} atSearch =
      some (.ok (.submit "http://shop/" [("q", "False")] [])) ∧
    Dict.Sends [("q", "False")] "Q" "False" := by
  have loaded : Step.ofValue (searchFor (.bool false)) =
      .ok (.submit {} [⟨"Q", some "False", none⟩] {}) := by
    rw [searchFor, Step.ofValue_of_some rfl]
    rfl
  have sent : submitRequest {} [⟨"Q", some "False", none⟩] {} atSearch =
      some (.ok (.submit "http://shop/" [("q", "False")] [])) := by
    apply searchForm_sent
    rw [Form.merged, Form.override_cons (Form.given?_plain rfl (by decide))]
    rfl
  have only : (searchFields (.bool false)).get? "values" =
      some (.list ([] ++ searchItem (.bool false) :: [])) := rfl
  obtain ⟨choice, earlier, o, later, x, made, -, -, -, sends⟩ :=
    literal_wins_iff (searchFor_describes _) loaded only rfl ⟨rfl, by decide⟩ rfl (by simp)
  obtain ⟨rfl, listed, rfl⟩ := Step.submit.inj made
  rw [← listed] at sends
  obtain ⟨_, _, _, same, resolved, wins⟩ := sends atSearch searchForm _ rfl searchForm_apart sent
  cases same
  cases resolved.symm.trans (Template.resolve?_of_no_opener rfl)
  exact ⟨loaded, searchForm_apart, sent, wins.2 (.inl (by decide))⟩

/-- With the empty text the form's own value goes out. -/
theorem searchFor_nothing :
    Describes (searchFor (.text "")) .submit (searchFields (.text "")) ∧
    Step.ofValue (searchFor (.text "")) = .ok (.submit {} [⟨"Q", some "", none⟩] {}) ∧
    Template.resolve? atSearch.scope "" = some "" ∧ searchForm.values = [("q", "old")] ∧
    submitRequest {} [⟨"Q", some "", none⟩] {} atSearch =
      some (.ok (.submit "http://shop/" [("q", "old")] [])) := by
  refine ⟨searchFor_describes _, ?_, Template.resolve?_of_no_opener rfl, rfl, rfl⟩
  rw [searchFor, Step.ofValue_of_some rfl]
  rfl

end WebScript
