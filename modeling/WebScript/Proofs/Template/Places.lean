import WebScript.Proofs.Template.Scan

namespace WebScript.Template

variable {source : Source} {text rest : List Char} {start stop : ℕ} {p q : Placeholder}

/-- An opener of a kind stands at a place of a text, and its closer somewhere after it. -/
def StartsAt (source : Source) (text : List Char) (start : ℕ) : Prop :=
  source.opener <+: text.drop start ∧ ∃ stop, start + 2 ≤ stop ∧ text[stop]? = some source.closer

/-- An opener of a kind stands at a place of a text, and at another the first closer after it. -/
structure Spans (source : Source) (text : List Char) (start stop : ℕ) : Prop where
  opens : source.opener <+: text.drop start
  apart : start + 2 ≤ stop
  closes : text[stop]? = some source.closer
  first : ∀ i, start + 2 ≤ i → i < stop → text[i]? ≠ some source.closer

/-- The placeholder whose opener and closer stand at two places of a text. -/
def between (source : Source) (text : List Char) (start stop : ℕ) : Placeholder where
  before := text.take start
  source
  name := (text.take stop).drop (start + 2)
  after := text.drop (stop + 1)

/-- A placeholder spans two places of a text, and none starts before the first of them. -/
structure Foremost (text : List Char) (p : Placeholder) (start stop : ℕ) : Prop where
  none : ∀ i < start, ∀ source, ¬StartsAt source text i
  spans : Spans p.source text start stop
  eq : p = between p.source text start stop

theorem Source.length_opener (source : Source) : source.opener.length = 2 := by
  cases source <;> rfl

theorem Source.opener_inj {source other : Source} (h : source.opener = other.opener) :
    source = other := by
  cases source <;> cases other <;> simp_all [Source.opener]

theorem Spans.startsAt (h : Spans source text start stop) : StartsAt source text start :=
  ⟨h.opens, stop, h.apart, h.closes⟩

theorem drop_of_opens (h : text.drop start = source.opener ++ rest) :
    text.drop (start + 2) = rest := by
  rw [← List.drop_drop, h, ← source.length_opener, List.drop_left]

theorem startsAt_iff : StartsAt source text start ↔
    ∃ rest, text.drop start = source.opener ++ rest ∧ source.closer ∈ rest := by
  constructor
  · rintro ⟨⟨rest, opened⟩, stop, apart, closes⟩
    refine ⟨rest, opened.symm, ?_⟩
    rw [← drop_of_opens opened.symm, List.mem_iff_getElem?]
    refine ⟨stop - (start + 2), ?_⟩
    rw [List.getElem?_drop, Nat.add_sub_cancel' apart, closes]
  · rintro ⟨rest, opened, closed⟩
    rw [← drop_of_opens opened] at closed
    obtain ⟨i, closes⟩ := List.mem_iff_getElem?.1 closed
    rw [List.getElem?_drop] at closes
    exact ⟨⟨rest, opened.symm⟩, start + 2 + i, Nat.le_add_right _ _, closes⟩

theorem heading?_drop_eq_none :
    heading? (text.drop start) = none ↔ ∀ source, ¬StartsAt source text start := by
  rw [heading?_eq_none_iff]
  constructor
  · intro unclosed source starts
    obtain ⟨rest, opened, closed⟩ := startsAt_iff.1 starts
    exact unclosed source rest opened closed
  · intro none source rest opened closed
    exact none source (startsAt_iff.2 ⟨rest, opened, closed⟩)

/-- A placeholder with which the rest of a text begins spans what is written of it. -/
theorem spans_of_heading? (h : heading? (text.drop start) = some q) :
    Spans q.source text start (start + 2 + q.name.length) ∧
      between q.source text start (start + 2 + q.name.length) =
        { q with before := text.take start } := by
  rcases heading?_cases (text.drop start) with ⟨source, rest, opened⟩ | none
  · rw [opened, heading?_opener] at h
    obtain ⟨⟨name, after⟩, cut, h⟩ := Option.map_eq_some_iff.1 h
    cases h
    obtain ⟨split, absent⟩ := Text.cutAt?_singleton.1 cut
    have inner : text.drop (start + 2) = name ++ source.closer :: after := by
      rw [drop_of_opens opened, split]
    have place (i : ℕ) : text[start + 2 + i]? = (name ++ source.closer :: after)[i]? := by
      rw [← inner, List.getElem?_drop]
    refine ⟨⟨⟨rest, opened.symm⟩, Nat.le_add_right _ _, ?_, ?_⟩, ?_⟩
    · rw [place, List.getElem?_append_right (Nat.le_refl _), Nat.sub_self, List.getElem?_cons_zero]
    · intro i after_opener before_closer closes
      obtain ⟨k, rfl⟩ := Nat.exists_eq_add_of_le after_opener
      have inside : k < name.length := Nat.lt_of_add_lt_add_left before_closer
      rw [place, List.getElem?_append_left inside] at closes
      exact absent (List.mem_of_getElem? closes)
    · have named : (text.take (start + 2 + name.length)).drop (start + 2) = name := by
        rw [List.drop_take, inner, Nat.add_sub_cancel_left, List.take_left]
      have rested : text.drop (start + 2 + name.length + 1) = after := by
        rw [Nat.add_assoc, ← List.drop_drop, inner, ← List.drop_drop, List.drop_left, List.drop_one,
          List.tail_cons]
      rw [between, named, rested]
  · cases none.symm.trans h

/-- What the search finds is the placeholder at the first place where one starts. -/
theorem foremost_of_next? (h : next? text = some p) : ∃ start stop, Foremost text p start stop := by
  obtain ⟨quiet, begins⟩ := quiet_of_next? h
  have whole := text_of_next? h
  have here : text.drop p.before.length = p.rest := by
    rw [← whole, List.drop_left]
  have before : text.take p.before.length = p.before := by
    rw [← whole, List.take_left]
  rw [← here] at begins
  obtain ⟨spans, same⟩ := spans_of_heading? begins
  refine ⟨p.before.length, _, ?_, spans, ?_⟩
  · intro i earlier
    apply heading?_drop_eq_none.1
    have split := List.take_append_drop i p.before
    rw [← whole, List.drop_append_of_le_length (Nat.le_of_lt earlier)]
    rw [List.drop_eq_getElem_cons earlier] at split ⊢
    exact quiet _ _ _ split.symm
  · rw [before] at same
    exact same.symm

theorem Spans.source_unique {other : Source} {stop' : ℕ} (h : Spans source text start stop)
    (h' : Spans other text start stop') : source = other := by
  have lengths : source.opener.length = other.opener.length :=
    source.length_opener.trans other.length_opener.symm
  have inside : source.opener <+: other.opener :=
    List.prefix_of_prefix_length_le h.opens h'.opens lengths.le
  exact Source.opener_inj (inside.eq_of_length lengths)

theorem Spans.stop_unique {stop' : ℕ} (h : Spans source text start stop)
    (h' : Spans source text start stop') : stop = stop' := by
  rcases Nat.lt_trichotomy stop stop' with less | same | greater
  · exact absurd h.closes (h'.first stop h.apart less)
  · exact same
  · exact absurd h'.closes (h.first stop' h'.apart greater)

/-- A text has one placeholder at the first place where any starts. -/
theorem Foremost.unique {start' stop' : ℕ} (h : Foremost text p start stop)
    (h' : Foremost text q start' stop') : p = q := by
  have same : start = start' := by
    rcases Nat.lt_trichotomy start start' with less | same | greater
    · exact absurd h.spans.startsAt (h'.none start less p.source)
    · exact same
    · exact absurd h'.spans.startsAt (h.none start' greater q.source)
  subst same
  have kind := h.spans.source_unique h'.spans
  have spans' : Spans p.source text start stop' := kind ▸ h'.spans
  rw [h.eq, h'.eq, ← kind, h.spans.stop_unique spans']

theorem next?_eq_none_iff_startsAt :
    next? text = none ↔ ∀ start source, ¬StartsAt source text start := by
  rw [next?_eq_none]
  constructor
  · intro unclosed start source starts
    obtain ⟨rest, opened, closed⟩ := startsAt_iff.1 starts
    refine unclosed source ⟨rest, ?_, closed⟩
    rw [← opened]
    exact List.drop_suffix start text
  · rintro none source ⟨rest, ⟨before, split⟩, closed⟩
    refine none before.length source (startsAt_iff.2 ⟨rest, ?_, closed⟩)
    rw [← split, List.drop_left]

/-- The search agrees with trying every place from left to right. It finds nothing exactly if no
placeholder starts anywhere, as no opener has its closer after it. Otherwise it finds the one at the
first place where any starts: of the kind of the opener there, up to the first closer of that kind
after it, with the text between them as its name. -/
theorem next?_exhaustive (text : List Char) :
    (next? text = none ↔ ∀ start source, ¬StartsAt source text start) ∧
    ∀ p, next? text = some p ↔ ∃ start stop, Foremost text p start stop := by
  refine ⟨next?_eq_none_iff_startsAt, fun p => ⟨foremost_of_next?, ?_⟩⟩
  rintro ⟨start, stop, foremost⟩
  cases found : next? text with
  | none =>
    exact absurd foremost.spans.startsAt (next?_eq_none_iff_startsAt.1 found start p.source)
  | some q =>
    obtain ⟨start', stop', foremost'⟩ := foremost_of_next? found
    rw [foremost'.unique foremost]

/-- The first opener is not closed, and the second has the closer of the other kind inside its name.
-/
example : next? "$(a $\x7bb) c\x7d $\x7bd".toList =
    some ⟨[], .inputs, "a $\x7bb".toList, " c\x7d $\x7bd".toList⟩ := by
  decide

end WebScript.Template
