import Mathlib.Tactic.Common
import WebScript.Proofs.Except
import WebScript.Script.Load

namespace WebScript

variable {α β : Type} {b : Breakdown} {v : Value} {fields : Fields}

/-- The faults of loading: of the document's form, of the kind of a step, and of a repeated name. -/
def ScriptError.ofLoading (e : ScriptError) : Prop :=
  e.kind ∈ [.load, .unknownAction, .duplicateTarget]

/-- A part of loading that raises only its faults, and breaks down exactly as said. -/
structure Loading (x : Except Failure α) (breaks : Breakdown → Prop) : Prop where
  fault : ∀ e, x = .error (.script e) → e.ofLoading
  breakdown : ∀ b, x = .error (.breakdown b) ↔ breaks b

namespace Loading

variable {x : Except Failure α} {f : α → Except Failure β} {breaks breaks' : Breakdown → Prop}

theorem ok (a : α) : Loading (.ok a) fun _ => False :=
  ⟨nofun, fun _ => iff_of_false nofun id⟩

theorem script {e : ScriptError} (h : e.ofLoading) :
    Loading (.error (.script e) : Except Failure α) fun _ => False :=
  ⟨fun _ he => by cases he; exact h, fun _ => iff_of_false nofun id⟩

theorem raise (e : LoadError) : Loading (e.raise : Except Failure α) fun _ => False :=
  script (by simp [ScriptError.ofLoading, ScriptError.kind])

theorem of_eq_error (h : ∀ f, x = .error f ↔ ∃ b, f = .breakdown b ∧ breaks b) :
    Loading x breaks where
  fault e he := by
    obtain ⟨b, hb, _⟩ := (h _).1 he
    cases hb
  breakdown b := by simp [h]

theorem congr (h : Loading x breaks) (same : ∀ b, breaks b ↔ breaks' b) : Loading x breaks' :=
  ⟨h.fault, fun b => (h.breakdown b).trans (same b)⟩

theorem bind {breaks' : α → Breakdown → Prop} (hx : Loading x breaks)
    (hf : ∀ a, x = .ok a → Loading (f a) (breaks' a)) :
    Loading (x >>= f) fun b => breaks b ∨ ∃ a, x = .ok a ∧ breaks' a b where
  fault e h := by
    rcases Except.bind_eq_error.1 h with h | ⟨a, ha, h⟩
    · exact hx.fault e h
    · exact (hf a ha).fault e h
  breakdown b := by
    rw [Except.bind_eq_error, hx.breakdown]
    exact or_congr_right (exists_congr fun a => and_congr_right fun ha => (hf a ha).breakdown b)

theorem bind_of_not {breaks' : α → Breakdown → Prop} (hx : Loading x fun _ => False)
    (hf : ∀ a, x = .ok a → Loading (f a) (breaks' a)) :
    Loading (x >>= f) fun b => ∃ a, x = .ok a ∧ breaks' a b :=
  (hx.bind hf).congr fun _ => iff_of_eq (false_or _)

theorem bind_never (hx : Loading x breaks) (hf : ∀ a, Loading (f a) fun _ => False) :
    Loading (x >>= f) breaks :=
  (hx.bind fun a _ => hf a).congr fun _ => by simp

theorem bind_pure {g : α → β} (hx : Loading x breaks) :
    Loading (x >>= fun a => pure (g a)) breaks :=
  hx.bind_never fun a => ok (g a)

end Loading

namespace Value

/-- A value that cannot be written: it holds a number that is too long. -/
inductive Unwritten (v : Value) : Breakdown → Prop
  | intro (h : v.isWritable = false) : Unwritten v (.badValue "")

theorem Unwritten.iff_of_isWritable (h : v.isWritable = true) : v.Unwritten b ↔ False := by
  refine iff_of_false ?_ id
  rintro ⟨h'⟩
  cases h.symm.trans h'

theorem Unwritten.eq_badValue (h : v.Unwritten b) : b = .badValue "" := by
  cases h
  rfl

@[simp] theorem not_unwritten_null : ¬Unwritten .null b :=
  fun h => (Unwritten.iff_of_isWritable rfl).1 h

theorem written_eq_error {f : Failure} :
    v.written = .error f ↔ ∃ b, f = .breakdown b ∧ v.Unwritten b := by
  rw [written]
  split
  · next h => simp [Unwritten.iff_of_isWritable h]
  · next h =>
    constructor
    · intro he
      cases he
      exact ⟨_, rfl, .intro (by simpa using h)⟩
    · rintro ⟨_, rfl, ⟨_⟩⟩
      rfl

theorem written_loading (v : Value) : Loading v.written v.Unwritten :=
  .of_eq_error fun _ => written_eq_error

theorem written_eq_ok {text : String} :
    v.written = .ok text ↔ v.isWritable = true ∧ text = v.asText := by
  rw [written]
  split
  · next h => simp [h, eq_comm]
  · next h => simp [h]

theorem raiseShowing_ne_ok {e : String → LoadError} (a : α) : v.raiseShowing e ≠ .ok a := by
  intro h
  rw [raiseShowing] at h
  split at h <;> cases h

theorem raiseShowing_loading {e : String → LoadError} :
    Loading (v.raiseShowing e : Except Failure α) v.Unwritten := by
  rw [raiseShowing]
  split
  · next h => exact (Loading.raise _).congr fun _ => (Unwritten.iff_of_isWritable h).symm
  · next h =>
    refine ⟨nofun, fun b => ⟨fun he => ?_, fun ⟨_⟩ => rfl⟩⟩
    cases he
    exact .intro (by simpa using h)

theorem fields_loading (part : Part) : Loading (v.fields part) fun _ => False := by
  rw [fields]
  split
  · exact .ok _
  · exact .raise _

theorem fields_eq_ok {part : Part} : v.fields part = .ok fields ↔ v.fields? = some fields := by
  rw [Value.fields]
  split
  · next given =>
    rw [given]
    exact ⟨fun h => by cases h; rfl, fun h => by cases h; rfl⟩
  · next missing =>
    rw [missing]
    exact ⟨nofun, nofun⟩

theorem items_loading (part : Part) (v? : Option Value) :
    Loading (items part v?) fun _ => False := by
  unfold items
  split
  · exact .ok _
  · exact .ok _
  · exact .ok _
  · exact .raise _

end Value

namespace Fields

/-- The first value that is given for some keys cannot be written. -/
def Unwritten (keys : List String) (fields : Fields) (b : Breakdown) : Prop :=
  ∃ v, fields.given? keys = some v ∧ v.Unwritten b

/-- Of the values that are given for some keys in turn, one cannot be written. -/
def SomeUnwritten (texts : List (List String)) (fields : Fields) (b : Breakdown) : Prop :=
  ∃ keys ∈ texts, fields.Unwritten keys b

def Has (key text : String) (fields : Fields) : Prop :=
  fields.text? [key] = .ok (some text) ∧ text ≠ ""

theorem text?_eq_error {keys : List String} {f : Failure} :
    fields.text? keys = .error f ↔ ∃ b, f = .breakdown b ∧ fields.Unwritten keys b := by
  simp only [text?, Unwritten]
  cases fields.given? keys with
  | none => simp
  | some v => simp [Except.map_eq_error, Value.written_eq_error]

theorem text?_loading (keys : List String) : Loading (fields.text? keys) (fields.Unwritten keys) :=
  .of_eq_error fun _ => text?_eq_error

theorem Unwritten.eq_badValue {keys : List String} (h : fields.Unwritten keys b) :
    b = .badValue "" := by
  obtain ⟨v, _, h⟩ := h
  exact h.eq_badValue

theorem someUnwritten_nil_loading (a : α) : Loading (.ok a) (fields.SomeUnwritten []) :=
  (Loading.ok a).congr fun b => by simp [SomeUnwritten]

theorem someUnwritten_cons_loading {keys : List String} {texts : List (List String)}
    {f : Option String → Except Failure α}
    (hf : ∀ text?, Loading (f text?) (fields.SomeUnwritten texts)) :
    Loading (fields.text? keys >>= f) (fields.SomeUnwritten (keys :: texts)) := by
  refine ((fields.text?_loading keys).bind fun text? _ => hf text?).congr fun b => ?_
  constructor
  · rintro (h | ⟨_, _, keys', hk, h⟩)
    · exact ⟨keys, List.mem_cons_self, h⟩
    · exact ⟨keys', List.mem_cons_of_mem _ hk, h⟩
  · rintro ⟨keys', hk, h⟩
    cases read : fields.text? keys with
    | error f =>
      -- All texts break down alike, so it makes no difference that this one is the first to do so.
      obtain ⟨b', _, h'⟩ := text?_eq_error.1 read
      rw [h.eq_badValue, ← h'.eq_badValue]
      exact .inl h'
    | ok text? =>
      rcases List.mem_cons.1 hk with rfl | hk
      · exact .inl h
      · exact .inr ⟨text?, rfl, keys', hk, h⟩

end Fields

section Required

variable {key text : String} {e : LoadError}

theorem requiredText_loading (key : String) (e : LoadError) :
    Loading (requiredText key e fields) (fields.Unwritten [key]) := by
  refine (fields.text?_loading [key]).bind_never fun text? => ?_
  split
  · exact .raise e
  · exact .raise e
  · exact .ok _

theorem requiredText_eq_ok : requiredText key e fields = .ok text ↔ fields.Has key text := by
  constructor
  · intro h
    obtain ⟨text?, given, h⟩ := Except.bind_eq_ok.1 h
    split at h
    · cases h
    · cases h
    · next _ filled =>
      cases h
      exact ⟨given, filled⟩
  · rintro ⟨given, filled⟩
    refine Except.bind_eq_ok.2 ⟨_, given, ?_⟩
    split
    · next h =>
      cases h
      exact absurd rfl filled
    · next h => cases h
    · next h =>
      cases h
      rfl

end Required

section Items

/-- A list breaks down at the first item that cannot be read, if that one breaks down. -/
def ListBreaks (read : Nat → Value → Except Failure α) (breaks : Value → Breakdown → Prop)
    (part : Part) (v? : Option Value) (b : Breakdown) : Prop :=
  ∃ before v after as, Value.items part v? = .ok (before ++ v :: after) ∧
    eachItem read 0 before = .ok as ∧ breaks v b

theorem eachItem_loading {read : Nat → Value → Except Failure α} {breaks : Value → Breakdown → Prop}
    (h : ∀ i v, Loading (read i v) (breaks v)) (i : Nat) (items : List Value) :
    Loading (eachItem read i items) fun b => ∃ before v after as, items = before ++ v :: after ∧
      eachItem read i before = .ok as ∧ breaks v b := by
  induction items generalizing i with
  | nil => exact (Loading.ok _).congr fun b => by simp
  | cons v rest ih =>
    refine ((h i v).bind fun a _ => (ih (i + 1)).bind_pure).congr fun b => ?_
    constructor
    · rintro (h | ⟨a, ha, before, w, after, as, rfl, has, h⟩)
      · exact ⟨[], v, rest, [], rfl, rfl, h⟩
      · refine ⟨v :: before, w, after, a :: as, rfl, ?_, h⟩
        exact Except.bind_eq_ok.2 ⟨a, ha, Except.bind_eq_ok.2 ⟨as, has, rfl⟩⟩
    · rintro ⟨before, w, after, as, hl, has, h⟩
      cases before with
      | nil =>
        cases hl
        exact .inl h
      | cons u before =>
        cases hl
        obtain ⟨a, ha, has⟩ := Except.bind_eq_ok.1 has
        obtain ⟨as', has, _⟩ := Except.bind_eq_ok.1 has
        exact .inr ⟨a, ha, before, w, after, as', rfl, has, h⟩

theorem items_bind_loading {read : Nat → Value → Except Failure α}
    {breaks : Value → Breakdown → Prop} (h : ∀ i v, Loading (read i v) (breaks v)) (part : Part)
    (v? : Option Value) :
    Loading (Value.items part v? >>= eachItem read 0) (ListBreaks read breaks part v?) := by
  refine ((Value.items_loading part v?).bind_of_not fun items _ =>
    eachItem_loading h 0 items).congr fun b => ?_
  constructor
  · rintro ⟨_, hitems, before, v, after, as, rfl, has, h⟩
    exact ⟨before, v, after, as, hitems, has, h⟩
  · rintro ⟨before, v, after, as, hitems, has, h⟩
    exact ⟨_, hitems, before, v, after, as, rfl, has, h⟩

theorem eachItem_append_eq_ok {read : Nat → Value → Except Failure α} {i : Nat}
    {before after : List Value} {as : List α} (h : eachItem read i (before ++ after) = .ok as) :
    ∃ first rest, as = first ++ rest ∧ eachItem read i before = .ok first ∧
      eachItem read (i + before.length) after = .ok rest := by
  induction before generalizing i as with
  | nil => exact ⟨[], as, rfl, rfl, h⟩
  | cons v before ih =>
    obtain ⟨a, ha, h⟩ := Except.bind_eq_ok.1 h
    obtain ⟨others, read, h⟩ := Except.bind_eq_ok.1 h
    cases h
    obtain ⟨first, rest, rfl, front, back⟩ := ih read
    refine ⟨a :: first, rest, rfl, ?_, ?_⟩
    · exact Except.bind_eq_ok.2 ⟨a, ha, Except.bind_eq_ok.2 ⟨first, front, rfl⟩⟩
    · rwa [List.length_cons, Nat.add_comm before.length, ← Nat.add_assoc]

/-- An item breaks down at its name, or at one of its other texts if it has a name. -/
inductive ItemBreaks (texts : List (List String)) (v : Value) (b : Breakdown) : Prop
  | name {fields : Fields} (mapping : v.fields? = some fields) (h : fields.Unwritten ["name"] b)
  | text {fields : Fields} {name : String} (mapping : v.fields? = some fields)
      (named : fields.Has "name" name) (h : fields.SomeUnwritten texts b)

theorem itemBreaks_loading {texts : List (List String)} {part : Part} {e : LoadError}
    {f : Fields → String → Except Failure α}
    (hf : ∀ fields name, Loading (f fields name) (fields.SomeUnwritten texts)) :
    Loading (v.fields part >>= fun fields => requiredText "name" e fields >>= f fields)
      (ItemBreaks texts v) := by
  refine ((Value.fields_loading part).bind_of_not fun fields _ =>
    (requiredText_loading "name" e).bind fun name _ => hf fields name).congr fun b => ?_
  simp only [Value.fields_eq_ok, requiredText_eq_ok]
  constructor
  · rintro ⟨fields, mapping, h | ⟨name, named, h⟩⟩
    · exact .name mapping h
    · exact .text mapping named h
  · rintro (⟨mapping, h⟩ | ⟨mapping, named, h⟩)
    · exact ⟨_, mapping, .inl h⟩
    · exact ⟨_, mapping, .inr ⟨_, named, h⟩⟩

def Rule.texts : List (List String) :=
  [["regex"], ["xpath"], ["attr"], ["expected_value", "expectedValue"]]

def Override.texts : List (List String) :=
  [["value"], ["text"]]

theorem Override.ofValue_eq_ok {index : Nat} {o : Override} : ofValue index v = .ok o ↔
    ∃ fields, v.fields? = some fields ∧ fields.Has "name" o.name ∧
      fields.text? ["value"] = .ok o.value ∧ fields.text? ["text"] = .ok o.text := by
  constructor
  · intro h
    obtain ⟨fields, mapping, h⟩ := Except.bind_eq_ok.1 h
    obtain ⟨name, named, h⟩ := Except.bind_eq_ok.1 h
    obtain ⟨value, literal, h⟩ := Except.bind_eq_ok.1 h
    obtain ⟨text, shown, h⟩ := Except.bind_eq_ok.1 h
    cases h
    exact ⟨fields, Value.fields_eq_ok.1 mapping, requiredText_eq_ok.1 named, literal, shown⟩
  · rintro ⟨fields, mapping, named, literal, shown⟩
    apply Except.bind_eq_ok.2 ⟨fields, Value.fields_eq_ok.2 mapping, ?_⟩
    apply Except.bind_eq_ok.2 ⟨o.name, requiredText_eq_ok.2 named, ?_⟩
    apply Except.bind_eq_ok.2 ⟨o.value, literal, ?_⟩
    exact Except.bind_eq_ok.2 ⟨o.text, shown, rfl⟩

open Fields in
theorem Rule.ofValue_loading (index : Nat) (v : Value) :
    Loading (ofValue index v) (ItemBreaks texts v) :=
  itemBreaks_loading fun _ _ =>
    someUnwritten_cons_loading fun _ => someUnwritten_cons_loading fun _ =>
      someUnwritten_cons_loading fun _ => someUnwritten_cons_loading fun _ =>
        someUnwritten_nil_loading _

open Fields in
theorem Override.ofValue_loading (index : Nat) (v : Value) :
    Loading (ofValue index v) (ItemBreaks texts v) :=
  itemBreaks_loading fun _ _ =>
    someUnwritten_cons_loading fun _ => someUnwritten_cons_loading fun _ =>
      someUnwritten_nil_loading _

end Items

end WebScript
