import WebScript.Proofs.Script.Places

namespace WebScript

variable {v w : Value} {fields fields' : Fields} {key first other : String}
  {names : String × String} {keys : List String} {pairs : List (String × String)}

def Value.isNull : Value → Bool
  | .null => true
  | _ => false

theorem Value.isNull_iff : v.isNull = true ↔ v = .null := by
  cases v <;> simp [isNull]

theorem Value.eq_text_of_isText (h : v.isText key = true) : v = .text key := by
  cases v with
  | text s =>
    rw [isText, beq_iff_eq] at h
    rw [h]
  | _ => cases h

theorem Value.sameKey_text (key : String) : (text key).sameKey (.text key) = true :=
  beq_self_eq_true key

namespace Fields

section KeysDiffer

/-- No two entries of a mapping have the same key. -/
def KeysDiffer (fields : Fields) : Prop :=
  fields.Pairwise fun e e' => e.1.sameKey e'.1 = false

instance : Decidable (KeysDiffer fields) :=
  inferInstanceAs (Decidable (List.Pairwise _ _))

theorem key_of_mem_put {k : Value} {e : Value × Value} (h : e ∈ Value.put k v fields) :
    e.1 = k ∨ ∃ e' ∈ fields, e.1 = e'.1 := by
  induction fields with
  | nil =>
    rw [List.mem_singleton.1 h]
    exact .inl rfl
  | cons e' rest ih =>
    rw [Value.put] at h
    split at h
    · rcases List.mem_cons.1 h with rfl | h
      · exact .inr ⟨e', List.mem_cons_self, rfl⟩
      · exact .inr ⟨e, List.mem_cons_of_mem _ h, rfl⟩
    · rcases List.mem_cons.1 h with rfl | h
      · exact .inr ⟨e', List.mem_cons_self, rfl⟩
      · exact (ih h).imp_right fun ⟨e'', he, same⟩ => ⟨e'', List.mem_cons_of_mem _ he, same⟩

theorem KeysDiffer.put (h : KeysDiffer fields) (k v : Value) :
    KeysDiffer (Value.put k v fields) := by
  induction fields with
  | nil => exact List.pairwise_singleton _ _
  | cons e rest ih =>
    obtain ⟨others, h⟩ := List.pairwise_cons.1 h
    rw [Value.put]
    split
    · exact List.pairwise_cons.2 ⟨others, h⟩
    · next fresh =>
      refine List.pairwise_cons.2 ⟨fun e' he => ?_, ih h⟩
      rcases key_of_mem_put he with same | ⟨e'', he, same⟩
      · rw [same]
        exact eq_false_of_ne_true fresh
      · rw [same]
        exact others e'' he

/-- The keys of a mapping that a document yields differ. -/
theorem mapOf_keysDiffer (entries : List (Value × Value)) :
    ∃ fields, Value.mapOf entries = .map fields ∧ KeysDiffer fields := by
  have put (done : Fields) (h : KeysDiffer done) :
      KeysDiffer (entries.foldl (fun done e => Value.put e.1 e.2 done) done) := by
    induction entries generalizing done with
    | nil => exact h
    | cons e rest ih => exact ih _ (h.put e.1 e.2)
  exact ⟨_, rfl, put [] .nil⟩

theorem get?_filter (h : KeysDiffer fields) (p : Value × Value → Bool) (key : String) :
    get? key (fields.filter p) = (fields.get? key).filter fun v => p (.text key, v) := by
  induction fields with
  | nil => rfl
  | cons e rest ih =>
    obtain ⟨k, v⟩ := e
    obtain ⟨others, h⟩ := List.pairwise_cons.1 h
    rw [get?_cons]
    cases this : k.isText key with
    | false =>
      rw [if_neg Bool.false_ne_true, ← ih h, List.filter_cons]
      split
      · rw [get?_cons, this, if_neg Bool.false_ne_true]
      · rfl
    | true =>
      cases Value.eq_text_of_isText this
      rw [if_pos rfl, Option.filter_some, List.filter_cons]
      split
      · rw [get?_cons, this, if_pos rfl]
      · apply get?_eq_none
        intro e he
        -- No other entry has this key.
        have differ := others e (List.mem_filter.1 he).1
        by_contra same
        rw [Value.eq_text_of_isText (eq_true_of_ne_false same), Value.sameKey_text] at differ
        cases differ

theorem get?_of_mem (h : KeysDiffer fields) (mem : (Value.text key, v) ∈ fields) :
    fields.get? key = some v := by
  induction fields with
  | nil => cases mem
  | cons e rest ih =>
    obtain ⟨others, h⟩ := List.pairwise_cons.1 h
    rw [get?_cons]
    rcases List.mem_cons.1 mem with rfl | mem
    · rw [Value.isText, beq_self_eq_true, if_pos rfl]
    · split
      · next this =>
        have differ := others _ mem
        rw [Value.eq_text_of_isText this, Value.sameKey_text] at differ
        cases differ
      · exact ih h mem

end KeysDiffer

section Trimmed

def withoutNulls (fields : Fields) : Fields :=
  fields.filter fun e => !e.2.isNull

/-- The value of a field of two names: that under the first name that is there, null or not. -/
def choice (names : String × String) (fields : Fields) : Value :=
  (fields.first? [names.1, names.2]).getD .null

/-- A null under the first name of a field hides what stands under its other name. -/
def Hides (names : String × String) (fields : Fields) : Prop :=
  fields.get? names.1 = some .null ∧ fields.value names.2 ≠ .null

/-- A key is the other name of a field whose first name holds null. -/
def overruled (pairs : List (String × String)) (fields : Fields) (k : Value) : Bool :=
  pairs.any fun names => k.isText names.2 && (fields.get? names.1).any Value.isNull

/-- A mapping without its null members, and without what they hide. -/
def trimmed (pairs : List (String × String)) (fields : Fields) : Fields :=
  fields.withoutNulls.filter fun e => !fields.overruled pairs e.1

/-- Fields of two names that have no name in common with one another. -/
def Apart (pairs : List (String × String)) : Prop :=
  ∀ p ∈ pairs, ∀ q ∈ pairs, p.1 ≠ q.2 ∧ (p.2 = q.2 → p = q)

instance : Decidable (Apart pairs) :=
  inferInstanceAs (Decidable (∀ p ∈ pairs, ∀ q ∈ pairs, _))

theorem choice_eq (names : String × String) (fields : Fields) :
    fields.choice names = ((fields.get? names.1).or (fields.get? names.2)).getD .null := by
  rw [choice, first?, List.findSome?_cons, List.findSome?_singleton]
  cases fields.get? names.1 <;> rfl

theorem get?_withoutNulls (h : KeysDiffer fields) (key : String) :
    fields.withoutNulls.get? key = (fields.get? key).filter fun v => !v.isNull :=
  get?_filter h _ key

theorem value_withoutNulls (h : KeysDiffer fields) (key : String) :
    fields.withoutNulls.value key = fields.value key := by
  rw [value, value, get?_withoutNulls h]
  cases fields.get? key with
  | none => rfl
  | some v => cases v <;> rfl

theorem get?_trimmed (h : KeysDiffer fields) (pairs : List (String × String)) (key : String) :
    (fields.trimmed pairs).get? key =
      if fields.overruled pairs (.text key) then none else fields.withoutNulls.get? key := by
  have differ : KeysDiffer fields.withoutNulls := List.Pairwise.filter _ h
  rw [trimmed, get?_filter differ]
  change Option.filter (fun _ => !fields.overruled pairs (.text key)) _ = _
  cases fields.overruled pairs (.text key) with
  | false => cases get? key fields.withoutNulls <;> rfl
  | true => exact Option.filter_eq_none_iff.2 fun _ _ => Bool.false_ne_true

theorem overruled_text : fields.overruled pairs (.text key) = true ↔
    ∃ names ∈ pairs, names.2 = key ∧ fields.get? names.1 = some .null := by
  rw [overruled, List.any_eq_true]
  refine exists_congr fun names => and_congr_right fun _ => ?_
  rw [Bool.and_eq_true, Value.isText, beq_iff_eq, eq_comm, Option.any_eq_true]
  simp only [Value.isNull_iff, exists_eq_right]

theorem value_trimmed (h : KeysDiffer fields) (single : ∀ names ∈ pairs, names.2 ≠ key) :
    (fields.trimmed pairs).value key = fields.value key := by
  have kept : ¬fields.overruled pairs (.text key) := by
    rw [overruled_text]
    rintro ⟨names, hn, same, _⟩
    exact single names hn same
  rw [value, get?_trimmed h, if_neg kept]
  exact value_withoutNulls h key

theorem choice_trimmed (h : KeysDiffer fields) (apart : Apart pairs) (hn : names ∈ pairs) :
    (fields.trimmed pairs).choice names = fields.choice names := by
  have first : ¬fields.overruled pairs (.text names.1) := by
    rw [overruled_text]
    rintro ⟨q, hq, same, _⟩
    exact (apart names hn q hq).1 same.symm
  have second : fields.overruled pairs (.text names.2) ↔ fields.get? names.1 = some .null := by
    rw [overruled_text]
    constructor
    · rintro ⟨q, hq, same, null⟩
      rwa [(apart names hn q hq).2 same.symm]
    · exact fun null => ⟨names, hn, rfl, null⟩
  rw [choice_eq, choice_eq, get?_trimmed h, get?_trimmed h, if_neg first, get?_withoutNulls h]
  cases there : fields.get? names.1 with
  | none =>
    have shown : ¬fields.overruled pairs (.text names.2) := by
      rw [second, there]
      exact nofun
    rw [if_neg shown]
    exact value_withoutNulls h names.2
  | some v =>
    by_cases null : v = .null
    · rw [null] at there ⊢
      rw [if_pos (second.2 there)]
      rfl
    · have kept : (!v.isNull) = true := by
        rw [Bool.not_eq_true', ← Bool.not_eq_true, Value.isNull_iff]
        exact null
      rw [Option.filter_some, kept]
      rfl

/-- Where no null hides anything, there is nothing more to leave out than the nulls. -/
theorem trimmed_eq_withoutNulls (h : KeysDiffer fields) :
    fields.trimmed pairs = fields.withoutNulls ↔ ∀ names ∈ pairs, ¬fields.Hides names := by
  constructor
  · rintro same names hn ⟨null, hidden⟩
    have gone := get?_trimmed h pairs names.2
    rw [if_pos (overruled_text.2 ⟨names, hn, rfl, null⟩), same] at gone
    apply hidden
    rw [← value_withoutNulls h, value, gone]
    rfl
  · intro nothing
    refine List.filter_eq_self.2 fun e he => ?_
    obtain ⟨mem, notNull⟩ := List.mem_filter.1 he
    obtain ⟨k, v⟩ := e
    by_contra skipped
    rw [Bool.not_eq_true', Bool.not_eq_false, overruled, List.any_eq_true] at skipped
    obtain ⟨names, hn, skipped⟩ := skipped
    obtain ⟨text, null⟩ := Bool.and_eq_true_iff.1 skipped
    cases Value.eq_text_of_isText text
    obtain ⟨u, there, null⟩ := (Option.any_eq_true ..).1 null
    rw [Value.isNull_iff.1 null] at there
    refine nothing names hn ⟨there, ?_⟩
    rw [value, get?_of_mem h mem]
    rintro rfl
    cases notNull

/-- What a null hides is in force once the null is left out. -/
theorem Hides.choice (hides : fields.Hides names) (h : KeysDiffer fields) :
    fields.choice names = .null ∧ fields.withoutNulls.choice names = fields.value names.2 := by
  obtain ⟨null, -⟩ := hides
  rw [choice_eq, choice_eq, get?_withoutNulls h, null]
  exact ⟨rfl, value_withoutNulls h names.2⟩

/-- A null under the first of two names is as good as nothing, where the texts under both are looked
for. -/
theorem text?_of_null (h : fields.value first = .null) :
    fields.text? [first, other] = fields.text? [other] := by
  have nothing : fields.given? [first] = none := by
    refine Option.eq_none_iff_forall_ne_some.2 fun v given => ?_
    obtain ⟨same, notNull⟩ := given?_eq_some.1 given
    exact notNull (same.symm.trans h)
  rw [text?, text?, given?_cons, nothing, Option.none_or]

end Trimmed

end Fields
end WebScript
