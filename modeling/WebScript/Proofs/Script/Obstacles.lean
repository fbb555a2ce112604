import WebScript.Proofs.Script.Loading

namespace WebScript

namespace Value

inductive StandsIn (w : Value) : Value → Prop
  | here : StandsIn w w
  | item {items : List Value} {v : Value} (hv : v ∈ items) (h : StandsIn w v) :
      StandsIn w (.list items)
  | key {entries : List (Value × Value)} {entry : Value × Value} (he : entry ∈ entries)
      (h : StandsIn w entry.1) : StandsIn w (.map entries)
  | entry {entries : List (Value × Value)} {entry : Value × Value} (he : entry ∈ entries)
      (h : StandsIn w entry.2) : StandsIn w (.map entries)
  | member {items : List Value} {v : Value} (hv : v ∈ items) (h : StandsIn w v) :
      StandsIn w (.set items)
  | first {a b : Value} (h : StandsIn w a) : StandsIn w (.pair a b)
  | second {a b : Value} (h : StandsIn w b) : StandsIn w (.pair a b)

/-- A tree holds a number that some part of loading cannot handle. -/
inductive Obstacle (v : Value) : Breakdown → Prop
  | tooLong {n : Int} (h : (int n).StandsIn v) (long : (int n).isWritable = false) :
      Obstacle v (.badValue "")
  | infinite {x : Float} {negative : Bool} (h : (float x).StandsIn v)
      (infinite : Decimal.Reading.of x = .infinite negative) : Obstacle v .tooLarge

variable {u v w : Value} {b : Breakdown}

theorem whole_eq_infinite : v.whole = .error .infinite ↔
    ∃ x negative, v = .float x ∧ Decimal.Reading.of x = .infinite negative := by
  constructor
  · intro h
    cases v with
    | float x =>
      rw [whole] at h
      split at h
      · cases h
      · next negative infinite => exact ⟨x, negative, rfl, infinite⟩
      · cases h
    | text s =>
      rw [whole] at h
      split at h <;> cases h
    | bytes s =>
      rw [whole] at h
      split at h
      · cases h
      · split at h <;> cases h
    | _ => cases h
  · rintro ⟨x, negative, rfl, infinite⟩
    rw [whole, infinite]

theorem StandsIn.trans (h : w.StandsIn v) (hv : v.StandsIn u) : w.StandsIn u := by
  induction hv with
  | here => exact h
  | item hv _ ih => exact .item hv ih
  | key he _ ih => exact .key he ih
  | entry he _ ih => exact .entry he ih
  | member hv _ ih => exact .member hv ih
  | first _ ih => exact .first ih
  | second _ ih => exact .second ih

theorem Obstacle.of_standsIn (h : v.Obstacle b) (hv : v.StandsIn u) : u.Obstacle b := by
  cases h with
  | tooLong h long => exact .tooLong (h.trans hv) long
  | infinite h infinite => exact .infinite (h.trans hv) infinite

theorem areWritable_eq_false {items : List Value} :
    areWritable items = false ↔ ∃ v ∈ items, v.isWritable = false := by
  induction items with
  | nil => simp [areWritable]
  | cons v rest ih =>
    rw [areWritable, Bool.and_eq_false_iff, ih]
    simp

theorem entriesWritable_eq_false {entries : List (Value × Value)} :
    entriesWritable entries = false ↔
      ∃ entry ∈ entries, entry.1.isWritable = false ∨ entry.2.isWritable = false := by
  induction entries with
  | nil => simp [entriesWritable]
  | cons e rest ih =>
    rw [entriesWritable, Bool.and_eq_false_iff, Bool.and_eq_false_iff, ih]
    simp

theorem sizeOf_entry_lt {entries : List (Value × Value)} {entry : Value × Value}
    (he : entry ∈ entries) :
    sizeOf entry.1 < sizeOf (map entries) ∧ sizeOf entry.2 < sizeOf (map entries) := by
  have := List.sizeOf_lt_of_mem he
  obtain ⟨k, v⟩ := entry
  rw [Prod.mk.sizeOf_spec] at this
  rw [map.sizeOf_spec]
  constructor <;> dsimp only <;> omega

/-- What cannot be written holds a number that is too long. -/
theorem exists_tooLong (v : Value) (h : v.isWritable = false) :
    ∃ n, (int n).StandsIn v ∧ (int n).isWritable = false := by
  cases v with
  | int n => exact ⟨n, .here, h⟩
  | list items =>
    obtain ⟨u, hu, h⟩ := areWritable_eq_false.1 h
    have := List.sizeOf_lt_of_mem hu
    obtain ⟨n, hn, long⟩ := exists_tooLong u h
    exact ⟨n, .item hu hn, long⟩
  | set items =>
    obtain ⟨u, hu, h⟩ := areWritable_eq_false.1 h
    have := List.sizeOf_lt_of_mem hu
    obtain ⟨n, hn, long⟩ := exists_tooLong u h
    exact ⟨n, .member hu hn, long⟩
  | map entries =>
    obtain ⟨entry, he, h⟩ := entriesWritable_eq_false.1 h
    obtain ⟨hk, hv⟩ := sizeOf_entry_lt he
    rcases h with h | h
    · obtain ⟨n, hn, long⟩ := exists_tooLong entry.1 h
      exact ⟨n, .key he hn, long⟩
    · obtain ⟨n, hn, long⟩ := exists_tooLong entry.2 h
      exact ⟨n, .entry he hn, long⟩
  | pair c d =>
    rcases Bool.and_eq_false_iff.1 h with h | h
    · obtain ⟨n, hn, long⟩ := exists_tooLong c h
      exact ⟨n, .first hn, long⟩
    · obtain ⟨n, hn, long⟩ := exists_tooLong d h
      exact ⟨n, .second hn, long⟩
  | _ => cases h
termination_by sizeOf v
decreasing_by
  all_goals subst_vars
  all_goals simp only [list.sizeOf_spec, set.sizeOf_spec, map.sizeOf_spec, pair.sizeOf_spec] at *
  all_goals omega

theorem Unwritten.obstacle (h : v.Unwritten b) : v.Obstacle b := by
  obtain ⟨h⟩ := h
  obtain ⟨n, hn, long⟩ := exists_tooLong v h
  exact .tooLong hn long

theorem obstacle_map_iff {entries : List (Value × Value)} :
    (map entries).Obstacle b ↔ ∃ entry ∈ entries, entry.1.Obstacle b ∨ entry.2.Obstacle b := by
  constructor
  · intro h
    cases h with
    | tooLong h long =>
      cases h with
      | key he h => exact ⟨_, he, .inl (.tooLong h long)⟩
      | entry he h => exact ⟨_, he, .inr (.tooLong h long)⟩
    | infinite h infinite =>
      cases h with
      | key he h => exact ⟨_, he, .inl (.infinite h infinite)⟩
      | entry he h => exact ⟨_, he, .inr (.infinite h infinite)⟩
  · rintro ⟨entry, he, h | h⟩
    · exact h.of_standsIn (.key he .here)
    · exact h.of_standsIn (.entry he .here)

@[simp] theorem not_obstacle_null : ¬Obstacle .null b := by
  rintro (⟨⟨⟩, _⟩ | ⟨⟨⟩, _⟩)

/-- The entries of a value are all that can be in the way in it. -/
theorem obstacle_of_fields? {fields : Fields} (mapping : v.fields? = some fields)
    (h : (map fields).Obstacle b) : v.Obstacle b := by
  cases v with
  | map entries =>
    cases mapping
    exact h
  | null =>
    cases mapping
    obtain ⟨_, he, _⟩ := obstacle_map_iff.1 h
    cases he
  | _ => cases mapping

theorem exists_of_items {part : Part} {v? : Option Value} {items : List Value}
    (h : Value.items part v? = .ok items) (hv : v ∈ items) : ∃ u, v? = some u ∧ v.StandsIn u := by
  unfold Value.items at h
  split at h
  · cases h
    cases hv
  · cases h
    cases hv
  · cases h
    exact ⟨_, rfl, .item hv .here⟩
  · cases h

end Value

namespace Fields

variable {v : Value} {fields : Fields} {key : String} {keys : List String} {b : Breakdown}

theorem standsIn_of_get? (h : fields.get? key = some v) : v.StandsIn (.map fields) := by
  obtain ⟨k, hk⟩ := Value.exists_mem_of_lookup h
  exact .entry hk .here

theorem standsIn_of_first? (h : fields.first? keys = some v) : v.StandsIn (.map fields) := by
  obtain ⟨key, _, h⟩ := List.exists_of_findSome?_eq_some h
  exact standsIn_of_get? h

theorem standsIn_of_given? (h : fields.given? keys = some v) : v.StandsIn (.map fields) := by
  obtain ⟨key, _, h⟩ := List.exists_of_findSome?_eq_some h
  split at h
  · cases h
  · cases h
  · next present =>
    cases h
    exact standsIn_of_get? present

theorem Unwritten.obstacle (h : fields.Unwritten keys b) : (Value.map fields).Obstacle b := by
  obtain ⟨v, given, h⟩ := h
  exact h.obstacle.of_standsIn (standsIn_of_given? given)

theorem SomeUnwritten.obstacle {texts : List (List String)} (h : fields.SomeUnwritten texts b) :
    (Value.map fields).Obstacle b := by
  obtain ⟨keys, _, h⟩ := h
  exact h.obstacle

end Fields

section Parts

variable {v : Value} {fields : Fields} {b : Breakdown}

theorem ListBreaks.obstacle {α : Type} {read : Nat → Value → Except Failure α}
    {breaks : Value → Breakdown → Prop} {part : Part} {key : String}
    (h : ListBreaks read breaks part (fields.get? key) b)
    (each : ∀ v, breaks v b → v.Obstacle b) : (Value.map fields).Obstacle b := by
  obtain ⟨before, v, after, _, listed, _, h⟩ := h
  obtain ⟨u, present, hv⟩ := Value.exists_of_items listed (by simp : v ∈ before ++ v :: after)
  exact (each v h).of_standsIn (hv.trans (Fields.standsIn_of_get? present))

theorem ItemBreaks.obstacle {texts : List (List String)} (h : ItemBreaks texts v b) :
    v.Obstacle b := by
  cases h with
  | name mapping h => exact Value.obstacle_of_fields? mapping h.obstacle
  | text mapping _ h => exact Value.obstacle_of_fields? mapping h.obstacle

theorem OptionsBreak.obstacle (h : OptionsBreak fields b) : (Value.map fields).Obstacle b := by
  obtain ⟨entries, mapping, entry, he, h⟩ := h
  have h := Value.obstacle_of_fields? mapping
    (Value.obstacle_map_iff.2 ⟨entry, he, h.imp (·.obstacle) (·.obstacle)⟩)
  cases present : fields.get? "options" with
  | none => simp [present] at h
  | some v =>
    rw [present] at h
    exact h.of_standsIn (Fields.standsIn_of_get? present)

theorem StatusBreaks.obstacle (h : StatusBreaks fields.status b) :
    (Value.map fields).Obstacle b := by
  obtain ⟨_, h⟩ := h
  rw [Fields.status] at h
  cases present : fields.first? ["expected_status", "expectedHttpStatusCodes"] with
  | none => simp [present] at h
  | some v =>
    rw [present] at h
    exact h.obstacle.of_standsIn (Fields.standsIn_of_first? present)

theorem Exchange.Breaks.obstacle (h : Exchange.Breaks fields b) :
    (Value.map fields).Obstacle b := by
  cases h with
  | rule h => exact h.obstacle fun _ => ItemBreaks.obstacle
  | status _ h => exact h.obstacle
  | option _ _ h => exact h.obstacle

theorem IndexBreaks.obstacle (h : IndexBreaks fields b) : (Value.map fields).Obstacle b := by
  cases h with
  | infinite given h =>
    obtain ⟨x, negative, rfl, infinite⟩ := Value.whole_eq_infinite.1 h
    exact .infinite (Fields.standsIn_of_first? given) infinite
  | unwritten given _ h => exact h.obstacle.of_standsIn (Fields.standsIn_of_first? given)

theorem FormChoice.Breaks.obstacle (h : FormChoice.Breaks fields b) :
    (Value.map fields).Obstacle b := by
  cases h with
  | index h => exact h.obstacle
  | text _ h => exact h.obstacle

theorem FetchBreaks.obstacle (h : FetchBreaks fields b) : (Value.map fields).Obstacle b := by
  cases h with
  | url h => exact h.obstacle
  | exchange _ h => exact h.obstacle

theorem SubmitBreaks.obstacle (h : SubmitBreaks fields b) : (Value.map fields).Obstacle b := by
  cases h with
  | override h => exact h.obstacle fun _ => ItemBreaks.obstacle
  | choice _ h => exact h.obstacle
  | exchange _ _ h => exact h.obstacle

/-- What is in the way in the kind of a step or in its parameters is so in the step. -/
theorem obstacle_of_stepParts? {key parameters : Value}
    (parts : stepParts? v = some (key, parameters)) (h : key.Obstacle b ∨ parameters.Obstacle b) :
    v.Obstacle b := by
  unfold stepParts? at parts
  split at parts
  · next entries =>
    split at parts
    · next kind present =>
      cases parts
      rcases h with h | h
      · exact h.of_standsIn (Fields.standsIn_of_get? present)
      · obtain ⟨entry, he, h⟩ := Value.obstacle_map_iff.1 h
        exact Value.obstacle_map_iff.2 ⟨entry, (List.mem_filter.1 he).1, h⟩
    · split at parts
      · cases parts
        exact Value.obstacle_map_iff.2 ⟨_, List.mem_cons_self, h⟩
      · cases parts
  · cases parts

theorem Step.Breaks.obstacle (h : Step.Breaks v b) : v.Obstacle b := by
  have of_fields {v : Value} {kind : StepKind} {fields : Fields} {b : Breakdown}
      (described : Describes v kind fields) (h : (Value.map fields).Obstacle b) : v.Obstacle b := by
    obtain ⟨key, parameters, parts, _, _, mapping⟩ := described
    exact obstacle_of_stepParts? parts (.inr (Value.obstacle_of_fields? mapping h))
  induction h with
  | notAnAction _ h => exact h.obstacle
  | kind parts h => exact obstacle_of_stepParts? parts (.inl h.obstacle)
  | fetch described h => exact of_fields described h.obstacle
  | submit described h => exact of_fields described h.obstacle
  | jump described h => exact of_fields described h.obstacle
  | branch described _ h => exact of_fields described h.obstacle
  | value described _ _ h => exact of_fields described h.obstacle
  | inner described given _ _ _ ih =>
    exact of_fields described (ih.of_standsIn (Fields.standsIn_of_given? given))

theorem Target.Breaks.obstacle (h : Target.Breaks fields b) : (Value.map fields).Obstacle b := by
  cases h with
  | name h => exact h.obstacle
  | step _ h => exact h.obstacle fun _ => Step.Breaks.obstacle

theorem Script.Root.obstacle {root : Fields} (rooted : Script.Root v root)
    (h : (Value.map root).Obstacle b) : v.Obstacle b := by
  obtain ⟨outer, mapping, wrapped⟩ := rooted
  refine Value.obstacle_of_fields? mapping ?_
  have h := Value.obstacle_of_fields? wrapped h
  cases present : outer.get? "script" with
  | none =>
    rw [present] at h
    exact h
  | some w =>
    rw [present] at h
    exact h.of_standsIn (Fields.standsIn_of_get? present)

theorem Script.Breaks.obstacle (h : Script.Breaks v b) : v.Obstacle b := by
  cases h with
  | entry rooted h => exact rooted.obstacle h.obstacle
  | target rooted _ listed h =>
    obtain ⟨before, w, after, _, fields, rfl, _, mapping, h⟩ := h
    obtain ⟨u, present, hw⟩ := Value.exists_of_items listed (by simp : w ∈ before ++ w :: after)
    have hw := (Value.obstacle_of_fields? mapping h.obstacle).of_standsIn hw
    exact rooted.obstacle (hw.of_standsIn (Fields.standsIn_of_get? present))

end Parts

namespace Script

/-- Loading data ends with a script or with a fault of loading, unless it breaks down; and it breaks
down just where it comes to an infinite form index or has to write a number that is too long. So it
never does on data without such numbers. -/
theorem ofValue_ends (v : Value) :
    ((∃ script, ofValue v = .ok script) ∨ (∃ e, ofValue v = .error (.script e) ∧ e.ofLoading) ↔
      ∀ b, ¬Breaks v b) ∧
    (∀ b, ofValue v = .error (.breakdown b) ↔ Breaks v b) ∧
    ∀ b, Breaks v b → v.Obstacle b := by
  have loading := ofValue_loading v
  refine ⟨?_, loading.breakdown, fun b => Breaks.obstacle⟩
  cases h : ofValue v with
  | ok script =>
    refine iff_of_true (.inl ⟨script, rfl⟩) fun b breaks => ?_
    cases h.symm.trans ((loading.breakdown b).2 breaks)
  | error f =>
    cases f with
    | script e =>
      refine iff_of_true (.inr ⟨e, rfl, loading.fault e h⟩) fun b breaks => ?_
      cases h.symm.trans ((loading.breakdown b).2 breaks)
    | breakdown b =>
      refine iff_of_false ?_ fun sound => sound b ((loading.breakdown b).1 h)
      rintro (⟨_, h⟩ | ⟨_, h, _⟩) <;> cases h

/-- A script whose form index is infinite. -/
def endlessData : Value :=
  .map [(.text "targets", .list [.map [(.text "name", .text "A"),
    (.text "actions", .list [
      .map [(.text "submit", .map [(.text "form_index", .float (1.0 / 0.0))])]])]])]

theorem endless_breaks_down : Script.ofValue endlessData = .error (.breakdown .tooLarge) := by
  decide +kernel

theorem endless_ends_so : Breaks endlessData .tooLarge ∧ endlessData.Obstacle .tooLarge := by
  have breaks := ((ofValue_ends endlessData).2.1 .tooLarge).1 endless_breaks_down
  exact ⟨breaks, (ofValue_ends endlessData).2.2 _ breaks⟩

/-- The data is neither loaded nor refused as that of no script. -/
theorem endless_escapes : (∀ script, ofValue endlessData ≠ .ok script) ∧
    ∀ e, ofValue endlessData ≠ .error (.script e) := by
  rw [endless_breaks_down]
  exact ⟨nofun, nofun⟩

end Script
end WebScript
