import WebScript.Config
import WebScript.Proofs.Precedence
import WebScript.Proofs.Script.Obstacles

namespace WebScript.Config

variable {α β : Type} {f : ConfigFailure} {v : Value} {entries : List (Value × Value)}

inductive Setting where
  | accessor
  | userAgent
  | timeout
  | headless
  | maxJumpDepth
  | inputs

namespace Setting

def all : List Setting :=
  [accessor, userAgent, timeout, headless, maxJumpDepth, inputs]

def name : Setting → String
  | accessor => "accessor"
  | userAgent => "user_agent"
  | timeout => "timeout"
  | headless => "headless"
  | maxJumpDepth => "max_jump_depth"
  | inputs => "inputs"

inductive IsWhole : Setting → Prop
  | timeout : IsWhole timeout
  | maxJumpDepth : IsWhole maxJumpDepth

/-- The ways in which a setting cannot be read from a value. -/
inductive Fails : Setting → Value → ConfigFailure → Prop
  | unwrittenName {v : Value} {b : Breakdown} (h : v.Unwritten b) : Fails accessor v (.breakdown b)
  | unknown {v : Value} (written : v.isWritable = true) (h : Text.lower v.asText ∉ accessorNames) :
      Fails accessor v (.config (.unknownAccessor v.asText))
  | unwrittenAgent {v : Value} {b : Breakdown} (h : v.Unwritten b) :
      Fails userAgent v (.breakdown b)
  | infinite {s : Setting} {v : Value} (number : s.IsWhole) (h : v.whole = .error .infinite) :
      Fails s v (.breakdown .tooLarge)
  | unshown {s : Setting} {v : Value} {b : Breakdown} (number : s.IsWhole)
      (other : v.whole = .error .notANumber) (h : v.Unwritten b) : Fails s v (.breakdown b)
  | notANumber {s : Setting} {v : Value} (number : s.IsWhole) (written : v.isWritable = true)
      (h : v.whole = .error .notANumber) : Fails s v (.config (.notAnInteger s.name v.shown))
  | noMapping {v : Value} (given : v.truthy = true) (h : ∀ pairs, v ≠ .map pairs) :
      Fails inputs v (.config .badInputs)
  | unwrittenInput {pairs : List (Value × Value)} {b : Breakdown}
      (h : (Value.map pairs).Unwritten b) :
      Fails inputs (.map pairs) (.breakdown b)

/-- A setting cannot be read from the entry of its name. -/
def FailsIn (entries : List (Value × Value)) (s : Setting) (f : ConfigFailure) : Prop :=
  ∃ v, Value.lookup s.name entries = some v ∧ s.Fails v f

/-- Of some settings in turn, the first that cannot be read fails so. -/
def FirstFails (entries : List (Value × Value)) (settings : List Setting) (f : ConfigFailure) :
    Prop :=
  ∃ s, IsFirst (fun s => ∃ f, FailsIn entries s f) settings s ∧ s.FailsIn entries f

def Gives (entries : List (Value × Value)) (s : Setting) (default : α) (reads : Value → α → Prop)
    (a : α) : Prop :=
  match Value.lookup s.name entries with
  | none => a = default
  | some v => reads v a

end Setting

section Readers

theorem whereWritable_eq_error {r : Reader α} :
    whereWritable v r = .error f ↔
      (∃ b, f = .breakdown b ∧ v.Unwritten b) ∨ v.isWritable = true ∧ r = .error f := by
  rw [whereWritable]
  split
  · next h => simp [Value.Unwritten.iff_of_isWritable h, h]
  · next h =>
    have h : v.isWritable = false := by simpa using h
    constructor
    · intro he
      cases he
      exact .inl ⟨_, rfl, .intro h⟩
    · rintro (⟨_, rfl, ⟨_⟩⟩ | ⟨h', _⟩)
      · rfl
      · cases h.symm.trans h'

theorem whereWritable_eq_ok {r : Reader α} {a : α} :
    whereWritable v r = .ok a ↔ v.isWritable = true ∧ r = .ok a := by
  rw [whereWritable]
  split
  · next h => simp [h]
  · next h => simp [h]

theorem textOf_eq_error : textOf v = .error f ↔ ∃ b, f = .breakdown b ∧ v.Unwritten b := by
  rw [textOf, whereWritable_eq_error]
  exact or_iff_left fun ⟨_, h⟩ => nomatch h

theorem textOf_eq_ok {text : String} :
    textOf v = .ok text ↔ v.isWritable = true ∧ text = v.asText := by
  rw [textOf, whereWritable_eq_ok, Except.ok.injEq, @eq_comm _ v.asText]

theorem textOf_fails : textOf v = .error f ↔ Setting.userAgent.Fails v f := by
  rw [textOf_eq_error]
  constructor
  · rintro ⟨b, rfl, h⟩
    exact .unwrittenAgent h
  · intro h
    cases h with
    | unwrittenAgent h => exact ⟨_, rfl, h⟩
    | infinite number | unshown number | notANumber number => cases number

theorem accessorOf_eq_error : accessorOf v = .error f ↔ Setting.accessor.Fails v f := by
  rw [accessorOf, Except.bind_eq_error, textOf_eq_error]
  constructor
  · rintro (⟨b, rfl, h⟩ | ⟨text, written, h⟩)
    · exact .unwrittenName h
    · obtain ⟨writable, rfl⟩ := textOf_eq_ok.1 written
      dsimp only at h
      split at h
      · cases h
      · next other =>
        cases h
        exact .unknown writable (by simpa using other)
  · intro h
    cases h with
    | unwrittenName h => exact .inl ⟨_, rfl, h⟩
    | unknown written h =>
      refine .inr ⟨_, textOf_eq_ok.2 ⟨written, rfl⟩, ?_⟩
      simp [h]
    | infinite number | unshown number | notANumber number => cases number

theorem accessorOf_eq_ok {name : String} : accessorOf v = .ok name ↔
    v.isWritable = true ∧ name ∈ accessorNames ∧ name = Text.lower v.asText := by
  rw [accessorOf, Except.bind_eq_ok]
  constructor
  · rintro ⟨text, written, h⟩
    obtain ⟨writable, rfl⟩ := textOf_eq_ok.1 written
    dsimp only at h
    split at h
    · next known =>
      cases h
      exact ⟨writable, by simpa using known, rfl⟩
    · cases h
  · rintro ⟨written, known, rfl⟩
    refine ⟨_, textOf_eq_ok.2 ⟨written, rfl⟩, ?_⟩
    simp [known, pure, Except.pure]

theorem wholeField_eq_ok {field : String} {n : Int} :
    wholeField field v = .ok n ↔ v.whole = .ok n := by
  rw [wholeField]
  split
  · next h => rw [h, Except.ok.injEq, Except.ok.injEq]
  · next h =>
    rw [whereWritable_eq_ok, h]
    exact iff_of_false (fun ⟨_, h⟩ => nomatch h) nofun
  · next h =>
    rw [h]
    exact iff_of_false nofun nofun

theorem wholeField_eq_error {s : Setting} (number : s.IsWhole) :
    wholeField s.name v = .error f ↔ s.Fails v f := by
  have fails_iff : s.Fails v f ↔
      (v.whole = .error .infinite ∧ f = .breakdown .tooLarge) ∨
      (v.whole = .error .notANumber ∧ ((∃ b, f = .breakdown b ∧ v.Unwritten b) ∨
        v.isWritable = true ∧ f = .config (.notAnInteger s.name v.shown))) := by
    constructor
    · intro h
      cases h with
      | infinite _ h => exact .inl ⟨h, rfl⟩
      | unshown _ other h => exact .inr ⟨other, .inl ⟨_, rfl, h⟩⟩
      | notANumber _ written h => exact .inr ⟨h, .inr ⟨written, rfl⟩⟩
      | unwrittenName | unknown | unwrittenAgent | noMapping | unwrittenInput => cases number
    · rintro (⟨h, rfl⟩ | ⟨other, ⟨b, rfl, h⟩ | ⟨written, rfl⟩⟩)
      · exact .infinite number h
      · exact .unshown number other h
      · exact .notANumber number written other
  rw [fails_iff, wholeField]
  split
  · next whole =>
    rw [whole]
    exact iff_of_false nofun (by rintro (⟨h, _⟩ | ⟨h, _⟩) <;> cases h)
  · next other =>
    rw [other, whereWritable_eq_error]
    constructor
    · rintro (h | ⟨written, h⟩)
      · exact .inr ⟨rfl, .inl h⟩
      · cases h
        exact .inr ⟨rfl, .inr ⟨written, rfl⟩⟩
    · rintro (⟨h, _⟩ | ⟨_, h | ⟨written, rfl⟩⟩)
      · cases h
      · exact .inl h
      · exact .inr ⟨written, rfl⟩
  · next infinite =>
    rw [infinite]
    constructor
    · intro h
      cases h
      exact .inl ⟨rfl, rfl⟩
    · rintro (⟨_, rfl⟩ | ⟨h, _⟩)
      · rfl
      · cases h

/-- An input as a pair of texts; null is the empty text. -/
def inputPair (entry : Value × Value) : String × String :=
  (entry.1.asText, match entry.2 with
    | .null => ""
    | v => v.asText)

/-- The inputs that a value lists; what is no mapping lists none. -/
def listed : Value → Dict
  | .map pairs => .ofPairs (pairs.map inputPair)
  | _ => []

def inputOf (entry : Value × Value) : Reader (String × String) := do
  let key ← textOf entry.1
  return (key, ← match entry.2 with
    | .null => .ok ""
    | v => textOf v)

/-- An input is read where both its name and its value can be written. -/
theorem inputOf_eq (entry : Value × Value) : inputOf entry =
    if entry.1.isWritable && entry.2.isWritable then .ok (inputPair entry)
    else .error (.breakdown (.badValue "")) := by
  obtain ⟨k, v⟩ := entry
  cases hk : k.isWritable with
  | false => simp [inputOf, textOf, whereWritable, hk, bind, Except.bind]
  | true =>
    cases hv : v.isWritable with
    | false =>
      cases v with
      | null => cases hv
      | _ => simp [inputOf, textOf, whereWritable, hk, hv, bind, Except.bind]
    | true =>
      cases v <;>
        simp [inputOf, textOf, whereWritable, hk, hv, inputPair, bind, Except.bind, pure,
          Except.pure]

theorem mapM_inputOf (pairs : List (Value × Value)) :
    pairs.mapM inputOf = whereWritable (.map pairs) (.ok (pairs.map inputPair)) := by
  induction pairs with
  | nil => rfl
  | cons entry rest ih =>
    rw [List.mapM_cons, inputOf_eq, ih]
    rw [whereWritable, whereWritable, Value.isWritable, Value.isWritable, Value.entriesWritable]
    cases entry.1.isWritable && entry.2.isWritable with
    | false => rfl
    | true => cases Value.entriesWritable rest <;> rfl

theorem inputsOf_map (pairs : List (Value × Value)) :
    inputsOf (.map pairs) = whereWritable (.map pairs) (.ok (listed (.map pairs))) := by
  cases pairs with
  | nil => rfl
  | cons entry rest =>
    have read : inputsOf (.map (entry :: rest)) =
        (entry :: rest).mapM inputOf >>= fun pairs => pure (.ofPairs pairs) := rfl
    rw [read, mapM_inputOf, whereWritable, whereWritable]
    split <;> rfl

theorem inputsOf_other (h : ∀ pairs, v ≠ .map pairs) :
    inputsOf v = if v.truthy then .error (.config .badInputs) else .ok [] := by
  rw [inputsOf]
  · cases v.truthy <;> rfl
  · exact h

theorem inputsOf_eq_error : inputsOf v = .error f ↔ Setting.inputs.Fails v f := by
  by_cases mapping : ∃ pairs, v = .map pairs
  · obtain ⟨pairs, rfl⟩ := mapping
    rw [inputsOf_map, whereWritable_eq_error]
    constructor
    · rintro (⟨b, rfl, h⟩ | ⟨_, h⟩)
      · exact .unwrittenInput h
      · cases h
    · intro h
      cases h with
      | noMapping _ h => exact absurd rfl (h pairs)
      | unwrittenInput h => exact .inl ⟨_, rfl, h⟩
      | infinite number | unshown number | notANumber number => cases number
  · have other : ∀ pairs, v ≠ .map pairs := fun pairs h => mapping ⟨pairs, h⟩
    rw [inputsOf_other other]
    constructor
    · intro h
      split at h
      · next given =>
        cases h
        exact .noMapping given other
      · cases h
    · intro h
      cases h with
      | noMapping given => rw [if_pos given]
      | unwrittenInput => exact absurd rfl (other _)
      | infinite number | unshown number | notANumber number => cases number

theorem listed_of_inputsOf {d : Dict} (h : inputsOf v = .ok d) : d = listed v := by
  by_cases mapping : ∃ pairs, v = .map pairs
  · obtain ⟨pairs, rfl⟩ := mapping
    rw [inputsOf_map, whereWritable_eq_ok] at h
    exact (Except.ok.inj h.2).symm
  · have other : ∀ pairs, v ≠ .map pairs := fun pairs h => mapping ⟨pairs, h⟩
    rw [inputsOf_other other] at h
    split at h
    · cases h
    · cases h
      cases v with
      | map pairs => exact absurd rfl (other pairs)
      | _ => rfl

end Readers

section Settings

variable {s : Setting} {settings : List Setting}

theorem setting_eq_error {default : α} {read : Value → Reader α}
    (h : ∀ v f, read v = .error f ↔ s.Fails v f) (f : ConfigFailure) :
    setting entries s.name default read = .error f ↔ s.FailsIn entries f := by
  rw [setting, Setting.FailsIn]
  cases Value.lookup s.name entries with
  | none => simp
  | some v => simp [h]

theorem gives_of_setting {default : α} {read : Value → Reader α} {reads : Value → α → Prop} {a : α}
    (taken : setting entries s.name default read = .ok a) (h : ∀ v a, read v = .ok a → reads v a) :
    s.Gives entries default reads a := by
  rw [setting] at taken
  rw [Setting.Gives]
  cases given : Value.lookup s.name entries with
  | none =>
    rw [given] at taken
    exact (Except.ok.inj taken).symm
  | some v =>
    rw [given] at taken
    exact h v a taken

theorem firstFails_cons : Setting.FirstFails entries (s :: settings) f ↔
    s.FailsIn entries f ∨ (∀ f, ¬s.FailsIn entries f) ∧ Setting.FirstFails entries settings f := by
  simp only [Setting.FirstFails, isFirst_cons]
  constructor
  · rintro ⟨_, ⟨_, rfl⟩ | ⟨sound, first⟩, h⟩
    · exact .inl h
    · exact .inr ⟨not_exists.1 sound, _, first, h⟩
  · rintro (h | ⟨sound, t, first, h⟩)
    · exact ⟨s, .inl ⟨⟨f, h⟩, rfl⟩, h⟩
    · exact ⟨t, .inr ⟨not_exists.2 sound, first⟩, h⟩

/-- Settings that are read one after another fail where the first of them does. -/
theorem bind_eq_error_iff_firstFails {x : Reader α} {g : α → Reader β}
    (hx : ∀ f, x = .error f ↔ s.FailsIn entries f)
    (hg : ∀ a f, g a = .error f ↔ Setting.FirstFails entries settings f) :
    (x >>= g) = .error f ↔ Setting.FirstFails entries (s :: settings) f := by
  rw [Except.bind_eq_error, firstFails_cons, hx]
  apply or_congr_right
  constructor
  · rintro ⟨a, read, h⟩
    refine ⟨fun f fails => ?_, (hg a f).1 h⟩
    cases read.symm.trans ((hx f).2 fails)
  · rintro ⟨sound, h⟩
    cases read : x with
    | error f => exact absurd ((hx f).1 read) (sound f)
    | ok a => exact ⟨a, rfl, (hg a f).2 h⟩

end Settings

/-- The configuration of a project with all settings as they are by default. -/
def base (dir : String) : Config :=
  { projectDir := dir }

/-- A configuration has for each setting what its entry is read as, and the default where there is
none. -/
structure ReadFrom (dir : String) (entries : List (Value × Value)) (c : Config) : Prop where
  projectDir : c.projectDir = dir
  accessor : Setting.accessor.Gives entries (base dir).accessor
    (fun v name => name ∈ accessorNames ∧ name = Text.lower v.asText) c.accessor
  userAgent :
  Setting.userAgent.Gives entries (base dir).userAgent (fun v text => text = v.asText) c.userAgent
  timeout : Setting.timeout.Gives entries (base dir).timeout (fun v n => v.whole = .ok n) c.timeout
  headless : Setting.headless.Gives entries (base dir).headless (fun v b => b = v.truthy) c.headless
  maxJumpDepth :
  Setting.maxJumpDepth.Gives entries (base dir).maxJumpDepth (fun v n => v.whole = .ok n)
    c.maxJumpDepth
  inputs : Setting.inputs.Gives entries (base dir).inputs (fun v d => d = listed v) c.inputs

variable {dir : String} {c : Config}

theorem ofEntries_readFrom (h : ofEntries dir entries = .ok c) : c.ReadFrom dir entries := by
  obtain ⟨accessor, haccessor, h⟩ := Except.bind_eq_ok.1 h
  obtain ⟨userAgent, huserAgent, h⟩ := Except.bind_eq_ok.1 h
  obtain ⟨timeout, htimeout, h⟩ := Except.bind_eq_ok.1 h
  obtain ⟨headless, hheadless, h⟩ := Except.bind_eq_ok.1 h
  obtain ⟨maxJumpDepth, hmaxJumpDepth, h⟩ := Except.bind_eq_ok.1 h
  obtain ⟨inputs, hinputs, h⟩ := Except.bind_eq_ok.1 h
  cases h
  exact {
    projectDir := rfl
    accessor := gives_of_setting haccessor fun _ _ h => (accessorOf_eq_ok.1 h).2
    userAgent := gives_of_setting huserAgent fun _ _ h => (textOf_eq_ok.1 h).2
    timeout := gives_of_setting htimeout fun _ _ h => wholeField_eq_ok.1 h
    headless := gives_of_setting hheadless fun _ _ h => (Except.ok.inj h).symm
    maxJumpDepth := gives_of_setting hmaxJumpDepth fun _ _ h => wholeField_eq_ok.1 h
    inputs := gives_of_setting hinputs fun _ _ h => listed_of_inputsOf h }

theorem ReadFrom.accessor_mem (h : c.ReadFrom dir entries) : c.accessor ∈ accessorNames := by
  have known := h.accessor
  rw [Setting.Gives] at known
  split at known
  · rw [known]
    exact List.mem_cons_self
  · exact known.1

theorem not_firstFails_nil : ¬Setting.FirstFails entries [] f := by
  rintro ⟨s, first, _⟩
  cases first.mem

theorem ofEntries_eq_error :
    ofEntries dir entries = .error f ↔ Setting.FirstFails entries Setting.all f := by
  have headless (v : Value) (f : ConfigFailure) : (.ok v.truthy : Reader Bool) = .error f ↔
      Setting.headless.Fails v f := by
    refine iff_of_false nofun fun h => ?_
    cases h with
    | infinite number | unshown number | notANumber number => cases number
  apply bind_eq_error_iff_firstFails (setting_eq_error fun _ _ => accessorOf_eq_error)
  intro _ _
  apply bind_eq_error_iff_firstFails (setting_eq_error fun _ _ => textOf_fails)
  intro _ _
  apply bind_eq_error_iff_firstFails (setting_eq_error fun _ _ => wholeField_eq_error .timeout)
  intro _ _
  apply bind_eq_error_iff_firstFails (setting_eq_error headless)
  intro _ _
  apply bind_eq_error_iff_firstFails (setting_eq_error fun _ _ => wholeField_eq_error .maxJumpDepth)
  intro _ _
  apply bind_eq_error_iff_firstFails (setting_eq_error fun _ _ => inputsOf_eq_error)
  intro _ _
  exact iff_of_false nofun not_firstFails_nil

theorem Setting.FirstFails.obstacle {b : Breakdown}
    (h : Setting.FirstFails entries Setting.all (.breakdown b)) :
    (Value.map entries).Obstacle b := by
  obtain ⟨s, _, v, given, h⟩ := h
  obtain ⟨k, entry⟩ := Value.exists_mem_of_lookup given
  refine Value.Obstacle.of_standsIn ?_ (.entry entry .here)
  cases h with
  | unwrittenName h => exact h.obstacle
  | unwrittenAgent h => exact h.obstacle
  | infinite _ h =>
    obtain ⟨x, negative, rfl, infinite⟩ := Value.whole_eq_infinite.1 h
    exact .infinite .here infinite
  | unshown _ _ h => exact h.obstacle
  | unwrittenInput h => exact h.obstacle

/-- Reading a mapping ends with a configuration or with an error of the configuration, unless the
first setting that cannot be read breaks down, at an infinite number or at one that is too long to
be written; so it always does on data without such numbers. A configuration that is read has an
accessor that there is, and default values for what the mapping does not name. -/
theorem ofEntries_ends (dir : String) (entries : List (Value × Value)) :
    ((∃ c, ofEntries dir entries = .ok c) ∨ (∃ e, ofEntries dir entries = .error (.config e)) ↔
      ∀ b, ¬Setting.FirstFails entries Setting.all (.breakdown b)) ∧
    (∀ c, ofEntries dir entries = .ok c → c.accessor ∈ accessorNames ∧ c.ReadFrom dir entries) ∧
    (∀ f, ofEntries dir entries = .error f ↔ Setting.FirstFails entries Setting.all f) ∧
    ∀ b, Setting.FirstFails entries Setting.all (.breakdown b) →
      (Value.map entries).Obstacle b := by
  refine ⟨?_, ?_, fun f => ofEntries_eq_error, fun b => Setting.FirstFails.obstacle⟩
  · cases h : ofEntries dir entries with
    | ok c =>
      refine iff_of_true (.inl ⟨c, rfl⟩) fun b fails => ?_
      cases h.symm.trans (ofEntries_eq_error.2 fails)
    | error f =>
      cases f with
      | config e =>
        refine iff_of_true (.inr ⟨e, rfl⟩) fun b fails => ?_
        cases h.symm.trans (ofEntries_eq_error.2 fails)
      | breakdown b =>
        refine iff_of_false ?_ fun sound => sound b (ofEntries_eq_error.1 h)
        rintro (⟨_, h⟩ | ⟨_, h⟩) <;> cases h
  · intro c h
    have read := ofEntries_readFrom h
    exact ⟨read.accessor_mem, read⟩

/-- A mapping with a timeout, and an accessor in another case. -/
def patientEntries (timeout : Value) : List (Value × Value) :=
  [(.text "accessor", .text "Playwright"), (.text "timeout", timeout)]

theorem patient_fails :
    Setting.FirstFails (patientEntries (.float (1.0 / 0.0))) Setting.all
    (.breakdown .tooLarge) := by
  rw [← @ofEntries_eq_error _ _ "conf"]
  decide

/-- A timeout that is written as a text is read, and one without end breaks the reading down. -/
theorem patient_ends_so : (∃ c, ofEntries "conf" (patientEntries (.text "1_20 ")) = .ok c ∧
      c.accessor ∈ accessorNames ∧ c.ReadFrom "conf" (patientEntries (.text "1_20 "))) ∧
    ofEntries "conf" (patientEntries (.float (1.0 / 0.0))) = .error (.breakdown .tooLarge) ∧
    (Value.map (patientEntries (.float (1.0 / 0.0)))).Obstacle .tooLarge := by
  obtain ⟨-, read, -, -⟩ := ofEntries_ends "conf" (patientEntries (.text "1_20 "))
  obtain ⟨-, -, fails, obstacle⟩ := ofEntries_ends "conf" (patientEntries (.float (1.0 / 0.0)))
  have ends : ofEntries "conf" (patientEntries (.text "1_20 ")) =
      .ok { base "conf" with accessor := "playwright", timeout := 120 } := by decide
  exact ⟨⟨_, ends, read _ ends⟩, (fails _).2 patient_fails, obstacle _ patient_fails⟩

/-- A mapping with an endless timeout is neither read nor refused as a configuration. -/
theorem patient_escapes : (∀ c, ofEntries "conf" (patientEntries (.float (1.0 / 0.0))) ≠ .ok c) ∧
    ∀ e, ofEntries "conf" (patientEntries (.float (1.0 / 0.0))) ≠ .error (.config e) := by
  have breaks : ofEntries "conf" (patientEntries (.float (1.0 / 0.0))) =
      .error (.breakdown .tooLarge) := by decide
  rw [breaks]
  exact ⟨nofun, nofun⟩

end WebScript.Config
