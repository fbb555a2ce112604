import Mathlib.Tactic.Common
import WebScript.Config
import WebScript.Proofs.Yaml.Scanning
import WebScript.Proofs.Yaml.Tree
import WebScript.Script.Load

namespace WebScript.Yaml

namespace Node

variable {level : Nat} {fault : Nat × Fault}

/-- A scalar that stands in a tree, or a mapping that is read as one, has no value, for this fault.
-/
inductive Lacks (f : Fault) : Node → Prop
  | plain {content} (h : Scalar.value content (Scalar.kindOf content) = .error f) :
      Lacks f (.plain content)
  | scalar {tag content kind} (known : scalarKind? tag = some kind)
      (h : Scalar.value content kind = .error f) : Lacks f (.scalar tag content)
  | default {tag entries kind} (known : scalarKind? tag = some kind)
      (h : defaultValue kind entries = .error f) : Lacks f (.mapping tag entries)
  | item {tag items n} (hn : n ∈ items) (h : Lacks f n) : Lacks f (.sequence tag items)
  | key {tag entries entry} (he : entry ∈ entries) (h : Lacks f entry.1) :
      Lacks f (.mapping tag entries)
  | entry {tag entries entry} (he : entry ∈ entries) (h : Lacks f entry.2) :
      Lacks f (.mapping tag entries)

theorem mem_faults_itemValues {items : List Node} :
    fault ∈ (itemValues level items).faults ↔ ∃ n ∈ items, fault ∈ (value level n).faults := by
  induction items with
  | nil => simp [itemValues]
  | cons n rest ih => simp [itemValues, ih]

/-- A fault of entries is one of a key or of a value, or it is that a key is no scalar. -/
theorem mem_faults_entryValues {entries : List (Node × Node)}
    (h : fault ∈ (entryValues level entries).faults) : fault.2 = .malformed ∨
      ∃ entry ∈ entries, fault ∈ (value level entry.1).faults ∨
        fault ∈ (value level entry.2).faults := by
  induction entries with
  | nil => simp [entryValues] at h
  | cons entry rest ih =>
    rw [entryValues, List.mem_append, List.mem_append] at h
    rcases h with (h | h) | h
    · split at h
      · cases List.mem_singleton.1 h
        exact .inl rfl
      · exact .inr ⟨entry, List.mem_cons_self, .inl h⟩
    · exact .inr ⟨entry, List.mem_cons_self, .inr h⟩
    · refine (ih h).imp_right ?_
      rintro ⟨other, ho, h⟩
      exact ⟨other, List.mem_cons_of_mem _ ho, h⟩

/-- A fault of pairs is one of a key or of a value, or it is that an item is no mapping of one
entry. -/
theorem mem_faults_pairValues {items : List Node} (h : fault ∈ (pairValues level items).faults) :
    fault.2 = .malformed ∨ ∃ tag entry, mapping tag [entry] ∈ items ∧
      (fault ∈ (value level entry.1).faults ∨ fault ∈ (value level entry.2).faults) := by
  induction items with
  | nil => simp [pairValues] at h
  | cons n rest ih =>
    unfold pairValues at h
    rcases List.mem_append.1 h with h | h
    · split at h
      · exact .inr ⟨_, _, List.mem_cons_self, List.mem_append.1 h⟩
      · cases List.mem_singleton.1 h
        exact .inl rfl
    · refine (ih h).imp_right ?_
      rintro ⟨tag, entry, he, h⟩
      exact ⟨tag, entry, List.mem_cons_of_mem _ he, h⟩

theorem mem_faults_ofExcept {x : Except Fault Value}
    (h : fault ∈ (Outcome.ofExcept level x).faults) : x = .error fault.2 := by
  cases x with
  | ok v => cases h
  | error f =>
    cases List.mem_singleton.1 h
    rfl

theorem sizeOf_item_lt {n : Node} {tag : String} {items : List Node} (hn : n ∈ items) :
    sizeOf n < sizeOf (sequence tag items) := by
  have := List.sizeOf_lt_of_mem hn
  rw [sequence.sizeOf_spec]
  omega

theorem sizeOf_entry_lt {tag : String} {entry : Node × Node} {entries : List (Node × Node)}
    (he : entry ∈ entries) : sizeOf entry.1 < sizeOf (mapping tag entries) ∧
      sizeOf entry.2 < sizeOf (mapping tag entries) := by
  have := List.sizeOf_lt_of_mem he
  rw [mapping.sizeOf_spec]
  cases entry
  rw [Prod.mk.sizeOf_spec] at this
  dsimp only
  omega

theorem mem_faults_unmade {tag : String} (h : fault ∈ (unmade level tag).faults) :
    fault.2 = .malformed := by
  cases List.mem_singleton.1 h
  rfl

/-- The faults of a tree are those of scalars that stand in it and have no value; any other is that
the text is malformed. -/
theorem mem_faults_value {level : Nat} (n : Node) (h : fault ∈ (n.value level).faults) :
    fault.2 = .malformed ∨ n.Lacks fault.2 := by
  match n with
  | .plain content =>
    rw [value] at h
    exact .inr (.plain (mem_faults_ofExcept h))
  | .scalar tag content =>
    rw [value] at h
    split at h
    · next kind known => exact .inr (.scalar known (mem_faults_ofExcept h))
    · exact .inl (mem_faults_unmade h)
  | .sequence tag items =>
    rw [value] at h
    split at h
    · obtain ⟨n, hn, h⟩ := mem_faults_itemValues.1 h
      exact (mem_faults_value n h).imp_right (.item hn)
    · split at h
      · -- Pairs are items of one entry each, so the tree goes down two levels here.
        rcases mem_faults_pairValues h with h | ⟨inner, entry, he, h | h⟩
        · exact .inl h
        · exact (mem_faults_value entry.1 h).imp_right fun lacks =>
            .item he (.key (List.mem_singleton_self entry) lacks)
        · exact (mem_faults_value entry.2 h).imp_right fun lacks =>
            .item he (.entry (List.mem_singleton_self entry) lacks)
      · exact .inl (mem_faults_unmade h)
  | .mapping tag entries =>
    have known (h : fault ∈ (entryValues (level + 1) entries).faults) :
        fault.2 = .malformed ∨ (mapping tag entries).Lacks fault.2 := by
      rcases mem_faults_entryValues h with h | ⟨entry, he, h | h⟩
      · exact .inl h
      · exact (mem_faults_value entry.1 h).imp_right (.key he)
      · exact (mem_faults_value entry.2 h).imp_right (.entry he)
    rw [value] at h
    split at h
    · exact known h
    · split at h
      · exact known h
      · split at h
        · next kind scalar => exact .inr (.default scalar (mem_faults_ofExcept h))
        · exact .inl (mem_faults_unmade h)
termination_by sizeOf n
decreasing_by
  · exact Nat.lt_trans (sizeOf_entry_lt (List.mem_singleton_self entry)).1 (sizeOf_item_lt he)
  · exact Nat.lt_trans (sizeOf_entry_lt (List.mem_singleton_self entry)).2 (sizeOf_item_lt he)
  · exact sizeOf_item_lt hn
  · exact (sizeOf_entry_lt he).1
  · exact (sizeOf_entry_lt he).2

theorem firstFault_mem {faults : List (Nat × Fault)} (h : firstFault faults = some fault) :
    fault ∈ faults := by
  induction faults generalizing fault with
  | nil => cases h
  | cons f rest ih =>
    rw [firstFault] at h
    split at h
    · next g hg =>
      cases h
      split
      · exact List.mem_cons_of_mem _ (ih hg)
      · exact List.mem_cons_self
    · cases h
      exact List.mem_cons_self

end Node

variable {text : String} {f : Fault} {b : Breakdown}

/-- What reading some characters up to a tree and its value breaks down with: a number among them
that is too large for their tokens to be read, or a scalar of the tree without a value. -/
def Cause (cs : List Char) (made : Except Fault (Option Node)) (f : Fault) : Prop :=
  Overflow cs f ∨ ∃ n, made = .ok (some n) ∧ n.merged.Lacks f

theorem Node.ofTokens_ofText_eq_error {cs : List Char}
    (h : ofTokens (.ofText cs) = .error f) : f = .malformed ∨ Overflow cs f := by
  rcases ofTokens_eq_error h with h | rfl
  · exact .inl h
  · exact Tokens.scannable_ofText cs

theorem Node.ofText_eq_error (h : ofText text = .error f) :
    f = .malformed ∨ Overflow text.toList f := by
  rw [ofText] at h
  split at h
  · exact ofTokens_ofText_eq_error h
  · cases h
    exact .inl rfl

theorem Node.ofFile_eq_error (h : ofFile text = .error f) :
    f = .malformed ∨ Overflow (readableParts text.toList) f := by
  rcases Except.bind_eq_error.1 h with h | ⟨found, _, h⟩
  · exact ofTokens_ofText_eq_error h
  · split at h
    · cases h
    · cases h
      exact .inl rfl

/-- The value of a tree is missing where a scalar that stands in it has none, or where the text is
malformed. -/
theorem Node.valueOf_eq_error {root : Option Node} (h : valueOf root = .error f) :
    f = .malformed ∨ ∃ n, root = some n ∧ n.merged.Lacks f := by
  cases root with
  | none => cases h
  | some n =>
    rw [valueOf] at h
    split at h
    · next found =>
      cases h
      refine (mem_faults_value _ (firstFault_mem found)).imp_right ?_
      exact fun lacks => ⟨n, rfl, lacks⟩
    · cases h

theorem cause_of_bind {cs : List Char} {tree : Except Fault (Option Node)}
    (unread : tree = .error f → f = .malformed ∨ Overflow cs f)
    (h : tree >>= Node.valueOf = .error f) : f = .malformed ∨ Cause cs tree f := by
  rcases Except.bind_eq_error.1 h with h | ⟨root, made, h⟩
  · exact (unread h).imp_right .inl
  · refine (Node.valueOf_eq_error h).imp_right ?_
    rintro ⟨n, rfl, lacks⟩
    exact .inr ⟨n, made, lacks⟩

theorem load_eq_error (h : load text = .error f) :
    f = .malformed ∨ Cause text.toList (Node.ofText text) f :=
  cause_of_bind Node.ofText_eq_error h

theorem loadFile_eq_error (h : loadFile text = .error f) :
    f = .malformed ∨ Cause (Node.readableParts text.toList) (Node.ofFile text) f :=
  cause_of_bind Node.ofFile_eq_error h

theorem Node.readableParts_of_all {cs : List Char} (h : cs.all isDocumentChar = true) :
    readableParts cs = cs := by
  have none : cs.findIdx? (!isDocumentChar ·) = none := by
    simpa [List.findIdx?_eq_none_iff] using h
  rw [readableParts, none]

/-- A text of which every character may be in a document is read alike whole and in parts. -/
theorem loadFile_of_all (h : text.toList.all isDocumentChar = true) :
    loadFile text = load text := by
  have same : Node.ofFile text = Node.ofText text := by
    rw [Node.ofFile, Node.ofText, Node.readableParts_of_all h, if_pos h]
    cases Node.ofTokens (.ofText text.toList) with
    | error f => rfl
    | ok found =>
      change (if _ then _ else _) = _
      rw [if_pos h]
      rfl
  rw [loadFile, load, same]

theorem exists_loadFile_eq_error (failed : load text = .error f) :
    ∃ g, loadFile text = .error g ∧ (text.toList.all isDocumentChar = true → g = f) := by
  by_cases h : text.toList.all isDocumentChar = true
  · exact ⟨f, (loadFile_of_all h).trans failed, fun _ => rfl⟩
  · cases read : loadFile text with
    | error g => exact ⟨g, rfl, fun all => absurd all h⟩
    | ok v =>
      obtain ⟨root, made, _⟩ := Except.bind_eq_ok.1 read
      obtain ⟨found, _, made⟩ := Except.bind_eq_ok.1 made
      rw [if_neg h] at made
      cases made

theorem breakdown?_eq_none : f.breakdown? = none ↔ f = .malformed := by
  cases f <;> decide

theorem exists_breakdown?_iff : (∃ b, f.breakdown? = some b) ↔ f ≠ .malformed := by
  rw [← Option.isSome_iff_exists, ← Option.ne_none_iff_isSome, ne_eq, breakdown?_eq_none]

/-- Where the malformed are refused and all others break down, whoever is refused is malformed. -/
theorem refused_iff {ε α : Type} {x : Except ε α} {refused : ε} {down : Breakdown → ε}
    (of_malformed : f = .malformed → x = .error refused)
    (of_breakdown : ∀ b, f.breakdown? = some b → x = .error (down b))
    (apart : ∀ b, down b ≠ refused) : x = .error refused ↔ f = .malformed := by
  constructor
  · intro same
    by_contra other
    obtain ⟨b, hb⟩ := exists_breakdown?_iff.2 other
    exact apart b (Except.error.inj ((of_breakdown b hb).symm.trans same))
  · exact of_malformed

theorem ofText_of_malformed (h : load text = .error .malformed) :
    Script.ofText text = .error (.script (.load .notYaml)) := by
  rw [Script.ofText, Script.documentOf, h]
  rfl

theorem ofText_of_breakdown (h : load text = .error f) (hb : f.breakdown? = some b) :
    Script.ofText text = .error (.breakdown b) := by
  rw [Script.ofText, Script.documentOf, h]
  dsimp only
  rw [hb]
  rfl

theorem documentOf_of_malformed {path : String} (h : loadFile text = .error .malformed) :
    Config.documentOf path text = .error (.config (.notYaml path)) := by
  unfold Config.documentOf
  rw [h]
  rfl

theorem documentOf_of_breakdown {path : String} (h : loadFile text = .error f)
    (hb : f.breakdown? = some b) : Config.documentOf path text = .error (.breakdown b) := by
  unfold Config.documentOf
  rw [h]
  dsimp only
  rw [hb]

section Files

variable {path : String} {files : Files} (file : files.read? (plainPath path) = some text)
include file

theorem ofFile_of_documentOf {e : ConfigFailure}
    (h : Config.documentOf (plainPath path) text = .error e) :
    Config.ofFile path files = .error e := by
  rw [Config.ofFile, file]
  exact Except.bind_eq_error.2 (.inl h)

theorem ofFile_of_malformed (h : loadFile text = .error .malformed) :
    Config.ofFile path files = .error (.config (.notYaml (plainPath path))) :=
  ofFile_of_documentOf file (documentOf_of_malformed h)

theorem ofFile_of_breakdown (h : loadFile text = .error f)
    (hb : f.breakdown? = some b) : Config.ofFile path files = .error (.breakdown b) :=
  ofFile_of_documentOf file (documentOf_of_breakdown h hb)

end Files

/-- A script is refused for a text without a value exactly if the text is malformed. -/
theorem ofText_refused_iff (failed : load text = .error f) :
    Script.ofText text = .error (.script (.load .notYaml)) ↔ f = .malformed := by
  apply refused_iff
  · rintro rfl
    exact ofText_of_malformed failed
  · exact fun _ => ofText_of_breakdown failed
  · nofun

theorem ofFile_refused_iff {path : String} {files : Files} (failed : loadFile text = .error f)
    (file : files.read? (plainPath path) = some text) :
    Config.ofFile path files = .error (.config (.notYaml (plainPath path))) ↔ f = .malformed := by
  apply refused_iff
  · rintro rfl
    exact ofFile_of_malformed file failed
  · exact fun _ => ofFile_of_breakdown file failed
  · nofun

/-- A text without a value is refused by scripts exactly if it is malformed, or else breaks them
down. It has none in a file either, where it is read in parts: configurations refuse it exactly if
it is found to be malformed, or else break down. What breaks them down is a number too large for the
tokens to be read, or a scalar of the tree without a value. -/
theorem load_failure (failed : load text = .error f) :
    ((Script.ofText text = .error (.script (.load .notYaml)) ↔ f = .malformed) ∧
      (f ≠ .malformed → (∃ b, f.breakdown? = some b ∧ Script.ofText text = .error (.breakdown b)) ∧
        Cause text.toList (Node.ofText text) f)) ∧
    ∃ g, loadFile text = .error g ∧ (text.toList.all isDocumentChar = true → g = f) ∧
      (g ≠ .malformed → Cause (Node.readableParts text.toList) (Node.ofFile text) g) ∧
      ∀ path files, Files.read? (plainPath path) files = some text →
        (Config.ofFile path files = .error (.config (.notYaml (plainPath path))) ↔
          g = .malformed) ∧
        (g ≠ .malformed → ∃ b, g.breakdown? = some b ∧
          Config.ofFile path files = .error (.breakdown b)) := by
  refine ⟨⟨ofText_refused_iff failed, fun other =>
    ⟨?_, (load_eq_error failed).resolve_left other⟩⟩, ?_⟩
  · obtain ⟨b, hb⟩ := exists_breakdown?_iff.2 other
    exact ⟨b, hb, ofText_of_breakdown failed hb⟩
  · obtain ⟨g, failed', same⟩ := exists_loadFile_eq_error failed
    refine ⟨g, failed', same, (loadFile_eq_error failed').resolve_left, fun path files file => ?_⟩
    refine ⟨ofFile_refused_iff failed' file, fun other => ?_⟩
    obtain ⟨b, hb⟩ := exists_breakdown?_iff.2 other
    exact ⟨b, hb, ofFile_of_breakdown file failed' hb⟩

/-- A list that does not end is refused. -/
theorem openList_refused : load "[" = .error .malformed ∧
    Script.ofText "[" = .error (.script (.load .notYaml)) := by
  have failed : load "[" = .error .malformed := by decide
  exact ⟨failed, (load_failure failed).1.1.2 rfl⟩

/-- A date that is none is not refused. -/
theorem badDate_escapes : load "2020-13-45" = .error .badValue ∧
    Script.ofText "2020-13-45" = .error (.breakdown (.badValue "")) ∧
    (∀ e, Script.ofText "2020-13-45" ≠ .error (.script e)) ∧
    Config.ofFile "netinteract.yaml" [("netinteract.yaml", "2020-13-45")] =
      .error (.breakdown (.badValue "")) ∧
    ∀ e, Config.ofFile "netinteract.yaml" [("netinteract.yaml", "2020-13-45")] ≠
      .error (.config e) := by
  have failed : load "2020-13-45" = .error .badValue := by decide +kernel
  have file : Files.read? (plainPath "netinteract.yaml") [("netinteract.yaml", "2020-13-45")] =
      some "2020-13-45" := by decide
  have script := ofText_of_breakdown failed rfl
  have config := ofFile_of_breakdown file ((loadFile_of_all (by decide)).trans failed) rfl
  refine ⟨failed, script, ?_, config, ?_⟩
  · rw [script]
    nofun
  · rw [config]
    nofun

end WebScript.Yaml
