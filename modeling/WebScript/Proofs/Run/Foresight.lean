import WebScript.Proofs.Inspection
import WebScript.Proofs.Run.Course

namespace WebScript

variable {σ : Type} {r : Runner σ} {script : Script} {inputs : Dict} {target : Option String}
  {remote : σ} {path : String} {files : Files} {issues : List Issue}

/-- A run starts where its script says: it asks for no target, or for that one. -/
def Script.StartsByDefault (script : Script) (target : Option String) : Prop :=
  filled? target = none ∨ target = script.defaultTarget

theorem Script.StartsByDefault.or_eq (h : script.StartsByDefault target) :
    (filled? target).or (filled? script.defaultTarget) = filled? script.defaultTarget := by
  rcases h with h | rfl
  · rw [h, Option.none_or]
  · exact Option.or_self

namespace Runner

theorem exists_entry (declared : script.EntryDeclared) (named : filled? script.defaultTarget ≠ none)
    (byDefault : script.StartsByDefault target) : ∃ t, entry script target = .ok t := by
  obtain ⟨name, named⟩ := Option.ne_none_iff_exists'.1 named
  obtain ⟨t, found⟩ := declared name named
  refine ⟨t, ?_⟩
  rw [entry, byDefault.or_eq, named]
  simp only [found]

/-- A run whose entry is there and whose script can be made ready comes to its first action. -/
theorem exists_opens {t : Target} (declared : entry script target = .ok t)
    (prepared : (r.prepare script.targets).1 = .ok ()) :
    ∃ m, r.Opens script inputs target remote m := by
  rcases run_begins_or_fails r script inputs target remote with
    ⟨f, _, _, _, _, failed | failed⟩ | ⟨p, begins⟩
  · cases declared.symm.trans failed
  · cases prepared.symm.trans failed
  · obtain ⟨callers, t, actions, s⟩ := p
    cases begins.callers
    exact ⟨⟨[], t, actions, .done, s⟩, begins, rfl, rfl⟩

theorem inspect_passes (loaded : Script.ofFile path files = .ok script)
    (h : inspect path files = .ok issues) :
    Passes issues ↔ script.EntryDeclared ∧ script.JumpsDeclared ∧
      (r.prepare script.targets).1 = .ok () := by
  rw [inspect_of_ok loaded] at h
  rw [Script.issues_passes h, prepare_eq_ok, Script.ruleLists]

/-- Inspection finds no error in a file exactly if it holds a script that starts where a target is,
whose jumps without placeholders lead to targets that there are, and whose rules can all be made
ready. Then each run that starts where the script says comes to its first action; so a file that
cannot be loaded, and a fault that ends such a run before, are foreseen. -/
theorem inspect_foresees (r : Runner σ)
    (loads : ∀ b, Script.ofFile path files ≠ .error (.breakdown b))
    (rules : ∀ script, Script.ofFile path files = .ok script →
      ∀ rules ∈ script.ruleLists, ∀ b, Extractor.ofRules rules ≠ .error (.breakdown b)) :
    ∃ issues, inspect path files = .ok issues ∧
      (Passes issues ↔ ∃ script, Script.ofFile path files = .ok script ∧ script.EntryDeclared ∧
        script.JumpsDeclared ∧ (r.prepare script.targets).1 = .ok ()) ∧
      (∀ e, Script.ofFile path files = .error (.script e) → ¬Passes issues) ∧
      ∀ script, Script.ofFile path files = .ok script → filled? script.defaultTarget ≠ none →
        ∀ inputs target remote, script.StartsByDefault target →
          (Passes issues → ∃ m, r.Opens script inputs target remote m) ∧
          ∀ fin e, r.run script inputs target remote = some fin → fin.result = .error (.script e) →
            (∀ m, ¬r.ComesTo script inputs target remote m) → ¬Passes issues := by
  cases loaded : Script.ofFile path files with
  | error f =>
    cases f with
    | breakdown b => exact absurd loaded (loads b)
    | script e =>
      refine ⟨_, inspect_of_error loaded, ?_, fun _ _ => not_passes_error, nofun⟩
      exact iff_of_false not_passes_error nofun
  | ok script =>
    have sound (lists) (hm : lists ∈ script.ruleLists) (b) : ¬Extractor.RulesBreak lists b :=
      fun breaks => rules script loaded lists hm b (Extractor.ofRules_eq_breakdown.2 breaks)
    obtain ⟨issues, inspected⟩ := (exists_inspect_eq_ok loaded).2 sound
    have passes := inspect_passes (r := r) loaded inspected
    refine ⟨issues, inspected, ?_, nofun, ?_⟩
    · rw [passes]
      simp only [Except.ok.injEq, exists_eq_left']
    · intro script' same named inputs target remote byDefault
      cases same
      have opens (h : Passes issues) : ∃ m, r.Opens script inputs target remote m := by
        obtain ⟨declared, _, prepared⟩ := passes.1 h
        obtain ⟨t, found⟩ := exists_entry declared named byDefault
        exact exists_opens found prepared
      refine ⟨opens, fun fin e _ _ early h => ?_⟩
      obtain ⟨m, hm⟩ := opens h
      exact early m ⟨m, hm, .refl⟩

def tourRule : Rule :=
  { name := "price", xpath := some "." }

/-- A script that takes an output, and then goes to a target in a branch unless an input is given.
-/
def tour : Script :=
  { targets := [
      ⟨"Main", [.fetch "/" { rules := [tourRule] }, .branch "$(Stay)" "" (.jump "visit")]⟩,
      ⟨"Visit", []⟩],
    defaultTarget := some "main" }

def tourFiles : Files :=
  [("tour.yaml", Files.textOf [
    "default_target: main",
    "targets:",
    "- name: Main",
    "  actions:",
    "  - get:",
    "      url: /",
    "      outputs:",
    "      - name: price",
    "        xpath: .",
    "  - if:",
    "      property: $(Stay)",
    "      action:",
    "        call:",
    "          target: visit",
    "- name: Visit"])]

theorem tour_loads : Script.ofFile "tour.yaml" tourFiles = .ok tour := by
  rw [tourFiles, Script.ofFile_textOf (by decide), Script.ofText, Script.documentOf,
    Yaml.load_textOf]
  decide +kernel

theorem tour_rules {rules : List Rule} (h : rules ∈ tour.ruleLists) :
    ∃ x, Extractor.ofRules rules = .ok x := by
  rcases List.mem_cons.1 h with rfl | h
  · exact ⟨⟨[tourRule], [], [(tourRule, ⟨.context⟩)]⟩, by with_unfolding_all rfl⟩
  · cases List.mem_singleton.1 h
    exact ⟨_, rfl⟩

theorem tour_foreseen :
    (∀ b, Script.ofFile "tour.yaml" tourFiles ≠ .error (.breakdown b)) ∧
    (∀ script, Script.ofFile "tour.yaml" tourFiles = .ok script →
      ∀ rules ∈ script.ruleLists, ∀ b, Extractor.ofRules rules ≠ .error (.breakdown b)) ∧
    ∃ issues, inspect "tour.yaml" tourFiles = .ok issues ∧ Passes issues ∧
      ∃ m, (blank 64).Opens tour [] none () m := by
  have loads (b) : Script.ofFile "tour.yaml" tourFiles ≠ .error (.breakdown b) := by
    rw [tour_loads]
    exact nofun
  have rules (script) (h : Script.ofFile "tour.yaml" tourFiles = .ok script)
      (rules) (hm : rules ∈ script.ruleLists) (b) :
      Extractor.ofRules rules ≠ .error (.breakdown b) := by
    cases tour_loads.symm.trans h
    obtain ⟨x, made⟩ := tour_rules hm
    rw [made]
    exact nofun
  obtain ⟨issues, inspected, passes, _, runs⟩ := inspect_foresees (blank 64) loads rules
  have passed : Passes issues := by
    refine passes.2 ⟨tour, tour_loads, ?_, Script.unresolvedJumps_eq_nil.1 (by decide), ?_⟩
    · intro name named
      cases named
      exact ⟨_, rfl⟩
    · exact prepare_eq_ok.2 fun rules hm => tour_rules hm
  exact ⟨loads, rules, issues, inspected, passed,
    (runs tour tour_loads (by decide) [] none () (.inl rfl)).1 passed⟩

end Runner
end WebScript
