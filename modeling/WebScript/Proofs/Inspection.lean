import WebScript.Inspection
import WebScript.Proofs.Run.Causes
import WebScript.Proofs.Run.Preparation
import WebScript.Proofs.Script.Jumps
import WebScript.Proofs.Script.Lines

namespace WebScript

variable {field : String} {step : Step} {t : Target} {script : Script} {issues : List Issue}
  {f : Failure} {b : Breakdown}

/-- Findings of which none is an error. -/
def Passes (issues : List Issue) : Prop :=
  ∀ issue ∈ issues, issue.severity ≠ .error

theorem passes_append {issues issues' : List Issue} :
    Passes (issues ++ issues') ↔ Passes issues ∧ Passes issues' :=
  List.forall_mem_append

theorem passes_flatten_of_mapM {α ε : Type} {find : α → Except ε (List Issue)} {l : List α}
    {found : List (List Issue)} (h : l.mapM find = .ok found) :
    Passes found.flatten ↔ ∀ x ∈ l, ∀ issues, find x = .ok issues → Passes issues := by
  constructor
  · intro passes x hx issues hi issue hissue
    have hm := (Except.mem_of_mapM_eq_ok h).2 ⟨x, hx, hi⟩
    exact passes issue (List.mem_flatten.2 ⟨issues, hm, hissue⟩)
  · intro passes issue hissue
    obtain ⟨issues, hm, hissue⟩ := List.mem_flatten.1 hissue
    obtain ⟨x, hx, hi⟩ := (Except.mem_of_mapM_eq_ok h).1 hm
    exact passes x hx issues hi issue hissue

theorem not_passes_error {message : String} : ¬Passes [⟨.error, field, message⟩] :=
  fun h => h _ List.mem_cons_self rfl

/-- The target that a script begins with by default is there, if it names one. -/
def Script.EntryDeclared (script : Script) : Prop :=
  ∀ name, filled? script.defaultTarget = some name → ∃ t, script.find? name = some t

namespace Extractor

/-- Rules that are made ready or refused as faulty, which for inspection is the same. -/
def judged (rules : List Rule) : Except Failure Unit :=
  match ofRules rules with
  | .error (.breakdown b) => .error (.breakdown b)
  | _ => .ok ()

/-- The first of some lists of rules that break down. -/
def FirstBreaks (lists : List (List Rule)) (b : Breakdown) : Prop :=
  ∃ before rules after, lists = before ++ rules :: after ∧
    (∀ earlier ∈ before, ∀ b', ¬RulesBreak earlier b') ∧ RulesBreak rules b

theorem judged_eq_error {rules : List Rule} :
    judged rules = .error f ↔ ∃ b, f = .breakdown b ∧ RulesBreak rules b := by
  simp only [← ofRules_eq_breakdown]
  rw [judged]
  split
  · next b broken => simp [broken, eq_comm]
  · next sound =>
    constructor
    · exact nofun
    · rintro ⟨b, _, broken⟩
      exact absurd broken (sound b)

theorem exists_judged_eq_ok {rules : List Rule} :
    (∃ u, judged rules = .ok u) ↔ ∀ b, ¬RulesBreak rules b := by
  cases h : judged rules with
  | ok u =>
    refine iff_of_true ⟨u, rfl⟩ fun b breaks => ?_
    cases h.symm.trans (judged_eq_error.2 ⟨b, rfl, breaks⟩)
  | error f =>
    obtain ⟨b, _, breaks⟩ := judged_eq_error.1 h
    exact iff_of_false nofun fun sound => sound b breaks

theorem mapM_judged_eq_error {lists : List (List Rule)} :
    lists.mapM judged = .error f ↔ ∃ b, f = .breakdown b ∧ FirstBreaks lists b := by
  rw [Except.mapM_eq_error_iff]
  simp only [exists_judged_eq_ok, judged_eq_error]
  constructor
  · rintro ⟨before, rules, after, split, earlier, b, rfl, breaks⟩
    exact ⟨b, rfl, before, rules, after, split, earlier, breaks⟩
  · rintro ⟨b, rfl, before, rules, after, split, earlier, breaks⟩
    exact ⟨before, rules, after, split, earlier, b, rfl, breaks⟩

end Extractor

open Extractor (judged)

theorem stepIssues_eq_error : stepIssues field step = .error f ↔ judged step.rules = .error f := by
  rw [stepIssues, judged]
  cases made : Action.ofStep step with
  | ok action =>
    obtain ⟨x, rules⟩ := Action.exists_ofStep_eq_ok.1 ⟨action, made⟩
    simp [rules]
  | error f' =>
    rw [Action.ofStep_eq_error.1 made]
    cases f' <;> simp

theorem stepIssues_passes (h : stepIssues field step = .ok issues) :
    Passes issues ↔ ∃ x, Extractor.ofRules step.rules = .ok x := by
  rw [← Action.exists_ofStep_eq_ok]
  rw [stepIssues] at h
  split at h
  · next action made =>
    cases h
    exact iff_of_true nofun ⟨action, made⟩
  · next e made =>
    cases h
    refine iff_of_false not_passes_error ?_
    rintro ⟨action, made'⟩
    cases made.symm.trans made'
  · cases h

theorem Target.ruleLists_eq_zipIdx : t.ruleLists = t.steps.zipIdx.map fun x => x.1.rules := by
  have steps : t.steps = t.steps.zipIdx.map Prod.fst := (List.zipIdx_map_fst 0 t.steps).symm
  rw [ruleLists, steps, List.map_map, List.zipIdx_map_fst]
  rfl

theorem Target.issues_eq_error :
    t.issues = .error f ↔ t.ruleLists.mapM judged = .error f := by
  rw [issues, Except.bind_pure_eq_error, ruleLists_eq_zipIdx, List.mapM_map]
  exact Except.mapM_error_congr (fun _ _ _ => stepIssues_eq_error) f

theorem Target.issues_passes (h : t.issues = .ok issues) :
    Passes issues ↔ ∀ rules ∈ t.ruleLists, ∃ x, Extractor.ofRules rules = .ok x := by
  obtain ⟨found, steps, h⟩ := Except.bind_eq_ok.1 h
  cases h
  have quiet : Passes (if t.steps.isEmpty then [⟨.info, s!"targets.{t.name}",
      "Target has no actions"⟩] else []) := by
    split
    · exact fun _ hm => by cases List.mem_singleton.1 hm; exact nofun
    · exact nofun
  rw [passes_append, and_iff_left quiet, passes_flatten_of_mapM steps, ruleLists_eq_zipIdx,
    List.forall_mem_map]
  refine forall₂_congr fun x hx => ?_
  obtain ⟨found, hfound⟩ := Except.exists_mapM_eq_ok_iff.1 ⟨_, steps⟩ x hx
  constructor
  · intro passes
    exact (stepIssues_passes hfound).1 (passes _ hfound)
  · intro sound issues hi
    exact (stepIssues_passes hi).2 sound

namespace Script

theorem entryIssues_passes : Passes script.entryIssues ↔ script.EntryDeclared := by
  rw [entryIssues, EntryDeclared]
  split
  · next unnamed =>
    simp only [unnamed]
    refine iff_of_true (fun issue hm => ?_) nofun
    cases List.mem_singleton.1 hm
    exact nofun
  · next name named =>
    simp only [named, Option.some.injEq, forall_eq']
    rw [← Option.isSome_iff_exists]
    split
    · next declared => exact iff_of_true nofun declared
    · next missing => exact iff_of_false not_passes_error missing

theorem jumpIssues_passes : Passes script.jumpIssues ↔ script.JumpsDeclared := by
  rw [← unresolvedJumps_eq_nil, jumpIssues]
  constructor
  · intro passes
    refine List.eq_nil_iff_forall_not_mem.2 fun jump hm => ?_
    exact passes _ (List.mem_map_of_mem hm) rfl
  · intro h
    rw [h]
    exact nofun

theorem issues_eq_error :
    script.issues = .error f ↔ script.ruleLists.mapM judged = .error f := by
  rw [issues, Except.bind_pure_eq_error, ruleLists, Except.mapM_flatMap_eq_error]
  exact Except.mapM_error_congr (fun _ _ _ => Target.issues_eq_error) f

theorem issues_passes (h : script.issues = .ok issues) :
    Passes issues ↔ script.EntryDeclared ∧ script.JumpsDeclared ∧
      ∀ rules ∈ script.ruleLists, ∃ x, Extractor.ofRules rules = .ok x := by
  obtain ⟨found, targets, h⟩ := Except.bind_eq_ok.1 h
  cases h
  rw [passes_append, passes_append, entryIssues_passes, jumpIssues_passes, and_assoc,
    passes_flatten_of_mapM targets, ruleLists]
  simp only [List.forall_mem_flatMap]
  refine and_congr_right fun _ => and_congr_right fun _ => forall₂_congr fun t ht => ?_
  obtain ⟨found, hfound⟩ := Except.exists_mapM_eq_ok_iff.1 ⟨_, targets⟩ t ht
  constructor
  · intro passes
    exact (Target.issues_passes hfound).1 (passes _ hfound)
  · intro sound issues hi
    exact (Target.issues_passes hi).2 sound

end Script

section File

variable {path : String} {files : Files}

theorem inspect_of_ok (loaded : Script.ofFile path files = .ok script) :
    inspect path files = script.issues := by
  rw [inspect, loaded]

theorem inspect_of_error {e : ScriptError} (h : Script.ofFile path files = .error (.script e)) :
    inspect path files = .ok [⟨.error, "script", e.report⟩] := by
  rw [inspect, h]

theorem inspect_eq_error (loaded : Script.ofFile path files = .ok script) :
    inspect path files = .error f ↔
      ∃ b, f = .breakdown b ∧ Extractor.FirstBreaks script.ruleLists b := by
  rw [inspect_of_ok loaded, Script.issues_eq_error, Extractor.mapM_judged_eq_error]

theorem exists_inspect_eq_ok (loaded : Script.ofFile path files = .ok script) :
    (∃ issues, inspect path files = .ok issues) ↔
      ∀ rules ∈ script.ruleLists, ∀ b, ¬Extractor.RulesBreak rules b := by
  simp only [← Extractor.exists_judged_eq_ok]
  rw [inspect_of_ok loaded, ← Except.exists_mapM_eq_ok_iff]
  exact Except.exists_eq_ok_congr fun f => Script.issues_eq_error

end File

namespace Runner

variable {σ : Type} {r : Runner σ}

theorem prepare_eq_breakdown :
    (r.prepare script.targets).1 = .error (.breakdown b) ↔
      ∃ before rules after, script.ruleLists = before ++ rules :: after ∧
        (∀ earlier ∈ before, ∃ x, Extractor.ofRules earlier = .ok x) ∧
        Extractor.RulesBreak rules b := by
  rw [prepare_eq_error, ← Script.ruleLists, Except.mapM_eq_error_iff]
  simp only [Extractor.ofRules_eq_breakdown]

/-- A rule that asks for more repetitions than a pattern can count. -/
def stutterRule : Rule :=
  { name := "long", regex := some "a\x7b4294967295\x7d" }

def stutter : Script :=
  { targets := [⟨"Main", [.fetch "http://shop/" { rules := [stutterRule] }]⟩] }

def stutterFiles : Files :=
  [("stutter.yaml", Files.textOf [
    "targets:",
    "- name: Main",
    "  actions:",
    "  - fetch:",
    "      url: http://shop/",
    "      outputs:",
    "      - name: long",
    "        regex: a\x7b4294967295\x7d"])]

theorem stutter_loads : Script.ofFile "stutter.yaml" stutterFiles = .ok stutter := by
  rw [stutterFiles, Script.ofFile_textOf (by decide), Script.ofText, Script.documentOf,
    Yaml.load_textOf]
  decide +kernel

theorem stutterRule_breaks : stutterRule.PatternBreaks .tooLarge :=
  .tooLarge rfl (by decide +kernel : Pattern.ofText "a\x7b4294967295\x7d" = .error .tooLarge)

theorem stutter_rules_break : Extractor.RulesBreak [stutterRule] .tooLarge :=
  .pattern (List.nil_append _).symm nofun stutterRule_breaks

end Runner
end WebScript
