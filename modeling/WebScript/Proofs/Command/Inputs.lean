import Mathlib.Data.List.Forall2
import WebScript.Command.Execute
import WebScript.Proofs.Dict
import WebScript.Proofs.Except
import WebScript.Proofs.Text.Find

namespace WebScript

/-- The pairs of a configuration have no spelling of a name twice. -/
theorem Config.inputsOf_spellingsDiffer {v : Value} {d : Dict} (h : inputsOf v = .ok d) :
    d.SpellingsDiffer := by
  unfold inputsOf at h
  split at h
  · cases h
    exact List.nodup_nil
  · split at h
    · obtain ⟨pairs, _, h⟩ := Except.bind_eq_ok.1 h
      cases h
      exact Dict.ofPairs_spellingsDiffer pairs
    · cases h

theorem Config.ofEntries_spellingsDiffer {projectDir : String} {entries : List (Value × Value)}
    {config : Config} (h : ofEntries projectDir entries = .ok config) :
    config.inputs.SpellingsDiffer := by
  obtain ⟨_, _, h⟩ := Except.bind_eq_ok.1 h
  obtain ⟨_, _, h⟩ := Except.bind_eq_ok.1 h
  obtain ⟨_, _, h⟩ := Except.bind_eq_ok.1 h
  obtain ⟨_, _, h⟩ := Except.bind_eq_ok.1 h
  obtain ⟨_, _, h⟩ := Except.bind_eq_ok.1 h
  obtain ⟨inputs, read, h⟩ := Except.bind_eq_ok.1 h
  cases h
  rw [setting] at read
  split at read
  · cases read
    exact List.nodup_nil
  · exact inputsOf_spellingsDiffer read

theorem Config.ofFile_spellingsDiffer {path : String} {files : Files} {config : Config}
    (h : ofFile path files = .ok config) : config.inputs.SpellingsDiffer := by
  rw [ofFile] at h
  split at h
  · split at h <;> cases h
  · obtain ⟨document, _, h⟩ := Except.bind_eq_ok.1 h
    split at h
    · exact ofEntries_spellingsDiffer h
    · cases h

namespace Command

variable {o : RunOptions} {files : Files} {needed : Setup}

/-- What an option gives: the name before its first equals sign, and the value after it. -/
def Gives (pair : String) (p : String × String) : Prop :=
  pair.toList = p.1.toList ++ '=' :: p.2.toList ∧ '=' ∉ p.1.toList

theorem inputOf_gives {pair : String} {p : String × String} (h : inputOf pair = .ok p) :
    Gives pair p := by
  rw [inputOf] at h
  split at h
  · next cut =>
    cases h
    simpa [Gives] using Text.cutAt?_singleton.1 cut
  · cases h

/-- Whatever accessor the command names, the inputs stay as they have been read. -/
theorem configOf_spellingsDiffer {config : Config} (h : configOf o files = .ok config) :
    config.inputs.SpellingsDiffer := by
  unfold configOf at h
  dsimp only at h
  split at h
  · obtain ⟨base, read, h⟩ := Except.bind_eq_ok.1 h
    have differ := Config.ofFile_spellingsDiffer (Except.mapError_eq_ok.1 read)
    split at h
    · cases h
      exact differ
    · split at h <;> cases h
      exact differ
  · obtain ⟨base, read, h⟩ := Except.bind_eq_ok.1 h
    cases read
    split at h
    · cases h
      exact List.nodup_nil
    · split at h <;> cases h
      exact List.nodup_nil

theorem setup_eq_ok (h : setup o files = .ok needed) :
    configOf o files = .ok needed.config ∧ ∃ given, o.inputs.mapM inputOf = .ok given ∧
      needed.inputs = needed.config.inputs.putAll given := by
  unfold setup at h
  split at h
  · cases h
  · obtain ⟨config, hconfig, h⟩ := Except.bind_eq_ok.1 h
    obtain ⟨inputs, hinputs, h⟩ := Except.bind_eq_ok.1 h
    obtain ⟨script, _, h⟩ := Except.bind_eq_ok.1 h
    cases h
    obtain ⟨given, hgiven, hinputs⟩ := Except.bind_eq_ok.1 hinputs
    cases hinputs
    exact ⟨hconfig, given, hgiven, rfl⟩

theorem setup_of {config : Config} {inputs : Dict} {script : Script}
    (format : o.format = "text" ∨ o.format = "json") (hconfig : configOf o files = .ok config)
    (hinputs : inputsOf config o.inputs = .ok inputs)
    (hscript : Script.ofFile o.script files = .ok script) :
    setup o files = .ok ⟨config, inputs, script⟩ := by
  have known : (o.format != "text" && o.format != "json") = false := by
    rcases format with format | format
    · simp [format]
    · simp [format]
  rw [setup, if_neg (by simp [known]), hconfig]
  dsimp only [bind, Except.bind]
  rw [hinputs, hscript]
  rfl

section Together

variable {config given : Dict} {name spelling value : String}

theorem get?_together (differ : config.SpellingsDiffer) (given : Dict) (name : String) :
    (NameMap.ofPairs (config.putAll given)).get? name =
      ((Dict.lastSpelling? name (config ++ given)).bind fun s =>
        Dict.lastOf s (config ++ given)).map (·.2) := by
  have records := Dict.records_putAll differ given
  rw [NameMap.get?_ofPairs, NameMap.lastOf_of_records records]

/-- A name that no option gives keeps its value. -/
theorem get?_together_of_none (differ : config.SpellingsDiffer)
    (h : NameMap.lastOf name given = none) :
    (NameMap.ofPairs (config.putAll given)).get? name = (NameMap.ofPairs config).get? name := by
  have own : Pairs.Records id config config := .self differ
  rw [get?_together differ, Dict.lastSpelling?_append h, NameMap.get?_ofPairs,
    NameMap.lastOf_of_records own]
  cases hs : Dict.lastSpelling? name config with
  | none => rfl
  | some s =>
    have same := (Dict.lastSpelling?_eq_some hs).2
    have ungiven : Dict.lastOf s given = none := Dict.lastOf_eq_none_of_name h same
    rw [Option.bind_some, Option.bind_some, Dict.lastOf_append, ungiven, Option.none_or]

theorem get?_together_eq_some_iff (differ : config.SpellingsDiffer)
    (h : NameMap.lastOf name given = some (spelling, value)) :
    (NameMap.ofPairs (config.putAll given)).get? name = some value ↔
      ∃ s, Dict.lastSpelling? name (config ++ given) = some s ∧
        (s = spelling ∨ Dict.lastOf s (config ++ given) = some (s, value)) := by
  rw [get?_together differ]
  constructor
  · intro found
    obtain ⟨p, chosen, rfl⟩ := Option.map_eq_some_iff.1 found
    obtain ⟨s, hs, last⟩ := Option.bind_eq_some_iff.1 chosen
    obtain rfl := Dict.lastOf_eq_some last
    exact ⟨p.1, hs, .inr last⟩
  · rintro ⟨s, hs, decided⟩
    have last : Dict.lastOf s (config ++ given) = some (s, value) := by
      rcases decided with rfl | last
      · rw [Dict.lastOf_append, NameMap.lastOf_spelling h, Option.some_or]
      · exact last
    rw [hs, Option.bind_some, last, Option.map_some]

end Together

/-- The value that a run finds for a name among its inputs. -/
def Setup.input? (needed : Setup) (name : String) : Option String :=
  (Runner.start needed.inputs ()).inputs.get? name

/-- Which value a run finds for a name: among the spellings of the name, those of the configuration
first and each where it first comes in, the last decides, with the value that comes last in this
spelling. So a name that no option gives has its value from the configuration; and the last option
that gives it has the say exactly if it is spelled so, or gives the same value. -/
theorem input_decided (h : setup o files = .ok needed) (name : String) :
    ∃ given : Dict, o.inputs.mapM inputOf = .ok given ∧ List.Forall₂ Gives o.inputs given ∧
      (∀ {σ : Type} (remote : σ), Template.value (Runner.start needed.inputs remote).scope .inputs
        name.toList = (needed.input? name).getD "") ∧
      needed.input? name = ((Dict.lastSpelling? name (needed.config.inputs ++ given)).bind fun s =>
        Dict.lastOf s (needed.config.inputs ++ given)).map (·.2) ∧
      (NameMap.lastOf name given = none →
        needed.input? name = (NameMap.ofPairs needed.config.inputs).get? name) ∧
      ∀ spelling value, NameMap.lastOf name given = some (spelling, value) →
        (needed.input? name = some value ↔
          ∃ s, Dict.lastSpelling? name (needed.config.inputs ++ given) = some s ∧
            (s = spelling ∨
              Dict.lastOf s (needed.config.inputs ++ given) = some (s, value))) ∧
        ((∀ p ∈ needed.config.inputs ++ given, NameMap.key p.1 = NameMap.key name →
          p.1 = spelling) → needed.input? name = some value) := by
  obtain ⟨hconfig, given, hgiven, inputs⟩ := setup_eq_ok h
  have differ := configOf_spellingsDiffer hconfig
  have found : needed.input? name =
      (NameMap.ofPairs (needed.config.inputs.putAll given)).get? name := by
    rw [Setup.input?, inputs]
    rfl
  refine ⟨given, hgiven, ?_, ?_, ?_, ?_, ?_⟩
  · exact Except.forall₂_of_mapM (fun _ _ => inputOf_gives) hgiven
  · intro σ remote
    rw [Template.value, String.ofList_toList]
    rfl
  · rw [found, get?_together differ]
  · intro ungiven
    rw [found, get?_together_of_none differ ungiven]
  · intro spelling value last
    have decides := get?_together_eq_some_iff differ last
    rw [← found] at decides
    refine ⟨decides, ?_⟩
    intro alike
    rw [decides]
    obtain ⟨mem, same⟩ := Pairs.lastOf_eq_some (f := NameMap.key) last
    obtain ⟨s, hs⟩ :=
      Dict.exists_lastSpelling? (List.mem_append_right needed.config.inputs mem) same
    obtain ⟨hm, hk⟩ := Dict.lastSpelling?_eq_some hs
    obtain ⟨p, hp, rfl⟩ := List.mem_map.1 hm
    exact ⟨p.1, hs, .inl (alike p hp hk)⟩

section SignIn

def signInScript : Script :=
  { targets := [⟨"Main", [.fetch "http://shop/$(user)" {}]⟩], defaultTarget := some "Main" }

/-- A configuration that gives one name in two spellings. -/
def signInConfig : Config :=
  { projectDir := ".", inputs := [("user", "config"), ("USER", "other")] }

def signInFiles : Files :=
  [("shop.yaml", "default_target: Main\ntargets:\n- name: Main\n  actions:\n" ++
      "  - fetch: \x7burl: http://shop/$(user)\x7d\n"),
    ("netinteract.yaml", "inputs: \x7buser: config, USER: other\x7d\n")]

theorem signIn_setup (pairs : List String) (inputs : Dict)
    (h : inputsOf signInConfig pairs = .ok inputs) :
    setup { script := "shop.yaml", inputs := pairs } signInFiles =
      .ok ⟨signInConfig, inputs, signInScript⟩ := by
  have config : configOf { script := "shop.yaml" } signInFiles = .ok signInConfig := by
    decide +kernel
  have script : Script.ofFile "shop.yaml" signInFiles = .ok signInScript := by decide +kernel
  exact setup_of (.inl rfl) config h script

/-- The option is spelled as the configuration has the name last, and so it has the say. -/
theorem signIn_decided : ∃ needed,
    setup { script := "shop.yaml", inputs := ["USER=cli"] } signInFiles = .ok needed ∧
    needed.input? "user" = some "cli" := by
  have ready := signIn_setup ["USER=cli"] [("user", "config"), ("USER", "cli")] (by decide)
  obtain ⟨given, parsed, _, _, _, _, decides⟩ := input_decided ready "user"
  have alone : ["USER=cli"].mapM inputOf = .ok [("USER", "cli")] := by decide
  cases parsed.symm.trans alone
  have last : NameMap.lastOf "user" [("USER", "cli")] = some ("USER", "cli") := by decide
  have spelling : Dict.lastSpelling? "user"
      [("user", "config"), ("USER", "other"), ("USER", "cli")] = some "USER" := by decide
  exact ⟨_, ready, (decides _ _ last).1.2 ⟨_, spelling, .inl rfl⟩⟩

/-- The only option gives the name, but its value comes from the configuration. -/
theorem signIn_shadowed : ∃ needed,
    setup { script := "shop.yaml", inputs := ["user=cli"] } signInFiles = .ok needed ∧
    ["user=cli"].mapM inputOf = .ok [("user", "cli")] ∧
    NameMap.lastOf "user" [("user", "cli")] = some ("user", "cli") ∧
    Template.value (Runner.start needed.inputs ()).scope .inputs "user".toList = "other" := by
  have ready := signIn_setup ["user=cli"] [("user", "cli"), ("USER", "other")] (by decide)
  have alone : ["user=cli"].mapM inputOf = .ok [("user", "cli")] := by decide
  exact ⟨_, ready, alone, by decide, by decide⟩

end SignIn

end Command
end WebScript
