import WebScript.Proofs.Command.Inputs
import WebScript.Proofs.Display.Json
import WebScript.Proofs.Display.Markup
import WebScript.Proofs.Run.Outputs
import WebScript.Proofs.Script.Lines
import WebScript.Proofs.Text.Half

namespace WebScript

variable {σ : Type}

/-- A run that is over has made calls, however it has ended, and the names of its outputs differ. -/
theorem Runner.exists_gathers_of_run {r : Runner σ} {script : Script} {inputs : Dict}
    {target : Option String} {remote : σ} {fin : Finished σ}
    (h : r.run script inputs target remote = some fin) :
    (∃ calls, (start inputs remote).Gathers r.accessor calls fin.session) ∧
      ∀ report, fin.result = .ok report → report.outputs.keys.Nodup := by
  rcases exists_ends_of_run h with ⟨f, failed, same, _⟩ | ⟨m, e, comes, ends, rfl⟩
  · rw [same, failed]
    exact ⟨⟨[], .nothing rfl rfl rfl rfl⟩, nofun⟩
  · obtain ⟨calls, _, gathers, _⟩ := comes.exists_calls ends
    rw [finish_session, finish_result]
    refine ⟨⟨calls, gathers⟩, fun report same => ?_⟩
    obtain ⟨outcome, _, rfl⟩ := Except.map_eq_ok.1 same
    have records := NameMap.Records.empty.foldl (calls.filterMap Call.values?)
    have outputs : e.2.outputs = (calls.filterMap Call.values?).foldl NameMap.update ∅ :=
      gathers.outputs
    rw [← outputs] at records
    exact records.nodup

namespace Command

variable {o : RunOptions} {files : Files} {browserInstalled : Bool} {service : Service σ}
  {remote : σ} {entry : String} {result : Except Stop Runner.Report} {done : Done σ}
  {needed : Setup} {r : Runner.Report}

def Provides (o : RunOptions) (files : Files) (browserInstalled : Bool) (needed : Setup) : Prop :=
  setup o files = .ok needed ∧
    ∃ choice, needed.config.accessorChoice browserInstalled = .ok choice

/-- What a command comes to: the report of its run from the target with a name, or what has stopped
it before the run or in it. -/
inductive Ends (o : RunOptions) (files : Files) (browserInstalled : Bool) (service : Service σ)
    (remote : σ) : (entry : String) → Except Stop Runner.Report → Prop
  | unready {entry stop} (h : setup o files = .error stop) :
      Ends o files browserInstalled service remote entry (.error stop)
  | unavailable {entry needed e} (h : setup o files = .ok needed)
      (choice : needed.config.accessorChoice browserInstalled = .error e) :
      Ends o files browserInstalled service remote entry (.error (.refused (.config e)))
  | ran {needed fin} (h : Provides o files browserInstalled needed)
      (run : (needed.runner service).run needed.script needed.inputs o.target remote = some fin) :
      Ends o files browserInstalled service remote (entryName o needed.script)
        (fin.result.mapError Stop.ofFailure)

/-- No half of a character is in the message or the outputs of a report. -/
structure WholeTexts (r : Runner.Report) : Prop where
  message : ∀ m ∈ r.outcome.message?, Text.isWhole m.toList = true
  outputs : ∀ output ∈ r.outputs.pairs,
    Text.isWhole output.1.toList = true ∧ Text.isWhole output.2.toList = true

/-- If there is a report, then its document has no half of a character left. -/
def Encodable (entry : String) (result : Except Stop Runner.Report) : Prop :=
  ∀ r, result = .ok r → (documentOf entry r).isWhole = true

/-- The exit code and the document say what a command has come to. The texts of the document are
those of the report with halves of characters joined. -/
structure Printed.Tells (p : Printed) (entry : String) (result : Except Stop Runner.Report) :
    Prop where
  success : Encodable entry result →
    (p.exit = .ok 0 ↔ ∃ r, result = .ok r ∧ r.outcome.ok = true)
  failure : Encodable entry result →
    (p.exit = .ok 1 ↔ ∃ r, result = .ok r ∧ r.outcome.ok = false)
  refusal : p.exit = .ok 2 ↔ ∃ r, result = .error (.refused r)
  breakdown : Encodable entry result → ∀ b, p.exit = .error b ↔ result = .error (.broken b)
  printed : p.document.isSome ↔ p.exit = .ok 0 ∨ p.exit = .ok 1
  decoded : ∀ d ∈ p.document, ∃ r, result = .ok r ∧ d = documentOf entry r ∧
    Display.Json.read? d.text = some (.object
      [("ok", .bool r.outcome.ok), ("message", d.message.elim .null .text),
        ("target", .text d.target),
        ("outputs", .object (d.outputs.map fun o => (o.1, .text o.2)))])
  unchanged : ∀ d ∈ p.document, ∀ r, result = .ok r → WholeTexts r →
    d.message = r.outcome.message? ∧ d.outputs = r.outputs.pairs
  alone : p.out = []

section Tells

theorem Stop.printed_refused (r : Refusal) :
    ∃ lines, (refused r).printed = { err := lines, exit := .ok 2 } := by
  obtain ⟨lines, h⟩ := Display.panel_escape Display.usualStyling_sound r.title r.message
  refine ⟨lines, ?_⟩
  rw [printed, h]
  rfl

theorem Printed.tells_stop (entry : String) (stop : Stop) :
    stop.printed.Tells entry (.error stop) := by
  cases stop with
  | refused r =>
    obtain ⟨lines, h⟩ := Stop.printed_refused r
    rw [h]
    constructor <;> simp
  | broken b => constructor <;> simp [Stop.printed, Printed.broken]

theorem joined_toList {s : String} (whole : Text.isWhole s.toList = true) :
    String.ofList (Text.joined s.toList) = s := by
  rw [Text.joined_of_isWhole whole, String.ofList_toList]

/-- The document has the texts of the report as they are where these have no halves. -/
theorem documentOf_eq (entry : String) (differ : r.outputs.keys.Nodup) (whole : WholeTexts r) :
    documentOf entry r = ⟨r.outcome.ok, r.outcome.message?,
      .ofList (Text.joined entry.toList), r.outputs.pairs⟩ := by
  have message : r.outcome.message?.map (fun m => .ofList (Text.joined m.toList)) =
      r.outcome.message? := by
    cases said : r.outcome.message? with
    | none => rfl
    | some m => rw [Option.map_some, joined_toList (whole.message m said)]
  have pairs : (r.outputs.pairs.map fun output =>
      (String.ofList (Text.joined output.1.toList), String.ofList (Text.joined output.2.toList))) =
        r.outputs.pairs := by
    conv => rhs; rw [← List.map_id r.outputs.pairs]
    apply List.map_congr_left
    intro output listed
    obtain ⟨name, value⟩ := whole.outputs output listed
    rw [joined_toList name, joined_toList value]
    rfl
  have names : Dict.SpellingsDiffer r.outputs.pairs := by
    apply List.Nodup.of_map NameMap.key
    rw [List.map_map]
    exact differ
  rw [documentOf, Display.Document.joined]
  simp only [message, pairs, Dict.ofPairs_of_differ names]

theorem Printed.tells_report (json : o.format = "json") (s : Script)
    (differ : r.outputs.keys.Nodup) : (printedReport o s r).Tells (entryName o s) (.ok r) := by
  rw [printedReport, if_pos json]
  dsimp only
  split
  · next whole =>
    constructor
    case decoded =>
      rintro d ⟨⟩
      exact ⟨r, rfl, rfl, Display.Document.read_text _⟩
    case unchanged =>
      rintro d ⟨⟩ r' ⟨⟩ texts
      rw [documentOf_eq _ differ texts]
      exact ⟨rfl, rfl⟩
    all_goals cases ok : r.outcome.ok <;> simp [ok]
  · next broken =>
    have lossy : ¬Encodable (entryName o s) (.ok r) := fun whole => broken (whole r rfl)
    constructor
    case success => exact fun whole => absurd whole lossy
    case failure => exact fun whole => absurd whole lossy
    case breakdown => exact fun whole => absurd whole lossy
    all_goals simp [Printed.broken]

end Tells

section Release

inductive Event where
  | request (r : WebScript.Request)
  | orderlyClose
  | close

/-- From one state of an accessor to another, by what happens to it in between. -/
inductive Service.Passes (service : Service σ) : σ → List Event → σ → Prop
  | nil {s} : Passes service s [] s
  | request {r s events t} (rest : Passes service (service.accessor.send r s).2 events t) :
      Passes service s (.request r :: events) t
  | orderlyClose {f s events t} (h : service.orderlyClose = some f)
      (rest : Passes service (f s) events t) : Passes service s (.orderlyClose :: events) t
  | close {f s events t} (h : service.close = some f) (rest : Passes service (f s) events t) :
      Passes service s (.close :: events) t

variable {s t u : σ} {events events' : List Event}

/-- How an accessor is released: orderly if it can be, or else plainly if it can be. -/
def Service.closing (service : Service σ) : List Event :=
  match service.orderlyClose, service.close with
  | some _, _ => [.orderlyClose]
  | none, some _ => [.close]
  | none, none => []

theorem Service.Passes.append (h : service.Passes s events t) (h' : service.Passes t events' u) :
    service.Passes s (events ++ events') u := by
  induction h with
  | nil => exact h'
  | request _ ih => exact .request (ih h')
  | orderlyClose h _ ih => exact .orderlyClose h (ih h')
  | close h _ ih => exact .close h (ih h')

theorem Service.passes_of_answers {calls : List Call} (h : service.accessor.Answers s calls t) :
    service.Passes s ((calls.map Call.request).map .request) t := by
  induction h with
  | nil => exact .nil
  | cons _ _ ih => exact .request ih

theorem Service.passes_release (service : Service σ) (s : σ) :
    service.Passes s service.closing (service.release s) := by
  rw [closing, release]
  cases orderly : service.orderlyClose with
  | some f => exact .orderlyClose orderly .nil
  | none =>
    cases plain : service.close with
    | some f => exact .close plain .nil
    | none => exact .nil

/-- A record, in the state of an accessor, of all that happens to it. -/
structure Service.Recorded (service : Service σ) (record : σ → List Event) : Prop where
  request : ∀ r s, record (service.accessor.send r s).2 = record s ++ [.request r]
  orderlyClose : ∀ f ∈ service.orderlyClose, ∀ s, record (f s) = record s ++ [.orderlyClose]
  close : ∀ f ∈ service.close, ∀ s, record (f s) = record s ++ [.close]

theorem Service.Recorded.of_passes {record : σ → List Event} (recorded : service.Recorded record)
    (h : service.Passes s events t) : record t = record s ++ events := by
  induction h with
  | nil => rw [List.append_nil]
  | request _ ih => rw [ih, recorded.request, List.append_assoc, List.singleton_append]
  | orderlyClose h _ ih =>
    rw [ih, recorded.orderlyClose _ h, List.append_assoc, List.singleton_append]
  | close h _ ih => rw [ih, recorded.close _ h, List.append_assoc, List.singleton_append]

end Release

section Execute

theorem runScript_of_setup_error [Display.Styling] {stop : Stop} (h : setup o files = .error stop) :
    runScript o files browserInstalled service remote = some ⟨stop.printed, [], remote⟩ := by
  rw [runScript, h]

theorem runScript_of_choice_error [Display.Styling] {e : ConfigError}
    (h : setup o files = .ok needed)
    (choice : needed.config.accessorChoice browserInstalled = .error e) :
    runScript o files browserInstalled service remote =
      some ⟨(Stop.refused (.config e)).printed, [], remote⟩ := by
  rw [runScript, h]
  dsimp only
  rw [choice]

theorem runScript_of_provides [Display.Styling]
    (h : Provides o files browserInstalled needed) :
    runScript o files browserInstalled service remote =
      ((needed.runner service).run needed.script needed.inputs o.target remote).map
        (.ofRun o needed.script service) := by
  obtain ⟨ready, choice, chosen⟩ := h
  rw [runScript, ready]
  dsimp only
  rw [chosen]

theorem Printed.tells_of_stopped {stop : Stop}
    (stopped : some ⟨stop.printed, [], remote⟩ = some done) :
    done.printed.Tells entry (.error stop) := by
  cases stopped
  exact tells_stop entry stop

theorem Ends.tells (h : Ends o files browserInstalled service remote entry result)
    (json : o.format = "json")
    (ended : runScript o files browserInstalled service remote = some done) :
    done.printed.Tells entry result := by
  cases h with
  | unready ready =>
    exact Printed.tells_of_stopped ((runScript_of_setup_error ready).symm.trans ended)
  | unavailable ready choice =>
    exact Printed.tells_of_stopped ((runScript_of_choice_error ready choice).symm.trans ended)
  | @ran needed fin provided run =>
    rw [runScript_of_provides provided, run] at ended
    cases ended
    rw [Done.ofRun]
    have differ := (Runner.exists_gathers_of_run run).2
    cases result : fin.result with
    | ok r => exact Printed.tells_report json _ (differ r result)
    | error f => exact Printed.tells_stop _ _

/-- A command either has all that its run needs or is stopped before, without an accessor. -/
theorem provides_or_stops (o : RunOptions) (files : Files) (browserInstalled : Bool)
    (service : Service σ) (remote : σ) :
    (∃ needed, Provides o files browserInstalled needed) ∨
      ∃ stop, Ends o files browserInstalled service remote "" (.error stop) ∧
        runScript o files browserInstalled service remote = some ⟨stop.printed, [], remote⟩ ∧
        ∀ needed, ¬Provides o files browserInstalled needed := by
  cases ready : setup o files with
  | error stop =>
    refine .inr ⟨stop, .unready ready, runScript_of_setup_error ready, ?_⟩
    rintro needed ⟨ready', _⟩
    cases ready.symm.trans ready'
  | ok needed =>
    cases chosen : needed.config.accessorChoice browserInstalled with
    | error e =>
      refine .inr ⟨_, .unavailable ready chosen, runScript_of_choice_error ready chosen, ?_⟩
      rintro needed' ⟨ready', choice, chosen'⟩
      cases ready.symm.trans ready'
      cases chosen.symm.trans chosen'
    | ok choice => exact .inl ⟨needed, ready, choice, chosen⟩

theorem runScript_eq_none_iff :
    runScript o files browserInstalled service remote = none ↔
      ∃ needed, Provides o files browserInstalled needed ∧
        (needed.runner service).run needed.script needed.inputs o.target remote = none := by
  constructor
  · intro endless
    rcases provides_or_stops o files browserInstalled service remote with
      ⟨needed, provided⟩ | ⟨stop, _, stopped, _⟩
    · rw [runScript_of_provides provided, Option.map_eq_none_iff] at endless
      exact ⟨needed, provided, endless⟩
    · cases stopped.symm.trans endless
  · rintro ⟨needed, provided, endless⟩
    rw [runScript_of_provides provided, endless]
    rfl

theorem exists_ends (ended : runScript o files browserInstalled service remote = some done) :
    ∃ entry result, Ends o files browserInstalled service remote entry result := by
  rcases provides_or_stops o files browserInstalled service remote with
    ⟨needed, provided⟩ | ⟨stop, ends, _, _⟩
  · rw [runScript_of_provides provided] at ended
    obtain ⟨fin, run, _⟩ := Option.map_eq_some_iff.1 ended
    exact ⟨_, _, .ran provided run⟩
  · exact ⟨_, _, ends⟩

/-- An accessor has the requests of the run and is released after them, however the run has ended.
-/
theorem Provides.passes (h : Provides o files browserInstalled needed)
    (ended : runScript o files browserInstalled service remote = some done) :
    service.Passes remote (done.requests.map .request ++ service.closing) done.remote := by
  rw [runScript_of_provides h] at ended
  obtain ⟨fin, run, rfl⟩ := Option.map_eq_some_iff.1 ended
  obtain ⟨⟨calls, gathers⟩, _⟩ := Runner.exists_gathers_of_run run
  have requests : fin.session.requests = calls.map Call.request := gathers.requests
  have answers : service.accessor.Answers remote calls fin.session.remote := gathers.answers
  dsimp only [Done.ofRun]
  rw [requests]
  exact (Service.passes_of_answers answers).append (service.passes_release _)

theorem untouched_of_not_provides (h : ∀ needed, ¬Provides o files browserInstalled needed)
    (ended : runScript o files browserInstalled service remote = some done) :
    done.requests = [] ∧ done.remote = remote := by
  rcases provides_or_stops o files browserInstalled service remote with
    ⟨needed, provided⟩ | ⟨stop, _, stopped, _⟩
  · exact absurd provided (h needed)
  · cases stopped.symm.trans ended
    exact ⟨rfl, rfl⟩

end Execute

section Aimless

/-- A script that does not say where to begin. -/
def aimless : Script :=
  { targets := [⟨"Main", [.jump "Main"]⟩] }

def aimlessFiles : Files :=
  [("shop.yaml", Files.textOf [
    "targets:",
    "- name: Main",
    "  actions:",
    "  - jump: \x7btarget: Main\x7d"])]

def aimlessOptions : RunOptions :=
  { script := "shop.yaml", format := "json" }

def aimlessSetup : Setup :=
  ⟨{ projectDir := "." }, [], aimless⟩

/-- A service whose state is the record of what happens to it. -/
def recorder : Service (List Event) where
  accessor := ⟨fun r events => (.error (.breakdown (.remote "ConnectionError" "")),
    events ++ [.request r])⟩
  orderlyClose := some (· ++ [.orderlyClose])
  close := some (· ++ [.close])

theorem recorder_recorded : recorder.Recorded id where
  request _ _ := rfl
  orderlyClose := by
    rintro f ⟨⟩ s
    rfl
  close := by
    rintro f ⟨⟩ s
    rfl

theorem aimless_asked :
    Request.ofArguments? ["run", "shop.yaml", "--output", "json"] = some (.run aimlessOptions) := by
  decide +kernel

theorem aimless_provides : Provides aimlessOptions aimlessFiles false aimlessSetup := by
  have config : configOf aimlessOptions aimlessFiles = .ok { projectDir := "." } := rfl
  have script : Script.ofFile "shop.yaml" aimlessFiles = .ok aimless := by
    rw [aimlessFiles, Script.ofFile_textOf (by decide), Script.ofText, Script.documentOf,
      Yaml.load_textOf]
    decide +kernel
  exact ⟨setup_of (.inr rfl) config rfl script, _, rfl⟩

/-- There is no first target for the run. -/
def aimlessFinished : Runner.Finished (List Event) :=
  ⟨.error (.script .missingTarget), Runner.start [] [], aimlessSetup.runner recorder⟩

theorem aimless_run :
    (aimlessSetup.runner recorder).run aimless [] none [] = some aimlessFinished := rfl

theorem aimless_done :
    execute ["run", "shop.yaml", "--output", "json"] aimlessFiles false recorder [] =
      some (.ofRun aimlessOptions aimless recorder aimlessFinished) := by
  rw [execute, aimless_asked]
  exact (runScript_of_provides aimless_provides).trans (congrArg (Option.map _) aimless_run)

end Aimless

section Twins

/-- A character and its two halves side by side, which are one name in a document. -/
def twinNames : List String :=
  [.ofList (Text.half 0xD83D ++ Text.half 0xDE00), .singleton (Char.ofNat 0x1F600)]

def twinRules : List Rule :=
  twinNames.map fun name => { name, xpath := some "." }

def twins : Script :=
  { targets := [⟨"Main", [.fetch "http://shop/" { rules := twinRules }]⟩]
    defaultTarget := some "Main" }

def twinFiles : Files :=
  [("shop.yaml", Files.textOf [
    "default_target: Main",
    "targets:",
    "- name: Main",
    "  actions:",
    "  - fetch:",
    "      url: http://shop/",
    "      outputs:",
    "      - name: \"\\uD83D\\uDE00\"",
    "        xpath: .",
    "      - name: \"\\U0001F600\"",
    "        xpath: ."])]

def twinSetup : Setup :=
  ⟨{ projectDir := "." }, [], twins⟩

/-- A service with the same page for every request, which cannot be released. -/
def onePage : Service Unit where
  accessor := ⟨fun _ s => (.ok ⟨200, "http://shop/", "x", none⟩, s)⟩

theorem twins_provides : Provides aimlessOptions twinFiles false twinSetup := by
  have config : configOf aimlessOptions twinFiles = .ok { projectDir := "." } := by decide
  have script : Script.ofFile "shop.yaml" twinFiles = .ok twins := by
    rw [twinFiles, Script.ofFile_textOf (by decide), Script.ofText, Script.documentOf,
      Yaml.load_textOf]
    decide +kernel
  exact ⟨setup_of (.inr rfl) config rfl script, _, rfl⟩

def twinExtractor : Extractor :=
  ⟨twinRules, [], twinRules.map fun rule => (rule, ⟨.context⟩)⟩

def twinEnd : Ended Unit Outcome :=
  noted (exchange onePage.accessor { rules := twinRules } twinExtractor
    (.ok (.fetch "http://shop/" [])) (Runner.start [] ()))

def twinReport : Runner.Report :=
  ⟨.done, ⟨twinNames.map fun name => (name, "x")⟩⟩

theorem twins_run : ∃ fin,
    (twinSetup.runner onePage).run twins [] none () = some fin ∧ fin.result = .ok twinReport := by
  have begins : (twinSetup.runner onePage).Begins twins [] none ()
      ⟨[], ⟨"Main", [.fetch "http://shop/" { rules := twinRules }]⟩,
        [.fetch "http://shop/" { rules := twinRules } twinExtractor], Runner.start [] ()⟩ :=
    ⟨by rfl, by with_unfolding_all rfl, by with_unfolding_all rfl, rfl, rfl⟩
  have performed : perform onePage.accessor
      (.fetch "http://shop/" { rules := twinRules } twinExtractor) (Runner.start [] ()) =
        some (.ok .done, twinEnd.2) := by
    have ok : twinEnd.1 = .ok .done := by decide
    rw [perform_fetch (by decide), ← ok]
    rfl
  have same : ((twinSetup.runner onePage).prepared twins).accessor = onePage.accessor :=
    Runner.prepared_accessor
  rw [← same] at performed
  have gathered : twinEnd.2.outputs = twinReport.outputs := by decide
  rw [begins.run, Runner.inTurn_goOn (Runner.step_of_done performed), Runner.inTurn_nil]
  refine ⟨_, rfl, ?_⟩
  rw [Runner.finish_result, gathered]
  rfl

end Twins

end Command

end WebScript
