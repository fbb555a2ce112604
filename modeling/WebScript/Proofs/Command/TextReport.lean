import Mathlib.Data.Bool.AllAny
import WebScript.Proofs.Command.Ending
import WebScript.Proofs.Display.Lines
import WebScript.Proofs.Number

namespace WebScript.Command

open Display Text

section Layout

def pathLabel : List Char :=
  "\n\n  Script:   ".toList

def targetLabel : List Char :=
  "\n  Target:   ".toList

def outputsLabel : List Char :=
  "\n  Outputs:  ".toList

def messageLabel : List Char :=
  "\n  Message:  ".toList

/-- The last lines of a report: how many outputs there are, and the message. -/
def footer (count : Nat) : Option (List Char) → List Char
  | none => outputsLabel ++ Number.natText count
  | some message => outputsLabel ++ (Number.natText count ++ (messageLabel ++ message))

/-- The lines of a report below its verdict. -/
def layout (path entry footer : List Char) : List Char :=
  pathLabel ++ (path ++ (targetLabel ++ (entry ++ footer)))

/-- What a report says below its verdict. -/
def details (path entry : String) (r : Runner.Report) : List Char :=
  layout path.toList entry.toList
    (footer r.outputs.pairs.length ((filled? r.outcome.message?).map String.toList))

/-- The markup of what a report says below its verdict. -/
def detailMarkup (path entry : String) (r : Runner.Report) : List Char :=
  layout (escape path).toList entry.toList
    (footer r.outputs.pairs.length ((filled? r.outcome.message?).map fun m => (escape m).toList))

def detailPieces (path entry : String) (r : Runner.Report) : List Piece :=
  piecesFrom [] (detailMarkup path entry r)

def verdict (r : Runner.Report) : List Char :=
  if r.outcome.ok then "RUN SUCCEEDED".toList else "RUN FAILED".toList

def verdictStyle (r : Runner.Report) : List Char :=
  if r.outcome.ok then "bold green".toList else "bold red".toList

theorem summary_toList (path entry : String) (r : Runner.Report) :
    (summary path entry r).toList = '[' :: (verdictStyle r ++ ']' :: (verdict r ++
      '[' :: ('/' :: verdictStyle r ++ ']' :: detailMarkup path entry r))) := by
  unfold summary detailMarkup layout footer pathLabel targetLabel outputsLabel messageLabel verdict
    verdictStyle
  cases filled? r.outcome.message? <;> cases r.outcome.ok <;>
    simp [String.intercalate_cons_cons]

/-- The pieces of a report: its verdict in a style, and what it says below. -/
def reportPieces (path entry : String) (r : Runner.Report) : List Piece :=
  .tag (verdictStyle r) :: .plain (verdict r) :: .tag ('/' :: verdictStyle r) ::
    detailPieces path entry r

theorem piecesFrom_summary (path entry : String) (r : Runner.Report) :
    piecesFrom [] (summary path entry r).toList = reportPieces path entry r := by
  have inside : TagText (verdictStyle r) := by
    rw [verdictStyle]
    split <;> exact .intro (by decide) (List.all_iff_forall_prop.1 (by decide))
  have word : '[' ∉ verdict r ∧ verdict r ≠ [] ∧ (verdict r).getLast? ≠ some '\\' := by
    rw [verdict]
    split <;> decide
  rw [summary_toList, piecesFrom_styled inside word.1 word.2.1 word.2.2]
  rfl

theorem display_reportPieces (path entry : String) (r : Runner.Report) :
    display (reportPieces path entry r) = verdict r ++ display (detailPieces path entry r) := by
  have shown : plainText (verdict r) = verdict r := by
    apply plainText_of_calm
    rw [verdict]
    split <;> exact List.all_iff_forall_prop.1 (by decide)
  rw [reportPieces, display_tag, display_plain, display_tag, shown]

theorem fault?_of_plain_details [Styling] (sound : Styling.Sound) {path entry : String}
    {r : Runner.Report} (plain : ∀ p ∈ detailPieces path entry r, p.IsPlain) :
    Styling.fault? (reportPieces path entry r) = none := by
  apply sound.styled
  case usual =>
    rw [verdictStyle, reportStyles]
    split <;> simp
  case h => exact .plain _ (.closing plain)

variable {path path' entry foot foot' : List Char}

theorem marked_layout (h : Marked path path') (h' : Marked foot foot') :
    Marked (layout path entry foot) (layout path' entry foot') :=
  (Marked.refl _).append (h.append ((Marked.refl _).append ((Marked.refl _).append h')))

theorem sheds_layout (h : Sheds false path' path) (h' : Sheds false foot' foot) :
    Sheds false (layout path' entry foot') (layout path entry foot) := by
  apply Sheds.append_left
  apply h.append_of_calm
  · exact (h'.append_left _).append_left _
  · rfl

theorem exists_marked_footer (count : Nat) (message : Option String) :
    ∃ more, Marked (footer count (message.map fun m => (escape m).toList)) more ∧
      Sheds false more (footer count (message.map String.toList)) := by
  cases message with
  | none => exact ⟨_, .refl _, .refl _⟩
  | some m =>
    obtain ⟨more, marked, added⟩ := marked_escape m
    exact ⟨footer count (some more),
      (Marked.refl _).append ((Marked.refl _).append ((Marked.refl _).append marked)),
      ((added.append_left _).append_left _).append_left _⟩

/-- The path and the last lines come from what they are to show by escaping; only the name of the
target stands in the markup as it is. -/
theorem exists_marked_details (path entry : String) (r : Runner.Report) : ∃ mark foot path' foot',
    detailMarkup path entry r = layout mark entry.toList foot ∧ Marked mark path' ∧
    Marked foot foot' ∧ Sheds false (layout path' entry.toList foot') (details path entry r) := by
  obtain ⟨path', marked, added⟩ := marked_escape path
  obtain ⟨foot', marked', added'⟩ :=
    exists_marked_footer r.outputs.pairs.length (filled? r.outcome.message?)
  exact ⟨_, _, path', foot', rfl, marked, marked', sheds_layout added added'⟩

end Layout

section Shown

theorem inked_summary_iff {path entry : String} {r : Runner.Report} :
    inked (verdict r ++ display (detailPieces path entry r)) =
      inked (verdict r ++ details path entry r) ↔
        Spelled (detailPieces path entry r) (details path entry r) := by
  obtain ⟨mark, foot, path', foot', same, marked, marked', added⟩ :=
    exists_marked_details path entry r
  rw [inked_append, inked_append, List.append_cancel_left_eq, detailPieces, same]
  exact (marked_layout marked marked').inked_display_iff added

def HoldsTag (text : List Char) : Prop :=
  ∃ before tag after, TagText tag ∧ text = before ++ '[' :: (tag ++ ']' :: after)

theorem exists_eq_append_backslashes (text : List Char) :
    ∃ start k, text = start ++ List.replicate k '\\' ∧ start.getLast? ≠ some '\\' := by
  induction text using List.reverseRecOn with
  | nil => exact ⟨[], 0, rfl, nofun⟩
  | append_singleton text c ih =>
    by_cases backslash : c = '\\'
    · obtain ⟨start, k, rfl, ends⟩ := ih
      refine ⟨start, k + 1, ?_, ends⟩
      rw [backslash, List.append_assoc, List.replicate_succ']
    · refine ⟨text ++ [c], 0, (List.append_nil _).symm, ?_⟩
      rwa [List.getLast?_concat, ne_eq, Option.some_inj]

theorem not_readsAs_of_holdsTag {path path' entry foot foot' : List Char} (hp : Marked path path')
    (hf : Marked foot foot') (h : HoldsTag entry) :
    ¬ReadsAs (piecesFrom [] (layout path entry foot)) (layout path' entry foot') := by
  obtain ⟨before, tag, after, inside, rfl⟩ := h
  obtain ⟨start, k, rfl, ends⟩ := exists_eq_append_backslashes before
  have front : Marked (pathLabel ++ (path ++ (targetLabel ++ start)))
      (pathLabel ++ (path' ++ (targetLabel ++ start))) :=
    (Marked.refl _).append (hp.append (.refl _))
  have frontEnds : (pathLabel ++ (path ++ (targetLabel ++ start))).getLast? ≠ some '\\' := by
    rw [List.getLast?_append, List.getLast?_append, List.getLast?_append]
    cases last : start.getLast? with
    | none =>
      have space : targetLabel.getLast? = some ' ' := rfl
      rw [space]
      simp
    | some c =>
      rw [last] at ends
      simpa using ends
  have tagged : tagAt? (List.replicate k '\\' ++ '[' :: (tag ++ ']' :: (after ++ foot))) =
      some (k, tag, after ++ foot) := tagAt?_eq_some.2 ⟨inside, rfl⟩
  have unread := front.not_readsAs_of_tag frontEnds tagged ((Marked.refl after).append hf)
  simpa only [layout, List.append_assoc, List.cons_append] using unread

/-- A target whose name holds a tag is never shown by its name. -/
theorem not_spelled_of_holdsTag {path entry : String} (r : Runner.Report)
    (h : HoldsTag entry.toList) : ¬Spelled (detailPieces path entry r) (details path entry r) := by
  obtain ⟨mark, foot, path', foot', same, marked, marked', added⟩ :=
    exists_marked_details path entry r
  intro spelled
  rw [detailPieces, same] at spelled
  exact not_readsAs_of_holdsTag marked marked' h
    ((marked_layout marked marked').readsAs_of_spelled added spelled)

end Shown

section Calm

variable {path entry message : String} {count : Nat} {r : Runner.Report}

theorem not_isDropped_of_isDigit {c : Char} (h : c.isDigit = true) : isDropped c = false := by
  have low : 48 ≤ c.toNat := (Number.toNat_of_isDigit h).1
  rw [isDropped, ← Bool.not_eq_true, List.contains_iff_mem]
  simp only [List.mem_cons, List.not_mem_nil, or_false]
  omega

theorem calm_natText (count : Nat) : Calm (Number.natText count) where
  spaced := by
    apply spaced_of_colonless
    intro colon
    cases Number.isDigit_of_mem_natText colon
  unguarded backslash := by cases Number.isDigit_of_mem_natText backslash
  control c hc dropped := by
    rw [not_isDropped_of_isDigit (Number.isDigit_of_mem_natText hc)] at dropped
    cases dropped

def beforeMessage (path entry : List Char) (count : Nat) : List Char :=
  layout path entry (footer count none)

theorem layout_some (path entry message : List Char) (count : Nat) :
    layout path entry (footer count (some message)) =
      beforeMessage path entry count ++ messageLabel ++ message := by
  simp [beforeMessage, layout, footer]

theorem bracketless_beforeMessage {path entry : List Char} (hp : '[' ∉ path) (he : '[' ∉ entry)
    (count : Nat) : '[' ∉ beforeMessage path entry count := by
  have number : '[' ∉ Number.natText count := by
    intro bracket
    cases Number.isDigit_of_mem_natText bracket
  have labels : '[' ∉ pathLabel ∧ '[' ∉ targetLabel ∧ '[' ∉ outputsLabel := by decide
  simp only [beforeMessage, layout, footer, List.mem_append, not_or]
  exact ⟨labels.1, hp, labels.2.1, he, labels.2.2, number⟩

theorem readsAs_layout_some {path entry message : List Char} (hp : '[' ∉ path) (he : '[' ∉ entry)
    {n : Nat} (enough : message.length ≤ n) (count k : Nat) :
    ReadsAs (piecesFrom [] (layout path entry (footer count
      (some (escapeTags n message ++ List.replicate k '\\')))))
      (layout path entry (footer count (some (message ++ List.replicate k '\\')))) := by
  have label : '[' ∉ messageLabel := by decide
  have ends : (beforeMessage path entry count ++ messageLabel).getLast? ≠ some '\\' := by
    have space : messageLabel.getLast? = some ' ' := rfl
    rw [List.getLast?_append, space]
    simp
  have front : '[' ∉ beforeMessage path entry count ++ messageLabel := by
    rw [List.mem_append, not_or]
    exact ⟨bracketless_beforeMessage hp he count, label⟩
  have read := readsAs_escapeTags enough k (beforeMessage path entry count ++ messageLabel).reverse
  rw [List.reverse_reverse] at read
  rw [layout_some, layout_some, piecesFrom_append_of_bracketless front ends, List.append_nil]
  exact read

/-- Where neither the path nor the name of the target holds a bracket, every piece is plain. -/
theorem exists_readsAs_details (hp : '[' ∉ path.toList) (he : '[' ∉ entry.toList)
    (r : Runner.Report) :
    ∃ more, ReadsAs (detailPieces path entry r) more := by
  obtain ⟨k, escaped⟩ := escape_toList path
  have padded : '[' ∉ (escape path).toList := by
    rw [escaped, escapeTags_of_bracketless hp]
    simpa using hp
  rw [detailPieces, detailMarkup]
  cases filled? r.outcome.message? with
  | none =>
    refine ⟨beforeMessage (escape path).toList entry.toList r.outputs.pairs.length, ?_⟩
    rw [Option.map_none, ← beforeMessage,
      piecesFrom_of_bracketless (bracketless_beforeMessage padded he _)]
    exact readsAs_plainPiece _
  | some m =>
    obtain ⟨j, same⟩ := escape_toList m
    rw [Option.map_some, same]
    exact ⟨_, readsAs_layout_some padded he (Nat.le_of_eq String.length_toList) _ j⟩

theorem readsAs_details (hp : '[' ∉ path.toList) (he : '[' ∉ entry.toList)
    (pathEnds : path.toList.getLast? ≠ some '\\')
    (messageEnds : ∀ m ∈ filled? r.outcome.message?, m.toList.getLast? ≠ some '\\') :
    ReadsAs (detailPieces path entry r) (details path entry r) := by
  rw [detailPieces, detailMarkup, details, escape_of_ends pathEnds, escapeTags_of_bracketless hp]
  cases said : filled? r.outcome.message? with
  | none =>
    rw [Option.map_none, Option.map_none, ← beforeMessage,
      piecesFrom_of_bracketless (bracketless_beforeMessage hp he _)]
    exact readsAs_plainPiece _
  | some m =>
    have read :=
      readsAs_layout_some hp he (Nat.le_of_eq (String.length_toList : m.toList.length = _))
      r.outputs.pairs.length 0
    rw [List.replicate_zero, List.append_nil, List.append_nil] at read
    rw [Option.map_some, Option.map_some, escape_of_ends (messageEnds m said)]
    exact read

theorem calm_label {label : List Char}
    (h : label ∈ [pathLabel, targetLabel, outputsLabel, messageLabel]) :
    Calm label ∧ label.getLast? = some ' ' ∧ label.head? = some '\n' := by
  simp only [List.mem_cons, List.not_mem_nil, or_false] at h
  rcases h with rfl | rfl | rfl | rfl <;> exact ⟨by decide, rfl, rfl⟩

variable {label text before : List Char}
  (h : label ∈ [pathLabel, targetLabel, outputsLabel, messageLabel]) (calm : Calm text)

include h calm

theorem calm_label_append : Calm (label ++ text) := by
  obtain ⟨calm', ends, _⟩ := calm_label h
  apply calm'.append calm
  rw [ends]
  exact nofun

theorem calm_append_label (calm' : Calm before) : Calm (before ++ (label ++ text)) := by
  apply calm'.append (calm_label_append h calm)
  intro _ d hd
  rw [List.head?_append, (calm_label h).2.2] at hd
  cases hd
  rfl

omit h calm

theorem calm_details (hp : Calm path.toList) (he : Calm entry.toList)
    (hm : ∀ m ∈ filled? r.outcome.message?, Calm m.toList) : Calm (details path entry r) := by
  have foot : ∃ rest, Calm rest ∧ footer r.outputs.pairs.length
      ((filled? r.outcome.message?).map String.toList) = outputsLabel ++ rest := by
    cases said : filled? r.outcome.message? with
    | none => exact ⟨_, calm_natText _, rfl⟩
    | some m => exact ⟨_, calm_append_label (by simp) (hm m said) (calm_natText _), rfl⟩
  obtain ⟨rest, calm, same⟩ := foot
  have target : Calm (entry.toList ++ (outputsLabel ++ rest)) := calm_append_label (by simp) calm he
  have script : Calm (path.toList ++ (targetLabel ++ (entry.toList ++ (outputsLabel ++ rest)))) :=
    calm_append_label (by simp) target hp
  rw [details, same]
  exact calm_label_append (by simp) script

end Calm

section Printing

variable {path entry : String} {r : Runner.Report} {o : RunOptions}

def exitCode (r : Runner.Report) : Nat :=
  if r.outcome.ok then 0 else 1

structure WholeReport (path entry : String) (r : Runner.Report) : Prop where
  path : isWhole path.toList = true
  entry : isWhole entry.toList = true
  texts : WholeTexts r

/-- What is printed of the result of a run as text. Nothing is, where the tags among the pieces of
the report break it down. Otherwise the lines of the report say all that they are to say, but for
white space, if and only if its markup reads as nothing but that, literally piece by piece; and the
table has the names and the values of all outputs in order. -/
structure Printed.Shows [Styling] (p : Printed) (path entry : String) (r : Runner.Report) :
    Prop where
  broken : ∀ b ∈ Styling.fault? (reportPieces path entry r), p = ({} : Printed).broken b
  exit : Styling.fault? (reportPieces path entry r) = none → p.exit = .ok (exitCode r)
  panel : inkOf p.err = inked (verdict r ++ details path entry r) ↔
    Spelled (detailPieces path entry r) (details path entry r)
  table : Styling.fault? (reportPieces path entry r) = none → ∃ width header rows,
    List.Forall₂ (RowLines width) r.outputs.pairs rows ∧
      p.out = if r.outputs.pairs.isEmpty then [] else "Outputs" :: (header ++ rows.flatten)
  right : p.exit = .ok (exitCode r) ∧ inkOf p.err = inked (verdict r ++ details path entry r) ↔
    Spelled (detailPieces path entry r) (details path entry r)

variable [Styling]

theorem outputTable_eq (sound : Styling.Sound) (whole : WholeTexts r) :
    ∃ width header rows, List.Forall₂ (RowLines width) r.outputs.pairs rows ∧
      outputTable r.outputs.pairs =
        .ok (if r.outputs.pairs.isEmpty then [] else "Outputs" :: (header ++ rows.flatten)) := by
  obtain ⟨width, header, rows, rendered, shown⟩ :=
    table_rows sound ("Name", "Value") r.outputs.pairs
  refine ⟨width, header, rows, shown, ?_⟩
  have encodable : ∀ output ∈ r.outputs.pairs,
      isWhole (output.1.toList ++ output.2.toList) = true :=
    fun output listed => isWhole_append.2 (whole.outputs output listed)
  rw [outputTable, List.all_eq_true.2 encodable, rendered]
  split <;> rfl

theorem printedReport_of_error (text : o.format = "text") {s : Script} {b : Breakdown}
    (unread : block (summary (plainPath o.script) (entryName o s) r) = .error b)
    {out : List String} (listed : outputTable r.outputs.pairs = .ok out) :
    printedReport o s r = ({} : Printed).broken b := by
  rw [printedReport, text, if_neg (by decide), unread, listed]
  rfl

theorem printedReport_of_lines (text : o.format = "text") {s : Script} {lines out : List String}
    (read : block (summary (plainPath o.script) (entryName o s) r) = .ok lines)
    (listed : outputTable r.outputs.pairs = .ok out) :
    printedReport o s r = { out := out, err := lines, exit := .ok (exitCode r) } := by
  rw [printedReport, text, if_neg (by decide), read, listed]
  rfl

theorem fault?_of_spelled (sound : Styling.Sound) {text : List Char}
    (h : Spelled (detailPieces path entry r) text) :
    Styling.fault? (reportPieces path entry r) = none :=
  fault?_of_plain_details sound h.readsAs.1

theorem printedReport_shows (sound : Styling.Sound) (text : o.format = "text") (s : Script)
    (whole : WholeReport (plainPath o.script) (entryName o s) r) :
    (printedReport o s r).Shows (plainPath o.script) (entryName o s) r := by
  obtain ⟨width, header, rows, rendered, listed⟩ := outputTable_eq sound whole.texts
  have read := piecesFrom_summary (plainPath o.script) (entryName o s) r
  cases fault : Styling.fault? (reportPieces (plainPath o.script) (entryName o s) r) with
  | some b =>
    have unspelled : ¬Spelled (detailPieces (plainPath o.script) (entryName o s) r)
        (details (plainPath o.script) (entryName o s) r) := by
      intro spelled
      cases fault.symm.trans (fault?_of_spelled sound spelled)
    rw [printedReport_of_error text (block_of_fault (by rw [read]; exact fault)) listed]
    constructor
    case broken =>
      intro b' same
      cases fault.symm.trans same
      rfl
    case panel =>
      refine iff_of_false (fun same => ?_) unspelled
      rw [inked_append] at same
      have inky : inked (verdict r) ≠ [] := by
        rw [verdict]
        split <;> decide
      exact inky (List.append_eq_nil_iff.1 same.symm).1
    case right =>
      refine iff_of_false ?_ unspelled
      rintro ⟨exit, -⟩
      cases exit
    all_goals exact fun calm => absurd (fault.symm.trans calm) (Option.some_ne_none b)
  | none =>
    obtain ⟨lines, shown, ink⟩ := block_of_calm (by rw [read]; exact fault)
    rw [read, display_reportPieces] at ink
    rw [printedReport_of_lines text shown listed]
    have panel : inkOf lines = inked (verdict r ++ details (plainPath o.script) (entryName o s) r) ↔
        Spelled (detailPieces (plainPath o.script) (entryName o s) r)
          (details (plainPath o.script) (entryName o s) r) := by
      rw [ink, inked_summary_iff]
    constructor
    case broken =>
      intro b same
      cases fault.symm.trans same
    case exit => exact fun _ => rfl
    case panel => exact panel
    case table => exact fun _ => ⟨width, header, rows, rendered, rfl⟩
    case right => exact (and_iff_right rfl).trans panel

/-- What is printed, as far as the texts of the report tell: not the name of a target that holds a
tag, but everything where neither the path nor the name holds a bracket and the texts are calm. -/
structure Printed.Reveals (p : Printed) (path entry : String) (r : Runner.Report) : Prop where
  tagged : HoldsTag entry.toList → inkOf p.err ≠ inked (verdict r ++ details path entry r)
  bracketless : '[' ∉ path.toList → '[' ∉ entry.toList → p.exit = .ok (exitCode r)
  calm : '[' ∉ path.toList → '[' ∉ entry.toList → Calm path.toList → Calm entry.toList →
    (∀ m ∈ filled? r.outcome.message?, Calm m.toList) →
      inkOf p.err = inked (verdict r ++ details path entry r)

theorem Printed.Shows.reveals (sound : Styling.Sound) {p : Printed} (h : p.Shows path entry r) :
    p.Reveals path entry r where
  tagged held same := not_spelled_of_holdsTag r held (h.panel.1 same)
  bracketless hp he := by
    obtain ⟨more, read⟩ := exists_readsAs_details hp he r
    apply h.exit
    exact fault?_of_plain_details sound read.1
  calm hp he calmPath calmEntry calmMessage := by
    apply h.panel.2
    exact (readsAs_details hp he calmPath.ends fun m hm => (calmMessage m hm).ends).spelled
      (calm_details calmPath calmEntry calmMessage)

end Printing

section Running

variable {σ : Type} {path entry : String} {r : Runner.Report} {o : RunOptions} [Styling]

/-- With a document for its report, the exit code is that of the report. -/
theorem printedReport_exit_of_json (s : Script) (differ : r.outputs.keys.Nodup)
    (whole : WholeReport path entry r) (named : entryName o s = entry) :
    (printedReport { o with format := "json" } s r).exit = .ok (exitCode r) := by
  have encodable : (documentOf entry r).isWhole = true := by
    rw [documentOf_eq _ differ whole.texts, joined_of_isWhole whole.entry, Document.isWhole]
    simp only [List.all_cons, List.all_append, List.all_flatMap, Bool.and_eq_true,
      List.all_eq_true, String.ofList_toList]
    refine ⟨⟨whole.entry, fun m said => ?_⟩, fun output listed => ?_⟩
    · exact whole.texts.message m (Option.mem_toList.1 said)
    · obtain ⟨name, value⟩ := whole.texts.outputs output listed
      exact ⟨name, value, nofun⟩
  have same : entryName { o with format := "json" } s = entry := named
  rw [printedReport, if_pos rfl]
  dsimp only
  rw [same, if_pos encodable]
  rfl

end Running

section Idle

/-- A script whose only target does nothing. -/
def idle (name : String) : Script :=
  { targets := [⟨name, []⟩], defaultTarget := some name }

def idleFiles (name : String) : Files :=
  [("shop.yaml", Files.textOf [
    "default_target: '" ++ name ++ "'",
    "targets:",
    "- name: '" ++ name ++ "'",
    "  actions: []"])]

def idleOptions (format : String) : RunOptions :=
  { script := "shop.yaml", format := format }

def idleSetup (name : String) : Setup :=
  ⟨{ projectDir := "." }, [], idle name⟩

/-- The end of the run: good, without outputs. -/
def idleReport : Runner.Report :=
  ⟨.done, ∅⟩

theorem idle_loads {name : String} (named : name = "Main" ∨ name = "[/x]") :
    Script.ofFile "shop.yaml" (idleFiles name) = .ok (idle name) := by
  rcases named with rfl | rfl
  all_goals
    rw [idleFiles, Script.ofFile_textOf (by decide), Script.ofText, Script.documentOf,
      Yaml.load_textOf]
    decide +kernel

theorem idle_provides {name format : String} (known : format = "text" ∨ format = "json")
    (named : name = "Main" ∨ name = "[/x]") :
    Provides (idleOptions format) (idleFiles name) false (idleSetup name) :=
  ⟨setup_of known rfl rfl (idle_loads named), _, rfl⟩

theorem idle_run (name : String)
    (begins : ((idleSetup name).runner recorder).Begins (idle name) [] none []
    ⟨[], ⟨name, []⟩, [], Runner.start [] []⟩) :
    ∃ fin, ((idleSetup name).runner recorder).run (idle name) [] none [] = some fin ∧
      fin.result = .ok idleReport := by
  rw [begins.run, Runner.inTurn_nil]
  exact ⟨_, rfl, rfl⟩

theorem idle_asked :
    Request.ofArguments? ["run", "shop.yaml"] = some (.run (idleOptions "text")) := by
  decide +kernel

theorem fault?_closing : Styling.fault? (reportPieces "shop.yaml" "[/x]" idleReport) =
    some (.remote "MarkupError" "") := by decide

theorem hidden_done {args : List String} {format : String}
    (known : format = "text" ∨ format = "json")
    (asked : Request.ofArguments? args = some (.run (idleOptions format))) : ∃ done,
    execute args (idleFiles "[/x]") false recorder [] = some done ∧
      done.printed = printedReport (idleOptions format) (idle "[/x]") idleReport := by
  obtain ⟨fin, run, result⟩ := idle_run "[/x]" ⟨by rfl, rfl, rfl, rfl, rfl⟩
  refine ⟨.ofRun (idleOptions format) (idle "[/x]") recorder fin, ?_, ?_⟩
  · rw [execute, asked]
    exact (runScript_of_provides (idle_provides known (.inr rfl))).trans
      (congrArg (Option.map _) run)
  · rw [Done.ofRun, result]

end Idle

end WebScript.Command
