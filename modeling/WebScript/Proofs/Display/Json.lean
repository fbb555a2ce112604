import Mathlib.Tactic.Common
import WebScript.Display.Json
import WebScript.Number.Hex

namespace WebScript.Display

/-- JSON values, but for numbers and lists, which no report has. -/
inductive Json where
  | null
  | bool (b : Bool)
  | text (s : String)
  | object (entries : List (String × Json))

namespace Json

def skipBlanks (cs : List Char) : List Char :=
  cs.dropWhile fun c => c == ' ' || c == '\n' || c == '\r' || c == '\t'

/-- What a letter after a backslash stands for. -/
def escapes : List (Char × Char) :=
  [('"', '"'), ('\\', '\\'), ('/', '/'), ('b', Char.ofNat 8), ('f', Char.ofNat 12), ('n', '\n'),
   ('r', '\r'), ('t', '\t')]

/-- A text up to its closing quote, and what follows it. Halves of characters are none. -/
def readText : List Char → Option (List Char × List Char)
  | [] => none
  | '"' :: rest => some ([], rest)
  | '\\' :: 'u' :: a :: b :: c :: d :: rest => do
    let n ← (Number.hexNumber? 4 [a, b, c, d]).filter fun n => n < 0xD800 || 0xDFFF < n
    let (more, rest) ← readText rest
    return (Char.ofNat n :: more, rest)
  | '\\' :: e :: rest => do
    let c ← escapes.lookup e
    let (more, rest) ← readText rest
    return (c :: more, rest)
  | c :: rest =>
    if c.toNat < 0x20 then none
    else do
      let (more, rest) ← readText rest
      return (c :: more, rest)

mutual

/-- A value at the start of a text, and what follows it. -/
def readValue : (fuel : Nat) → List Char → Option (Json × List Char)
  | 0, _ => none
  | fuel + 1, cs => match skipBlanks cs with
    | 'n' :: 'u' :: 'l' :: 'l' :: rest => some (.null, rest)
    | 't' :: 'r' :: 'u' :: 'e' :: rest => some (.bool true, rest)
    | 'f' :: 'a' :: 'l' :: 's' :: 'e' :: rest => some (.bool false, rest)
    | '"' :: rest => do
      let (s, rest) ← readText rest
      return (.text (.ofList s), rest)
    | '\x7b' :: rest => match skipBlanks rest with
      | '\x7d' :: rest => some (.object [], rest)
      | _ => do
        let (entries, rest) ← readEntries fuel rest
        return (.object entries, rest)
    | _ => none

/-- The entries of an object up to its closing brace. -/
def readEntries : (fuel : Nat) → List Char → Option (List (String × Json) × List Char)
  | 0, _ => none
  | fuel + 1, cs => do
    let '"' :: rest := skipBlanks cs | none
    let (name, rest) ← readText rest
    let ':' :: rest := skipBlanks rest | none
    let (v, rest) ← readValue fuel rest
    match skipBlanks rest with
    | ',' :: rest =>
      let (more, rest) ← readEntries fuel rest
      return ((.ofList name, v) :: more, rest)
    | '\x7d' :: rest => return ([(.ofList name, v)], rest)
    | _ => none

end

/-- The value of a JSON text. Each step into a value takes one of its characters at least. -/
def read? (text : String) : Option Json := do
  let (v, rest) ← readValue (text.length + 1) text.toList
  if (skipBlanks rest).isEmpty then some v else none

end Json

def Document.value (d : Document) : Json :=
  .object [("ok", .bool d.ok), ("message", d.message.elim .null .text), ("target", .text d.target),
    ("outputs", .object (d.outputs.map fun (name, s) => (name, .text s)))]

namespace Json

variable {rest : List Char}

theorem hexNumber?_hexDigits {n : Nat} (h : n < 0x20) :
    Number.hexNumber? 4 (Text.hexDigits 4 n) = some n := by
  revert n
  decide

theorem readText_escaped {c e : Char} (plain : e ≠ 'u') (known : escapes.lookup e = some c) :
    readText ('\\' :: e :: rest) = (readText rest).map fun (more, rest) => (c :: more, rest) := by
  rw [readText]
  · rw [known]
    cases readText rest <;> rfl
  · exact fun _ _ _ _ _ h _ => plain h

theorem readText_control {c : Char} (h : c.toNat < 0x20) :
    readText ('\\' :: 'u' :: Text.hexDigits 4 c.toNat ++ rest) =
      (readText rest).map fun (more, rest) => (c :: more, rest) := by
  have number := hexNumber?_hexDigits h
  have whole : (decide (c.toNat < 0xD800) || decide (0xDFFF < c.toNat)) = true := by
    simp only [Bool.or_eq_true, decide_eq_true_eq]
    omega
  obtain ⟨a, b, d, e, digits⟩ : ∃ a b d e, Text.hexDigits 4 c.toNat = [a, b, d, e] :=
    ⟨_, _, _, _, rfl⟩
  rw [digits] at number ⊢
  change readText ('\\' :: 'u' :: a :: b :: d :: e :: rest) = _
  rw [readText, number, Option.filter_some, if_pos whole]
  rw [Option.bind_eq_bind, Option.bind_some, Char.ofNat_toNat]
  cases readText rest <;> rfl

theorem readText_visible {c : Char} (quote : c ≠ '"') (backslash : c ≠ '\\')
    (h : ¬c.toNat < 0x20) :
    readText (c :: rest) = (readText rest).map fun (more, rest) => (c :: more, rest) := by
  rw [readText]
  · rw [if_neg h]
    cases readText rest <;> rfl
  · exact quote
  · exact fun _ _ _ _ _ h _ => backslash h
  · exact fun _ _ h _ => backslash h

theorem readText_jsonChar (c : Char) (rest : List Char) :
    readText (jsonChar c ++ rest) = (readText rest).map fun (more, rest) => (c :: more, rest) := by
  have coded {n : Nat} (hn : c.toNat = n) : some (Char.ofNat n) = some c := by
    rw [← hn, Char.ofNat_toNat]
  unfold jsonChar
  split
  · exact readText_escaped (by decide) rfl
  · exact readText_escaped (by decide) rfl
  · exact readText_escaped (by decide) rfl
  · exact readText_escaped (by decide) rfl
  · exact readText_escaped (by decide) rfl
  · next quote backslash _ _ _ =>
    split
    · next hn => exact readText_escaped (by decide) (coded hn)
    split
    · next hn => exact readText_escaped (by decide) (coded hn)
    split
    · next control => exact readText_control control
    · next visible => exact readText_visible quote backslash visible

theorem readText_flatMap (s rest : List Char) :
    readText (s.flatMap jsonChar ++ '"' :: rest) = some (s, rest) := by
  induction s with
  | nil => rfl
  | cons c s ih => rw [List.flatMap_cons, List.append_assoc, readText_jsonChar, ih]; rfl

section Layout

variable {n : Nat} {cs more : List Char} {name s : String} {v : Json}
  {entries : List (String × Json)}

@[simp]
theorem readValue_space : readValue n (' ' :: cs) = readValue n cs := by
  cases n with
  | zero => rfl
  | succ n => rfl

@[simp]
theorem readEntries_space : readEntries n (' ' :: cs) = readEntries n cs := by
  cases n with
  | zero => rfl
  | succ n => rfl

@[simp]
theorem readEntries_newline : readEntries n ('\n' :: cs) = readEntries n cs := by
  cases n with
  | zero => rfl
  | succ n => rfl

theorem jsonText_toList (s : String) (rest : List Char) :
    (jsonText s).toList ++ rest = '"' :: (s.toList.flatMap jsonChar ++ '"' :: rest) := by
  simp [jsonText]

theorem readValue_jsonText :
    readValue (n + 1) ((jsonText s).toList ++ rest) = some (.text s, rest) := by
  rw [jsonText_toList]
  change (readText _).bind _ = _
  rw [readText_flatMap]
  simp

theorem readEntries_last (value : readValue n cs = some (v, more))
    (brace : skipBlanks more = '\x7d' :: rest) :
    readEntries (n + 1) ((jsonText name).toList ++ ':' :: cs) = some ([(name, v)], rest) := by
  rw [jsonText_toList]
  change (readText _).bind _ = _
  rw [readText_flatMap]
  change (readValue n cs).bind _ = _
  rw [value, Option.bind_some]
  dsimp only
  rw [brace]
  simp

theorem readEntries_cons (value : readValue n cs = some (v, ',' :: more))
    (others : readEntries n more = some (entries, rest)) :
    readEntries (n + 1) ((jsonText name).toList ++ ':' :: cs) =
      some ((name, v) :: entries, rest) := by
  rw [jsonText_toList]
  change (readText _).bind _ = _
  rw [readText_flatMap]
  change (readValue n cs).bind _ = _
  rw [value, Option.bind_some]
  change (readEntries n more).bind _ = _
  rw [others]
  simp

theorem skipBlanks_of_readEntries {result : List (String × Json) × List Char}
    (h : readEntries n cs = some result) : ∃ rest, skipBlanks cs = '"' :: rest := by
  cases n with
  | zero => cases h
  | succ n =>
    rw [readEntries] at h
    split at h
    · next rest quote => exact ⟨rest, quote⟩
    · cases h

theorem readValue_object (h : readEntries n cs = some (entries, rest)) :
    readValue (n + 1) ('\x7b' :: cs) = some (.object entries, rest) := by
  obtain ⟨_, quote⟩ := skipBlanks_of_readEntries h
  have opening : skipBlanks ('\x7b' :: cs) = '\x7b' :: cs := rfl
  rw [readValue, opening]
  simp only [quote, h]
  rfl

def outputLine (o : String × String) : String :=
  "    " ++ jsonText o.1 ++ ": " ++ jsonText o.2

/-- The outputs up to the closing brace are read in order. -/
theorem readEntries_outputs (o : String × String) (outputs : List (String × String)) :
    readEntries (n + outputs.length + 2)
        ((",\n".intercalate ((o :: outputs).map outputLine)).toList ++
          ("\n  \x7d".toList ++ rest)) =
      some ((o :: outputs).map fun o => (o.1, .text o.2), rest) := by
  induction outputs generalizing o with
  | nil =>
    simp only [outputLine, List.map_cons, List.map_nil, String.intercalate_singleton,
      String.toList_append, List.append_assoc, String.reduceToList, List.cons_append,
      List.nil_append, readEntries_space]
    exact readEntries_last (readValue_space.trans readValue_jsonText) rfl
  | cons p outputs ih =>
    simp only [outputLine, List.map_cons, String.intercalate_cons_cons, String.toList_append,
      List.append_assoc, String.reduceToList, List.cons_append, List.nil_append,
      readEntries_space] at ih ⊢
    exact readEntries_cons (readValue_space.trans readValue_jsonText)
      (readEntries_newline.trans (ih p))

theorem readValue_jsonOutputs (outputs : List (String × String)) :
    readValue (n + outputs.length + 2) ((jsonOutputs outputs).toList ++ rest) =
      some (.object (outputs.map fun o => (o.1, .text o.2)), rest) := by
  unfold jsonOutputs
  dsimp only
  cases outputs with
  | nil =>
    simp only [List.isEmpty_nil, if_true, String.reduceToList, List.cons_append, List.nil_append]
    rfl
  | cons o outputs =>
    have opening : "\x7b\n".toList = ['\x7b', '\n'] := by simp
    rw [List.isEmpty_cons, if_neg Bool.false_ne_true, String.toList_append, String.toList_append,
      List.append_assoc, List.append_assoc, opening, List.cons_append, List.cons_append,
      List.nil_append]
    exact readValue_object (readEntries_newline.trans (readEntries_outputs o outputs))

theorem readValue_bool (b : Bool) :
    readValue (n + 1) ((if b then "true" else "false").toList ++ rest) = some (.bool b, rest) := by
  cases b with
  | true =>
    simp only [if_true, String.reduceToList, List.cons_append, List.nil_append]
    rfl
  | false =>
    simp only [Bool.false_eq_true, if_false, String.reduceToList, List.cons_append, List.nil_append]
    rfl

theorem readValue_message (message : Option String) :
    readValue (n + 1) ((match message with
      | some m => jsonText m
      | none => "null").toList ++ rest) = some (message.elim .null .text, rest) := by
  cases message with
  | some m => exact readValue_jsonText
  | none =>
    simp only [String.reduceToList, List.cons_append, List.nil_append]
    rfl

theorem length_lt_outputLines (o : String × String) (outputs : List (String × String)) :
    outputs.length < (",\n".intercalate ((o :: outputs).map outputLine)).length := by
  have indent : "    ".length = 4 := by decide
  have comma : ",\n".length = 2 := by decide
  induction outputs generalizing o with
  | nil =>
    simp only [outputLine, List.map_cons, List.map_nil, String.intercalate_singleton,
      String.length_append, List.length_nil]
    omega
  | cons p outputs ih =>
    have others := ih p
    simp only [List.map_cons, String.intercalate_cons_cons, String.length_append,
      List.length_cons] at others ⊢
    omega

theorem length_le_jsonOutputs (outputs : List (String × String)) :
    outputs.length ≤ (jsonOutputs outputs).length := by
  cases outputs with
  | nil => exact Nat.zero_le _
  | cons o outputs =>
    have lines := length_lt_outputLines o outputs
    have text : jsonOutputs (o :: outputs) =
      "\x7b\n" ++ ",\n".intercalate ((o :: outputs).map outputLine) ++ "\n  \x7d" := rfl
    rw [text, String.length_append, String.length_append, List.length_cons]
    omega

end Layout

end Json

/-- The written form of a document has its value. -/
theorem Document.read_text (d : Document) : Json.read? d.text = some d.value := by
  have ok : "\x7b\n  \"ok\": ".toList = '\x7b' :: '\n' :: ' ' :: ' ' ::
      ((jsonText "ok").toList ++ [':', ' ']) := by decide
  have message : ",\n  \"message\": ".toList = ',' :: '\n' :: ' ' :: ' ' ::
      ((jsonText "message").toList ++ [':', ' ']) := by decide
  have target : ",\n  \"target\": ".toList = ',' :: '\n' :: ' ' :: ' ' ::
      ((jsonText "target").toList ++ [':', ' ']) := by decide
  have outputs : ",\n  \"outputs\": ".toList = ',' :: '\n' :: ' ' :: ' ' ::
      ((jsonText "outputs").toList ++ [':', ' ']) := by decide
  have long : d.outputs.length + 6 ≤ d.text.length := by
    have lines := Json.length_le_jsonOutputs d.outputs
    have opening : "\x7b\n  \"ok\": ".length = 10 := by decide
    unfold Document.text
    simp only [String.length_append]
    omega
  obtain ⟨n, fuel⟩ : ∃ n, d.text.length + 1 = n + d.outputs.length + 7 :=
    ⟨d.text.length - d.outputs.length - 6, by omega⟩
  have whole : Json.readValue (d.text.length + 1) d.text.toList = some (d.value, []) := by
    rw [fuel]
    unfold Document.text
    simp only [String.toList_append, String.reduceToList, List.append_assoc, List.cons_append,
      List.nil_append, ok, message, target, outputs]
    refine Json.readValue_object ?_
    simp only [Json.readEntries_newline, Json.readEntries_space]
    refine Json.readEntries_cons (Json.readValue_space.trans (Json.readValue_bool _)) ?_
    simp only [Json.readEntries_newline, Json.readEntries_space]
    refine Json.readEntries_cons (Json.readValue_space.trans (Json.readValue_message _)) ?_
    simp only [Json.readEntries_newline, Json.readEntries_space]
    refine Json.readEntries_cons (Json.readValue_space.trans Json.readValue_jsonText) ?_
    simp only [Json.readEntries_newline, Json.readEntries_space]
    exact Json.readEntries_last (Json.readValue_space.trans (Json.readValue_jsonOutputs _)) rfl
  rw [Json.read?, whole]
  rfl

end WebScript.Display
