import Mathlib.Tactic.Common
import WebScript.Script.Load

namespace WebScript

variable {path text : String} {files : Files}

theorem Files.unifyLines_eq_self {cs : List Char} (h : '\r' ∉ cs) : unifyLines cs = cs := by
  induction cs with
  | nil => rfl
  | cons c rest ih =>
    obtain ⟨hc, hrest⟩ := not_or.1 (mt List.mem_cons.2 h)
    rw [unifyLines, ih hrest, if_neg (by simpa using Ne.symm hc)]
    rintro _ rfl
    exact absurd rfl hc

/-- A file whose lines end in line feeds is read as it is. -/
theorem Files.read?_cons_self (h : '\r' ∉ text.toList) :
    read? path ((path, text) :: files) = some text := by
  simp [read?, unifyLines_eq_self h]

def Files.textOf (lines : List String) : String :=
  .ofList (lines.flatMap fun line => line.toList ++ ['\n'])

theorem Files.toList_textOf (lines : List String) :
    (textOf lines).toList = lines.flatMap fun line => line.toList ++ ['\n'] :=
  String.toList_ofList

theorem Script.ofFile_textOf {lines : List String} (h : ∀ line ∈ lines, '\r' ∉ line.toList) :
    ofFile path ((path, Files.textOf lines) :: files) = ofText (Files.textOf lines) := by
  rw [ofFile, Files.read?_cons_self]
  rw [Files.toList_textOf, List.mem_flatMap]
  rintro ⟨line, hm, hc⟩
  exact h line hm (by simpa using hc)

theorem Yaml.load_textOf (lines : List String) :
    load (Files.textOf lines) =
      let chars := lines.flatMap fun line => line.toList ++ ['\n']
      (if chars.all isDocumentChar then Node.ofTokens (.ofText chars) else .error .malformed) >>=
        Node.valueOf := by
  rw [load, Node.ofText, Files.toList_textOf]

end WebScript
