import WebScript.Script.Jumps

namespace WebScript.Template

variable {scope : Scope}

theorem resolveList?_of_none {text : List Char} (h : next? text = none) :
    resolveList? text scope = some text := by
  rw [resolveList?, h]

theorem resolveList?_of_some {text : List Char} {p : Placeholder} (h : next? text = some p) :
    resolveList? text scope = resolveList? (p.fill scope) scope := by
  rw [resolveList?, h]
  rfl

theorem resolve?_of_none {text : String} (h : next? text.toList = none) :
    resolve? scope text = some text := by
  rw [resolve?, resolveList?_of_none h, Option.map_some, String.ofList_toList]

theorem firstOf_eq_none {source : Source} {text : List Char}
    (h : Text.contains source.opener text = false) : firstOf source text = none := by
  rw [Text.contains, Option.isSome_eq_false_iff, Option.isNone_iff_eq_none] at h
  rw [firstOf, h]
  rfl

/-- A text without openers stands for itself, whatever the values are. -/
theorem resolve?_of_no_opener {text : String} (h : hasOpener text = false) :
    resolve? scope text = some text := by
  rw [hasOpener, Bool.or_eq_false_iff] at h
  apply resolve?_of_none
  rw [next?, firstOf_eq_none h.1, firstOf_eq_none h.2]

end WebScript.Template
