import Mathlib.Data.Bool.AllAny
import WebScript.Page.Query
import WebScript.Proofs.Html.Tree
import WebScript.Proofs.Html.Writing
import WebScript.Proofs.Text.Ink

namespace WebScript

open Html Writer

variable {name : String} {attributes : List (String × Option String)} {nodes : List Node} {n : Node}
  {text rest inner : List Char}

section Escaping

theorem escaped_of_plain (plain : ∀ c ∈ text, isSpecial c = false) :
    text.flatMap escapeText = text := by
  induction text with
  | nil => rfl
  | cons c text ih =>
    obtain ⟨first, others⟩ := List.forall_mem_cons.1 plain
    rw [List.flatMap_cons, escapeText_of_not_special first, ih others]
    rfl

theorem length_inked_special {c : Char} (special : isSpecial c = true) :
    (Text.inked [c]).length < (Text.inked (escapeText c)).length := by
  simp only [isSpecial, Bool.or_eq_true, beq_iff_eq] at special
  rcases special with (rfl | rfl) | rfl <;> decide

theorem length_inked_le_escaped (text : List Char) :
    (Text.inked text).length ≤ (Text.inked (text.flatMap escapeText)).length := by
  induction text with
  | nil => exact Nat.le_refl _
  | cons c text ih =>
    have first : (Text.inked [c]).length ≤ (Text.inked (escapeText c)).length := by
      cases special : isSpecial c with
      | true => exact Nat.le_of_lt (length_inked_special special)
      | false => rw [escapeText_of_not_special special]
    rw [← List.singleton_append, List.flatMap_append, List.flatMap_singleton, Text.inked_append,
      Text.inked_append, List.length_append, List.length_append]
    exact Nat.add_le_add first ih

/-- A text with a character that is written as a reference is shorter than it is written. -/
theorem length_inked_lt_escaped {c : Char} (mem : c ∈ text) (special : isSpecial c = true) :
    (Text.inked text).length < (Text.inked (text.flatMap escapeText)).length := by
  obtain ⟨before, after, rfl⟩ := List.append_of_mem mem
  have front := length_inked_le_escaped before
  have back := length_inked_le_escaped after
  have here := length_inked_special special
  rw [← List.singleton_append, List.flatMap_append, List.flatMap_append, List.flatMap_singleton]
  simp only [Text.inked_append, List.length_append] at *
  omega

theorem trim_escaped_iff (text rest : List Char) :
    Text.trim (.ofList (text ++ rest)) = Text.trim (.ofList (text.flatMap escapeText ++ rest)) ↔
      ∀ c ∈ text, isSpecial c = false := by
  constructor
  · intro same c mem
    rw [← Bool.not_eq_true]
    intro special
    have inked := congrArg (fun s => (Text.inked s.toList).length) same
    have shorter := length_inked_lt_escaped mem special
    simp only [Text.inked_trim, String.toList_ofList, Text.inked_append,
      List.length_append] at inked
    omega
  · intro plain
    rw [escaped_of_plain plain]

end Escaping

def markup (n : Node) : List Char :=
  kept (write false n)

/-- The markup inside of an element is what its written form holds between its own tags. -/
def IsInner (name : String) (attributes : List (String × Option String)) (nodes : List Node)
    (inner : List Char) : Prop :=
  markup (.element name attributes nodes) =
    kept (startTag name attributes) ++ inner ++ kept (endTag name nodes)

/-- What an element holds after the text that it begins with. -/
def afterText : List Node → List Node
  | .text _ :: others => others
  | nodes => nodes

theorem writeMarkup_eq (nodes : List Node) : writeMarkup false nodes = nodes.flatMap markup := by
  induction nodes with
  | nil => rfl
  | cons n nodes ih => rw [writeMarkup_cons, ih, List.flatMap_cons, markup]

theorem markup_text (content : String) :
    markup (.text content) = content.toList.flatMap escapeText :=
  kept_of_not_mem (not_mem_escaped _)

theorem write_element (empty : name ∈ voidElements → nodes = [])
    (marked : name ≠ "script" ∧ name ≠ "style") :
    write false (.element name attributes nodes) =
      startTag name attributes ++ (writeAll false nodes ++ endTag name nodes) := by
  have raw : (name == "script" || name == "style") = false := by simp [marked]
  rw [write, endTag, startTag, raw]
  by_cases void : name ∈ voidElements
  · obtain rfl := empty void
    simp [void, writeAll]
  · by_cases item : nodes = [] ∧ name = "li"
    · obtain ⟨rfl, rfl⟩ := item
      simp [void, writeAll]
    · simp [void, item]

theorem isInner_flatMap (empty : name ∈ voidElements → nodes = [])
    (marked : name ≠ "script" ∧ name ≠ "style") :
    IsInner name attributes nodes (nodes.flatMap markup) := by
  rw [IsInner, markup, write_element empty marked, startTag, kept_append (closed_concat _),
    kept_append (closed_writeAll _), ← writeMarkup_eq, List.append_assoc]
  rfl

theorem flatMap_markup (name : String) (attributes : List (String × Option String))
    (nodes : List Node) :
    nodes.flatMap markup =
      (Node.element name attributes nodes).leadingText.toList.flatMap escapeText ++
      (afterText nodes).flatMap markup := by
  cases nodes with
  | nil => rfl
  | cons n nodes =>
    cases n with
    | text content =>
      rw [List.flatMap_cons, markup_text]
      rfl
    | element => rfl
    | comment => rfl

theorem innerMarkup_eq (marked : name ≠ "script" ∧ name ≠ "style") :
    Found.innerMarkup (.element name attributes nodes) =
      Text.trim (.ofList ((Node.element name attributes nodes).leadingText.toList ++
        (afterText nodes).flatMap markup)) := by
  have raw : ((Node.element name attributes nodes).hasName "script" ||
      (Node.element name attributes nodes).hasName "style") = false := by
    simp [Node.hasName, marked]
  rw [Found.innerMarkup, raw]
  simp only [← writeMarkup_eq]
  cases nodes with
  | nil => rfl
  | cons n nodes => cases n <;> rfl

theorem value_of_asked {selector : String} (asked : Text.lower selector = "html()") (n : Node) :
    Found.value (some selector) (.element n) = .ok (Found.innerMarkup n) := by
  rw [Found.value]
  simp only [Option.getD_some, asked]

theorem Document.nodes_of_ofNodes? {document : Document}
    (h : Document.ofNodes? nodes = some document) :
    document.nodes = nodes := by
  rw [ofNodes?, List.span_eq_takeWhile_dropWhile] at h
  split at h
  · next before root after span =>
    cases h
    obtain ⟨rfl, from_⟩ := Prod.mk.inj span
    rw [Document.nodes, ← from_]
    exact List.takeWhile_append_dropWhile
  · cases h

theorem Page.nodes_of_ofText {url html : String} {page : Page}
    (read : Page.ofText url html = .ok page)
    {document : Document} (whole : page.document = some document) :
    document.nodes = nodesOf html := by
  rw [Page.ofText] at read
  split at read
  · cases read
    cases whole
  · split at read
    · cases read
    · next found =>
      cases read
      cases whole
      exact Document.nodes_of_ofNodes? found

/-- The markup inside of an element of a page, as a rule asks for it, is that between the tags of
its written form exactly if nothing in the text that the element begins with is written as a
reference; whatever stands after this text is written as it is there. -/
theorem inner_markup_iff {url html : String} {page : Page} (read : Page.ofText url html = .ok page)
    {document : Document} (whole : page.document = some document)
    (inside : Node.element name attributes nodes ∈ Node.namedIn name document.nodes)
    (marked : name ≠ "script" ∧ name ≠ "style") {selector : String}
    (asked : Text.lower selector = "html()") :
    ∃ inner leading rest, IsInner name attributes nodes inner ∧
      leading = (Node.element name attributes nodes).leadingText.toList ∧
      rest = (afterText nodes).flatMap markup ∧
      inner = leading.flatMap escapeText ++ rest ∧
      Found.value (some selector) (.element (.element name attributes nodes)) =
        .ok (Text.trim (.ofList (leading ++ rest))) ∧
      (Found.value (some selector) (.element (.element name attributes nodes)) =
        .ok (Text.trim (.ofList inner)) ↔
        ∀ c ∈ leading, isSpecial c = false) := by
  have empty : name ∈ voidElements → nodes = [] := by
    intro void
    rw [Page.nodes_of_ofText read whole] at inside
    obtain ⟨n, top, inside⟩ := Node.mem_namedIn.1 inside
    exact voidsEmpty_of_mem_nodesOf top name void _ inside
  refine ⟨_, _, _, isInner_flatMap empty marked, rfl, rfl, flatMap_markup name attributes nodes, ?_⟩
  rw [value_of_asked asked, innerMarkup_eq marked, flatMap_markup name attributes nodes]
  refine ⟨rfl, ?_⟩
  rw [Except.ok.injEq]
  exact trim_escaped_iff _ _

/-- A sum with a reference in the text that it begins with, and one with the reference after an
element. -/
def sums : String :=
  "<p>1 &#38; <b>2</b></p><p><b>1</b> &#38; 2</p>"

def earlySum : List Node :=
  [.text "1 & ", .element "b" [] [.text "2"]]

def lateSum : List Node :=
  [.element "b" [] [.text "1"], .text " & 2"]

def sumsRoot : Node :=
  .element "html" [] [.element "body" [] [.element "p" [] earlySum, .element "p" [] lateSum]]

theorem nodesOf_sums : nodesOf "<p>1 &#38; <b>2</b></p><p><b>1</b> &#38; 2</p>" = [sumsRoot] := by
  rfl

theorem sums_read :
    Page.ofText "http://shop/" sums = .ok ⟨"http://shop/", sums, some ⟨[], sumsRoot, []⟩, []⟩ := by
  have written : Text.isAllBlank sums = false := by decide
  rw [Page.ofText, written, sums, nodesOf_sums]
  rfl

theorem sums_inside :
    Node.namedIn "p" [sumsRoot] = [.element "p" [] earlySum, .element "p" [] lateSum] := by
  rfl

theorem lateSum_inner :
    ∃ inner, IsInner "p" [] lateSum inner ∧ Text.trim (.ofList inner) = "<b>1</b> &amp; 2" ∧
    Found.value (some "HTML()") (.element (.element "p" [] lateSum)) =
      .ok (Text.trim (.ofList inner)) := by
  have inside : Node.element "p" [] lateSum ∈ Node.namedIn "p" [sumsRoot] := by
    rw [sums_inside]
    exact List.mem_cons_of_mem _ List.mem_cons_self
  have asked : Text.lower "HTML()" = "html()" := by decide
  obtain ⟨inner, leading, rest, isInner, begins, follows, whole, _, same⟩ :=
    inner_markup_iff sums_read rfl inside (by decide) asked
  refine ⟨inner, isInner, ?_, same.2 ?_⟩
  · rw [whole, begins, follows]
    decide
  · rw [begins]
    exact List.all_iff_forall_prop.1 (by decide)

/-- A reference before the first element is not written as one. -/
theorem earlySum_not_inner : ∃ page document inner, Page.ofText "http://shop/" sums = .ok page ∧
    page.document = some document ∧ Node.element "p" [] earlySum ∈ Node.namedIn "p" document.nodes ∧
    IsInner "p" [] earlySum inner ∧ Text.trim (.ofList inner) = "1 &amp; <b>2</b>" ∧
    Found.value (some "html()") (.element (.element "p" [] earlySum)) = .ok "1 & <b>2</b>" := by
  have inside : Node.element "p" [] earlySum ∈ Node.namedIn "p" [sumsRoot] := by
    rw [sums_inside]
    exact List.mem_cons_self
  have isInner : IsInner "p" [] earlySum (earlySum.flatMap markup) :=
    isInner_flatMap (by decide) (by decide)
  refine ⟨_, _, _, sums_read, rfl, inside, isInner, ?_, ?_⟩
  · decide
  · decide

end WebScript
