import Mathlib.Tactic.Common
import WebScript.Html.Tree

namespace WebScript.Html

variable {name tag : String} {attributes : List (String × Option String)} {n m : Node}
  {nodes : List Node} {b : Builder} {stack : List OpenElement}

namespace Node

theorem mem_namedIn : m ∈ namedIn name nodes ↔ ∃ n ∈ nodes, m ∈ n.named name := by
  induction nodes with
  | nil => simp [namedIn]
  | cons n nodes ih => simp [namedIn, ih]

theorem mem_named_element :
    m ∈ (element tag attributes nodes).named name ↔
      (tag = name ∧ m = element tag attributes nodes) ∨ ∃ n ∈ nodes, m ∈ n.named name := by
  rw [← mem_namedIn, named]
  by_cases same : tag = name
  · rw [if_pos same, List.mem_cons]
    simp [same]
  · rw [if_neg same]
    simp [same]

/-- Nothing stands in an element that can have no content. -/
def VoidsEmpty (n : Node) : Prop :=
  ∀ name ∈ voidElements, ∀ m ∈ n.named name, m.children = []

theorem voidsEmpty_element :
    (element name attributes nodes).VoidsEmpty ↔
      (name ∈ voidElements → nodes = []) ∧ ∀ n ∈ nodes, n.VoidsEmpty := by
  constructor
  · intro h
    constructor
    · intro void
      exact h name void _ (mem_named_element.2 (.inl ⟨rfl, rfl⟩))
    · intro n hn tag void m hm
      exact h tag void m (mem_named_element.2 (.inr ⟨n, hn, hm⟩))
  · rintro ⟨own, inner⟩ tag void m hm
    rcases mem_named_element.1 hm with ⟨rfl, rfl⟩ | ⟨n, hn, hm⟩
    · exact own void
    · exact inner n hn tag void m hm

theorem voidsEmpty_text (content : String) : (text content).VoidsEmpty := nofun

theorem voidsEmpty_comment (content : String) : (comment content).VoidsEmpty := nofun

end Node

structure OpenElement.Sound (e : OpenElement) : Prop where
  open_ : e.name ∉ voidElements
  children : ∀ n ∈ e.children, n.VoidsEmpty

theorem OpenElement.Sound.close {e : OpenElement} (h : e.Sound) : e.close.VoidsEmpty := by
  apply Node.voidsEmpty_element.2
  constructor
  · intro void
    exact absurd void h.open_
  · intro n hn
    exact h.children n (List.mem_reverse.1 hn)

namespace Builder

structure Sound (b : Builder) : Prop where
  stack : ∀ e ∈ b.stack, e.Sound
  top : ∀ n ∈ b.top, n.VoidsEmpty

theorem Sound.add (h : b.Sound) (hn : n.VoidsEmpty) : (b.add n).Sound := by
  obtain ⟨stack, top⟩ := h
  rw [Builder.add]
  split
  · exact ⟨stack, List.forall_mem_cons.2 ⟨hn, top⟩⟩
  · next e outer split =>
    rw [split] at stack
    obtain ⟨inner, outer⟩ := List.forall_mem_cons.1 stack
    have grown : OpenElement.Sound { e with children := n :: e.children } :=
      ⟨inner.open_, List.forall_mem_cons.2 ⟨hn, inner.children⟩⟩
    exact ⟨List.forall_mem_cons.2 ⟨grown, outer⟩, top⟩

theorem Sound.addText (h : b.Sound) (content : String) : (b.addText content).Sound := by
  obtain ⟨stack, top⟩ := h
  rw [Builder.addText]
  split
  · exact ⟨stack, top⟩
  · next e outer split =>
    rw [split] at stack
    obtain ⟨inner, outer⟩ := List.forall_mem_cons.1 stack
    refine ⟨List.forall_mem_cons.2 ⟨⟨inner.open_, ?_⟩, outer⟩, top⟩
    have children := inner.children
    dsimp only
    split
    · next before others continued =>
      rw [continued] at children
      exact List.forall_mem_cons.2 ⟨Node.voidsEmpty_text _, (List.forall_mem_cons.1 children).2⟩
    · exact List.forall_mem_cons.2 ⟨Node.voidsEmpty_text _, children⟩

theorem Sound.push (h : b.Sound) (content : name ∉ voidElements) : (b.push name attributes).Sound :=
  ⟨List.forall_mem_cons.2 ⟨⟨content, nofun⟩, h.stack⟩, h.top⟩

theorem Sound.pop (h : b.Sound) : b.pop.Sound := by
  obtain ⟨stack, top⟩ := h
  rw [Builder.pop]
  split
  · exact ⟨stack, top⟩
  · next e outer split =>
    rw [split] at stack
    obtain ⟨inner, outer⟩ := List.forall_mem_cons.1 stack
    exact Sound.add ⟨outer, top⟩ inner.close

/-- An element that ends where it begins is sound whatever it is. -/
theorem Sound.pop_push (h : b.Sound) : (b.push name attributes).pop.Sound := by
  have empty : (Node.element name attributes []).VoidsEmpty :=
    Node.voidsEmpty_element.2 ⟨fun _ => rfl, nofun⟩
  exact Sound.add ⟨h.stack, h.top⟩ empty

theorem Sound.popWhile (h : b.Sound) (test : String → Bool) (stack : List OpenElement) :
    (Builder.popWhile test stack b).Sound := by
  induction stack generalizing b with
  | nil => exact h
  | cons e outer ih =>
    rw [Builder.popWhile]
    split
    · exact ih h.pop
    · exact h

theorem Sound.endFor (h : b.Sound) (tag : String) : (b.endFor tag).Sound :=
  h.popWhile _ _

theorem Sound.supply (h : b.Sound) (tag : String) : (b.supply tag).Sound := by
  have rooted : Sound (if b.stack.isEmpty then b.push "html" [] else b) := by
    split
    · exact h.push (by decide)
    · exact h
  rw [Builder.supply]
  split
  · exact h
  · dsimp only
    generalize (if b.stack.isEmpty then b.push "html" [] else b) = b' at rooted ⊢
    split
    · exact rooted
    · split
      · split
        · exact rooted
        · exact rooted.push (by decide)
      · split
        · exact rooted
        · split
          · exact rooted
          · exact rooted.push (by decide)

theorem Sound.text (h : b.Sound) (content : List Char) : (b.text content).Sound := by
  rw [Builder.text]
  split
  · dsimp only
    have blank : Sound (if (content.span Scan.isSpace).1.isEmpty then b
        else b.addText (.ofList (content.span Scan.isSpace).1)) := by
      split
      · exact h
      · exact h.addText _
    generalize (if (content.span Scan.isSpace).1.isEmpty then b
      else b.addText (.ofList (content.span Scan.isSpace).1)) = b' at blank ⊢
    split
    · exact blank
    · apply Sound.addText
      apply Sound.supply
      split
      · exact blank.endFor _
      · exact blank
  · exact h.addText _

theorem Sound.startTag (h : b.Sound) (tag : String) (attributes : List (String × Option String))
    (selfClosing : Bool) : (b.startTag tag attributes selfClosing).Sound := by
  have ready := (h.endFor tag).supply tag
  rw [Builder.startTag]
  generalize (b.endFor tag).supply tag = b' at ready ⊢
  dsimp only
  split
  · exact ⟨ready.stack, ready.top⟩
  · split
    · exact ready.pop_push
    · next goesOn =>
      apply ready.push
      intro void
      exact goesOn (by simp [void])

theorem Sound.endTag (h : b.Sound) (tag : String) : (b.endTag tag).Sound := by
  rw [Builder.endTag]
  split
  · exact ⟨h.stack, h.top⟩
  · split
    · exact (h.popWhile _ _).pop
    · exact h

theorem Sound.token (h : b.Sound) (t : Token) : (b.token t).Sound := by
  cases t with
  | text content => exact h.text content
  | raw content =>
    rw [Builder.token]
    split
    · exact h
    · exact h.addText _
  | comment content => exact h.add (Node.voidsEmpty_comment _)
  | startTag name attributes selfClosing => exact h.startTag name attributes selfClosing
  | endTag name => exact h.endTag name
  | doctype => exact h

theorem Sound.foldl_token (h : b.Sound) (ts : List Token) : (ts.foldl Builder.token b).Sound := by
  induction ts generalizing b with
  | nil => exact h
  | cons t ts ih => exact ih (h.token t)

end Builder

/-- In a page, an element that can have no content has none. -/
theorem voidsEmpty_of_mem_nodesOf {page : String} (h : n ∈ nodesOf page) : n.VoidsEmpty := by
  have start : Builder.Sound {} := ⟨nofun, nofun⟩
  have whole := (start.foldl_token (Token.ofText page.toList)).popWhile (fun _ => true)
  exact (whole _).top n (List.mem_reverse.1 h)

end WebScript.Html
