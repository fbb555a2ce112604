import WebScript.Proofs.Except
import WebScript.Yaml.Node

namespace WebScript.Yaml.Node

variable {α β : Type} {r : Reader α} {k : α → Reader β} {n : Reader Node} {fuel : Nat}

/-- A reader that fails only where the text is malformed or where its tokens do. -/
def Strict (r : Reader α) : Prop :=
  ∀ s, (r s).Meets (·.2.fault = s.fault) fun f => f = .malformed ∨ f = s.fault

namespace Strict

theorem pure (a : α) : Strict (Pure.pure a) :=
  fun _ => .pure rfl

theorem fail : Strict (Node.fail : Reader α) :=
  fun _ => .fail (.inl rfl)

theorem get : Strict (MonadState.get : Reader Reading) :=
  fun _ => .pure rfl

theorem modify {g : Reading → Reading} (h : ∀ s, (g s).fault = s.fault) :
    Strict (modify g : Reader Unit) :=
  fun s => .pure (h s)

theorem bind (h : Strict r) (h' : ∀ a, Strict (k a)) : Strict (r >>= k) := by
  refine fun s => .bind (h s) fun (a, s') same => ?_
  have next := h' a s'
  rwa [show s'.fault = s.fault from same] at next

theorem ite {c : Prop} [Decidable c] {r' : Reader α} (h : Strict r) (h' : Strict r') :
    Strict (if c then r else r') := by
  split
  · exact h
  · exact h'

theorem peek : Strict Node.peek := by
  rintro ⟨tokens, fault, handles, anchors⟩
  cases tokens with
  | nil => exact .fail (.inr rfl)
  | cons t rest => exact .ok rfl

theorem advance : Strict Node.advance :=
  .modify fun _ => rfl

theorem accept (t : Token) : Strict (Node.accept t) :=
  .bind .peek fun _ => .ite (.bind .advance fun _ => .pure true) (.pure false)

theorem properties : Strict Node.properties := by
  refine .bind .peek fun t => ?_
  split
  · refine .bind .advance fun _ => .bind .peek fun t => ?_
    split
    · exact .bind .advance fun _ => .pure _
    · exact .pure _
  · refine .bind .advance fun _ => .bind .peek fun t => ?_
    split
    · exact .bind .advance fun _ => .pure _
    · exact .pure _
  · exact .pure _

theorem resolveTag (tag : Option (Option String × String)) : Strict (Node.resolveTag tag) := by
  unfold Node.resolveTag
  split
  · exact .pure _
  · exact .pure _
  · refine .bind .get fun s => ?_
    split
    · exact .pure _
    · exact .fail

theorem note (anchor : Option String) (node : Node) : Strict (Node.bind anchor node) := by
  cases anchor with
  | none => exact .pure _
  | some name => exact .modify fun _ => rfl

theorem requireNew (anchor : Option String) : Strict (Node.requireNew anchor) := by
  cases anchor with
  | none => exact .pure _
  | some name => exact .bind .get fun _ => .ite .fail (.pure _)

theorem orEmpty (h : Strict n) (ends : List Token) : Strict (Node.orEmpty ends n) :=
  .bind .peek fun _ => .ite (.pure _) h

theorem valueOr (h : Strict n) (ends : List Token) : Strict (Node.valueOr ends n) :=
  .bind (.accept _) fun _ => .ite (h.orEmpty ends) (.pure _)

theorem separator (first : Bool) : Strict (Node.separator first) :=
  .ite (.pure _) (.bind (.accept _) fun _ => .ite (.pure _) .fail)

end Strict

/-- All readers of nodes fail only where the text is malformed, given so much fuel. -/
structure AllStrict (fuel : Nat) : Prop where
  node : ∀ block indentless, Strict (node block indentless fuel)
  blockItems : Strict (blockItems fuel)
  indentlessItems : Strict (indentlessItems fuel)
  blockEntries : Strict (blockEntries fuel)
  flowItems : ∀ first, Strict (flowItems first fuel)
  flowEntries : ∀ first, Strict (flowEntries first fuel)

namespace AllStrict

variable (h : AllStrict fuel)
include h

theorem node_succ (block indentless : Bool) : Strict (Node.node block indentless (fuel + 1)) := by
  rw [Node.node]
  refine .bind .peek fun t => ?_
  split
  · refine .bind .advance fun _ => .bind .get fun s => ?_
    split
    · exact .pure _
    · exact .fail
  refine .bind .properties fun (anchor, tag) => .bind (.resolveTag tag) fun tag =>
    .bind .peek fun t => .bind (.requireNew anchor) fun _ => ?_
  dsimp only
  have collect (kind : String) {make : Reader Node} (made : Strict make) := Strict.bind
    (.note anchor (if kind == "seq" then .sequence (collectionTag kind tag) []
      else .mapping (collectionTag kind tag) []))
    fun _ => .bind made fun n => .bind (.note anchor n) fun _ => .pure n
  split
  · exact .bind .advance fun _ => .bind (.note _ _) fun _ => .pure _
  · exact .bind .advance fun _ => collect "seq" (.bind (h.flowItems true) fun _ => .pure _)
  · exact .bind .advance fun _ => collect "map" (.bind (h.flowEntries true) fun _ => .pure _)
  · refine .ite ?_ (.ite ?_ (.ite ?_ (.ite .fail ?_)))
    · exact collect "seq" (.bind h.indentlessItems fun _ => .pure _)
    · exact .bind .advance fun _ => collect "seq" (.bind h.blockItems fun _ => .pure _)
    · exact .bind .advance fun _ => collect "map" (.bind h.blockEntries fun _ => .pure _)
    · exact .bind (.note _ _) fun _ => .pure _

theorem blockItems_succ : Strict (Node.blockItems (fuel + 1)) := by
  rw [Node.blockItems]
  refine .bind (.accept _) fun _ => .ite ?_ (.bind (.accept _) fun _ => .ite (.pure _) .fail)
  exact .bind ((h.node _ _).orEmpty _) fun _ => .bind h.blockItems fun _ => .pure _

theorem indentlessItems_succ : Strict (Node.indentlessItems (fuel + 1)) := by
  rw [Node.indentlessItems]
  refine .bind (.accept _) fun _ => .ite ?_ (.pure _)
  exact .bind ((h.node _ _).orEmpty _) fun _ => .bind h.indentlessItems fun _ => .pure _

theorem blockEntries_succ : Strict (Node.blockEntries (fuel + 1)) := by
  rw [Node.blockEntries]
  refine .bind (.accept _) fun _ => .ite ?_ (.bind (.accept _) fun _ => .ite (.pure _) .fail)
  exact .bind ((h.node _ _).orEmpty _) fun _ => .bind ((h.node _ _).valueOr _) fun _ =>
    .bind h.blockEntries fun _ => .pure _

theorem flowItems_succ (first : Bool) : Strict (Node.flowItems first (fuel + 1)) := by
  rw [Node.flowItems]
  refine .bind (.accept _) fun _ => .ite (.pure _) (.bind (.separator first) fun _ =>
    .bind (.accept _) fun _ => .ite ?_ (.bind (.accept _) fun _ => .ite (.pure _) ?_))
  · exact .bind ((h.node _ _).orEmpty _) fun _ => .bind ((h.node _ _).valueOr _) fun _ =>
      .bind (h.flowItems false) fun _ => .pure _
  · exact .bind (h.node _ _) fun _ => .bind (h.flowItems false) fun _ => .pure _

theorem flowEntries_succ (first : Bool) : Strict (Node.flowEntries first (fuel + 1)) := by
  rw [Node.flowEntries]
  refine .bind (.accept _) fun _ => .ite (.pure _) (.bind (.separator first) fun _ =>
    .bind (.accept _) fun _ => .ite ?_ (.bind (.accept _) fun _ => .ite (.pure _) ?_))
  · exact .bind ((h.node _ _).orEmpty _) fun _ => .bind ((h.node _ _).valueOr _) fun _ =>
      .bind (h.flowEntries false) fun _ => .pure _
  · exact .bind (h.node _ _) fun _ => .bind (h.flowEntries false) fun _ => .pure _

end AllStrict

theorem allStrict (fuel : Nat) : AllStrict fuel := by
  induction fuel with
  | zero =>
    refine ⟨fun _ _ => ?_, ?_, ?_, ?_, fun _ => ?_, fun _ => ?_⟩
    · rw [node]; exact .fail
    · rw [blockItems]; exact .fail
    · rw [indentlessItems]; exact .fail
    · rw [blockEntries]; exact .fail
    · rw [flowItems]; exact .fail
    · rw [flowEntries]; exact .fail
  | succ fuel h =>
    exact ⟨h.node_succ, h.blockItems_succ, h.indentlessItems_succ, h.blockEntries_succ,
      h.flowItems_succ, h.flowEntries_succ⟩

variable {handles : List (String × String)}

theorem strict_directives (versioned : Bool) : Strict (directives fuel versioned handles) := by
  induction fuel generalizing versioned handles with
  | zero => exact .fail
  | succ fuel ih =>
    rw [directives]
    refine .bind .peek fun t => ?_
    split
    · exact .bind .advance fun _ => .ite .fail (ih true)
    · exact .bind .advance fun _ => .ite .fail (ih versioned)
    · exact .bind .advance fun _ => ih versioned
    · exact .pure _

theorem strict_size : Strict size :=
  .bind .get fun _ => .pure _

theorem strict_opening : Strict opening := by
  refine .bind strict_size fun size => .bind (strict_directives false) fun handles => ?_
  exact .bind (.accept _) fun _ => .ite (.modify fun _ => rfl) .fail

theorem strict_root (marked : Bool) : Strict (root marked) := by
  refine .bind .peek fun t => .ite (.pure _) ?_
  exact .bind strict_size fun _ => (allStrict _).node true false

theorem strict_documentEnds : Strict (documentEnds fuel) := by
  induction fuel with
  | zero => exact .fail
  | succ fuel ih => exact .bind (.accept _) fun _ => .ite ih (.pure _)

theorem strict_requireEnd : Strict requireEnd := by
  refine .bind strict_size fun _ => .bind strict_documentEnds fun _ => .bind .peek fun t => ?_
  exact .ite (.pure _) (.bind strict_opening fun _ => .fail)

theorem strict_document : Strict document := by
  refine .bind .peek fun t => .ite (.pure _) ?_
  have read (marked : Bool) : Strict (do
      let n ← root marked
      requireEnd
      return some n) :=
    .bind (strict_root marked) fun n => .bind strict_requireEnd fun _ => .pure _
  dsimp only
  split
  · exact .bind strict_opening fun _ => read _
  · exact read _

/-- The tree of a document cannot be made only where its tokens are malformed or end with a fault.
-/
theorem ofTokens_eq_error {tokens : Tokens} {f : Fault} (h : ofTokens tokens = .error f) :
    f = .malformed ∨ f = tokens.fault := by
  have meets := strict_document { tokens := tokens.list, fault := tokens.fault }
  rw [ofTokens] at h
  exact meets.error f (Except.map_eq_error.1 h)

end WebScript.Yaml.Node
