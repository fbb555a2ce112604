import WebScript.Access
import WebScript.Page.Submit
import WebScript.Template

namespace WebScript

/-- How an action ends that ends without an error. A jump asks for a target to be run. -/
inductive Outcome where
  | done
  | failed (message : String)
  | jump (target : String)
  deriving DecidableEq, Repr

namespace Outcome

def ok : Outcome → Bool
  | failed _ => false
  | _ => true

def message? : Outcome → Option String
  | failed m => some m
  | _ => none

def target? : Outcome → Option String
  | jump t => some t
  | _ => none

end Outcome

inductive Event where
  | entered (target : String)
  | left (target : String)
  | requested (request : Request)
  | extracted (values : NameMap)
  | performed (outcome : Outcome)
  deriving DecidableEq, Repr

def Event.request? : Event → Option Request
  | requested r => some r
  | _ => none

/-- An event, and how many jumps were pending at the time. -/
structure Entry where
  depth : Nat
  event : Event
  deriving DecidableEq, Repr

/-- The state of a run, with the state of what answers its requests. -/
structure Session (σ : Type) where
  inputs : NameMap := ∅
  outputs : NameMap := ∅
  page : Option Page := none
  depth : Nat := 0
  remote : σ
  journal : List Entry := []

/-- How a part of a run has ended: with a value or a failure, and the state it leaves behind. -/
abbrev Ended (σ α : Type) := Except Failure α × Session σ

/-- A part of a run. It has no end where a template that it resolves has none. -/
abbrev Run (σ α : Type) := Session σ → Option (Ended σ α)

namespace Session

variable {σ : Type}

def note (e : Event) (s : Session σ) : Session σ :=
  { s with journal := s.journal ++ [⟨s.depth, e⟩] }

/-- The values that templates may name. -/
def scope (s : Session σ) : Scope :=
  { inputs := s.inputs, outputs := s.outputs }

def send (a : Accessor σ) (r : Request) (s : Session σ) : Ended σ Response :=
  let (answer, remote) := a.send r s.remote
  (answer, { s.note (.requested r) with remote })

/-- The state in which the target of a jump begins, one jump deeper. -/
def enter (callee : Target) (s : Session σ) : Session σ :=
  { s with depth := s.depth + 1 }.note (.entered callee.name)

/-- The state in which a jump returns from its target, however that has ended. -/
def leave (callee : Target) (s : Session σ) : Session σ :=
  { s.note (.left callee.name) with depth := s.depth - 1 }

def requests (s : Session σ) : List Request :=
  s.journal.filterMap fun e => e.event.request?

section Fields

variable (s : Session σ) (e : Event) (callee : Target)

@[simp] theorem note_inputs : (s.note e).inputs = s.inputs := rfl
@[simp] theorem note_outputs : (s.note e).outputs = s.outputs := rfl
@[simp] theorem note_page : (s.note e).page = s.page := rfl
@[simp] theorem note_depth : (s.note e).depth = s.depth := rfl
@[simp] theorem note_remote : (s.note e).remote = s.remote := rfl
@[simp] theorem note_journal : (s.note e).journal = s.journal ++ [⟨s.depth, e⟩] := rfl

@[simp] theorem enter_inputs : (s.enter callee).inputs = s.inputs := rfl
@[simp] theorem enter_outputs : (s.enter callee).outputs = s.outputs := rfl
@[simp] theorem enter_page : (s.enter callee).page = s.page := rfl
@[simp] theorem enter_depth : (s.enter callee).depth = s.depth + 1 := rfl
@[simp] theorem enter_remote : (s.enter callee).remote = s.remote := rfl

@[simp] theorem leave_inputs : (s.leave callee).inputs = s.inputs := rfl
@[simp] theorem leave_outputs : (s.leave callee).outputs = s.outputs := rfl
@[simp] theorem leave_page : (s.leave callee).page = s.page := rfl
@[simp] theorem leave_depth : (s.leave callee).depth = s.depth - 1 := rfl
@[simp] theorem leave_remote : (s.leave callee).remote = s.remote := rfl

@[simp] theorem note_requests : (s.note e).requests = s.requests ++ e.request?.toList := by
  cases h : e.request? <;> simp [requests, h]

@[simp] theorem enter_requests : (s.enter callee).requests = s.requests := by
  simp [requests, enter, Event.request?]

@[simp] theorem leave_requests : (s.leave callee).requests = s.requests := by
  simp [requests, leave, Event.request?]

end Fields

end Session
end WebScript
