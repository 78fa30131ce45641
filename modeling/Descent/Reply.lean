import Descent.State
import Descent.Trace

/-!
What a parser answers.

A reply is a success, a failure that a choice may recover from, or the discovery that a repetition
stalls, which nothing recovers from. A run is a reply together with what it adds to the trace; it
has no reply when the recursion of a grammar went deeper than it was allowed to.
-/

namespace Descent

/-- The answer of a parser. -/
inductive Reply (α : Type) where
  /-- The input matched; the parse goes on from `state`. -/
  | success (value : α) (state : State)
  /-- The input did not match; `state` tells where, and what was expected there. -/
  | failure (state : State)
  /-- A repeated parser succeeded without moving on in the round that started at `index`. -/
  | stalled (index : Nat)
  deriving DecidableEq

/-- The reply with its value, if it has one, changed by `f`. -/
def Reply.map (f : α → β) : Reply α → Reply β
  | success v s => success (f v) s
  | failure s => failure s
  | stalled i => stalled i

@[simp] theorem Reply.map_id (r : Reply α) : r.map id = r := by cases r <;> rfl

theorem Reply.map_map (f : α → β) (g : β → γ) (r : Reply α) :
    (r.map f).map g = r.map (g ∘ f) := by cases r <;> rfl

/-- What running a parser gives: a reply, unless the recursion ran too deep, and a log. -/
structure Run (α : Type) where
  reply? : Option (Reply α)
  log : Log

namespace Run

variable {α β : Type}

def success (v : α) (s : State) : Run α := ⟨some (.success v s), .empty⟩

def failure (s : State) : Run α := ⟨some (.failure s), .empty⟩

def exhausted : Run α := ⟨none, .empty⟩

/-- The run with a log in front of its own. -/
def after (l : Log) (r : Run α) : Run α := ⟨r.reply?, l ++ r.log⟩

/-- Goes on after a success or a failure; a stalled repetition ends the run. -/
def resume (r : Run α) (succeed : α → State → Run β) (fail : State → Run β) : Run β :=
  match r.reply? with
  | some (.success v s) => after r.log (succeed v s)
  | some (.failure s) => after r.log (fail s)
  | some (.stalled i) => ⟨some (.stalled i), r.log⟩
  | none => ⟨none, r.log⟩

@[simp] theorem reply?_success (v : α) (s : State) :
    (success v s).reply? = some (.success v s) := rfl

@[simp] theorem reply?_failure (s : State) : (failure s : Run α).reply? = some (.failure s) := rfl

@[simp] theorem reply?_exhausted : (exhausted : Run α).reply? = none := rfl

@[simp] theorem reply?_after (l : Log) (r : Run α) : (after l r).reply? = r.reply? := rfl

/-- The reply of a resumed run is the reply of the part that it goes on with. -/
theorem reply?_resume (r : Run α) (succeed : α → State → Run β) (fail : State → Run β) :
    (r.resume succeed fail).reply? =
      match r.reply? with
      | some (.success v s) => (succeed v s).reply?
      | some (.failure s) => (fail s).reply?
      | some (.stalled i) => some (.stalled i)
      | none => none := by
  unfold resume
  split <;> simp_all

end Run

end Descent
