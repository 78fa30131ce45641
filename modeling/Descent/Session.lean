import Descent.Result

/-!
Sessions: an input and a state that are worked on step by step.

A step runs a grammar from the current state, changes the input or the state, or asks about them.
States can be saved on a stack, taken back from it, and compared with its top.
-/

namespace Descent

/-- An input, the current state, and the saved states, newest first. -/
structure Session where
  input : Input
  state : State
  saved : List State

/-- A step of a session over rules with names of type `ρ`. -/
inductive Step (ρ : Type) where
  /-- Runs a grammar and takes its state over, whether it succeeds or fails. -/
  | parse (g : Grammar ρ)
  /-- Runs a grammar as a whole parse and takes its state over if it succeeds. -/
  | run (g : Grammar ρ)
  | replaceInput (text : String)
  | restart
  | change (c : Change)
  | lookup (key : String)
  | labels
  | failure
  | save
  | restore
  /-- Compares the current state with the one saved last. -/
  | compare

inductive StepAnswer where
  | nothing
  /-- The reply to a parse that started at an offset. -/
  | reply (start : Nat) (r : Reply Value)
  | result (r : Result Value)
  | value (v : Option Value)
  | labels (labels : List String)
  | failure (f : Failure)
  | flag (b : Bool)

namespace Session

def start (input : Input) (state : State) : Session := ⟨input, state, []⟩

/-- Takes one step; there is no answer if the recursion of a grammar ran too deep. -/
def step (parserOf : Grammar ρ → Parser Value) (session : Session) :
    Step ρ → Option (Session × StepAnswer)
  | .parse g => do
    let reply ← (parserOf g session.input session.state).reply?
    let state := match reply with
      | .success _ s | .failure s => s
      | .stalled _ => session.state
    return ({ session with state := state }, .reply session.state.index reply)
  | .run g => do
    let result ← ((parserOf g).runFrom session.input session.state).result?
    let state := match result with
      | .parsed p => p.state
      | _ => session.state
    return ({ session with state := state }, .result result)
  | .replaceInput text => some ({ session with input := .ofString text }, .nothing)
  | .restart => some ({ session with state := .start }, .nothing)
  | .change c => some ({ session with state := session.state.apply c }, .nothing)
  | .lookup key => some (session, .value (session.state.lookup? key))
  | .labels => some (session, .labels session.state.expected)
  | .failure => some (session, .failure (.ofState session.input session.state))
  | .save => some ({ session with saved := session.state :: session.saved }, .nothing)
  | .restore => match session.saved with
    | s :: saved => some ({ session with state := s, saved := saved }, .flag true)
    | [] => some (session, .flag false)
  | .compare => match session.saved with
    | s :: _ => some (session, .flag (session.state = s))
    | [] => some (session, .nothing)

end Session

end Descent
