/-!
The trace of a parse: spans that are entered and left, and events between.

A `Log` is what one run adds to the trace. Logs are joined as trees, so that joining takes constant
time; `toList` is the view in which they are compared, and `toList_toArray` says that the
linear-time reading `toArray` shows the same entries.
-/

namespace Descent

/-- A stretch of a parse that the trace brackets. -/
inductive Span where
  /-- The run of a whole grammar from an offset of an input with `length` bytes. -/
  | parse (start length : Nat)
  /-- The run of a named parser from an offset. -/
  | rule (name : String) (start : Nat)
  deriving DecidableEq

/-- Something that the trace notes. Offsets are byte offsets. -/
inductive Event where
  /-- The first of two alternatives failed where it started, so the second is tried. -/
  | firstFailedSoftly (index : Nat)
  /-- The first of two alternatives failed away from its start, so its failure stands. -/
  | firstCommitted (start reached : Nat)
  /-- An alternative of a list failed where it started. -/
  | alternativeFailedSoftly (index position : Nat)
  /-- An alternative of a list failed away from its start, so its failure stands. -/
  | alternativeCommitted (start reached position : Nat)
  /-- A failure away from the start was taken back to the start. -/
  | rewound (start reached : Nat)
  /-- A round of a repetition that started at `index` succeeded without moving on. -/
  | stalled (index : Nat)
  /-- A named parser succeeded and stopped at `stop`. -/
  | matched (stop : Nat)
  /-- A named parser failed at `stop`, where so many labels were expected. -/
  | failed (stop labels : Nat)
  /-- A named parser ended because a repetition at `index` stalled. -/
  | aborted (index : Nat)
  /-- The whole parse succeeded and stopped at `stop`. -/
  | parseSucceeded (stop : Nat)
  /-- The whole parse failed at `index`, where the given labels were expected. -/
  | parseFailed (index : Nat) (expected : List String)
  /-- The whole parse ended because a repetition at `index` stalled. -/
  | grammarError (index : Nat)
  deriving DecidableEq

/-- One entry of a trace. -/
inductive Entry where
  | enter (span : Span)
  | exit (span : Span)
  | event (e : Event)
  deriving DecidableEq

/-- What a run adds to the trace. -/
inductive Log where
  | empty
  | entry (e : Entry)
  | append (l m : Log)

namespace Log

def event (e : Event) : Log := entry (.event e)

protected def join : Log → Log → Log
  | empty, m => m
  | l, empty => l
  | l, m => append l m

instance : Append Log := ⟨Log.join⟩

def toList : Log → List Entry
  | empty => []
  | entry e => [e]
  | append l m => l.toList ++ m.toList

@[simp] theorem toList_empty : empty.toList = [] := rfl

@[simp] theorem toList_entry (e : Entry) : (entry e).toList = [e] := rfl

@[simp] theorem toList_event (e : Event) : (event e).toList = [.event e] := rfl

@[simp] theorem toList_append (l m : Log) : (l ++ m).toList = l.toList ++ m.toList := by
  change (Log.join l m).toList = _
  cases l <;> cases m <;> simp [Log.join, toList]

def size : Log → Nat
  | append l m => l.size + m.size + 1
  | _ => 1

def stackSize : List Log → Nat
  | [] => 0
  | l :: rest => l.size + stackSize rest

/-- The entries of a stack of logs, behind those read so far. -/
def pushAll : List Log → Array Entry → Array Entry
  | [], read => read
  | empty :: rest, read => pushAll rest read
  | entry e :: rest, read => pushAll rest (read.push e)
  | append l m :: rest, read => pushAll (l :: m :: rest) read
termination_by stack => stackSize stack
decreasing_by all_goals simp [stackSize, size]; try omega

/-- The entries of a log, in order, read without recursion on its depth. -/
def toArray (l : Log) : Array Entry := pushAll [l] #[]

theorem toList_pushAll (stack : List Log) (read : Array Entry) :
    (pushAll stack read).toList = read.toList ++ stack.flatMap toList := by
  fun_induction pushAll stack read with
  | case1 => simp
  | case2 rest read ih => simpa using ih
  | case3 e rest read ih => simpa using ih
  | case4 l m rest read ih => simpa [toList] using ih

theorem toList_toArray (l : Log) : l.toArray.toList = l.toList := by
  simp [toArray, toList_pushAll]

end Log

end Descent
