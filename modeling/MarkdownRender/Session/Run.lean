import MarkdownRender.Session.Action

/-!
# Runs

The steps of a session run one after the other. A block runs its steps with a default of its own
and gives the default that it found back when it is left, in whatever way it is left. A thread
starts with the initial default and leaves that of its caller alone. A step that raises leaves the
innermost block around it.
-/

namespace MarkdownRender.Session

inductive Step where
  | act (action : Action)
  /-- Runs steps with another default. -/
  | block (options : Source) (steps : List Step)
  /-- Runs steps in a thread of their own, and waits for them. -/
  | thread (steps : List Step)
  | raise

/-- The answer to a step. -/
inductive Answer where
  | replied (reply : Reply)
  | failed (fault : Fault)
  /-- The answers of a block, whether it was left by raising, and the default afterwards. -/
  | block (answers : List Answer) (raised : Bool) (after : RenderOptions)
  /-- The answers of a thread, and the default afterwards. -/
  | thread (answers : List Answer) (after : RenderOptions)
  | raising

/-- What running a step comes to. -/
structure Outcome (α : Type) where
  answer : α
  /-- Whether an enclosing block is being left. -/
  raised : Bool
  state : State

/-- The outcome of an attempt that never raises; the state of a failed attempt is the state
before it. -/
def Outcome.ofAttempt (s : State) (attempt : Attempt (Answer × State)) :
    Logged (Outcome Answer) := do
  match ← attempt.run with
  | .ok (answer, after) => return ⟨answer, false, after⟩
  | .error fault => return ⟨.failed fault, false, s⟩

mutual

/-- Runs a step. -/
def runStep (s : State) : Step → Logged (Outcome Answer)
  | .act action => Outcome.ofAttempt s do
    let (reply, after) ← action.perform s
    return (.replied reply, after)
  | .block source steps => Outcome.ofAttempt s do
    let (r, entered) ← source.resolve s
    let inner ← runSteps { entered with current := r } steps
    return (.block inner.answer inner.raised s.current.options,
      { inner.state with current := s.current })
  | .thread steps => do
    let inner ← runSteps { s with current := .initial } steps
    return ⟨.thread inner.answer s.current.options, false,
      { inner.state with current := s.current }⟩
  | .raise => return ⟨.raising, true, s⟩

/-- Runs steps until one raises. -/
def runSteps (s : State) : List Step → Logged (Outcome (List Answer))
  | [] => return ⟨[], false, s⟩
  | step :: rest => do
    let first ← runStep s step
    if first.raised then return ⟨[first.answer], true, first.state⟩
    else
      let others ← runSteps first.state rest
      return ⟨first.answer :: others.answer, others.raised, others.state⟩

end

/-- The answers of a whole session. -/
def run (steps : List Step) : Logged (List Answer) := do
  return (← runSteps {} steps).answer

end MarkdownRender.Session
