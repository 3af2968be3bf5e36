import MarkdownRender.Session.State

/-!
# Actions

An action is a step of a session that runs no other steps. It replies and may change the state;
an action that fails changes nothing.
-/

namespace MarkdownRender.Session

/-- Where a step takes an option record from. -/
inductive Source where
  /-- A new record, made from a map. Making the map may report events. -/
  | fresh (map : Logged OptionMap)
  /-- The record kept under a name. -/
  | named (name : Text)

/-- The record of a source. -/
def Source.resolve (s : State) : Source → Attempt (Record × State)
  | fresh map => do return s.make (← .ofConfig (RenderOptions.ofMap (← map)))
  | named name => return (← s.record name, s)

inductive Action where
  /-- Asks for the default. -/
  | get
  /-- Sets the default. -/
  | set (options : Source)
  /-- Sets the default to the record that sessions start from. -/
  | reset
  /-- Keeps a record. -/
  | options (name : Text) (source : Source)
  /-- Keeps the default. -/
  | keep (name : Text)
  /-- Merges a map into a kept record, and keeps the result if it is given a name. -/
  | merge (name : Text) (overrides : Logged OptionMap) (result : Option Text)
  /-- Compares two kept records. -/
  | compare (left right : Text)
  /-- Assigns to a field of a kept record, or to a name that none of its fields has. -/
  | assign (name field : Text)
  /-- Keeps a new renderer. Without options of its own it takes the default. -/
  | new (name : Text) (format : Format) (options : Option Source) (overrides : Logged OptionMap)
  /-- Renders a node. -/
  | call (name : Text) (node : Node)

/-- The reply to an action that did not fail. -/
inductive Reply where
  | shown (options : RenderOptions)
  /-- The result of a merge, and whether it is the very record that was merged into. -/
  | merged (options : RenderOptions) (same : Bool)
  | compared (equal same : Bool)
  | rendered (output : Text)

/-- The record that a renderer is built on: of its own source if it has one, else the default. -/
def State.base (s : State) : Option Source → Attempt (Record × State)
  | some source => source.resolve s
  | none => return (s.current, s)

namespace Action

/-- What an action replies and makes of the state. -/
def perform (s : State) : Action → Attempt (Reply × State)
  | get => return (.shown s.current.options, s)
  | set source => do
    let (r, s) ← source.resolve s
    return (.shown r.options, { s with current := r })
  | reset => return (.shown Record.initial.options, { s with current := .initial })
  | options name source => do
    let (r, s) ← source.resolve s
    return (.shown r.options, s.keep name r)
  | keep name => return (.shown s.current.options, s.keep name s.current)
  | merge name overrides result => do
    let r ← s.record name
    let (merged, s) ← s.merge r (← overrides)
    let reply := Reply.merged merged.options (merged.id = r.id)
    match result with
    | some result => return (reply, s.keep result merged)
    | none => return (reply, s)
  | compare left right => do
    let l ← s.record left
    let r ← s.record right
    return (.compared (l.options.same r.options) (l.id = r.id), s)
  | assign name field => do
    let _ ← s.record name
    throw (if OptionField.isName field then .frozenField field else .noSuchField)
  | new name format source overrides => do
    let (r, s) ← s.base source
    let (r, s) ← s.merge r (← overrides)
    return (.shown r.options, s.keepHolder name ⟨format, r⟩)
  | call name node => do
    let h ← s.holder name
    return (.rendered (← h.renderer.node node), s)

end Action

end MarkdownRender.Session
