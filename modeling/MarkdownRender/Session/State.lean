import MarkdownRender.Render.Renderer

/-!
# Session state

Option records have an identity: two records may hold equal options and yet be two records. A
session keeps records and renderers by name, and it has a current default record, which renderers
without options of their own take. What is kept belongs to the whole session, whereas the default
belongs to the block or the thread that runs.
-/

namespace MarkdownRender.Session

/-- An option record with its identity. -/
structure Record where
  id : Nat
  options : RenderOptions

/-- The record that every session and every thread starts from. -/
def Record.initial : Record := ⟨0, {}⟩

/-- A renderer that holds an option record. -/
structure Holder where
  format : Format
  record : Record

/-- What the holder renders with. -/
def Holder.renderer (h : Holder) : Renderer := ⟨h.format, h.record.options⟩

/-- What a session knows. -/
structure State where
  /-- The record of renderers without options of their own. -/
  current : Record := .initial
  /-- The records kept by name; of two with one name the first counts. -/
  records : List (Text × Record) := []
  /-- The renderers kept by name; of two with one name the first counts. -/
  holders : List (Text × Holder) := []
  /-- The identity of the next record that is made. -/
  nextId : Nat := 1

namespace State

/-- The record kept under a name. -/
def record (s : State) (name : Text) : Attempt Record :=
  match s.records.lookup name with
  | some r => return r
  | none => throw (.unknownName name)

/-- The renderer kept under a name. -/
def holder (s : State) (name : Text) : Attempt Holder :=
  match s.holders.lookup name with
  | some h => return h
  | none => throw (.unknownName name)

/-- Keeps a record under a name. -/
def keep (s : State) (name : Text) (r : Record) : State :=
  { s with records := (name, r) :: s.records }

/-- Keeps a renderer under a name. -/
def keepHolder (s : State) (name : Text) (h : Holder) : State :=
  { s with holders := (name, h) :: s.holders }

/-- Makes a new record. -/
def make (s : State) (options : RenderOptions) : Record × State :=
  (⟨s.nextId, options⟩, { s with nextId := s.nextId + 1 })

/-- The record with the options of a map on top. A map without entries leaves it the very same
record; any other makes a new one. -/
def merge (s : State) (r : Record) (map : OptionMap) : Attempt (Record × State) :=
  if map.entries.isEmpty then return (r, s)
  else return s.make (← .ofConfig (r.options.merge map))

end State

end MarkdownRender.Session
