import Mathlib.Logic.Function.Basic
import MarkdownRender.Proofs.Options.Layers
import MarkdownRender.Proofs.Session.Frames

/-!
# Sessions in storage

The state of a session takes three things for granted: its records hold no wrong values, a step
that fails gives back the state that it was given, and a thread has a default of its own because
the runner gives it one. Here they are to be proved. A `Store` has records with a value of
whatever kind for each option, and a record is there before its values are checked. A step writes
to the store as it goes, and what it has written when it is stopped stays written. Every thread has
a variable for its default; it is unset when the thread starts, and nothing is set back when the
thread ends.

What an action writes to a store is what it makes of a state (`Shows.agrees_act`).
-/

namespace MarkdownRender

/-! ### Values before they are checked -/

namespace OptionDraft

/-- Values that the options of a record can have. -/
structure IsValid (values : OptionDraft) : Prop where
  langPrefix : ∃ t, values .langPrefix = .text t
  headerPrefix : ∃ t, values .headerPrefix = .text t
  highlight : values .highlight = .null ∨ ∃ c, values .highlight = .callback c

/-- Refuses the first value that its option cannot have. -/
def check (values : OptionDraft) : Except ConfigError Unit :=
  match OptionField.checked.find? fun field => !field.accepts (values field) with
  | some field => .error (field.refusal (values field))
  | none => .ok ()

theorem isValid_toDraft (o : RenderOptions) : IsValid o.toDraft := by
  refine ⟨⟨_, rfl⟩, ⟨_, rfl⟩, ?_⟩
  cases h : o.highlight with
  | none => exact Or.inl (by simp [RenderOptions.toDraft, h])
  | some c => exact Or.inr ⟨c, by simp [RenderOptions.toDraft, h]⟩

/-- Checking values comes to the same as building a record of them. -/
theorem check_eq (values : OptionDraft) : values.check = values.build.map fun _ => () := by
  cases hbuild : values.build with
  | error e =>
    obtain ⟨field, hfind, rfl⟩ := build_eq_error_iff.mp hbuild
    simp [check, hfind, Except.map]
  | ok o =>
    cases hfind : OptionField.checked.find? fun field => !field.accepts (values field) with
    | none => simp [check, hfind, Except.map]
    | some field =>
      have hfault := build_eq_error_iff.mpr ⟨field, hfind, rfl⟩
      cases hbuild.symm.trans hfault

end OptionDraft

namespace Session

/-! ### Stores -/

/-- A record as it is stored: some value for every option. -/
structure StoredRecord where
  id : Nat
  values : OptionDraft

def Record.stored (r : Record) : StoredRecord := ⟨r.id, r.options.toDraft⟩

/-- A renderer as it is stored. -/
structure StoredHolder where
  format : Format
  record : StoredRecord

def Holder.stored (h : Holder) : StoredHolder := ⟨h.format, h.record.stored⟩

/-- What all threads share, and the variables of the threads. -/
structure Store where
  /-- What each thread has set its default to, if it has set it. -/
  defaults : Nat → Option StoredRecord := fun _ => none
  /-- How many threads there have been. -/
  threads : Nat := 1
  records : List (Text × StoredRecord) := []
  holders : List (Text × StoredHolder) := []
  /-- The identity of the next record that is made. -/
  nextId : Nat := 1

namespace Store

/-- The default of a thread. -/
def default (w : Store) (thread : Nat) : StoredRecord :=
  (w.defaults thread).getD Record.initial.stored

def setDefault (w : Store) (thread : Nat) (r : StoredRecord) : Store :=
  { w with defaults := Function.update w.defaults thread (some r) }

def keep (w : Store) (name : Text) (r : StoredRecord) : Store :=
  { w with records := (name, r) :: w.records }

def keepHolder (w : Store) (name : Text) (h : StoredHolder) : Store :=
  { w with holders := (name, h) :: w.holders }

@[simp] theorem default_setDefault (w : Store) (thread : Nat) (r : StoredRecord) :
    (w.setDefault thread r).default thread = r := by
  simp [default, setDefault]

theorem defaults_setDefault_of_ne (w : Store) {thread other : Nat} (h : other ≠ thread)
    (r : StoredRecord) : (w.setDefault thread r).defaults other = w.defaults other :=
  Function.update_of_ne h _ _

end Store

/-! ### Writing as one goes -/

/-- A change of the store. A fault that stops it takes nothing back. -/
abbrev Change := EStateM Fault Store

namespace Change

def ofExcept {α : Type} : Except Fault α → Change α
  | .ok a => pure a
  | .error fault => throw fault

/-- Makes a record. It is there before its values are checked. -/
def create (values : OptionDraft) : Change StoredRecord := do
  let w ← get
  set { w with nextId := w.nextId + 1 }
  ofExcept (values.check.mapError .config)
  return ⟨w.nextId, values⟩

def record (name : Text) : Change StoredRecord := do
  match (← get).records.lookup name with
  | some r => return r
  | none => throw (.unknownName name)

def holder (name : Text) : Change StoredHolder := do
  match (← get).holders.lookup name with
  | some h => return h
  | none => throw (.unknownName name)

/-- The record of a source. -/
def take : Source → Change StoredRecord
  | .fresh map => create fun field => (map.value.value? field).getD (RenderOptions.toDraft {} field)
  | .named name => record name

/-- The record that a renderer is built on. -/
def base (thread : Nat) : Option Source → Change StoredRecord
  | some source => take source
  | none => return (← get).default thread

def merge (r : StoredRecord) (map : OptionMap) : Change StoredRecord :=
  if map.entries.isEmpty then return r else create (r.values.apply map)

/-- What an action of a thread writes. -/
def act (thread : Nat) : Action → Change Unit
  | .get => return
  | .set source => do
    let r ← take source
    modify fun w => w.setDefault thread r
  | .reset => modify fun w => w.setDefault thread Record.initial.stored
  | .options name source => do
    let r ← take source
    modify fun w => w.keep name r
  | .keep name => modify fun w => w.keep name (w.default thread)
  | .merge name overrides result => do
    let r ← record name
    let merged ← merge r overrides.value
    match result with
    | some result => modify fun w => w.keep result merged
    | none => return
  | .compare left right => do
    let _ ← record left
    let _ ← record right
  | .assign name field => do
    let _ ← record name
    throw (if OptionField.isName field then .frozenField field else .noSuchField)
  | .new name format source overrides => do
    let r ← base thread source
    let r ← merge r overrides.value
    modify fun w => w.keepHolder name ⟨format, r⟩
  | .call name node => do
    let h ← holder name
    let options ← ofExcept (h.record.values.build.mapError .config)
    let _ ← ofExcept (Renderer.node ⟨h.format, options⟩ node).run.value

end Change

/-! ### Changes beside attempts -/

/-- A change beside an attempt: both go on, as `R` says, or the same fault stops both, and then the
change has written nothing to `w` but the counter. -/
inductive Agrees {α β : Type} (w : Store) (R : α → Store → β → Prop) :
    EStateM.Result Fault Store α → Except Fault β → Prop
  | goesOn {a : α} {w' : Store} {b : β} (h : R a w' b) : Agrees w R (.ok a w') (.ok b)
  | stopped (fault : Fault) (n : Nat) :
    Agrees w R (.error fault { w with nextId := n }) (.error fault)

namespace Agrees

variable {α β γ δ : Type} {w w₁ : Store} {R : α → Store → β → Prop} {R' : γ → Store → δ → Prop}

theorem bind {x : Change α} {y : Attempt β} {f : α → Change γ} {g : β → Attempt δ}
    (hx : Agrees w R (x w₁) y.run.value)
    (hf : ∀ a w' b, R a w' b → Agrees w R' (f a w') (g b).run.value) :
    Agrees w R' ((x >>= f) w₁) (y >>= g).run.value := by
  show Agrees w R' (EStateM.bind x f w₁) _
  rw [ExceptT.run_bind, Logged.value_bind, EStateM.bind]
  generalize x w₁ = result at hx
  generalize y.run.value = value at hx
  cases hx with
  | goesOn h => exact hf _ _ _ h
  | stopped fault n => exact stopped fault n

theorem ok_or_error {result : EStateM.Result Fault Store α} {value : Except Fault β}
    (h : Agrees w R result value) :
    (∃ a w' b, result = .ok a w' ∧ value = .ok b ∧ R a w' b) ∨
      ∃ fault n, result = .error fault { w with nextId := n } ∧ value = .error fault := by
  cases h with
  | goesOn h => exact Or.inl ⟨_, _, _, rfl, rfl, h⟩
  | stopped fault n => exact Or.inr ⟨fault, n, rfl, rfl⟩

/-- What has been counted before does not matter. -/
theorem of_setNextId {n : Nat} {result : EStateM.Result Fault Store α} {value : Except Fault β}
    (h : Agrees { w with nextId := n } R result value) : Agrees w R result value := by
  cases h with
  | goesOn h => exact goesOn h
  | stopped fault n => exact stopped fault n

end Agrees

/-- A store has for a thread what a state says, and no thread has a default that could not be in a
state. -/
structure Shows (w : Store) (thread : Nat) (s : State) : Prop where
  current : w.default thread = s.current.stored
  records : w.records = s.records.map fun entry => (entry.1, entry.2.stored)
  holders : w.holders = s.holders.map fun entry => (entry.1, entry.2.stored)
  nextId : w.nextId = s.nextId
  defaults : ∀ t r, w.defaults t = some r → ∃ r' : Record, r = r'.stored

/-- A thread has written to a store what a state says. -/
structure Wrote (w : Store) (thread : Nat) (w' : Store) (s' : State) : Prop where
  shows : Shows w' thread s'
  threads : w'.threads = w.threads
  others : ∀ other ≠ thread, w'.defaults other = w.defaults other

theorem Wrote.of_setNextId {w w' : Store} {thread n : Nat} {s' : State}
    (h : Wrote { w with nextId := n } thread w' s') : Wrote w thread w' s' :=
  ⟨h.shows, h.threads, h.others⟩

/-- A record has been taken, and nothing but the counters has changed. -/
def Took (w : Store) (s : State) (r : StoredRecord) (w' : Store) (taken : Record × State) : Prop :=
  r = taken.1.stored ∧ ∃ n, w' = { w with nextId := n } ∧ taken.2 = { s with nextId := n }

theorem lookup_map_stored {α β : Type} (f : α → β) (entries : List (Text × α)) (name : Text) :
    (entries.map fun entry => (entry.1, f entry.2)).lookup name = (entries.lookup name).map f := by
  induction entries with
  | nil => rfl
  | cons entry rest ih =>
    rw [List.map_cons, List.lookup_cons, List.lookup_cons, ih]
    split <;> rfl

namespace Change

variable {w : Store}

theorem create_of_error {values : OptionDraft} {e : ConfigError} (h : values.build = .error e) :
    create values w = .error (.config e) { w with nextId := w.nextId + 1 } := by
  have hcheck : values.check = .error e := by rw [OptionDraft.check_eq, h]; rfl
  unfold create
  rw [hcheck]
  rfl

theorem create_toDraft (o : RenderOptions) :
    create o.toDraft w = .ok ⟨w.nextId, o.toDraft⟩ { w with nextId := w.nextId + 1 } := by
  have hcheck : OptionDraft.check o.toDraft = .ok () := by
    rw [OptionDraft.check_eq, RenderOptions.build_toDraft]; rfl
  unfold create
  rw [hcheck]
  rfl

theorem record_apply (name : Text) : record name w =
    match w.records.lookup name with
    | some r => .ok r w
    | none => .error (.unknownName name) w := by
  show (match w.records.lookup name with
    | some r => (pure r : Change StoredRecord)
    | none => throw (Fault.unknownName name)) w = _
  cases w.records.lookup name <;> rfl

theorem holder_apply (name : Text) : holder name w =
    match w.holders.lookup name with
    | some h => .ok h w
    | none => .error (.unknownName name) w := by
  show (match w.holders.lookup name with
    | some h => (pure h : Change StoredHolder)
    | none => throw (Fault.unknownName name)) w = _
  cases w.holders.lookup name <;> rfl

end Change

namespace Shows

variable {w w₀ : Store} {thread : Nat} {s : State}

theorem setNextId (h : Shows w thread s) (n : Nat) :
    Shows { w with nextId := n } thread { s with nextId := n } :=
  ⟨h.current, h.records, h.holders, rfl, h.defaults⟩

theorem setDefault (h : Shows w thread s) (r : Record) :
    Shows (w.setDefault thread r.stored) thread { s with current := r } := by
  refine ⟨w.default_setDefault thread r.stored, h.records, h.holders, h.nextId, fun t r' ht => ?_⟩
  by_cases heq : t = thread
  · subst heq
    exact ⟨r, Option.some.inj (ht.symm.trans (Function.update_self ..))⟩
  · rw [w.defaults_setDefault_of_ne heq] at ht
    exact h.defaults t r' ht

theorem keep (h : Shows w thread s) (name : Text) (r : Record) :
    Shows (w.keep name r.stored) thread (s.keep name r) :=
  ⟨h.current, congrArg ((name, r.stored) :: ·) h.records, h.holders, h.nextId, h.defaults⟩

theorem keepHolder (h : Shows w thread s) (name : Text) (holder : Holder) :
    Shows (w.keepHolder name holder.stored) thread (s.keepHolder name holder) :=
  ⟨h.current, h.records, congrArg ((name, holder.stored) :: ·) h.holders, h.nextId, h.defaults⟩

theorem wrote (h : Shows w thread s) : Wrote w thread w s := ⟨h, rfl, fun _ _ => rfl⟩

theorem wrote_setDefault (h : Shows w thread s) (r : Record) :
    Wrote w thread (w.setDefault thread r.stored) { s with current := r } :=
  ⟨h.setDefault r, rfl, fun _ hne => w.defaults_setDefault_of_ne hne _⟩

theorem agrees_create (h : w.nextId = s.nextId) (values : OptionDraft) :
    Agrees w (Took w s) (Change.create values w)
      (do return s.make (← Attempt.ofConfig values.build) : Attempt (Record × State)).run.value := by
  cases hbuild : values.build with
  | error e =>
    rw [Change.create_of_error hbuild]
    exact .stopped _ _
  | ok o =>
    obtain rfl := OptionDraft.build_eq_ok_iff.mp hbuild
    rw [Change.create_toDraft]
    exact .goesOn ⟨by rw [h]; rfl, _, rfl, by rw [h]; rfl⟩

theorem agrees_record (h : Shows w thread s) (name : Text) :
    Agrees w (fun r w' b => r = b.stored ∧ w' = w) (Change.record name w)
      (s.record name).run.value := by
  rw [Change.record_apply, h.records, lookup_map_stored, State.record]
  cases s.records.lookup name with
  | none => exact .stopped _ w.nextId
  | some r => exact .goesOn ⟨rfl, rfl⟩

theorem agrees_take (h : Shows w thread s) (source : Source) :
    Agrees w (Took w s) (Change.take source w) (source.resolve s).run.value := by
  cases source with
  | fresh map => exact agrees_create h.nextId _
  | named name =>
    show Agrees w _ (Change.record name w) _
    rw [← bind_pure (Change.record name)]
    refine (h.agrees_record name).bind fun r w' b hr => ?_
    obtain ⟨rfl, rfl⟩ := hr
    exact .goesOn ⟨rfl, w'.nextId, rfl, by rw [h.nextId]⟩

theorem agrees_base (h : Shows w thread s) (source : Option Source) :
    Agrees w (Took w s) (Change.base thread source w) (s.base source).run.value := by
  cases source with
  | some source => exact h.agrees_take source
  | none => exact .goesOn ⟨h.current, w.nextId, rfl, by rw [h.nextId]⟩

theorem agrees_merge (h : w.nextId = s.nextId) (r : Record) (map : OptionMap) :
    Agrees w (Took w s) (Change.merge r.stored map w) (s.merge r map).run.value := by
  unfold Change.merge State.merge
  split
  · exact .goesOn ⟨rfl, w.nextId, rfl, by rw [h]⟩
  · exact agrees_create h _

theorem agrees_holder (h : Shows w thread s) (name : Text) :
    Agrees w (fun h w' b => h = b.stored ∧ w' = w) (Change.holder name w)
      (s.holder name).run.value := by
  rw [Change.holder_apply, h.holders, lookup_map_stored, State.holder]
  cases s.holders.lookup name with
  | none => exact .stopped _ w.nextId
  | some h => exact .goesOn ⟨rfl, rfl⟩

theorem agrees_ofExcept {α : Type} (attempt : Attempt α) :
    Agrees w (fun _ w' _ => w' = w) (Change.ofExcept attempt.run.value w) attempt.run.value := by
  cases attempt.run.value with
  | ok a => exact .goesOn rfl
  | error fault => exact .stopped fault w.nextId

/-- **What an action of a thread writes is what it makes of the state**, and a fault finds nothing
written. -/
theorem agrees_act (h : Shows w thread s) (action : Action) :
    Agrees w (fun _ w' b => Wrote w thread w' b.2) (Change.act thread action w)
      (action.perform s).run.value := by
  cases action with
  | get => exact .goesOn h.wrote
  | set source =>
    refine (h.agrees_take source).bind ?_
    rintro r w' ⟨r', s'⟩ ⟨rfl, n, rfl, rfl⟩
    exact .goesOn ((h.setNextId n).wrote_setDefault r').of_setNextId
  | reset => exact .goesOn (h.wrote_setDefault .initial)
  | options name source =>
    refine (h.agrees_take source).bind ?_
    rintro r w' ⟨r', s'⟩ ⟨rfl, n, rfl, rfl⟩
    exact .goesOn ⟨(h.setNextId n).keep name r', rfl, fun _ _ => rfl⟩
  | keep name =>
    have hkeep := h.keep name s.current
    rw [← h.current] at hkeep
    exact .goesOn ⟨hkeep, rfl, fun _ _ => rfl⟩
  | merge name overrides result =>
    refine (h.agrees_record name).bind ?_
    rintro r w' r' ⟨rfl, rfl⟩
    refine (agrees_merge h.nextId r' overrides.value).bind ?_
    rintro r w' ⟨r', s'⟩ ⟨rfl, n, rfl, rfl⟩
    cases result with
    | none => exact .goesOn ⟨h.setNextId n, rfl, fun _ _ => rfl⟩
    | some result => exact .goesOn ⟨(h.setNextId n).keep result r', rfl, fun _ _ => rfl⟩
  | compare left right =>
    refine (h.agrees_record left).bind ?_
    rintro r w' r' ⟨rfl, rfl⟩
    refine (h.agrees_record right).bind ?_
    rintro r w' r' ⟨rfl, rfl⟩
    exact .goesOn h.wrote
  | assign name field =>
    refine (h.agrees_record name).bind ?_
    rintro r w' r' ⟨rfl, rfl⟩
    exact .stopped _ w'.nextId
  | new name format source overrides =>
    refine (h.agrees_base source).bind ?_
    rintro r w' ⟨r', s'⟩ ⟨rfl, n, rfl, rfl⟩
    refine (agrees_merge rfl r' overrides.value).of_setNextId.bind ?_
    rintro r w' ⟨r', s'⟩ ⟨rfl, n, rfl, rfl⟩
    exact .goesOn ⟨(h.setNextId n).keepHolder name ⟨format, r'⟩, rfl, fun _ _ => rfl⟩
  | call name node =>
    refine (h.agrees_holder name).bind ?_
    rintro holder w' holder' ⟨rfl, rfl⟩
    rw [Holder.stored, Record.stored, RenderOptions.build_toDraft]
    refine (agrees_ofExcept (holder'.renderer.node node)).bind ?_
    rintro out w output rfl
    exact .goesOn h.wrote

end Shows

end Session

end MarkdownRender
