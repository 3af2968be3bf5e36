import MarkdownRender.Proofs.Session.Storage

/-!
# Stored sessions, moment by moment

A stored session is watched one step at a time, as a session is (`Moment`). What is to be done when
a block is left is to set the variable of the thread to the default that the block found. When a
thread is left, nothing is set: its caller goes on with a variable of its own, in which the default
still has to be. The two kinds of sessions go in lockstep (`Represents.next`), so what is proved
about either of them holds for the other.
-/

namespace MarkdownRender.Session

/-- What is to be done when a block or a thread is left. -/
inductive StoredFrame where
  /-- Sets the default that the block found. -/
  | block (found : StoredRecord) (rest : List Step)
  /-- Goes on with the caller. -/
  | thread (caller : Nat) (rest : List Step)

/-- A stored session between two steps. -/
structure StoredMoment where
  store : Store
  /-- The thread that runs. -/
  thread : Nat
  steps : List Step
  frames : List StoredFrame

namespace StoredMoment

/-- The beginning of a session: thread 0 has some steps to run. -/
def start (steps : List Step) : StoredMoment := ⟨{}, 0, steps, []⟩

/-- A stored session that is at a moment, with all that is open in thread 0. -/
def ofMoment (m : Moment) : StoredMoment where
  store := Store.setDefault {
    records := m.state.records.map fun entry => (entry.1, entry.2.stored)
    holders := m.state.holders.map fun entry => (entry.1, entry.2.stored)
    nextId := m.state.nextId } 0 m.state.current.stored
  thread := 0
  steps := m.steps
  frames := m.frames.map fun frame => .block frame.found.stored frame.rest

/-- The next moment. A step that is stopped is skipped; the identities that it has given out are
free again. -/
def next : StoredMoment → Option StoredMoment
  | ⟨_, _, [], []⟩ => none
  | ⟨w, t, [], .block found rest :: outer⟩ => some ⟨w.setDefault t found, t, rest, outer⟩
  | ⟨w, _, [], .thread caller rest :: outer⟩ => some ⟨w, caller, rest, outer⟩
  | ⟨w, t, .act action :: rest, frames⟩ =>
    match Change.act t action w with
    | .ok _ w' => some ⟨w', t, rest, frames⟩
    | .error _ w' => some ⟨{ w' with nextId := w.nextId }, t, rest, frames⟩
  | ⟨w, t, .block source body :: rest, frames⟩ =>
    match Change.take source w with
    | .ok r w' => some ⟨w'.setDefault t r, t, body, .block (w.default t) rest :: frames⟩
    | .error _ w' => some ⟨{ w' with nextId := w.nextId }, t, rest, frames⟩
  | ⟨w, t, .thread body :: rest, frames⟩ =>
    some ⟨{ w with threads := w.threads + 1 }, w.threads, body, .thread t rest :: frames⟩
  | ⟨w, t, .raise :: _, frames⟩ => some ⟨w, t, [], frames⟩

/-- What a new thread is at its start, without the frames of those who wait for it. -/
def ownSession (x : StoredMoment) (body : List Step) : StoredMoment :=
  ⟨{ x.store with threads := x.store.threads + 1 }, x.store.threads, body, []⟩

theorem default_ownSession {x : StoredMoment} {body : List Step}
    (h : x.store.defaults x.store.threads = none) :
    (x.ownSession body).store.default (x.ownSession body).thread = Record.initial.stored := by
  simp [ownSession, Store.default, h]

/-- A moment comes after another, or is the same. -/
def Reaches : StoredMoment → StoredMoment → Prop :=
  Relation.ReflTransGen fun x x' => x.next = some x'

end StoredMoment

/-! ### Lockstep -/

/-- The frames of a thread and of its callers. What a thread found is what the variable of its
caller holds; callers have been started before the threads that they wait for. -/
def FramesShow (w : Store) : Nat → List StoredFrame → List Frame → Prop
  | _, [], [] => True
  | t, .block found rest :: stored, frame :: frames =>
    found = frame.found.stored ∧ rest = frame.rest ∧ FramesShow w t stored frames
  | t, .thread caller rest :: stored, frame :: frames =>
    caller < t ∧ w.default caller = frame.found.stored ∧ rest = frame.rest ∧
      FramesShow w caller stored frames
  | _, _, _ => False

/-- What the running thread writes does not change what its callers have. -/
theorem FramesShow.congr {w w' : Store} {t : Nat} {stored : List StoredFrame} {frames : List Frame}
    (h : FramesShow w t stored frames) (hw : ∀ caller < t, w'.default caller = w.default caller) :
    FramesShow w' t stored frames := by
  induction stored generalizing t frames with
  | nil =>
    cases frames with
    | nil => trivial
    | cons frame frames => exact h.elim
  | cons top stored ih =>
    cases frames with
    | nil => cases top <;> exact h.elim
    | cons frame frames =>
      cases top with
      | block found rest => exact ⟨h.1, h.2.1, ih h.2.2 hw⟩
      | thread caller rest =>
        obtain ⟨hlt, hfound, hrest, hframes⟩ := h
        refine ⟨hlt, (hw caller hlt).trans hfound, hrest, ih hframes fun c hc => ?_⟩
        exact hw c (Nat.lt_trans hc hlt)

/-- A moment of a stored session is that of a session. -/
structure StoredMoment.Represents (x : StoredMoment) (m : Moment) : Prop where
  shows : Shows x.store x.thread m.state
  started : x.thread < x.store.threads
  /-- A thread that has not been started has not set its default. -/
  unset : ∀ t, x.store.threads ≤ t → x.store.defaults t = none
  steps : x.steps = m.steps
  frames : FramesShow x.store x.thread x.frames m.frames

namespace StoredMoment.Represents

theorem start (steps : List Step) : (StoredMoment.start steps).Represents ⟨{}, steps, []⟩ where
  shows := ⟨rfl, rfl, rfl, rfl, fun _ _ h => by cases h⟩
  started := Nat.one_pos
  unset _ _ := rfl
  steps := rfl
  frames := trivial

/-- Whatever a session is at can be stored. -/
theorem ofMoment (m : Moment) : (StoredMoment.ofMoment m).Represents m where
  shows := Shows.setDefault (s := { m.state with current := .initial })
    ⟨rfl, rfl, rfl, rfl, fun _ _ h => by cases h⟩ m.state.current
  started := Nat.one_pos
  unset _ ht := Store.defaults_setDefault_of_ne _ (Nat.ne_of_gt ht) _
  steps := rfl
  frames := by
    obtain ⟨s, steps, frames⟩ := m
    show FramesShow _ 0 (frames.map _) frames
    generalize (StoredMoment.ofMoment _).store = w
    induction frames with
    | nil => trivial
    | cons frame frames ih => exact ⟨rfl, rfl, ih⟩

variable {x : StoredMoment} {m : Moment}

/-- What the running thread writes leaves everything else as it is. -/
theorem wrote (h : x.Represents m) {w : Store} {s : State} (hw : Wrote x.store x.thread w s)
    (rest : List Step) :
    Represents ⟨w, x.thread, rest, x.frames⟩ ⟨s, rest, m.frames⟩ where
  shows := hw.shows
  started := by
    rw [hw.threads]
    exact h.started
  unset t ht := by
    rw [hw.threads] at ht
    rw [hw.others t (Nat.ne_of_gt (Nat.lt_of_lt_of_le h.started ht))]
    exact h.unset t ht
  steps := rfl
  frames := h.frames.congr fun caller hlt => by
    rw [Store.default, Store.default, hw.others caller (Nat.ne_of_lt hlt)]

theorem ownSession {s : State} {steps : List Step} {frames : List Frame}
    (h : x.Represents ⟨s, steps, frames⟩) (body : List Step) :
    (x.ownSession body).Represents ⟨{ s with current := .initial }, body, []⟩ where
  shows := { h.shows with current := StoredMoment.default_ownSession (h.unset _ (Nat.le_refl _)) }
  started := Nat.lt_succ_self _
  unset t ht := h.unset t (Nat.le_of_succ_le ht)
  steps := rfl
  frames := trivial

/-- **A stored session and a session go in lockstep.** Either both are over, or both have a next
moment, and these belong together again. -/
theorem next (h : x.Represents m) :
    (x.next = none ∧ m.next = none) ∨
      ∃ x' m', x.next = some x' ∧ m.next = some m' ∧ Represents x' m' := by
  obtain ⟨w, t, steps, stored⟩ := x
  obtain ⟨s, _, frames⟩ := m
  obtain rfl := h.steps
  have hframes := h.frames
  rcases steps with _ | ⟨⟨action⟩ | ⟨source, body⟩ | ⟨body⟩ | -, rest⟩
  · -- a block or a thread is left, if one is open
    rcases stored with _ | ⟨⟨found, rest⟩ | ⟨caller, rest⟩, stored⟩ <;>
      rcases frames with _ | ⟨frame, frames⟩
    · exact Or.inl ⟨rfl, rfl⟩
    · exact hframes.elim
    · exact hframes.elim
    · right
      obtain ⟨rfl, rfl, hframes⟩ := hframes
      have hrest : Represents ⟨w, t, [], stored⟩ ⟨s, [], frames⟩ := { h with frames := hframes }
      exact ⟨_, _, rfl, rfl, hrest.wrote (h.shows.wrote_setDefault frame.found) frame.rest⟩
    · exact hframes.elim
    · right
      obtain ⟨hlt, hfound, rfl, hframes⟩ := hframes
      refine ⟨_, _, rfl, rfl,
        { h with shows := ?_, started := ?_, steps := rfl, frames := hframes }⟩
      · exact { h.shows with current := hfound }
      · exact Nat.lt_trans hlt h.started
  · right
    rcases (h.shows.agrees_act action).ok_or_error with
      ⟨_, w', ⟨_, s'⟩, hact, hperform, hwrote⟩ | ⟨fault, n, hact, hperform⟩ <;>
      simp only [StoredMoment.next, Moment.next, hact, hperform]
    · exact ⟨_, _, rfl, rfl, h.wrote hwrote rest⟩
    · exact ⟨_, _, rfl, rfl, h.wrote h.shows.wrote rest⟩
  · right
    rcases (h.shows.agrees_take source).ok_or_error with
      ⟨_, _, ⟨r, s'⟩, htake, hresolve, rfl, n, rfl, rfl⟩ | ⟨fault, n, htake, hresolve⟩ <;>
      simp only [StoredMoment.next, Moment.next, htake, hresolve]
    · have hwrote := ((h.shows.setNextId n).wrote_setDefault r).of_setNextId
      have hbody := h.wrote hwrote body
      exact ⟨_, _, rfl, rfl, { hbody with frames := ⟨h.shows.current, rfl, hbody.frames⟩ }⟩
    · exact ⟨_, _, rfl, rfl, h.wrote h.shows.wrote rest⟩
  · right
    exact ⟨_, _, rfl, rfl, { h.ownSession body with
      frames := ⟨h.started, h.shows.current, rfl, h.frames.congr fun _ _ => rfl⟩ }⟩
  · exact Or.inr ⟨_, _, rfl, rfl, h.wrote h.shows.wrote []⟩

theorem exists_reaches (h : x.Represents m) {m' : Moment} (hrun : m.Reaches m') :
    ∃ x', x.Reaches x' ∧ x'.Represents m' := by
  induction hrun with
  | refl => exact ⟨x, .refl, h⟩
  | tail hrun hstep ih =>
    obtain ⟨y, hbefore, hy⟩ := ih
    rcases hy.next with ⟨-, hnone⟩ | ⟨y', m', hnext, hnext', hy'⟩
    · cases hstep.symm.trans hnone
    · cases hstep.symm.trans hnext'
      exact ⟨y', hbefore.tail hnext, hy'⟩

theorem exists_reached (h : x.Represents m) {x' : StoredMoment} (hrun : x.Reaches x') :
    ∃ m', m.Reaches m' ∧ x'.Represents m' := by
  induction hrun with
  | refl => exact ⟨m, .refl, h⟩
  | tail hrun hstep ih =>
    obtain ⟨m', hbefore, hm⟩ := ih
    rcases hm.next with ⟨hnone, -⟩ | ⟨y, m'', hnext, hnext', hy⟩
    · cases hstep.symm.trans hnone
    · cases hstep.symm.trans hnext
      exact ⟨m'', hbefore.tail hnext', hy⟩

end StoredMoment.Represents

end MarkdownRender.Session
