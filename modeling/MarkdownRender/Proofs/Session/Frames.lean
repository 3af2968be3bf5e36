import Mathlib.Logic.Relation
import MarkdownRender.Session.Run

/-!
# Blocks moment by moment

A run can be watched one step at a time. What a session has still to do at a `Moment` lies in the
steps of the innermost block or thread and in one frame for each block or thread that is open: the
default that was found on entering it, and the steps behind it. `reaches_runStep` says that a
session watched so comes to what `runStep` says.

Frames are only ever put on the stack and taken from its top. So a frame stays as it is until its
block is left, whatever happens inside, and it is then that the default that it holds is given back
(`Moment.Reaches.open_or_left`).
-/

namespace MarkdownRender.Session

/-- What is to be done when a block or a thread is left. -/
structure Frame where
  /-- The default that was found on entering. -/
  found : Record
  /-- The steps that come next. -/
  rest : List Step

/-- A session between two steps. -/
structure Moment where
  state : State
  /-- What is left of the innermost block or thread. -/
  steps : List Step
  /-- The blocks and threads that are open, the innermost one first. -/
  frames : List Frame

namespace Moment

/-- The frame of a block or a thread that has been entered is on the stack, above `outer`. -/
def IsOpen (frame : Frame) (outer : List Frame) (m : Moment) : Prop :=
  ∃ inner, m.frames = inner ++ frame :: outer

/-- The block or thread of a frame has just been left. -/
structure IsLeft (frame : Frame) (outer : List Frame) (m : Moment) : Prop where
  current_eq : m.state.current = frame.found
  steps_eq : m.steps = frame.rest
  frames_eq : m.frames = outer

/-- The next moment: one step is taken, or the innermost block or thread is left because it has no
steps left. Raising skips the steps that it has left. -/
def next : Moment → Option Moment
  | ⟨_, [], []⟩ => none
  | ⟨s, [], frame :: outer⟩ => some ⟨{ s with current := frame.found }, frame.rest, outer⟩
  | ⟨s, .act action :: rest, frames⟩ =>
    match (action.perform s).run.value with
    | .ok (_, after) => some ⟨after, rest, frames⟩
    | .error _ => some ⟨s, rest, frames⟩
  | ⟨s, .block source body :: rest, frames⟩ =>
    match (source.resolve s).run.value with
    | .ok (r, entered) => some ⟨{ entered with current := r }, body, ⟨s.current, rest⟩ :: frames⟩
    | .error _ => some ⟨s, rest, frames⟩
  | ⟨s, .thread body :: rest, frames⟩ =>
    some ⟨{ s with current := .initial }, body, ⟨s.current, rest⟩ :: frames⟩
  | ⟨s, .raise :: _, frames⟩ => some ⟨s, [], frames⟩

/-- A moment comes after another, or is the same. -/
def Reaches : Moment → Moment → Prop := Relation.ReflTransGen fun m m' => m.next = some m'

/-! ### Frames -/

/-- **What one step does to a frame**: nothing, unless it leaves the block of the frame. -/
theorem IsOpen.next {m m' : Moment} {frame : Frame} {outer : List Frame}
    (h : m.IsOpen frame outer) (hnext : m.next = some m') :
    m'.IsOpen frame outer ∨ m'.IsLeft frame outer := by
  obtain ⟨s, steps, frames⟩ := m
  obtain ⟨inner, hframes⟩ := h
  obtain rfl : frames = inner ++ frame :: outer := hframes
  rcases steps with _ | ⟨⟨action⟩ | ⟨source, body⟩ | ⟨body⟩ | -, rest⟩
  · -- the innermost block or thread is left
    cases inner with
    | nil =>
      right
      cases hnext
      exact ⟨rfl, rfl, rfl⟩
    | cons top inner =>
      left
      cases hnext
      exact ⟨inner, rfl⟩
  · left
    simp only [Moment.next] at hnext
    split at hnext <;> cases hnext <;> exact ⟨inner, rfl⟩
  · left
    simp only [Moment.next] at hnext
    split at hnext <;> cases hnext
    · exact ⟨⟨s.current, rest⟩ :: inner, rfl⟩
    · exact ⟨inner, rfl⟩
  · left
    cases hnext
    exact ⟨⟨s.current, rest⟩ :: inner, rfl⟩
  · left
    cases hnext
    exact ⟨inner, rfl⟩

/-- **What a run does to a frame**: it stays on the stack until the moment at which its block is
left, and it is what that moment has as its default. -/
theorem Reaches.open_or_left {m m' : Moment} (hrun : m.Reaches m') {frame : Frame}
    {outer : List Frame} (h : m.IsOpen frame outer) :
    m'.IsOpen frame outer ∨
      ∃ left : Moment, left.IsLeft frame outer ∧ m.Reaches left ∧ left.Reaches m' := by
  induction hrun with
  | refl => exact Or.inl h
  | tail hrun hstep ih =>
    rcases ih with hopen | ⟨left, hleft, hbefore, hafter⟩
    · rcases hopen.next hstep with hopen | hleft
      · exact Or.inl hopen
      · exact Or.inr ⟨_, hleft, hrun.tail hstep, .refl⟩
    · exact Or.inr ⟨left, hleft, hbefore, hafter.tail hstep⟩

end Moment

/-! ### The runner, moment by moment -/

section Runner

variable {s : State}

theorem ofAttempt_of_yields {attempt : Attempt (Answer × State)} {answer : Answer} {after : State}
    (h : attempt.Yields (answer, after)) :
    (Outcome.ofAttempt s attempt).value = ⟨answer, false, after⟩ := by
  rw [Outcome.ofAttempt, Logged.value_bind, h]
  rfl

theorem ofAttempt_of_stops {attempt : Attempt (Answer × State)} {fault : Fault}
    (h : attempt.Stops fault) :
    (Outcome.ofAttempt s attempt).value = ⟨.failed fault, false, s⟩ := by
  rw [Outcome.ofAttempt, Logged.value_bind, h]
  rfl

/-- What the runner makes of an action: its reply and its state, or a fault and the state that it
found. -/
theorem runStep_act (s : State) (action : Action) :
    (∃ reply after, (action.perform s).Yields (reply, after) ∧
      (runStep s (.act action)).value = ⟨.replied reply, false, after⟩) ∨
    ∃ fault, (action.perform s).Stops fault ∧
      (runStep s (.act action)).value = ⟨.failed fault, false, s⟩ := by
  rw [runStep]
  rcases (action.perform s).yields_or_stops with ⟨⟨reply, after⟩, h⟩ | ⟨fault, h⟩
  · exact Or.inl ⟨reply, after, h, ofAttempt_of_yields (h.bind (Attempt.yields_pure _))⟩
  · exact Or.inr ⟨fault, h, ofAttempt_of_stops (h.bind _)⟩

/-- What the runner makes of a block whose options can be built. -/
theorem runStep_block {source : Source} {r : Record} {entered : State}
    (h : (source.resolve s).Yields (r, entered)) (body : List Step) :
    (runStep s (.block source body)).value =
      let inner := (runSteps { entered with current := r } body).value
      ⟨.block inner.answer inner.raised s.current.options, false,
        { inner.state with current := s.current }⟩ := by
  rw [runStep]
  refine ofAttempt_of_yields (h.bind ?_)
  exact (Attempt.yields_lift (runSteps { entered with current := r } body)).bind
    (Attempt.yields_pure _)

theorem runStep_block_of_stops {source : Source} {fault : Fault}
    (h : (source.resolve s).Stops fault) (body : List Step) :
    (runStep s (.block source body)).value = ⟨.failed fault, false, s⟩ := by
  rw [runStep]
  exact ofAttempt_of_stops (h.bind _)

theorem runSteps_cons (s : State) (step : Step) (rest : List Step) :
    (runSteps s (step :: rest)).value =
      let first := (runStep s step).value
      if first.raised then ⟨[first.answer], true, first.state⟩
      else
        let others := (runSteps first.state rest).value
        ⟨first.answer :: others.answer, others.raised, others.state⟩ := by
  rw [runSteps, Logged.value_bind]
  dsimp only
  split <;> rfl

end Runner

namespace Moment

theorem next_block {s entered : State} {source : Source} {r : Record}
    (h : (source.resolve s).Yields (r, entered)) (body rest : List Step) (frames : List Frame) :
    next ⟨s, .block source body :: rest, frames⟩ =
      some ⟨{ entered with current := r }, body, ⟨s.current, rest⟩ :: frames⟩ := by
  unfold Attempt.Yields at h
  simp only [next, h]

mutual

/-- A step that is run is followed by the steps behind it, or by none of them if it raises. -/
theorem reaches_runStep : (step : Step) → (s : State) → (rest : List Step) →
    (frames : List Frame) →
    Reaches ⟨s, step :: rest, frames⟩
      ⟨(runStep s step).value.state, if (runStep s step).value.raised then [] else rest, frames⟩
  | .act action, s, rest, frames => by
    rcases runStep_act s action with ⟨reply, after, hperform, hrun⟩ | ⟨fault, hperform, hrun⟩
    · rw [hrun]
      refine .single ?_
      unfold Attempt.Yields at hperform
      simp [next, hperform]
    · rw [hrun]
      refine .single ?_
      unfold Attempt.Stops at hperform
      simp [next, hperform]
  | .block source body, s, rest, frames => by
    rcases (source.resolve s).yields_or_stops with ⟨⟨r, entered⟩, h⟩ | ⟨fault, h⟩
    · have hbody := reaches_runSteps body { entered with current := r } []
        (⟨s.current, rest⟩ :: frames)
      rw [List.append_nil, ite_self] at hbody
      rw [runStep_block h]
      exact .head (next_block h body rest frames) (hbody.tail rfl)
    · rw [runStep_block_of_stops h]
      refine .single ?_
      unfold Attempt.Stops at h
      simp [next, h]
  | .thread body, s, rest, frames => by
    have hbody := reaches_runSteps body { s with current := .initial } []
      (⟨s.current, rest⟩ :: frames)
    rw [List.append_nil, ite_self] at hbody
    rw [runStep]
    exact .head rfl (hbody.tail rfl)
  | .raise, s, rest, frames => .single rfl

/-- **The runner goes through the moments of a session**, whatever steps and frames there are
behind the steps that it runs. -/
theorem reaches_runSteps : (steps : List Step) → (s : State) → (rest : List Step) →
    (frames : List Frame) →
    Reaches ⟨s, steps ++ rest, frames⟩
      ⟨(runSteps s steps).value.state, if (runSteps s steps).value.raised then [] else rest, frames⟩
  | [], s, rest, frames => .refl
  | step :: others, s, rest, frames => by
    have hfirst := reaches_runStep step s (others ++ rest) frames
    rw [runSteps_cons]
    by_cases hraised : (runStep s step).value.raised
    · simp only [hraised] at hfirst ⊢
      exact hfirst
    · have hothers := reaches_runSteps others (runStep s step).value.state rest frames
      simp only [hraised] at hfirst ⊢
      exact hfirst.trans hothers

end

end Moment

/-! ### Blocks -/

theorem State.lookup_of_yields {s : State} {name : Text} {r : Record}
    (h : (s.record name).Yields r) : s.records.lookup name = some r := by
  unfold State.record at h
  split at h
  · next hlookup =>
    cases h
    exact hlookup
  · cases h

/-- A name stands for the very record that is kept under it. -/
theorem lookup_of_resolve_named {s entered : State} {name : Text} {r : Record}
    (h : (Source.resolve s (.named name)).Yields (r, entered)) :
    s.records.lookup name = some r := by
  obtain ⟨kept, hkept, hpure⟩ := h.exists_of_bind
  cases hpure
  exact State.lookup_of_yields hkept

/-- **A block gives back the default that it found.** On entry the default is the very record that
was passed in. From then on, whatever the steps of the block do or raise, either the block is still
open, with what it found in its frame, or it has been left, and it was left with the very record as
default that it found. The runner comes to the same. -/
theorem block_gives_default_back {s entered : State} {source : Source} {r : Record}
    (h : (source.resolve s).Yields (r, entered)) (body rest : List Step) (frames : List Frame) :
    (runStep s (.block source body)).value.state.current = s.current ∧
    (runStep s (.block source body)).value.raised = false ∧
    (∀ name, source = .named name → s.records.lookup name = some r) ∧
    ∃ inside : Moment, Moment.next ⟨s, .block source body :: rest, frames⟩ = some inside ∧
      inside.state.current = r ∧
      inside.Reaches ⟨(runStep s (.block source body)).value.state, rest, frames⟩ ∧
      ∀ m, inside.Reaches m → m.IsOpen ⟨s.current, rest⟩ frames ∨
        ∃ left : Moment, left.IsLeft ⟨s.current, rest⟩ frames ∧ inside.Reaches left ∧
          left.Reaches m := by
  have hrun := runStep_block h body
  refine ⟨by rw [hrun], by rw [hrun], ?_, _, Moment.next_block h body rest frames, rfl, ?_, ?_⟩
  · rintro name rfl
    exact lookup_of_resolve_named h
  · have hbody := Moment.reaches_runSteps body { entered with current := r } []
      (⟨s.current, rest⟩ :: frames)
    rw [List.append_nil, ite_self] at hbody
    rw [hrun]
    exact hbody.tail rfl
  · intro m hm
    exact hm.open_or_left ⟨[], rfl⟩

/-- A block that resets the default, and that is left by raising after a block inside it was. -/
theorem block_left_by_raising :
    let kept : Record := ⟨5, { xhtml := .bool true }⟩
    let s : State := { current := ⟨3, {}⟩, records := [("a", kept)], nextId := 6 }
    let body : List Step :=
      [.act .reset, .block (.named "a") [.act .reset, .raise], .act .reset, .raise, .act .get]
    (Source.resolve s (.named "a")).Yields (kept, s) ∧
      (runStep s (.block (.named "a") body)).value.state.current = s.current ∧
      (runStep s (.block (.named "a") body)).value.raised = false := by
  intro kept s body
  have h : (Source.resolve s (.named "a")).Yields (kept, s) := rfl
  have hblock := block_gives_default_back h body [] []
  exact ⟨h, hblock.1, hblock.2.1⟩

end MarkdownRender.Session
