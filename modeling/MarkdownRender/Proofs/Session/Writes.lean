import MarkdownRender.Proofs.Session.Frames

/-!
# What a step can write

An action that does not fail takes at most one record, which was at hand before or has just been
made, and puts it in at most one place (`Action.writes_of_yields`). From one moment to the next, an
action writes, a block or a thread is entered or left, or a step is skipped
(`Moment.moves_of_next`). What a session can come to is read off these two.
-/

namespace MarkdownRender.Session

namespace State

/-! ### Records that are taken -/

/-- A record is at hand: every thread starts from it, or it is the default, or it is kept, or a
renderer is built on it. -/
def Has (s : State) (r : Record) : Prop :=
  r = .initial ∨ r = s.current ∨ (∃ name, (name, r) ∈ s.records) ∨
    ∃ name holder, (name, holder) ∈ s.holders ∧ holder.record = r

/-- A record is taken while the counter goes to `n`: it is at hand, or it has been made. -/
structure Takes (s : State) (r : Record) (n : Nat) : Prop where
  le : s.nextId ≤ n
  has_or_new : s.Has r ∨ s.nextId ≤ r.id ∧ r.id < n

/-- A record has been made, with the identity that was the next. -/
structure Made (s : State) (r : Record) (after : State) : Prop where
  id_eq : r.id = s.nextId
  after_eq : after = { s with nextId := s.nextId + 1 }

variable {s after : State} {r r' : Record} {n : Nat}

theorem has_of_lookup {name : Text} (h : s.records.lookup name = some r) : s.Has r := by
  obtain ⟨front, back, hsplit, -⟩ := List.lookup_eq_some_iff.mp h
  exact Or.inr (Or.inr (Or.inl ⟨name, by simp [hsplit]⟩))

theorem takes_of_has (h : s.Has r) : s.Takes r s.nextId := ⟨Nat.le_refl _, Or.inl h⟩

theorem Made.id_lt (h : s.Made r after) : r.id < after.nextId := by
  rw [h.id_eq, h.after_eq]
  exact Nat.lt_succ_self _

theorem Made.takes (h : s.Made r after) : s.Takes r (s.nextId + 1) :=
  ⟨Nat.le_succ _, Or.inr ⟨Nat.le_of_eq h.id_eq.symm, h.id_eq ▸ Nat.lt_succ_self _⟩⟩

theorem made_of_yields {result : Except ConfigError RenderOptions}
    (h : (do return s.make (← .ofConfig result) : Attempt (Record × State)).Yields (r, after)) :
    result = .ok r.options ∧ s.Made r after := by
  obtain ⟨o, hresult, hmake⟩ := h.exists_of_bind
  cases hmake
  cases result with
  | error e => cases hresult
  | ok o' =>
    cases hresult
    exact ⟨rfl, rfl, rfl⟩

/-- What a record comes from. -/
theorem resolve_cases {source : Source} (h : (source.resolve s).Yields (r, after)) :
    (∃ name, source = .named name ∧ s.records.lookup name = some r ∧ after = s) ∨
      ∃ map, source = .fresh map ∧ RenderOptions.ofMap map.value = .ok r.options ∧
        s.Made r after := by
  cases source with
  | named name =>
    obtain ⟨kept, hkept, hpure⟩ := h.exists_of_bind
    cases hpure
    exact Or.inl ⟨name, rfl, lookup_of_yields hkept, rfl⟩
  | fresh map =>
    obtain ⟨entries, hmap, hmake⟩ := h.exists_of_bind
    cases hmap
    exact Or.inr ⟨map, rfl, made_of_yields hmake⟩

theorem base_cases {source : Option Source} (h : (s.base source).Yields (r, after)) :
    (source = none ∧ r = s.current ∧ after = s) ∨
      ∃ given, source = some given ∧ (given.resolve s).Yields (r, after) := by
  cases source with
  | none =>
    cases h
    exact Or.inl ⟨rfl, rfl, rfl⟩
  | some given => exact Or.inr ⟨given, rfl, h⟩

/-- What a merge comes to: the very same record, or one that has been made. -/
theorem merge_cases {map : OptionMap} (h : (s.merge r map).Yields (r', after)) :
    (map.entries = [] ∧ r' = r ∧ after = s) ∨
      map.entries ≠ [] ∧ r.options.merge map = .ok r'.options ∧ s.Made r' after := by
  unfold State.merge at h
  split at h
  · next hempty =>
    cases h
    exact Or.inl ⟨List.isEmpty_iff.mp hempty, rfl, rfl⟩
  · next hne => exact Or.inr ⟨fun hnil => hne (by simp [hnil]), made_of_yields h⟩

theorem takes_of_resolve {source : Source} (h : (source.resolve s).Yields (r, after)) :
    ∃ n, s.Takes r n ∧ after = { s with nextId := n } := by
  rcases resolve_cases h with ⟨name, -, hlookup, rfl⟩ | ⟨map, -, -, hmade⟩
  · exact ⟨after.nextId, takes_of_has (has_of_lookup hlookup), rfl⟩
  · exact ⟨s.nextId + 1, hmade.takes, hmade.after_eq⟩

theorem takes_of_base {source : Option Source} (h : (s.base source).Yields (r, after)) :
    ∃ n, s.Takes r n ∧ after = { s with nextId := n } := by
  rcases base_cases h with ⟨-, rfl, rfl⟩ | ⟨given, -, hgiven⟩
  · exact ⟨after.nextId, takes_of_has (Or.inr (Or.inl rfl)), rfl⟩
  · exact takes_of_resolve hgiven

/-- A merge takes the record that it was given, or one that has been made. -/
theorem Takes.merge (hr : s.Takes r n) {map : OptionMap}
    (h : (State.merge { s with nextId := n } r map).Yields (r', after)) :
    ∃ n', s.Takes r' n' ∧ after = { s with nextId := n' } := by
  rcases merge_cases h with ⟨-, rfl, rfl⟩ | ⟨-, -, hmade⟩
  · exact ⟨n, hr, rfl⟩
  · have hid : r'.id = n := hmade.id_eq
    exact ⟨n + 1, ⟨Nat.le_succ_of_le hr.le, Or.inr ⟨hid ▸ hr.le, hid ▸ Nat.lt_succ_self _⟩⟩,
      hmade.after_eq⟩

end State

/-! ### Actions -/

namespace Action

/-- All that an action can write: besides counting, it makes a record the default, or keeps it, or
builds a renderer on it. -/
inductive Writes (s : State) : Action → State → Prop
  | counter (action : Action) {n : Nat} (h : s.nextId ≤ n) : Writes s action { s with nextId := n }
  | current (action : Action) {r : Record} {n : Nat} (h : s.Takes r n) :
    Writes s action { s with current := r, nextId := n }
  | record (action : Action) {r : Record} {n : Nat} (h : s.Takes r n) (name : Text) :
    Writes s action (State.keep { s with nextId := n } name r)
  | holder {r : Record} {n : Nat} (h : s.Takes r n) (name : Text) (format : Format)
      (source : Option Source) (overrides : Logged OptionMap) :
    Writes s (.new name format source overrides)
      (State.keepHolder { s with nextId := n } name ⟨format, r⟩)

variable {s after : State} {reply : Reply}

/-- A new renderer is built on what its source gives, with the overrides merged into it. -/
theorem new_cases {name : Text} {format : Format} {source : Option Source}
    {overrides : Logged OptionMap}
    (h : (perform s (.new name format source overrides)).Yields (reply, after)) :
    ∃ base entered r merged, (s.base source).Yields (base, entered) ∧
      (entered.merge base overrides.value).Yields (r, merged) ∧ reply = .shown r.options ∧
      after = merged.keepHolder name ⟨format, r⟩ := by
  obtain ⟨⟨base, entered⟩, hbase, hbuild⟩ := h.exists_of_bind
  obtain ⟨map, hmap, hbuild⟩ := hbuild.exists_of_bind
  obtain rfl : overrides.value = map := Except.ok.inj hmap
  obtain ⟨⟨r, merged⟩, hmerge, hkeep⟩ := hbuild.exists_of_bind
  cases hkeep
  exact ⟨base, entered, r, merged, hbase, hmerge, rfl, rfl⟩

/-- **What an action writes.** -/
theorem writes_of_yields {action : Action} (h : (action.perform s).Yields (reply, after)) :
    action.Writes s after := by
  have hunchanged : action.Writes s s := .counter action (Nat.le_refl s.nextId)
  cases action with
  | get =>
    cases h
    exact hunchanged
  | set source =>
    obtain ⟨⟨r, entered⟩, hsource, h⟩ := h.exists_of_bind
    obtain ⟨n, htakes, rfl⟩ := State.takes_of_resolve hsource
    cases h
    exact .current _ htakes
  | reset =>
    cases h
    exact .current _ (State.takes_of_has (Or.inl rfl))
  | options name source =>
    obtain ⟨⟨r, entered⟩, hsource, h⟩ := h.exists_of_bind
    obtain ⟨n, htakes, rfl⟩ := State.takes_of_resolve hsource
    cases h
    exact .record _ htakes name
  | keep name =>
    cases h
    exact .record _ (State.takes_of_has (Or.inr (Or.inl rfl))) name
  | merge name overrides result =>
    obtain ⟨r, hr, h⟩ := h.exists_of_bind
    obtain ⟨map, hmap, h⟩ := h.exists_of_bind
    obtain ⟨⟨merged, entered⟩, hmerge, h⟩ := h.exists_of_bind
    have htakes := State.takes_of_has (State.has_of_lookup (State.lookup_of_yields hr))
    obtain ⟨n, htakes, rfl⟩ := htakes.merge hmerge
    cases result with
    | none =>
      cases h
      exact .counter _ htakes.le
    | some result =>
      cases h
      exact .record _ htakes result
  | compare left right =>
    obtain ⟨l, -, h⟩ := h.exists_of_bind
    obtain ⟨r, -, h⟩ := h.exists_of_bind
    cases h
    exact hunchanged
  | assign name field =>
    obtain ⟨r, -, h⟩ := h.exists_of_bind
    cases h
  | new name format source overrides =>
    obtain ⟨base, entered, r, merged, hbase, hmerge, -, rfl⟩ := new_cases h
    obtain ⟨n, htakes, rfl⟩ := State.takes_of_base hbase
    obtain ⟨n', htakes, rfl⟩ := htakes.merge hmerge
    exact .holder htakes name format source overrides
  | call name node =>
    obtain ⟨holder, -, h⟩ := h.exists_of_bind
    obtain ⟨output, -, h⟩ := h.exists_of_bind
    cases h
    exact hunchanged

end Action

/-! ### Moments -/

namespace Moment

/-- All that can happen from one moment to the next. -/
inductive Moves : Moment → Moment → Prop
  | left (s : State) (frame : Frame) (outer : List Frame) :
    Moves ⟨s, [], frame :: outer⟩ ⟨{ s with current := frame.found }, frame.rest, outer⟩
  | acted {s after : State} {action : Action} {reply : Reply}
      (h : (action.perform s).Yields (reply, after)) (rest : List Step) (frames : List Frame) :
    Moves ⟨s, .act action :: rest, frames⟩ ⟨after, rest, frames⟩
  | entered {s after : State} {source : Source} {r : Record}
      (h : (source.resolve s).Yields (r, after)) (body rest : List Step) (frames : List Frame) :
    Moves ⟨s, .block source body :: rest, frames⟩
      ⟨{ after with current := r }, body, ⟨s.current, rest⟩ :: frames⟩
  | started (s : State) (body rest : List Step) (frames : List Frame) :
    Moves ⟨s, .thread body :: rest, frames⟩
      ⟨{ s with current := .initial }, body, ⟨s.current, rest⟩ :: frames⟩
  | failed {s : State} {step : Step} {fault : Fault}
      (h : (runStep s step).value.answer = .failed fault) (rest : List Step) (frames : List Frame) :
    Moves ⟨s, step :: rest, frames⟩ ⟨s, rest, frames⟩
  | raised (s : State) (rest : List Step) (frames : List Frame) :
    Moves ⟨s, .raise :: rest, frames⟩ ⟨s, [], frames⟩

theorem next_act {s after : State} {action : Action} {reply : Reply}
    (h : (action.perform s).Yields (reply, after)) (rest : List Step) (frames : List Frame) :
    next ⟨s, .act action :: rest, frames⟩ = some ⟨after, rest, frames⟩ := by
  unfold Attempt.Yields at h
  simp only [next, h]

/-- **What happens from one moment to the next.** -/
theorem moves_of_next {m m' : Moment} (h : m.next = some m') : m.Moves m' := by
  obtain ⟨s, steps, frames⟩ := m
  rcases steps with _ | ⟨⟨action⟩ | ⟨source, body⟩ | ⟨body⟩ | -, rest⟩
  · cases frames with
    | nil => cases h
    | cons frame outer =>
      cases h
      exact .left s frame outer
  · rcases runStep_act s action with ⟨reply, after, hyields, -⟩ | ⟨fault, hstops, hrun⟩
    · rw [next_act hyields] at h
      cases h
      exact .acted hyields rest frames
    · unfold Attempt.Stops at hstops
      simp only [next, hstops] at h
      cases h
      exact .failed (by rw [hrun]) rest frames
  · rcases (source.resolve s).yields_or_stops with ⟨⟨r, after⟩, hyields⟩ | ⟨fault, hstops⟩
    · rw [next_block hyields] at h
      cases h
      exact .entered hyields body rest frames
    · have hrun := runStep_block_of_stops hstops body
      unfold Attempt.Stops at hstops
      simp only [next, hstops] at h
      cases h
      exact .failed (by rw [hrun]) rest frames
  · cases h
    exact .started s body rest frames
  · cases h
    exact .raised s rest frames

end Moment

end MarkdownRender.Session
