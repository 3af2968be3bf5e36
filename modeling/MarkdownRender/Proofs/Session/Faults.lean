import MarkdownRender.Proofs.Session.Lockstep

/-!
# Steps that fail

A step that fails leaves a session as it was, and no record that a session can come by has a value
that its option cannot have. Both are proved of stored sessions, in which they could be otherwise:
a record is made before it is checked, and nothing takes back what a step has written when a fault
stops it. What a step has written by then is its counter of identities (`Shows.agrees_act`): it
checks everything first, and writes at its end.
-/

namespace MarkdownRender.Session

/-! ### Faults of the runner -/

/-- Only actions and blocks can fail. They hand back the state that they were given. -/
theorem runStep_of_failed {s : State} {step : Step} {fault : Fault}
    (h : (runStep s step).value.answer = .failed fault) :
    (runStep s step).value = ⟨.failed fault, false, s⟩ ∧
      ((∃ action, step = .act action ∧ (action.perform s).Stops fault) ∨
        ∃ source body, step = .block source body ∧ (source.resolve s).Stops fault) := by
  cases step with
  | act action =>
    rcases runStep_act s action with ⟨reply, after, -, hrun⟩ | ⟨fault', hstops, hrun⟩
    · rw [hrun] at h
      cases h
    · rw [hrun] at h ⊢
      cases h
      exact ⟨rfl, Or.inl ⟨action, rfl, hstops⟩⟩
  | block source body =>
    rcases (source.resolve s).yields_or_stops with ⟨⟨r, entered⟩, hyields⟩ | ⟨fault', hstops⟩
    · rw [runStep_block hyields] at h
      cases h
    · rw [runStep_block_of_stops hstops] at h ⊢
      cases h
      exact ⟨rfl, Or.inr ⟨source, body, rfl, hstops⟩⟩
  | thread body =>
    rw [runStep] at h
    cases h
  | raise =>
    rw [runStep] at h
    cases h

/-! ### Faults in storage -/

namespace Agrees

variable {α β : Type} {w w' : Store} {R : α → Store → β → Prop}
  {result : EStateM.Result Fault Store α} {value : Except Fault β} {fault : Fault}

theorem of_error_left (h : Agrees w R (.error fault w') value) :
    value = .error fault ∧ ∃ n, w' = { w with nextId := n } := by
  cases h with
  | stopped fault n => exact ⟨rfl, n, rfl⟩

theorem of_error_right (h : Agrees w R result (.error fault)) :
    ∃ n, result = .error fault { w with nextId := n } := by
  cases h with
  | stopped fault n => exact ⟨n, rfl⟩

end Agrees

namespace StoredMoment

/-- The next step is stopped by a fault, and leaves the store so. -/
def Stops (x : StoredMoment) (fault : Fault) (w : Store) : Prop :=
  (∃ action rest, x.steps = .act action :: rest ∧
      Change.act x.thread action x.store = .error fault w) ∨
    ∃ source body rest, x.steps = .block source body :: rest ∧
      Change.take source x.store = .error fault w

/-- A session has a record at hand: it is the default of a thread, or it is kept, or a renderer has
it, or a block will give it back. -/
def Holds (x : StoredMoment) (r : StoredRecord) : Prop :=
  (∃ t, x.store.default t = r) ∨ (∃ name, (name, r) ∈ x.store.records) ∨
    (∃ name h, (name, h) ∈ x.store.holders ∧ h.record = r) ∨ ∃ rest, .block r rest ∈ x.frames

end StoredMoment

theorem FramesShow.exists_stored {w : Store} {t : Nat} {stored : List StoredFrame}
    {frames : List Frame} (h : FramesShow w t stored frames) {r : StoredRecord} {rest : List Step}
    (hmem : .block r rest ∈ stored) : ∃ r' : Record, r = r'.stored := by
  induction stored generalizing t frames with
  | nil => cases hmem
  | cons top stored ih =>
    rcases frames with _ | ⟨frame, frames⟩
    · cases top <;> exact h.elim
    · rcases List.mem_cons.mp hmem with rfl | hlater
      · exact ⟨frame.found, h.1⟩
      · cases top with
        | block found rest' => exact ih h.2.2 hlater
        | thread caller rest' => exact ih h.2.2.2 hlater

namespace StoredMoment.Represents

variable {x : StoredMoment} {m : Moment} {r : StoredRecord} {fault : Fault} {w : Store}

/-- Every record at hand is one that a state can have. -/
theorem exists_stored (h : x.Represents m) (hr : x.Holds r) : ∃ r' : Record, r = r'.stored := by
  rcases hr with ⟨t, rfl⟩ | ⟨name, hmem⟩ | ⟨name, holder, hmem, rfl⟩ | ⟨rest, hmem⟩
  · cases hset : x.store.defaults t with
    | none => exact ⟨.initial, by rw [Store.default, hset]; rfl⟩
    | some r =>
      obtain ⟨r', rfl⟩ := h.shows.defaults t r hset
      exact ⟨r', by rw [Store.default, hset]; rfl⟩
  · rw [h.shows.records] at hmem
    obtain ⟨entry, -, heq⟩ := List.mem_map.mp hmem
    exact ⟨entry.2, (Prod.mk.inj heq).2.symm⟩
  · rw [h.shows.holders] at hmem
    obtain ⟨entry, -, heq⟩ := List.mem_map.mp hmem
    exact ⟨entry.2.record, by rw [← (Prod.mk.inj heq).2]; rfl⟩
  · exact h.frames.exists_stored hmem

/-- **A step that is stopped has written nothing** but the counter of identities, and the session
goes on behind it as if it had not been there. -/
theorem next_of_stops (h : x.Represents m) (hstops : x.Stops fault w) :
    (∃ n, w = { x.store with nextId := n }) ∧
      x.next = some ⟨x.store, x.thread, x.steps.tail, x.frames⟩ := by
  obtain ⟨store, t, steps, frames⟩ := x
  rcases hstops with ⟨action, rest, rfl, hact⟩ | ⟨source, body, rest, rfl, htake⟩
  · have hagrees := h.shows.agrees_act action
    simp only at hact
    rw [hact] at hagrees
    obtain ⟨-, n, rfl⟩ := hagrees.of_error_left
    exact ⟨⟨n, rfl⟩, by simp [StoredMoment.next, hact]⟩
  · have hagrees := h.shows.agrees_take source
    simp only at htake
    rw [htake] at hagrees
    obtain ⟨-, n, rfl⟩ := hagrees.of_error_left
    exact ⟨⟨n, rfl⟩, by simp [StoredMoment.next, htake]⟩

/-- A step is stopped in storage if and only if the runner says that it fails. -/
theorem stops_iff (h : x.Represents m) {step : Step} {rest : List Step}
    (hsteps : m.steps = step :: rest) :
    (∃ w, x.Stops fault w) ↔ (runStep m.state step).value.answer = .failed fault := by
  have hx : x.steps = step :: rest := h.steps.trans hsteps
  constructor
  · rintro ⟨w, ⟨action, rest', heq, hact⟩ | ⟨source, body, rest', heq, htake⟩⟩
    · cases hx.symm.trans heq
      have hagrees := h.shows.agrees_act action
      rw [hact] at hagrees
      rcases runStep_act m.state action with ⟨reply, after, hyields, -⟩ | ⟨fault', hstops, hrun⟩
      · cases hagrees.of_error_left.1.symm.trans hyields
      · cases hagrees.of_error_left.1.symm.trans hstops
        rw [hrun]
    · cases hx.symm.trans heq
      have hagrees := h.shows.agrees_take source
      rw [htake] at hagrees
      rw [runStep_block_of_stops hagrees.of_error_left.1]
  · intro hfailed
    rcases (runStep_of_failed hfailed).2 with ⟨action, rfl, hstops⟩ | ⟨source, body, rfl, hstops⟩
    · have hagrees := h.shows.agrees_act action
      rw [hstops] at hagrees
      obtain ⟨n, hact⟩ := hagrees.of_error_right
      exact ⟨_, Or.inl ⟨action, rest, hx, hact⟩⟩
    · have hagrees := h.shows.agrees_take source
      rw [hstops] at hagrees
      obtain ⟨n, htake⟩ := hagrees.of_error_right
      exact ⟨_, Or.inr ⟨source, body, rest, hx, htake⟩⟩

end StoredMoment.Represents

/-- **Failed steps leave everything as it was, and no invalid record can be reached.** At every
moment of a stored session, all records at hand are valid. If a fault stops the next step, then
the step has changed no default, no kept record and no renderer by then, and the session goes on
behind it; of a block that is stopped so, no step is run. Stored sessions are what the runner runs:
their moments are those of the session, and the same steps fail, with the same faults. -/
theorem failed_steps_change_nothing (steps : List Step) :
    (∀ x, (StoredMoment.start steps).Reaches x →
      (∀ r, x.Holds r → r.values.IsValid) ∧
      (∀ fault w, x.Stops fault w →
        w.defaults = x.store.defaults ∧ w.records = x.store.records ∧
          w.holders = x.store.holders ∧
          x.next = some ⟨x.store, x.thread, x.steps.tail, x.frames⟩) ∧
      ∃ m, Moment.Reaches ⟨{}, steps, []⟩ m ∧ x.Represents m ∧
        ∀ step rest, m.steps = step :: rest → ∀ fault,
          ((∃ w, x.Stops fault w) ↔ (runStep m.state step).value.answer = .failed fault) ∧
          ((runStep m.state step).value.answer = .failed fault →
            (runStep m.state step).value = ⟨.failed fault, false, m.state⟩)) ∧
    ∀ m, Moment.Reaches ⟨{}, steps, []⟩ m →
      ∃ x, (StoredMoment.start steps).Reaches x ∧ x.Represents m := by
  have hstart := StoredMoment.Represents.start steps
  refine ⟨fun x hx => ?_, fun m hm => hstart.exists_reaches hm⟩
  obtain ⟨m, hm, hrep⟩ := hstart.exists_reached hx
  refine ⟨fun r hr => ?_, fun fault w hstops => ?_, m, hm, hrep, ?_⟩
  · obtain ⟨r, rfl⟩ := hrep.exists_stored hr
    exact OptionDraft.isValid_toDraft r.options
  · obtain ⟨⟨n, rfl⟩, hnext⟩ := hrep.next_of_stops hstops
    exact ⟨rfl, rfl, rfl, hnext⟩
  · intro step rest hsteps fault
    exact ⟨hrep.stops_iff hsteps, fun hfailed => (runStep_of_failed hfailed).1⟩

/-- A renderer whose override is wrong on top of the default, and a block whose options are. -/
theorem renderer_and_block_refused :
    let wrong : Logged OptionMap := pure (OptionMap.ofList [("langPrefix", .int 3)])
    let block : Step := .block (.fresh wrong) [.act .reset]
    let steps : List Step := [.act (.new "r" .html none wrong), block, .act .get]
    let fault : Fault := .config ⟨"lang_prefix", "expected a string, got int"⟩
    (StoredMoment.start steps).next = some ⟨{}, 0, [block, .act .get], []⟩ ∧
      StoredMoment.next ⟨{}, 0, [block, .act .get], []⟩ = some ⟨{}, 0, [.act .get], []⟩ ∧
      Record.initial.stored.values.IsValid ∧
      ∃ m, Moment.Reaches ⟨{}, steps, []⟩ m ∧
        (runStep m.state block).value = ⟨.failed fault, false, m.state⟩ := by
  intro wrong block steps fault
  obtain ⟨hmoments, -⟩ := failed_steps_change_nothing steps
  obtain ⟨-, hstopped, -⟩ := hmoments _ .refl
  have hrenderer : (StoredMoment.start steps).Stops fault { nextId := 2 } :=
    Or.inl ⟨_, _, rfl, rfl⟩
  have hfirst := (hstopped fault _ hrenderer).2.2.2
  obtain ⟨hvalid, hstopped, m, hm, hrep, hrunner⟩ := hmoments _ (.single hfirst)
  have hblock : StoredMoment.Stops ⟨{}, 0, [block, .act .get], []⟩ fault { nextId := 2 } :=
    Or.inr ⟨_, _, _, rfl, rfl⟩
  obtain ⟨hfails, hback⟩ := hrunner block [.act .get] hrep.steps.symm fault
  refine ⟨hfirst, (hstopped fault _ hblock).2.2.2, hvalid _ (Or.inl ⟨0, rfl⟩), m, hm, ?_⟩
  exact hback (hfails.mp ⟨_, hblock⟩)

end MarkdownRender.Session
