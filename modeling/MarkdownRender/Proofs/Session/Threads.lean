import MarkdownRender.Proofs.Session.Lockstep

/-!
# Threads and their callers

A thread and its caller do not see each other's default. For the runner this is a matter of saving
and giving back, so the question is whether that comes to the same as variables of their own. In a
stored session a thread begins with an unset variable and has the moments of a session of its own,
above the frames of those who wait for it (`StoredMoment.Reaches.above`). None of these moments
writes to a variable of a thread that was there before (`StoredMoment.OfThreads.reaches`), so the
caller finds its default where it left it.
-/

namespace MarkdownRender.Session

namespace StoredMoment

/-- The same moment, with some frames below its own. -/
def above (x : StoredMoment) (outer : List StoredFrame) : StoredMoment :=
  { x with frames := x.frames ++ outer }

/-- What happens does not depend on the frames below. -/
theorem next_above {x x' : StoredMoment} (h : x.next = some x') (outer : List StoredFrame) :
    (x.above outer).next = some (x'.above outer) := by
  obtain ⟨w, t, steps, frames⟩ := x
  rcases steps with _ | ⟨⟨action⟩ | ⟨source, body⟩ | ⟨body⟩ | -, rest⟩
  · rcases frames with _ | ⟨⟨found, rest⟩ | ⟨caller, rest⟩, frames⟩ <;> cases h <;> rfl
  · simp only [next, above] at h ⊢
    split at h <;> cases h <;> rfl
  · simp only [next, above] at h ⊢
    split at h <;> cases h <;> rfl
  · cases h
    rfl
  · cases h
    rfl

theorem Reaches.above {x x' : StoredMoment} (h : x.Reaches x') (outer : List StoredFrame) :
    (x.above outer).Reaches (x'.above outer) := by
  induction h with
  | refl => exact .refl
  | tail _ hstep ih => exact ih.tail (next_above hstep outer)

/-- No thread before `first` runs or waits to go on. -/
structure OfThreads (first : Nat) (x : StoredMoment) : Prop where
  running : first ≤ x.thread
  waiting : ∀ caller rest, .thread caller rest ∈ x.frames → first ≤ caller
  started : first ≤ x.store.threads

/-- The running thread may write to its own variable, and enter and leave blocks. -/
theorem OfThreads.wrote {first : Nat} {x : StoredMoment} (h : x.OfThreads first) {w : Store}
    (hthreads : w.threads = x.store.threads)
    (hothers : ∀ other ≠ x.thread, w.defaults other = x.store.defaults other) (steps : List Step)
    {frames : List StoredFrame}
    (hframes : ∀ caller rest, .thread caller rest ∈ frames → .thread caller rest ∈ x.frames) :
    OfThreads first ⟨w, x.thread, steps, frames⟩ ∧
      ∀ t < first, w.defaults t = x.store.defaults t := by
  refine ⟨⟨h.running, fun caller rest hmem => h.waiting caller rest (hframes _ _ hmem), ?_⟩, ?_⟩
  · show first ≤ w.threads
    rw [hthreads]
    exact h.started
  · exact fun t ht => hothers t (Nat.ne_of_lt (Nat.lt_of_lt_of_le ht h.running))

/-- **One step leaves the variables of the threads before alone.** -/
theorem OfThreads.next {first : Nat} {x x' : StoredMoment} {m : Moment} (h : x.OfThreads first)
    (hrep : x.Represents m) (hnext : x.next = some x') :
    x'.OfThreads first ∧ ∀ t < first, x'.store.defaults t = x.store.defaults t := by
  obtain ⟨w, t, steps, frames⟩ := x
  rcases steps with _ | ⟨⟨action⟩ | ⟨source, body⟩ | ⟨body⟩ | -, rest⟩
  · -- a block or a thread is left, if one is open; whoever goes on then has been waiting
    rcases frames with _ | ⟨⟨found, rest⟩ | ⟨caller, rest⟩, frames⟩
    · cases hnext
    · cases hnext
      exact h.wrote (w := w.setDefault t found) rfl
        (fun _ hne => w.defaults_setDefault_of_ne hne found) rest fun _ _ => List.mem_cons_of_mem _
    · cases hnext
      have hcaller : first ≤ caller := h.waiting caller rest List.mem_cons_self
      exact ⟨⟨hcaller, fun c r hmem => h.waiting c r (List.mem_cons_of_mem _ hmem), h.started⟩,
        fun _ _ => rfl⟩
  · rcases (hrep.shows.agrees_act action).ok_or_error with
      ⟨_, w', _, hact, -, hwrote⟩ | ⟨fault, n, hact, -⟩ <;>
      simp only [StoredMoment.next, hact] at hnext <;> cases hnext
    · exact h.wrote hwrote.threads hwrote.others rest fun _ _ => id
    · exact h.wrote rfl (fun _ _ => rfl) rest fun _ _ => id
  · rcases (hrep.shows.agrees_take source).ok_or_error with
      ⟨r, _, _, htake, -, -, n, rfl, -⟩ | ⟨fault, n, htake, -⟩ <;>
      simp only [StoredMoment.next, htake] at hnext <;> cases hnext
    · refine h.wrote (w := Store.setDefault { w with nextId := n } t r) rfl
        (fun _ hne => Store.defaults_setDefault_of_ne _ hne r) body fun caller rest' hmem => ?_
      simpa using hmem
    · exact h.wrote rfl (fun _ _ => rfl) rest fun _ _ => id
  · cases hnext
    refine ⟨⟨h.started, fun caller rest' hmem => ?_, Nat.le_succ_of_le h.started⟩, fun _ _ => rfl⟩
    rcases List.mem_cons.mp hmem with heq | hmem
    · cases heq
      exact h.running
    · exact h.waiting caller rest' hmem
  · cases hnext
    exact h.wrote rfl (fun _ _ => rfl) [] fun _ _ => id

/-- A run leaves the variables of the threads before alone. -/
theorem OfThreads.reaches {first : Nat} {x x' : StoredMoment} {m : Moment} (h : x.OfThreads first)
    (hrep : x.Represents m) (hrun : x.Reaches x') :
    x'.OfThreads first ∧ ∀ t < first, x'.store.defaults t = x.store.defaults t := by
  induction hrun with
  | refl => exact ⟨h, fun _ _ => rfl⟩
  | tail hrun hstep ih =>
    obtain ⟨hmiddle, hsame⟩ := ih
    obtain ⟨m', -, hrep'⟩ := hrep.exists_reached hrun
    obtain ⟨hlast, hsame'⟩ := hmiddle.next hrep' hstep
    exact ⟨hlast, fun t ht => (hsame' t ht).trans (hsame t ht)⟩

end StoredMoment

/-! ### A thread from start to end -/

/-- The runner starts a thread in the same state whatever the default of the caller is, and gives
the caller its default back afterwards. -/
theorem runStep_thread (s : State) (body : List Step) :
    let inner := runSteps { s with current := .initial } body
    runStep s (.thread body) =
      ⟨⟨.thread inner.value.answer s.current.options, false,
        { inner.value.state with current := s.current }⟩, inner.events⟩ := by
  rw [runStep]
  show Logged.mk _ _ = _
  simp

namespace StoredMoment

theorem ofThreads_ownSession (x : StoredMoment) (body : List Step) :
    (x.ownSession body).OfThreads x.store.threads where
  running := Nat.le_refl _
  waiting _ _ hmem := absurd hmem List.not_mem_nil
  started := Nat.le_succ _

namespace Represents

variable {x y : StoredMoment} {s : State} {body rest : List Step} {frames : List Frame}

/-- A thread begins as a session of its own, with the caller waiting. -/
theorem next_eq_ownSession (h : x.Represents ⟨s, .thread body :: rest, frames⟩) :
    x.next = some ((x.ownSession body).above (.thread x.thread rest :: x.frames)) := by
  obtain ⟨w, t, steps, stored⟩ := x
  obtain rfl := h.steps
  rfl

/-- While the thread runs, everything that was there before keeps its variables. -/
theorem defaults_of_ownSession {m : Moment} (h : x.Represents m)
    (hrun : (x.ownSession body).Reaches y) :
    x.store.threads ≤ y.thread ∧ x.store.threads ≤ y.store.threads ∧
      ∀ t < x.store.threads, y.store.defaults t = x.store.defaults t := by
  obtain ⟨s, steps, frames⟩ := m
  obtain ⟨hof, hsame⟩ := (x.ofThreads_ownSession body).reaches (h.ownSession body) hrun
  exact ⟨hof.running, hof.started, hsame⟩

/-- **The caller goes on where it was**, in the state that the runner gives. -/
theorem exists_last (h : x.Represents ⟨s, .thread body :: rest, frames⟩) :
    ∃ last, (x.ownSession body).Reaches last ∧ last.steps = [] ∧ last.frames = [] ∧
      Represents ⟨last.store, x.thread, rest, x.frames⟩
        ⟨(runStep s (.thread body)).value.state, rest, frames⟩ := by
  have hbody := Moment.reaches_runSteps body { s with current := .initial } [] []
  rw [List.append_nil, ite_self] at hbody
  obtain ⟨last, hrun, hlast⟩ := (h.ownSession body).exists_reaches hbody
  obtain ⟨-, hstarted, hsame⟩ := h.defaults_of_ownSession hrun
  have hframes : last.frames = [] := by
    have hshow := hlast.frames
    cases hstored : last.frames with
    | nil => rfl
    | cons top stored =>
      rw [hstored] at hshow
      cases top <;> exact hshow.elim
  have hdefault : ∀ t < x.store.threads, last.store.default t = x.store.default t := by
    intro t ht
    rw [Store.default, hsame t ht, Store.default]
  refine ⟨last, hrun, hlast.steps, hframes, ?_⟩
  rw [runStep_thread]
  exact {
    shows := { hlast.shows with current := (hdefault _ h.started).trans h.shows.current }
    started := Nat.lt_of_lt_of_le h.started hstarted
    unset := hlast.unset
    steps := rfl
    frames := h.frames.congr fun caller hlt => hdefault caller (Nat.lt_trans hlt h.started) }

end Represents

end StoredMoment

/-- **Threads and their callers do not see each other's default.** The runner runs a thread from the
initial record: whatever default the caller has, the thread gives the same answers, reports the
same events and leaves the same records and renderers, and afterwards the caller has the very
record that it had before. This is what variables of their own come to. In storage, at whatever
depth, the variable of the thread is unset at first. The moments of the thread are those of a
session of its own, with its caller waiting below. None of them writes to the variable of the
caller, and that is all the caller has to go on with. -/
theorem thread_and_caller_apart (s : State) (body rest : List Step) (frames : List Frame) :
    (let inner := runSteps { s with current := .initial } body
      ∀ d : Record, runStep { s with current := d } (.thread body) =
        ⟨⟨.thread inner.value.answer d.options, false, { inner.value.state with current := d }⟩,
          inner.events⟩) ∧
    ∀ (d : Record) (x : StoredMoment),
      x.Represents ⟨{ s with current := d }, .thread body :: rest, frames⟩ →
      let own := x.ownSession body
      let waiting := .thread x.thread rest :: x.frames
      x.next = some (own.above waiting) ∧
      own.store.defaults own.thread = none ∧
      own.store.default own.thread = Record.initial.stored ∧
      (∀ y, own.Reaches y → (own.above waiting).Reaches (y.above waiting) ∧ y.thread ≠ x.thread ∧
        y.store.defaults x.thread = x.store.defaults x.thread) ∧
      ∃ last, own.Reaches last ∧
        (last.above waiting).next = some ⟨last.store, x.thread, rest, x.frames⟩ ∧
        StoredMoment.Represents ⟨last.store, x.thread, rest, x.frames⟩
          ⟨(runStep { s with current := d } (.thread body)).value.state, rest, frames⟩ := by
  refine ⟨fun d => runStep_thread { s with current := d } body, fun d x h => ?_⟩
  intro own waiting
  have hunset := h.unset x.store.threads (Nat.le_refl _)
  refine ⟨h.next_eq_ownSession, hunset, StoredMoment.default_ownSession hunset, ?_, ?_⟩
  · intro y hy
    obtain ⟨hrunning, -, hsame⟩ := h.defaults_of_ownSession hy
    exact ⟨hy.above waiting, Nat.ne_of_gt (Nat.lt_of_lt_of_le h.started hrunning),
      hsame _ h.started⟩
  · obtain ⟨last, hrun, hsteps, hframes, hrep⟩ := h.exists_last
    refine ⟨last, hrun, ?_, hrep⟩
    obtain ⟨w, t, steps, stored⟩ := last
    obtain rfl : steps = [] := hsteps
    obtain rfl : stored = [] := hframes
    rfl

/-- Inside a block, a thread that keeps its default and resets it. -/
theorem thread_inside_block :
    let s : State := { nextId := 2 }
    let found : Record := ⟨1, { xhtml := .bool true }⟩
    let body : List Step := [.act (.keep "mine"), .act .reset]
    let x := StoredMoment.ofMoment ⟨{ s with current := found }, [.thread body], [⟨.initial, []⟩]⟩
    (runStep { s with current := found } (.thread body)).value.state.current = found ∧
      (runStep { s with current := found } (.thread body)).value.state.records =
        [(("mine" : Text), Record.initial)] ∧
      (x.ownSession body).store.default 1 = Record.initial.stored ∧
      ∃ last, (x.ownSession body).Reaches last ∧ last.store.default 0 = found.stored := by
  intro s found body x
  obtain ⟨hrun, hstored⟩ := thread_and_caller_apart s body [] [⟨.initial, []⟩]
  obtain ⟨-, -, hstart, -, last, hlast, -, hback⟩ := hstored found x (.ofMoment _)
  rw [hrun found] at hback ⊢
  exact ⟨rfl, rfl, hstart, last, hlast, hback.shows.current⟩

end MarkdownRender.Session
