import MarkdownRender.Proofs.Session.Lockstep
import MarkdownRender.Proofs.Session.Writes

/-!
# Renderers are snapshots

What a renderer gives depends on its format and its record, and on nothing else that a session has
(`runStep_call`). Only one kind of step can put anything else where a renderer is: one that builds
another under its name (`Moment.Rebinds`). So a renderer stays what it was when it was built, in
whatever block or thread that was, until its name is taken
(`Moment.ReachesKeeping.lookup_eq`). For steps in which the name is not given to any renderer, this
can be seen from the steps (`Moment.Spares`).
-/

namespace MarkdownRender.Session

/-! ### Calls -/

/-- The answer to a call: what the renderer gives, or the fault that stopped it. -/
def Answer.ofRendering : Except Fault Text → Answer
  | .ok output => .replied (.rendered output)
  | .error fault => .failed fault

/-- **A call asks only the renderer**, and changes nothing. -/
theorem runStep_call {s : State} {name : Text} {h : Holder}
    (hlookup : s.holders.lookup name = some h) (node : Node) :
    runStep s (.act (.call name node)) =
      ⟨⟨.ofRendering (h.renderer.node node).run.value, false, s⟩,
        (h.renderer.node node).run.events⟩ := by
  have hholder : s.holder name = pure h := by
    unfold State.holder
    rw [hlookup]
  have hperform : Action.perform s (.call name node) =
      (do return (.rendered (← h.renderer.node node), s)) := by
    rw [Action.perform, hholder, pure_bind]
  rw [runStep, hperform]
  generalize h.renderer.node node = rendering
  obtain ⟨result, events⟩ := rendering
  have hevents : events ++ [] ++ [] ++ [] = events := by simp
  cases result <;> exact congrArg (Logged.mk _) hevents

/-! ### Names of renderers -/

namespace Moment

variable {name : Text} {m m' : Moment}

/-- The next step builds a renderer under the name. -/
def Rebinds (name : Text) (m : Moment) : Prop :=
  ∃ format source overrides rest reply after,
    m.steps = .act (.new name format source overrides) :: rest ∧
      (Action.perform m.state (.new name format source overrides)).Yields (reply, after)

/-- A moment comes after another, and no step on the way builds a renderer under the name. -/
def ReachesKeeping (name : Text) : Moment → Moment → Prop :=
  Relation.ReflTransGen fun m m' => m.next = some m' ∧ ¬ m.Rebinds name

/-- **What one step does to a renderer**: nothing, unless it builds another under its name. -/
theorem lookup_next (hnext : m.next = some m') (hkeeps : ¬ m.Rebinds name) :
    m'.state.holders.lookup name = m.state.holders.lookup name := by
  cases moves_of_next hnext with
  | left => rfl
  | acted h rest frames =>
    cases Action.writes_of_yields h with
    | counter => rfl
    | current => rfl
    | record => rfl
    | holder htakes other format source overrides =>
      have hne : name ≠ other := by
        rintro rfl
        exact hkeeps ⟨format, source, overrides, rest, _, _, rfl, h⟩
      exact (List.lookup_cons ..).trans (by rw [beq_false_of_ne hne])
  | entered h =>
    obtain ⟨n, -, rfl⟩ := State.takes_of_resolve h
    rfl
  | started => rfl
  | failed => rfl
  | raised => rfl

/-- **What a run does to a renderer**: nothing, until its name is taken. -/
theorem ReachesKeeping.lookup_eq (hrun : m.ReachesKeeping name m') :
    m'.state.holders.lookup name = m.state.holders.lookup name := by
  induction hrun with
  | refl => rfl
  | tail _ hstep ih => exact (lookup_next hstep.1 hstep.2).trans ih

end Moment

/-! ### Steps that leave a name alone -/

mutual

/-- The step gives the name to no renderer, at whatever depth. -/
def StepSpares (name : Text) : Step → Prop
  | .act (.new other _ _ _) => other ≠ name
  | .act _ => True
  | .block _ body => StepsSpare name body
  | .thread body => StepsSpare name body
  | .raise => True

def StepsSpare (name : Text) : List Step → Prop
  | [] => True
  | step :: rest => StepSpares name step ∧ StepsSpare name rest

end

namespace Moment

variable {name : Text} {m m' : Moment}

/-- Nothing that is still to be done gives the name to a renderer. -/
structure Spares (name : Text) (m : Moment) : Prop where
  steps : StepsSpare name m.steps
  frames : ∀ frame ∈ m.frames, StepsSpare name frame.rest

theorem Spares.not_rebinds (h : m.Spares name) : ¬ m.Rebinds name := by
  rintro ⟨format, source, overrides, rest, reply, after, hsteps, -⟩
  have hfirst := h.steps
  rw [hsteps] at hfirst
  exact hfirst.1 rfl

theorem Spares.next (h : m.Spares name) (hnext : m.next = some m') : m'.Spares name := by
  obtain ⟨hsteps, hframes⟩ := h
  cases moves_of_next hnext with
  | left s frame outer =>
    exact ⟨hframes frame List.mem_cons_self,
      fun other hmem => hframes other (List.mem_cons_of_mem _ hmem)⟩
  | acted => exact ⟨hsteps.2, hframes⟩
  | entered => exact ⟨hsteps.1, List.forall_mem_cons.mpr ⟨hsteps.2, hframes⟩⟩
  | started => exact ⟨hsteps.1, List.forall_mem_cons.mpr ⟨hsteps.2, hframes⟩⟩
  | failed => exact ⟨hsteps.2, hframes⟩
  | raised => exact ⟨trivial, hframes⟩

/-- A run of such steps never takes the name away. -/
theorem Spares.reachesKeeping (h : m.Spares name) (hrun : m.Reaches m') :
    m.ReachesKeeping name m' ∧ m'.Spares name := by
  induction hrun with
  | refl => exact ⟨.refl, h⟩
  | tail _ hstep ih =>
    obtain ⟨hkeeps, hspares⟩ := ih
    exact ⟨hkeeps.tail ⟨hstep, hspares.not_rebinds⟩, hspares.next hstep⟩

end Moment

/-- The runner leaves a renderer alone where its steps do. -/
theorem lookup_runSteps {name : Text} {steps : List Step} (h : StepsSpare name steps) (s : State) :
    (runSteps s steps).value.state.holders.lookup name = s.holders.lookup name := by
  have hrun := Moment.reaches_runSteps steps s [] []
  rw [List.append_nil] at hrun
  have hspares : Moment.Spares name ⟨s, steps, []⟩ := ⟨h, by simp⟩
  exact (hspares.reachesKeeping hrun).1.lookup_eq

/-! ### Renderers -/

theorem base_merge_of_new {s after : State} {name : Text} {format : Format} {source : Option Source}
    {overrides : Logged OptionMap} {reply : Reply}
    (h : (Action.perform s (.new name format source overrides)).Yields (reply, after)) :
    ∃ base r : Record, (∃ entered, (s.base source).Yields (base, entered)) ∧
      base.options.merge overrides.value = .ok r.options ∧
      (overrides.value.entries = [] → r = base) ∧ reply = .shown r.options ∧
      after.holders.lookup name = some ⟨format, r⟩ := by
  obtain ⟨base, entered, r, merged, hbase, hmerge, rfl, rfl⟩ := Action.new_cases h
  refine ⟨base, r, ⟨entered, hbase⟩, ?_, ?_, rfl, List.lookup_cons_self⟩
  · rcases State.merge_cases hmerge with ⟨hempty, rfl, -⟩ | ⟨-, hoptions, -⟩
    · rw [RenderOptions.merge, OptionDraft.apply, hempty]
      exact r.options.build_toDraft
    · exact hoptions
  · intro hempty
    rcases State.merge_cases hmerge with ⟨-, rfl, -⟩ | ⟨hne, -⟩
    · rfl
    · exact absurd hempty hne

/-- **Renderers are snapshots.** A renderer is built on the record of its source, or without one on
the default of the thread that runs, with the overrides merged into it; without overrides it has
that very record. At every moment from then on, in whatever blocks and threads, as long as no step
builds a renderer under its name, it has the very record that it was built with, and each call gives
the answer that it would have given right after the renderer was built, reports the same events,
and changes nothing. -/
theorem renderers_are_snapshots {s after : State} {name : Text} {format : Format}
    {source : Option Source} {overrides : Logged OptionMap} {reply : Reply}
    (h : (Action.perform s (.new name format source overrides)).Yields (reply, after))
    (rest : List Step) (frames : List Frame) :
    let before : Moment := ⟨s, .act (.new name format source overrides) :: rest, frames⟩
    let built : Moment := ⟨after, rest, frames⟩
    before.next = some built ∧
    ∃ base r : Record,
      (∃ entered, (s.base source).Yields (base, entered)) ∧
      (source = none → base = s.current ∧
        ∀ x : StoredMoment, x.Represents before → x.store.default x.thread = base.stored) ∧
      base.options.merge overrides.value = .ok r.options ∧
      (overrides.value.entries = [] → r = base) ∧
      reply = .shown r.options ∧
      (∀ later, built.ReachesKeeping name later →
        later.state.holders.lookup name = some ⟨format, r⟩ ∧
        (∀ x : StoredMoment, x.Represents later →
          x.store.holders.lookup name = some ⟨format, r.stored⟩) ∧
        ∀ node,
          let rendering := (Renderer.node ⟨format, r.options⟩ node).run
          runStep after (.act (.call name node)) =
            ⟨⟨.ofRendering rendering.value, false, after⟩, rendering.events⟩ ∧
          runStep later.state (.act (.call name node)) =
            ⟨⟨.ofRendering rendering.value, false, later.state⟩, rendering.events⟩) ∧
      ∀ steps, StepsSpare name steps →
        (runSteps after steps).value.state.holders.lookup name = some ⟨format, r⟩ := by
  intro before built
  obtain ⟨base, r, ⟨entered, hbase⟩, hmerge, hsame, hreply, hlookup⟩ := base_merge_of_new h
  refine ⟨Moment.next_act h rest frames, base, r, ⟨entered, hbase⟩, ?_, hmerge, hsame, hreply,
    ?_, ?_⟩
  · rintro rfl
    cases hbase
    exact ⟨rfl, fun x hx => hx.shows.current⟩
  · intro later hlater
    have hkept := hlater.lookup_eq.trans hlookup
    refine ⟨hkept, fun x hx => ?_, fun node => ⟨runStep_call hlookup node, runStep_call hkept node⟩⟩
    rw [hx.shows.holders, lookup_map_stored, hkept]
    rfl
  · intro steps hspare
    exact (lookup_runSteps hspare after).trans hlookup

/-- A renderer that is built inside a block without options of its own, and used after the block has
been left by raising, a thread has run, and a step has failed. -/
theorem renderers_are_snapshots_behind_block :
    let s : State := { current := ⟨3, { xhtml := .bool true }⟩, nextId := 4 }
    let wrong : Logged OptionMap := pure (OptionMap.ofList [("langPrefix", .null)])
    let build : Action := .new "r" .html none (pure .empty)
    let outside : List Step := [.thread [.act (.set (.fresh (pure .empty))), .act (.keep "mine")],
      .act (.new "q" .plainText (some (.named "mine")) wrong)]
    let before : Moment := ⟨s, [.act build, .act .reset, .raise], [⟨.initial, outside⟩]⟩
    ∃ built later : Moment, before.next = some built ∧ built.ReachesKeeping "r" later ∧
      later.steps = [] ∧ later.frames = [] ∧ later.state.current = .initial ∧
      later.state.holders.lookup (Text.ofString "r") = some ⟨.html, s.current⟩ ∧
      runStep later.state (.act (.call "r" (.construct .lineBreak))) =
        ⟨⟨.replied (.rendered "<br/>"), false, later.state⟩, []⟩ := by
  intro s wrong build outside before
  let after : State := s.keepHolder "r" ⟨.html, s.current⟩
  have hbuild : (build.perform s).Yields (.shown s.current.options, after) := rfl
  obtain ⟨hnext, base, r, -, hbase, -, hsame, -, hlater, -⟩ :=
    renderers_are_snapshots hbuild [.act .reset, .raise] [⟨.initial, outside⟩]
  obtain rfl : r = s.current := (hsame rfl).trans (hbase rfl).1
  have hspares : Moment.Spares "r" ⟨after, [.act .reset, .raise], [⟨.initial, outside⟩]⟩ := by
    have hne : Text.ofString "q" ≠ Text.ofString "r" := by decide
    refine ⟨⟨trivial, trivial, trivial⟩, List.forall_mem_singleton.mpr ?_⟩
    exact ⟨⟨trivial, trivial, trivial⟩, hne, trivial⟩
  let later : Moment := ⟨{ after with
    current := .initial, records := [("mine", ⟨4, {}⟩)], nextId := 5 }, [], []⟩
  have hrun : Moment.Reaches ⟨after, [.act .reset, .raise], [⟨.initial, outside⟩]⟩ later :=
    .head rfl (.head rfl (.head rfl (.head rfl (.head rfl (.head rfl (.head rfl (.single rfl)))))))
  have hkeeps := (hspares.reachesKeeping hrun).1
  obtain ⟨hkept, -, hcalls⟩ := hlater later hkeeps
  exact ⟨_, later, hnext, hkeeps, rfl, rfl, rfl, hkept, (hcalls (.construct .lineBreak)).2⟩

end MarkdownRender.Session
