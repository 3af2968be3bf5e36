import MarkdownRender.Proofs.Options.Equality
import MarkdownRender.Proofs.Session.Writes

/-!
# Identities of records

A record is told from others by its identity, and by nothing else: others may have the same options.
Identities are given out by a counter. All records that a session has at hand have been counted, and
no two of them have one identity (`Moment.Coherent`). One step brings at most one record to a
session, and that has been made with an identity from the counter if it was not at hand before
(`Moment.next_brings`), so both facts last (`Moment.Coherent.onward`).

A step that is stopped by a fault gives back the counter that it found, and with it the identity of
a record that it had already made. Nothing is left of that record. But nothing is to depend on the
counter being given back either, so a session may also pass over identities (`Moment.GoesOn`).
-/

namespace MarkdownRender.Session

/-! ### Records that are made -/

/-- A record is made: from a map, or by a merge of a map that has entries. -/
inductive State.Makes (s : State) (r : Record) (after : State) : Prop
  | fromMap (map : Logged OptionMap) (h : (Source.resolve s (.fresh map)).Yields (r, after))
  | byMerge (base : Record) (overrides : OptionMap) (hne : overrides.entries ≠ [])
      (h : (s.merge base overrides).Yields (r, after))

theorem State.Makes.made {s after : State} {r : Record} (h : s.Makes r after) : s.Made r after := by
  cases h with
  | fromMap map h =>
    rcases resolve_cases h with ⟨name, hnamed, -⟩ | ⟨map', -, -, hmade⟩
    · cases hnamed
    · exact hmade
  | byMerge base overrides hne h =>
    rcases merge_cases h with ⟨hempty, -⟩ | ⟨-, -, hmade⟩
    · exact absurd hempty hne
    · exact hmade

/-- The source that a step takes a record from. -/
def Step.source? : Step → Option Source
  | .act (.set source) | .act (.options _ source) | .block source _ => some source
  | .act (.new _ _ source _) => source
  | _ => none

/-- A step makes a record on its way, whether or not it is stopped later. -/
inductive Step.Makes (s : State) : Step → Record → Prop
  | source (step : Step) (map : Logged OptionMap) {r : Record} {after : State}
      (hsource : step.source? = some (.fresh map))
      (h : (Source.resolve s (.fresh map)).Yields (r, after)) : Makes s step r
  | merge (name : Text) (overrides : Logged OptionMap) (result : Option Text) {base r : Record}
      {after : State} (hbase : (s.record name).Yields base) (hne : overrides.value.entries ≠ [])
      (h : (s.merge base overrides.value).Yields (r, after)) :
    Makes s (.act (.merge name overrides result)) r
  | overrides (name : Text) (format : Format) (source : Option Source)
      (overrides : Logged OptionMap) {base r : Record} {entered after : State}
      (hbase : (s.base source).Yields (base, entered)) (hne : overrides.value.entries ≠ [])
      (h : (entered.merge base overrides.value).Yields (r, after)) :
    Makes s (.act (.new name format source overrides)) r

theorem State.nextId_le_of_merge {s after : State} {r r' : Record} {map : OptionMap}
    (h : (s.merge r map).Yields (r', after)) : s.nextId ≤ after.nextId := by
  rcases merge_cases h with ⟨-, -, rfl⟩ | ⟨-, -, hmade⟩
  · exact Nat.le_refl _
  · rw [hmade.after_eq]
    exact Nat.le_succ _

namespace Step.Makes

variable {s after : State} {r : Record} {reply : Reply}

/-- The identity of a record comes from the counter. -/
theorem nextId_le {step : Step} (h : step.Makes s r) : s.nextId ≤ r.id := by
  cases h with
  | source step map hsource h =>
    exact Nat.le_of_eq (State.Makes.fromMap map h).made.id_eq.symm
  | merge name overrides result hbase hne h =>
    exact Nat.le_of_eq (State.Makes.byMerge _ _ hne h).made.id_eq.symm
  | overrides name format source overrides hbase hne h =>
    obtain ⟨n, htakes, rfl⟩ := State.takes_of_base hbase
    rw [(State.Makes.byMerge _ _ hne h).made.id_eq]
    exact htakes.le

/-- An action that is not stopped counts the records that it makes. -/
theorem lt_nextId {action : Action} (h : Step.Makes s (.act action) r)
    (hperform : (action.perform s).Yields (reply, after)) : r.id < after.nextId := by
  cases h with
  | source step map hsource h =>
    have hlt := (State.Makes.fromMap map h).made.id_lt
    cases action with
    | set source =>
      cases hsource
      obtain ⟨⟨r', entered⟩, hresolve, hset⟩ := hperform.exists_of_bind
      cases h.unique hresolve
      cases hset
      exact hlt
    | options name source =>
      cases hsource
      obtain ⟨⟨r', entered⟩, hresolve, hkeep⟩ := hperform.exists_of_bind
      cases h.unique hresolve
      cases hkeep
      exact hlt
    | new name format source overrides =>
      obtain rfl : source = some (.fresh map) := hsource
      obtain ⟨base, entered, r', merged, hbase, hmerge, -, rfl⟩ := Action.new_cases hperform
      cases h.unique hbase
      have hle := State.nextId_le_of_merge hmerge
      exact Nat.lt_of_lt_of_le hlt hle
    | _ => cases hsource
  | merge name overrides result hbase hne h =>
    have hlt := (State.Makes.byMerge _ _ hne h).made.id_lt
    obtain ⟨base, hbase', hmerging⟩ := hperform.exists_of_bind
    obtain rfl := hbase.unique hbase'
    obtain ⟨map, hmap, hmerging⟩ := hmerging.exists_of_bind
    obtain rfl : overrides.value = map := Except.ok.inj hmap
    obtain ⟨⟨r', merged⟩, hmerge, hreply⟩ := hmerging.exists_of_bind
    cases h.unique hmerge
    cases result with
    | none =>
      cases hreply
      exact hlt
    | some result =>
      cases hreply
      exact hlt
  | overrides name format source overrides hbase hne h =>
    have hlt := (State.Makes.byMerge _ _ hne h).made.id_lt
    obtain ⟨base, entered, r', merged, hbase', hmerge, -, rfl⟩ := Action.new_cases hperform
    cases hbase.unique hbase'
    cases h.unique hmerge
    exact hlt

end Step.Makes

/-! ### Records at hand -/

namespace State

variable {s : State} {r r' : Record} {n : Nat}

theorem Has.of_setCurrent (h : State.Has { s with current := r, nextId := n } r') :
    s.Has r' ∨ r' = r := by
  rcases h with hinitial | hcurrent | hkept
  · exact Or.inl (Or.inl hinitial)
  · exact Or.inr hcurrent
  · exact Or.inl (Or.inr (Or.inr hkept))

theorem Has.of_keep {name : Text} (h : (s.keep name r).Has r') : s.Has r' ∨ r' = r := by
  rcases h with hinitial | hcurrent | ⟨name', hmem⟩ | hholder
  · exact Or.inl (Or.inl hinitial)
  · exact Or.inl (Or.inr (Or.inl hcurrent))
  · rcases List.mem_cons.mp hmem with heq | hmem
    · exact Or.inr (Prod.mk.inj heq).2
    · exact Or.inl (Or.inr (Or.inr (Or.inl ⟨name', hmem⟩)))
  · exact Or.inl (Or.inr (Or.inr (Or.inr hholder)))

theorem Has.of_keepHolder {name : Text} {format : Format}
    (h : (s.keepHolder name ⟨format, r⟩).Has r') : s.Has r' ∨ r' = r := by
  rcases h with hinitial | hcurrent | hkept | ⟨name', holder, hmem, rfl⟩
  · exact Or.inl (Or.inl hinitial)
  · exact Or.inl (Or.inr (Or.inl hcurrent))
  · exact Or.inl (Or.inr (Or.inr (Or.inl hkept)))
  · rcases List.mem_cons.mp hmem with heq | hmem
    · cases heq
      exact Or.inr rfl
    · exact Or.inl (Or.inr (Or.inr (Or.inr ⟨name', holder, hmem, rfl⟩)))

end State

/-- An action that is not stopped brings one record at most, which was at hand or has been made. -/
theorem Action.Writes.brings {s after : State} {action : Action} (h : action.Writes s after) :
    ∃ brought n, s.Takes brought n ∧ after.nextId = n ∧
      ∀ r, after.Has r → s.Has r ∨ r = brought := by
  cases h with
  | counter action hle =>
    exact ⟨.initial, _, ⟨hle, Or.inl (Or.inl rfl)⟩, rfl, fun r hr => Or.inl hr⟩
  | current action htakes => exact ⟨_, _, htakes, rfl, fun r hr => hr.of_setCurrent⟩
  | record action htakes name => exact ⟨_, _, htakes, rfl, fun r hr => hr.of_keep⟩
  | holder htakes => exact ⟨_, _, htakes, rfl, fun r hr => hr.of_keepHolder⟩

/-! ### Moments -/

namespace Moment

/-- A session has a record at hand, or it will give it back when a block or a thread is left. -/
def Holds (m : Moment) (r : Record) : Prop := m.state.Has r ∨ ∃ frame ∈ m.frames, frame.found = r

/-- The next step makes a record on its way. -/
def Makes (m : Moment) (r : Record) : Prop :=
  ∃ step rest, m.steps = step :: rest ∧ step.Makes m.state r

/-- The session has passed over the identities before `n`. -/
def passTo (m : Moment) (n : Nat) : Moment := { m with state := { m.state with nextId := n } }

/-- One step is taken, and perhaps identities are passed over. -/
def GoesOn (m m' : Moment) : Prop :=
  ∃ after n, m.next = some after ∧ after.state.nextId ≤ n ∧ m' = after.passTo n

/-- A moment comes after another, or is the same, whatever identities are passed over. -/
def Onward : Moment → Moment → Prop := Relation.ReflTransGen GoesOn

variable {m m' : Moment} {r : Record}

/-- A record that is taken comes with the moment, or has been made. -/
def Takes (m : Moment) (r : Record) (n : Nat) : Prop :=
  m.state.nextId ≤ n ∧ (m.Holds r ∨ m.state.nextId ≤ r.id ∧ r.id < n)

theorem takes_of_state {n : Nat} (h : m.state.Takes r n) : m.Takes r n :=
  ⟨h.le, h.has_or_new.imp_left Or.inl⟩

theorem takes_of_holds (h : m.Holds r) : m.Takes r m.state.nextId := ⟨Nat.le_refl _, Or.inl h⟩

/-- **One step brings one record at most**, which was at hand or has been made. -/
theorem next_brings (h : m.next = some m') :
    ∃ brought, m.Takes brought m'.state.nextId ∧ ∀ r, m'.Holds r → m.Holds r ∨ r = brought := by
  cases moves_of_next h with
  | left s frame outer =>
    refine ⟨frame.found, takes_of_holds (Or.inr ⟨frame, List.mem_cons_self, rfl⟩), ?_⟩
    rintro r (hr | ⟨other, hmem, rfl⟩)
    · exact hr.of_setCurrent.imp_left Or.inl
    · exact Or.inl (Or.inr ⟨other, List.mem_cons_of_mem _ hmem, rfl⟩)
  | acted hperform rest frames =>
    obtain ⟨brought, n, htakes, rfl, hbrings⟩ := (Action.writes_of_yields hperform).brings
    refine ⟨brought, takes_of_state htakes, ?_⟩
    rintro r (hr | hframe)
    · exact (hbrings r hr).imp_left Or.inl
    · exact Or.inl (Or.inr hframe)
  | @entered s after source taken hresolve body rest frames =>
    obtain ⟨n, htakes, rfl⟩ := State.takes_of_resolve hresolve
    refine ⟨taken, takes_of_state htakes, ?_⟩
    rintro r (hr | ⟨frame, hmem, rfl⟩)
    · exact hr.of_setCurrent.imp_left Or.inl
    · rcases List.mem_cons.mp hmem with rfl | hmem
      · exact Or.inl (Or.inl (Or.inr (Or.inl rfl)))
      · exact Or.inl (Or.inr ⟨frame, hmem, rfl⟩)
  | started s body rest frames =>
    refine ⟨.initial, takes_of_holds (Or.inl (Or.inl rfl)), ?_⟩
    rintro r (hr | ⟨frame, hmem, rfl⟩)
    · exact hr.of_setCurrent.imp_left Or.inl
    · rcases List.mem_cons.mp hmem with rfl | hmem
      · exact Or.inl (Or.inl (Or.inr (Or.inl rfl)))
      · exact Or.inl (Or.inr ⟨frame, hmem, rfl⟩)
  | failed => exact ⟨.initial, takes_of_holds (Or.inl (Or.inl rfl)), fun r hr => Or.inl hr⟩
  | raised => exact ⟨.initial, takes_of_holds (Or.inl (Or.inl rfl)), fun r hr => Or.inl hr⟩

/-- The next step is stopped by a fault. -/
def Fails (m : Moment) : Prop :=
  ∃ step rest fault, m.steps = step :: rest ∧ (runStep m.state step).value.answer = .failed fault

/-- A step counts the records that it makes, unless it is stopped. -/
theorem Makes.lt_or_fails (hmakes : m.Makes r) (hnext : m.next = some m') :
    r.id < m'.state.nextId ∨ m.Fails := by
  obtain ⟨step, rest, hsteps, hmakes⟩ := hmakes
  cases moves_of_next hnext with
  | left => cases hsteps
  | acted hperform =>
    cases hsteps
    exact Or.inl (hmakes.lt_nextId hperform)
  | entered hresolve =>
    cases hsteps
    cases hmakes with
    | source step map hsource h =>
      cases hsource
      cases h.unique hresolve
      exact Or.inl (State.Makes.fromMap map h).made.id_lt
  | started =>
    cases hsteps
    cases hmakes with
    | source step map hsource h => cases hsource
  | failed h => exact Or.inr ⟨_, _, _, rfl, h⟩
  | raised =>
    cases hsteps
    cases hmakes with
    | source step map hsource h => cases hsource

/-! ### Coherence -/

/-- All records of a session have been counted, and no two of them have one identity. -/
structure Coherent (m : Moment) : Prop where
  counted : ∀ r, m.Holds r → r.id < m.state.nextId
  unique : ∀ r r', m.Holds r → m.Holds r' → r.id = r'.id → r = r'

theorem coherent_start (steps : List Step) : Coherent ⟨{}, steps, []⟩ := by
  have hinitial : ∀ r, Holds ⟨{}, steps, []⟩ r → r = .initial := by
    rintro r ((rfl | rfl | ⟨name, hmem⟩ | ⟨name, holder, hmem, -⟩) | ⟨frame, hmem, -⟩)
    · rfl
    · rfl
    · cases hmem
    · cases hmem
    · cases hmem
  refine ⟨fun r hr => ?_, fun r r' hr hr' _ => (hinitial r hr).trans (hinitial r' hr').symm⟩
  obtain rfl := hinitial r hr
  exact Nat.one_pos

/-- **One step keeps identities coherent.** -/
theorem Coherent.next (h : m.Coherent) (hnext : m.next = some m') : m'.Coherent := by
  obtain ⟨brought, ⟨hle, hbrought⟩, hheld⟩ := next_brings hnext
  have hcounted : ∀ r, m.Holds r → r.id < m'.state.nextId :=
    fun r hr => Nat.lt_of_lt_of_le (h.counted r hr) hle
  have hlast : ∀ r, m.Holds r → r.id = brought.id → r = brought := by
    intro r hr hid
    rcases hbrought with hheld | ⟨hnew, -⟩
    · exact h.unique r brought hr hheld hid
    · exact absurd (hid ▸ h.counted r hr) (Nat.not_lt.mpr hnew)
  refine ⟨fun r hr => ?_, fun r r' hr hr' hid => ?_⟩
  · rcases hheld r hr with hr | rfl
    · exact hcounted r hr
    · exact hbrought.elim (hcounted r) And.right
  · rcases hheld r hr with hr | rfl <;> rcases hheld r' hr' with hr' | rfl
    · exact h.unique r r' hr hr' hid
    · exact hlast r hr hid
    · exact (hlast r' hr' hid.symm).symm
    · rfl

theorem Coherent.passTo (h : m.Coherent) {n : Nat} (hle : m.state.nextId ≤ n) :
    (m.passTo n).Coherent :=
  ⟨fun r hr => Nat.lt_of_lt_of_le (h.counted r hr) hle, h.unique⟩

theorem GoesOn.nextId_le (h : m.GoesOn m') : m.state.nextId ≤ m'.state.nextId := by
  obtain ⟨after, n, hnext, hle, rfl⟩ := h
  obtain ⟨brought, htakes, -⟩ := next_brings hnext
  exact Nat.le_trans htakes.1 hle

theorem Onward.nextId_le (h : m.Onward m') : m.state.nextId ≤ m'.state.nextId := by
  induction h with
  | refl => exact Nat.le_refl _
  | tail _ hstep ih => exact Nat.le_trans ih hstep.nextId_le

/-- **A run keeps identities coherent**, whatever identities are passed over. -/
theorem Coherent.onward (h : m.Coherent) (hrun : m.Onward m') : m'.Coherent := by
  induction hrun with
  | refl => exact h
  | tail _ hstep ih =>
    obtain ⟨after, n, hnext, hle, rfl⟩ := hstep
    exact (ih.next hnext).passTo hle

/-- The runner passes over no identities. -/
theorem Reaches.onward (h : m.Reaches m') : m.Onward m' :=
  Relation.ReflTransGen.mono
    (fun _ after hnext => ⟨after, after.state.nextId, hnext, Nat.le_refl _, rfl⟩) m m' h

/-! ### New identities -/

/-- Whatever identities are passed over, the records that a step has made have other identities than
those that are given out later, unless the step was stopped and they are gone. -/
theorem Makes.lt_or_gone (hmakes : m.Makes r) (hm : m.Coherent) (hgoes : m.GoesOn m') :
    r.id < m'.state.nextId ∨ m.Fails ∧ m'.state.nextId ≤ r.id ∧ ¬ m'.Holds r := by
  have hcounted := (hm.onward (.single hgoes)).counted r
  by_cases hlt : r.id < m'.state.nextId
  · exact Or.inl hlt
  · obtain ⟨after, n, hnext, hle, rfl⟩ := hgoes
    rcases hmakes.lt_or_fails hnext with hless | hfails
    · exact absurd (Nat.lt_of_lt_of_le hless hle) hlt
    · exact Or.inr ⟨hfails, Nat.not_lt.mp hlt, fun hheld => hlt (hcounted hheld)⟩

end Moment

/-! ### The very same record -/

/-- Where a record is handed on, it is the very same record. -/
structure State.HandsOn (s : State) : Prop where
  named : ∀ name r, s.records.lookup name = some r → (Source.resolve s (.named name)).Yields (r, s)
  merge : ∀ r map, map.entries = [] → (s.merge r map).Yields (r, s)
  mergeKept : ∀ name r, s.records.lookup name = some r →
    ∀ overrides : Logged OptionMap, overrides.value.entries = [] → ∀ result,
      (Action.perform s (.merge name overrides (some result))).Yields
        (.merged r.options true, s.keep result r)
  set : ∀ source r after, (source.resolve s).Yields (r, after) →
    (Action.perform s (.set source)).Yields (.shown r.options, { after with current := r })
  options : ∀ source r after, (source.resolve s).Yields (r, after) →
    ∀ name, (Action.perform s (.options name source)).Yields (.shown r.options, after.keep name r)
  keep : ∀ name, (Action.perform s (.keep name)).Yields
    (.shown s.current.options, s.keep name s.current)
  renderer : ∀ source base entered, (s.base source).Yields (base, entered) →
    ∀ overrides : Logged OptionMap, overrides.value.entries = [] → ∀ name format,
      (Action.perform s (.new name format source overrides)).Yields
        (.shown base.options, entered.keepHolder name ⟨format, base⟩)
  default : (s.base none).Yields (s.current, s)
  enter : ∀ source r after, (source.resolve s).Yields (r, after) → ∀ body rest frames,
    Moment.next ⟨s, .block source body :: rest, frames⟩ =
      some ⟨{ after with current := r }, body, ⟨s.current, rest⟩ :: frames⟩
  leave : ∀ source body, (runStep s (.block source body)).value.state.current = s.current

theorem State.handsOn (s : State) : s.HandsOn := by
  have hnamed : ∀ name r, s.records.lookup name = some r → (s.record name).Yields r := by
    intro name r hlookup
    unfold State.record
    rw [hlookup]
    exact Attempt.yields_pure r
  have hmerge : ∀ (s : State) r map, map.entries = [] → (s.merge r map).Yields (r, s) := by
    intro s r map hempty
    unfold State.merge
    rw [if_pos (List.isEmpty_iff.mpr hempty)]
    exact Attempt.yields_pure (r, s)
  exact {
    named := fun name r hlookup => (hnamed name r hlookup).bind (Attempt.yields_pure _)
    merge := hmerge s
    mergeKept := fun name r hlookup overrides hempty result => by
      refine (hnamed name r hlookup).bind ((Attempt.yields_lift overrides).bind
        ((hmerge s r overrides.value hempty).bind ?_))
      simp only [decide_true]
      exact Attempt.yields_pure _
    set := fun source r after h => h.bind (Attempt.yields_pure _)
    options := fun source r after h name => h.bind (Attempt.yields_pure _)
    keep := fun name => Attempt.yields_pure _
    renderer := fun source base entered hbase overrides hempty name format =>
      hbase.bind ((Attempt.yields_lift overrides).bind
        ((hmerge entered base overrides.value hempty).bind (Attempt.yields_pure _)))
    default := Attempt.yields_pure _
    enter := fun source r after h => Moment.next_block h
    leave := fun source body => by
      rcases (source.resolve s).yields_or_stops with ⟨⟨r, after⟩, h⟩ | ⟨fault, h⟩
      · rw [runStep_block h]
      · rw [runStep_block_of_stops h] }

/-- **Identities of records are coherent.** Of the records that a session has at hand, be it as its
default, kept, in a renderer, or to be given back when a block or a thread is left, those with one
identity are one record: they have the same options and are equal. A record that is made from a map,
or by a merge with entries, has an identity that no record has had that was at hand before. It also
differs from every record that has been made before, in earlier steps and in the same one. The one
exception is a record that is gone with the step that made it, because that was stopped, and whose
identity has been given back. Merges without entries, renderers without overrides, new defaults,
kept records and blocks have the very record that they are given. -/
theorem record_identity_is_coherent (steps : List Step) {m : Moment}
    (hm : Moment.Onward ⟨{}, steps, []⟩ m) :
    (∀ r r', m.Holds r → m.Holds r' → r.id = r'.id → r = r' ∧ r.options.same r'.options) ∧
    (∀ n, m.state.nextId ≤ n → ∀ r after, State.Makes (m.passTo n).state r after →
      (∀ earlier, Moment.Onward ⟨{}, steps, []⟩ earlier → earlier.Onward m →
        ∀ r', earlier.Holds r' → r'.id ≠ r.id) ∧
      (∀ y z, Moment.Onward ⟨{}, steps, []⟩ y → y.GoesOn z → z.Onward m →
        ∀ r', y.Makes r' → r'.id ≠ r.id ∨ y.Fails ∧ z.state.nextId ≤ r'.id ∧ ¬ z.Holds r') ∧
      ∀ r' after', after.Makes r' after' → r'.id ≠ r.id) ∧
    m.state.HandsOn := by
  have hstart := Moment.coherent_start steps
  have hcoherent := hstart.onward hm
  refine ⟨fun r r' hr hr' hid => ?_, fun n hn r after hmakes => ?_, m.state.handsOn⟩
  · obtain rfl := hcoherent.unique r r' hr hr' hid
    exact ⟨rfl, r.options.same_self⟩
  · have hnew : m.state.nextId ≤ r.id := Nat.le_trans hn (Nat.le_of_eq hmakes.made.id_eq.symm)
    -- what was counted at an earlier moment is below the counter now
    have hold : ∀ {earlier : Moment} {r' : Record}, earlier.Onward m →
        r'.id < earlier.state.nextId → r'.id ≠ r.id := fun hlater hlt =>
      Nat.ne_of_lt (Nat.lt_of_lt_of_le hlt (Nat.le_trans hlater.nextId_le hnew))
    refine ⟨fun earlier hearlier hlater r' hr' => ?_, fun y z hy hgoes hz r' hr' => ?_, ?_⟩
    · exact hold hlater ((hstart.onward hearlier).counted r' hr')
    · exact (hr'.lt_or_gone (hstart.onward hy) hgoes).imp_left (hold hz)
    · intro r' after' hmakes'
      have hlt := hmakes.made.id_lt
      rw [← hmakes'.made.id_eq] at hlt
      exact (Nat.ne_of_lt hlt).symm

/-- A block with a kept record as its default, in which a renderer is built on the default and a map
is merged that names no option. -/
theorem record_identity_is_coherent_inside_block :
    let unknown : Logged OptionMap := pure (OptionMap.ofList [("color", .int 1)])
    let steps : List Step := [.act (.options "a" (.fresh (pure .empty))),
      .block (.named "a") [.act (.new "r" .html none (pure .empty)),
        .act (.merge "a" unknown (some "b"))]]
    ∃ (m : Moment) (kept merged : Record), Moment.Onward ⟨{}, steps, []⟩ m ∧
      m.state.current = kept ∧ m.state.holders = [(Text.ofString "r", ⟨.html, kept⟩)] ∧
      m.state.records = [(Text.ofString "b", merged), (Text.ofString "a", kept)] ∧
      merged.options = kept.options ∧ merged.id ≠ kept.id ∧
      (∀ r, m.Holds r → r.id = kept.id → r = kept ∧ r.options.same kept.options) ∧
      ∀ r after, (Source.resolve m.state (.fresh (pure .empty))).Yields (r, after) →
        r.options = kept.options ∧ r.id ≠ kept.id ∧ r.id ≠ merged.id ∧
          r.id ≠ Record.initial.id := by
  intro unknown steps
  let kept : Record := ⟨1, {}⟩
  let merged : Record := ⟨2, {}⟩
  let m : Moment := ⟨{
    current := kept, records := [("b", merged), ("a", kept)],
    holders := [("r", ⟨.html, kept⟩)], nextId := 3 }, [], [⟨.initial, []⟩]⟩
  have hrun : Moment.Onward ⟨{}, steps, []⟩ m :=
    Moment.Reaches.onward (.head rfl (.head rfl (.head rfl (.single rfl))))
  obtain ⟨hsame, hmade, -⟩ := record_identity_is_coherent steps hrun
  have hkept : m.Holds kept := Or.inl (Or.inr (Or.inl rfl))
  have hmerged : m.Holds merged := Or.inl (Or.inr (Or.inr (Or.inl ⟨"b", List.mem_cons_self⟩)))
  have hinitial : m.Holds .initial := Or.inl (Or.inl rfl)
  refine ⟨m, kept, merged, hrun, rfl, rfl, rfl, rfl, by decide,
    fun r hr => hsame r kept hr hkept, ?_⟩
  intro r after hresolve
  have hoptions : r.options = {} := by
    cases hresolve
    rfl
  obtain ⟨hnew, -, -⟩ := hmade 3 (Nat.le_refl _) r after (.fromMap _ hresolve)
  have hdiffers : ∀ r', m.Holds r' → r.id ≠ r'.id := fun r' hr' => (hnew m hrun .refl r' hr').symm
  exact ⟨hoptions, hdiffers _ hkept, hdiffers _ hmerged, hdiffers _ hinitial⟩

end MarkdownRender.Session
