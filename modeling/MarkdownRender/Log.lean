import MarkdownRender.Error

/-!
# The log

Operations that have something to report yield it beside their value: `Logged α` is a value
together with the events that led to it, the oldest first. Nothing reads the log, so an operation
means the same whether or not anybody listens.
-/

namespace MarkdownRender

/-- The root of the names of all channels. -/
def channelRoot : Text := "huellas"

/-- The channel for reports under `name`: names outside the root are nested under it. -/
def channelFor (name : Text) : Text :=
  if name = channelRoot || name.startsWith (channelRoot ++ ".") then name
  else channelRoot ++ "." ++ name

/-- What is reported. -/
inductive Event where
  /-- A link or image was dropped because its URL cannot be decoded. -/
  | malformedUrl (url : Text)
  /-- A link or image was dropped because of the scheme of its URL. -/
  | unsafeScheme (url : Text)
  /-- The highlighter failed, so the code is shown plain. -/
  | highlightingFailed (language : Option Text) (cause : Failure)
  /-- The packaged highlighter was asked for and is not there. -/
  | highlighterMissing
deriving DecidableEq

namespace Event

/-- The channel that an event is reported on. -/
def channel : Event → Text
  | malformedUrl _ | unsafeScheme _ => channelRoot ++ ".sanitize"
  | highlightingFailed _ _ => channelRoot ++ ".renderers.html"
  | highlighterMissing => channelRoot ++ ".highlighting"

/-- The severity of every event. -/
def level : Text := "DEBUG"

def message : Event → Text
  | malformedUrl url => "Rejected URL with malformed encoding: " ++ url.quoted
  | unsafeScheme url => "Rejected URL with unsafe scheme: " ++ url.quoted
  | highlightingFailed language _ =>
    "Syntax highlighting failed for language " ++ (language.map Text.quoted).getD "None"
  | highlighterMissing => "Rosettes not installed; syntax highlighting unavailable"

/-- The failure that is reported with the event. -/
def cause? : Event → Option Failure
  | highlightingFailed _ cause => some cause
  | _ => none

end Event

/-- A value and the events that led to it, the oldest first. -/
structure Logged (α : Type) where
  value : α
  events : List Event

namespace Logged

instance : Monad Logged where
  pure a := ⟨a, []⟩
  bind x f := ⟨(f x.value).value, x.events ++ (f x.value).events⟩

/-- Reports one event. -/
def report (event : Event) : Logged Unit := ⟨(), [event]⟩

@[simp] theorem value_pure {α : Type} (a : α) : (pure a : Logged α).value = a := rfl

@[simp] theorem events_pure {α : Type} (a : α) : (pure a : Logged α).events = [] := rfl

@[simp] theorem value_bind {α β : Type} (x : Logged α) (f : α → Logged β) :
    (x >>= f).value = (f x.value).value := rfl

@[simp] theorem events_bind {α β : Type} (x : Logged α) (f : α → Logged β) :
    (x >>= f).events = x.events ++ (f x.value).events := rfl

@[simp] theorem value_map {α β : Type} (f : α → β) (x : Logged α) :
    (f <$> x).value = f x.value := rfl

instance : LawfulMonad Logged := LawfulMonad.mk' _
  (fun _ => by simp [Functor.map])
  (fun _ _ => by simp [bind, pure])
  (fun _ _ _ => by simp [bind])

end Logged

/-- An operation that may report events and may be stopped by a fault; what was reported before
the fault stays reported. -/
abbrev Attempt := ExceptT Fault Logged

namespace Attempt

/-- An attempt that reports nothing. -/
def ofExcept {α : Type} (result : Except Fault α) : Attempt α := ExceptT.mk ⟨result, []⟩

/-- An attempt to make options. -/
def ofConfig {α : Type} (result : Except ConfigError α) : Attempt α :=
  ofExcept (result.mapError .config)

/-- The attempt is not stopped and gives `a`, whatever it reports. -/
def Yields {α : Type} (x : Attempt α) (a : α) : Prop := x.run.value = .ok a

/-- The attempt is stopped by a fault, whatever it reports. -/
def Stops {α : Type} (x : Attempt α) (fault : Fault) : Prop := x.run.value = .error fault

theorem yields_or_stops {α : Type} (x : Attempt α) : (∃ a, x.Yields a) ∨ ∃ fault, x.Stops fault := by
  cases h : x.run.value with
  | ok a => exact Or.inl ⟨a, h⟩
  | error fault => exact Or.inr ⟨fault, h⟩

theorem yields_pure {α : Type} (a : α) : Yields (pure a) a := rfl

theorem pure_inj {α : Type} {a b : α} : (pure a : Attempt α) = pure b ↔ a = b := by
  constructor
  · intro h
    have hyields : Yields (pure a) b := h ▸ yields_pure b
    exact Except.ok.inj hyields
  · rintro rfl
    rfl

theorem Yields.unique {α : Type} {x : Attempt α} {a b : α} (ha : x.Yields a) (hb : x.Yields b) :
    a = b :=
  Except.ok.inj (ha.symm.trans hb)

theorem yields_lift {α : Type} (x : Logged α) : Yields (liftM x : Attempt α) x.value := rfl

theorem Yields.bind {α β : Type} {x : Attempt α} {a : α} {f : α → Attempt β} {b : β}
    (hx : x.Yields a) (hf : (f a).Yields b) : Yields (x >>= f) b := by
  unfold Yields at hx hf ⊢
  rw [ExceptT.run_bind, Logged.value_bind, hx]
  exact hf

theorem Yields.exists_of_bind {α β : Type} {x : Attempt α} {f : α → Attempt β} {b : β}
    (h : Yields (x >>= f) b) : ∃ a, x.Yields a ∧ (f a).Yields b := by
  rcases x.yields_or_stops with ⟨a, hx⟩ | ⟨fault, hx⟩
  · refine ⟨a, hx, ?_⟩
    unfold Yields at hx h ⊢
    rwa [ExceptT.run_bind, Logged.value_bind, hx] at h
  · unfold Yields at h
    unfold Stops at hx
    rw [ExceptT.run_bind, Logged.value_bind, hx] at h
    cases h

theorem Stops.bind {α β : Type} {x : Attempt α} {fault : Fault} (hx : x.Stops fault)
    (f : α → Attempt β) : Stops (x >>= f) fault := by
  unfold Stops at hx ⊢
  rw [ExceptT.run_bind, Logged.value_bind, hx]
  rfl

/-- The attempt is not stopped, and what it gives satisfies `P`. -/
def Gives {α : Type} (x : Attempt α) (P : α → Prop) : Prop := ∃ a, x.Yields a ∧ P a

theorem gives_pure {α : Type} {P : α → Prop} {a : α} (h : P a) : Gives (pure a) P :=
  ⟨a, yields_pure a, h⟩

theorem gives_lift {α : Type} {P : α → Prop} {x : Logged α} (h : P x.value) :
    Gives (liftM x : Attempt α) P :=
  ⟨x.value, yields_lift x, h⟩

theorem Gives.bind {α β : Type} {x : Attempt α} {P : α → Prop} {f : α → Attempt β}
    {Q : β → Prop} (hx : x.Gives P) (hf : ∀ a, P a → (f a).Gives Q) : Gives (x >>= f) Q := by
  obtain ⟨a, hyields, ha⟩ := hx
  obtain ⟨b, hyields', hb⟩ := hf a ha
  exact ⟨b, hyields.bind hyields', hb⟩

theorem Gives.mono {α : Type} {x : Attempt α} {P Q : α → Prop} (hx : x.Gives P)
    (h : ∀ a, P a → Q a) : x.Gives Q := by
  obtain ⟨a, hyields, ha⟩ := hx
  exact ⟨a, hyields, h a ha⟩

end Attempt

end MarkdownRender
