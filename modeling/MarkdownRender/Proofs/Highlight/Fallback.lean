import MarkdownRender.Proofs.Html.CodeBlocks

/-!
# Highlighted code blocks

A callback is foreign code: for each piece of code it may fail, leave the code to the renderer, or
write markup of its own. The renderer makes the same of it in every case: the block that it would
make without a highlighter, around the code in the first two cases and around the markup in the
third. A failure is reported, and is the only thing that is.

The callback of a highlighter asks two foreign functions. What each of them may answer is sorted
into the three cases (`fails_toCallback_iff` and the lemmas behind it). The packaged highlighter
differs in the first question: where that fails, the language counts as not supported.
-/

namespace MarkdownRender

/-! ### What a callback may answer -/

namespace Callback

variable (callback : Callback) (code : Text) (language : Option Text)

/-- The callback fails. -/
def Fails (cause : Failure) : Prop := callback.run code language = .error cause

/-- The callback leaves the code to the renderer: it has nothing to say, or gives the code back. -/
def Declines : Prop :=
  callback.run code language = .ok none ∨ callback.run code language = .ok (some code)

/-- The callback has markup of its own. -/
def Writes (markup : Text) : Prop :=
  callback.run code language = .ok (some markup) ∧ markup ≠ code

/-- There is no fourth case. -/
theorem fails_or_declines_or_writes :
    (∃ cause, callback.Fails code language cause) ∨ callback.Declines code language ∨
      ∃ markup, callback.Writes code language markup := by
  unfold Fails Declines Writes
  rcases callback.run code language with cause | _ | markup
  · exact Or.inl ⟨cause, rfl⟩
  · exact Or.inr (Or.inl (Or.inl rfl))
  · by_cases h : markup = code
    · exact Or.inr (Or.inl (Or.inr (h ▸ rfl)))
    · exact Or.inr (Or.inr ⟨markup, rfl, h⟩)

end Callback

/-! ### Callbacks of highlighters -/

namespace Highlighter

variable {h : Highlighter} {identity : Nat} {code name markup : Text} {language : Option Text}
  {cause : Failure}

/-- Code without a language is the only code that no highlighter is asked about. -/
theorem answer_cases (h : Highlighter) (code : Text) (language : Option Text) :
    ((language = none ∨ language = some []) ∧ h.answer code language = .ok none) ∨
      ∃ name, language = some name ∧ name ≠ [] ∧
        h.answer code language = (h.supports name).bind fun known =>
          if known then (h.highlight code name).map some else .ok none := by
  rcases language with _ | _ | ⟨c, rest⟩
  · exact Or.inl ⟨Or.inl rfl, rfl⟩
  · exact Or.inl ⟨Or.inr rfl, rfl⟩
  · refine Or.inr ⟨c :: rest, rfl, List.cons_ne_nil c rest, ?_⟩
    rcases hsupports : h.supports (c :: rest) with e | _ | _ <;>
      rcases hmarkup : h.highlight code (c :: rest) with e' | markup <;>
        simp [answer, bind, pure, Except.bind, Except.pure, Except.map, hsupports, hmarkup]

/-- The callback fails where either question does; the second one is asked for supported languages
only. -/
theorem fails_toCallback_iff :
    (h.toCallback identity).Fails code language cause ↔
      ∃ name, language = some name ∧ name ≠ [] ∧
        (h.supports name = .error cause ∨
          h.supports name = .ok true ∧ h.highlight code name = .error cause) := by
  show h.answer code language = .error cause ↔ _
  rcases h.answer_cases code language with ⟨hnone, hanswer⟩ | ⟨name, rfl, hname, hanswer⟩
  · rcases hnone with rfl | rfl <;> simp [hanswer]
  · rw [hanswer]
    rcases hsupports : h.supports name with e | _ | _ <;>
      rcases hmarkup : h.highlight code name with e' | markup <;>
        simp [Except.bind, Except.map, hname, hsupports, hmarkup]

theorem writes_toCallback_iff :
    (h.toCallback identity).Writes code language markup ↔
      ∃ name, language = some name ∧ name ≠ [] ∧ h.supports name = .ok true ∧
        h.highlight code name = .ok markup ∧ markup ≠ code := by
  show h.answer code language = .ok (some markup) ∧ markup ≠ code ↔ _
  rcases h.answer_cases code language with ⟨hnone, hanswer⟩ | ⟨name, rfl, hname, hanswer⟩
  · rcases hnone with rfl | rfl <;> simp [hanswer]
  · rw [hanswer]
    rcases hsupports : h.supports name with e | _ | _ <;>
      rcases hmarkup : h.highlight code name with e' | markup' <;>
        simp [Except.bind, Except.map, hname, hsupports, hmarkup]

/-! A highlighter that unwraps its blocks never fails to say whether it supports a language. -/

theorem supports_unwrapping_eq_true_iff :
    h.unwrapping.supports name = .ok true ↔ h.supports name = .ok true := by
  rcases hsupports : h.supports name with e | known <;> simp [unwrapping, hsupports]

theorem supports_unwrapping_ne_error : h.unwrapping.supports name ≠ .error cause :=
  fun h => by cases h

theorem highlight_unwrapping_eq_error_iff :
    h.unwrapping.highlight code name = .error cause ↔ h.highlight code name = .error cause := by
  rcases hmarkup : h.highlight code name with e | block <;> simp [unwrapping, hmarkup, Except.map]

theorem highlight_unwrapping_eq_ok_iff :
    h.unwrapping.highlight code name = .ok markup ↔
      ∃ block, h.highlight code name = .ok block ∧ markup = CodeBlock.unwrap block := by
  rcases hmarkup : h.highlight code name with e | block <;>
    simp [unwrapping, hmarkup, Except.map, eq_comm]

/-- The packaged highlighter fails only where the second question does. -/
theorem fails_unwrapping_iff :
    (h.unwrapping.toCallback identity).Fails code language cause ↔
      ∃ name, language = some name ∧ name ≠ [] ∧ h.supports name = .ok true ∧
        h.highlight code name = .error cause := by
  simp only [fails_toCallback_iff, supports_unwrapping_ne_error, false_or,
    supports_unwrapping_eq_true_iff, highlight_unwrapping_eq_error_iff]

theorem writes_unwrapping_iff :
    (h.unwrapping.toCallback identity).Writes code language markup ↔
      ∃ name, language = some name ∧ name ≠ [] ∧ h.supports name = .ok true ∧
        (∃ block, h.highlight code name = .ok block ∧ markup = CodeBlock.unwrap block) ∧
          markup ≠ code := by
  simp only [writes_toCallback_iff, supports_unwrapping_eq_true_iff,
    highlight_unwrapping_eq_ok_iff]

/-- Where the packaged highlighter cannot say whether it supports a language, it does not. -/
theorem declines_unwrapping (hsupports : h.supports name = .error cause) :
    (h.unwrapping.toCallback identity).Declines code (some name) := by
  rcases (h.unwrapping.toCallback identity).fails_or_declines_or_writes code (some name) with
    ⟨cause', hfails⟩ | hdeclines | ⟨markup, hwrites⟩
  · obtain ⟨name', hname, -, hknown, -⟩ := fails_unwrapping_iff.mp hfails
    cases hname
    cases hsupports.symm.trans hknown
  · exact hdeclines
  · obtain ⟨name', hname, -, hknown, -⟩ := writes_unwrapping_iff.mp hwrites
    cases hname
    cases hsupports.symm.trans hknown

end Highlighter

/-! ### The renderer -/

namespace Html

variable {o : RenderOptions} {callback : Callback} {code markup : Text} {language : Option Text}
  {cause : Failure}

theorem highlighted_of_fails (ho : o.highlight = some callback)
    (h : callback.Fails code language cause) :
    highlighted o code language = ⟨none, [.highlightingFailed language cause]⟩ := by
  unfold Callback.Fails at h
  simp only [highlighted, ho, h]
  rfl

theorem highlighted_of_declines (ho : o.highlight = some callback)
    (h : callback.Declines code language) : highlighted o code language = pure none := by
  rcases h with h | h <;> simp [highlighted, ho, h, Option.filter]

theorem highlighted_of_writes (ho : o.highlight = some callback)
    (h : callback.Writes code language markup) :
    highlighted o code language = pure (some markup) := by
  obtain ⟨hrun, hmarkup⟩ := h
  simp [highlighted, ho, hrun, hmarkup, Option.filter]

/-- The renderer of HTML with the given highlighter, or with none, and the other options as they
are. -/
def rendererWith (o : RenderOptions) (highlight : Option Callback) : Renderer :=
  ⟨.html, { o with highlight }⟩

theorem construct_plain (o : RenderOptions) (code : Text) (language : Option Text)
    (escaped : Bool) :
    (rendererWith o none).construct (.code code language escaped) =
      pure (codeBlock o (if escaped then code else escape code) language) :=
  construct_code_plain o code language escaped

theorem construct_of_fails (o : RenderOptions) (h : callback.Fails code language cause)
    (escaped : Bool) :
    ((rendererWith o (some callback)).construct (.code code language escaped)).run =
      ⟨((rendererWith o none).construct (.code code language escaped)).run.value,
        [.highlightingFailed language cause]⟩ := by
  rw [construct_plain]
  show Except.ok <$> Html.code { o with highlight := some callback } code language escaped = _
  rw [Html.code, highlighted_of_fails rfl h]
  rfl

theorem construct_of_declines (o : RenderOptions) (h : callback.Declines code language)
    (escaped : Bool) :
    (rendererWith o (some callback)).construct (.code code language escaped) =
      (rendererWith o none).construct (.code code language escaped) := by
  show (liftM (Html.code { o with highlight := some callback } code language escaped) :
    Attempt Text) = _
  rw [construct_plain, Html.code, highlighted_of_declines rfl h]
  rfl

theorem construct_of_writes (o : RenderOptions) (h : callback.Writes code language markup)
    (escaped : Bool) :
    (rendererWith o (some callback)).construct (.code code language escaped) =
      (rendererWith o none).construct (.code markup language true) := by
  show (liftM (Html.code { o with highlight := some callback } code language escaped) :
    Attempt Text) = _
  rw [construct_plain, Html.code, highlighted_of_writes rfl h]
  rfl

/-- **Highlighting replaces the body of a code block or changes nothing.** A renderer with a
highlighter always has a block for a piece of code. It is the block of the renderer without one
if the callback fails or declines, and the block of that renderer around the callback's own markup
otherwise. Exactly one event is reported where the callback fails, with the failure attached, and
none where it does not. For the callback of a highlighter, the answers of the highlighter decide
which case it is; for the packaged one, failing to say whether a language is supported is no
failure. -/
theorem highlighting_replaces_or_leaves (o : RenderOptions) (callback : Callback) (code : Text)
    (language : Option Text) (escaped : Bool) :
    let r := rendererWith o (some callback)
    let plain := rendererWith o none
    (∃ block, (r.construct (.code code language escaped)).Yields block) ∧
    (∀ cause, callback.Fails code language cause →
      (r.construct (.code code language escaped)).run.value =
          (plain.construct (.code code language escaped)).run.value ∧
        ∃ event, (r.construct (.code code language escaped)).run.events = [event] ∧
          event.cause? = some cause ∧ Event.level = "DEBUG") ∧
    (callback.Declines code language →
      r.construct (.code code language escaped) = plain.construct (.code code language escaped)) ∧
    (∀ markup, callback.Writes code language markup →
      r.construct (.code code language escaped) = plain.construct (.code markup language true)) ∧
    (∀ code escaped, (plain.construct (.code code language escaped)).run.events = []) ∧
    (∀ (h : Highlighter) identity, callback = h.toCallback identity →
      (∀ cause, callback.Fails code language cause ↔
        ∃ name, language = some name ∧ name ≠ [] ∧
          (h.supports name = .error cause ∨
            h.supports name = .ok true ∧ h.highlight code name = .error cause)) ∧
      ∀ markup, callback.Writes code language markup ↔
        ∃ name, language = some name ∧ name ≠ [] ∧ h.supports name = .ok true ∧
          h.highlight code name = .ok markup ∧ markup ≠ code) ∧
    ∀ (h : Highlighter) identity, Highlighter.packaged (some h) identity = pure (some callback) →
      (∀ cause, callback.Fails code language cause ↔
        ∃ name, language = some name ∧ name ≠ [] ∧ h.supports name = .ok true ∧
          h.highlight code name = .error cause) ∧
      (∀ markup, callback.Writes code language markup ↔
        ∃ name, language = some name ∧ name ≠ [] ∧ h.supports name = .ok true ∧
          (∃ block, h.highlight code name = .ok block ∧ markup = CodeBlock.unwrap block) ∧
            markup ≠ code) ∧
      ∀ name cause, language = some name → h.supports name = .error cause →
        r.construct (.code code language escaped) =
          plain.construct (.code code language escaped) := by
  intro r plain
  refine ⟨?_, ?_, fun h => construct_of_declines o h escaped,
    fun markup h => construct_of_writes o h escaped, ?_, ?_, ?_⟩
  · exact ⟨_, Attempt.yields_lift _⟩
  · intro cause h
    have hrun := construct_of_fails o h escaped
    exact ⟨congrArg (·.value) hrun, _, congrArg (·.events) hrun, rfl, rfl⟩
  · intro code escaped
    rw [construct_plain]
    rfl
  · rintro h identity rfl
    exact ⟨fun cause => Highlighter.fails_toCallback_iff,
      fun markup => Highlighter.writes_toCallback_iff⟩
  · intro h identity hpackaged
    obtain rfl : h.unwrapping.toCallback identity = callback :=
      Option.some.inj (congrArg Logged.value hpackaged)
    refine ⟨fun cause => Highlighter.fails_unwrapping_iff,
      fun markup => Highlighter.writes_unwrapping_iff, ?_⟩
    rintro name cause rfl hsupports
    exact construct_of_declines o (Highlighter.declines_unwrapping hsupports) escaped

/-- The packaged highlighter failing, not knowing what it supports, and writing a block. -/
theorem highlighting_each_way :
    let h : Highlighter :=
      { supports := fun name => if name = "py" then .ok true else .error ⟨"RuntimeError"⟩
        highlight := fun code _ =>
          if code = "x" then .error ⟨"ValueError"⟩
          else .ok ("<pre><code><b>" ++ code ++ "</b>\n</code></pre>") }
    let r := rendererWith {} (some (h.unwrapping.toCallback 7))
    let plain := rendererWith {} none
    (r.construct (.code "x" (some "py") false)).run.value =
        (plain.construct (.code "x" (some "py") false)).run.value ∧
      r.construct (.code "y" (some "c") false) = plain.construct (.code "y" (some "c") false) ∧
      r.construct (.code "y" (some "py") false) =
        plain.construct (.code "<b>y</b>" (some "py") true) := by
  intro h r plain
  obtain ⟨-, hfails, -⟩ :=
    highlighting_replaces_or_leaves {} (h.unwrapping.toCallback 7) "x" (some "py") false
  obtain ⟨-, -, -, -, -, -, hpackaged⟩ :=
    highlighting_replaces_or_leaves {} (h.unwrapping.toCallback 7) "y" (some "c") false
  obtain ⟨-, -, -, hwrites, -⟩ :=
    highlighting_replaces_or_leaves {} (h.unwrapping.toCallback 7) "y" (some "py") false
  obtain ⟨-, -, hunknown⟩ := hpackaged h 7 rfl
  refine ⟨(hfails ⟨"ValueError"⟩ rfl).1, hunknown "c" ⟨"RuntimeError"⟩ rfl rfl, ?_⟩
  have hblock : CodeBlock.unwrap "<pre><code><b>y</b>\n</code></pre>" = "<b>y</b>" := by
    decide +kernel
  exact hwrites _ (Highlighter.writes_unwrapping_iff.mpr
    ⟨"py", rfl, by decide, rfl, ⟨_, rfl, hblock.symm⟩, by decide⟩)

end Html

end MarkdownRender
