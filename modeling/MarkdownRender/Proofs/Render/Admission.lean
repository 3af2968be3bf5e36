import MarkdownRender.Proofs.Url.Verdict
import MarkdownRender.Render.Renderer

/-!
# Which links and images are let through

Links and images of either format are let through or dropped by the same rule, and what is let
through does not depend on the option to sanitize: a construct has one output, and the option only
says whether it is admitted (`construct_of_link_or_image`). The rule looks at the URL only where the
options ask for it, rejects what cannot be decoded instead of being stopped by it, and reports each
URL that it rejects once (`links_and_images_filtered`).
-/

namespace MarkdownRender

open CodePoint (ofChar)

/-- An attempt to do what only reports is never stopped. -/
theorem Attempt.run_lift {α : Type} (x : Logged α) :
    (liftM x : Attempt α).run = ⟨.ok x.value, x.events⟩ := by
  have hrun : (liftM x : Attempt α).run = ⟨.ok x.value, x.events ++ []⟩ := rfl
  rw [hrun, List.append_nil]

/-! ### What is rejected -/

namespace Url

variable {url : Text}

/-- A URL that the filter rejects: it cannot be decoded, or it has the rejected scheme. -/
def IsRejected (url : Text) : Prop :=
  (∃ e, normalize url = .error e) ∨
    ∃ bare, normalize url = .ok bare ∧ Text.ofString "javascript:" <+: bare

/-- The event is a report that the URL was rejected: it comes from the filter, and it ends with the
URL in the form in which texts are shown in messages. -/
def IsRejection (url : Text) (event : Event) : Prop :=
  event.channel = Text.ofString "huellas.sanitize" ∧ Event.level = "DEBUG" ∧
    url.quoted <:+ event.message

theorem isRejection_malformedUrl (url : Text) : IsRejection url (.malformedUrl url) :=
  ⟨rfl, rfl, List.suffix_append _ _⟩

theorem isRejection_unsafeScheme (url : Text) : IsRejection url (.unsafeScheme url) :=
  ⟨rfl, rfl, List.suffix_append _ _⟩

theorem isSafe_of_isRejected (h : IsRejected url) :
    ∃ event, isSafe url = ⟨false, [event]⟩ ∧ IsRejection url event := by
  rcases h with ⟨e, he⟩ | ⟨bare, hbare, hscheme⟩
  · refine ⟨_, ?_, isRejection_malformedUrl url⟩
    simp only [isSafe, he]
    rfl
  · refine ⟨_, ?_, isRejection_unsafeScheme url⟩
    have hstart : bare.startsWith rejectedScheme = true := Text.startsWith_iff.mpr hscheme
    simp only [isSafe, hbare, hstart, if_true]
    rfl

theorem isSafe_of_not_isRejected (h : ¬ IsRejected url) : isSafe url = pure true := by
  unfold IsRejected at h
  push Not at h
  obtain ⟨hok, hscheme⟩ := h
  cases hbare : normalize url with
  | error e => exact absurd hbare (hok e)
  | ok bare =>
    have hstart : ¬ bare.startsWith rejectedScheme = true :=
      mt Text.startsWith_iff.mp (hscheme bare hbare)
    simp only [isSafe, hbare, if_neg hstart]

end Url

/-! ### Admission -/

namespace RenderOptions

variable {o : RenderOptions} {href : Text} (output : Text)

theorem screen_of_not_sanitize (ho : o.sanitize.truthy = false) :
    o.screen href output = pure output := by
  simp [RenderOptions.screen, ho]

theorem screen_of_not_isRejected (h : ¬ Url.IsRejected href) :
    o.screen href output = pure output := by
  unfold RenderOptions.screen
  rw [Url.isSafe_of_not_isRejected h]
  split <;> rfl

theorem screen_of_isRejected (ho : o.sanitize.truthy = true) (h : Url.IsRejected href) :
    ∃ event, o.screen href output = ⟨[], [event]⟩ ∧ Url.IsRejection href event := by
  obtain ⟨event, hsafe, hevent⟩ := Url.isSafe_of_isRejected h
  refine ⟨event, ?_, hevent⟩
  rw [RenderOptions.screen, if_pos ho, hsafe]
  rfl

end RenderOptions

/-! ### Links and images -/

/-- What a link or an image is put together from. -/
def outputParts (o : RenderOptions) : Format → Construct Text → List Text
  | .html, .link href title text =>
    ["<a href=\"", href, "\"", Html.optionalAttribute "title" title, ">", text, "</a>"]
  | .html, .image href title text =>
    ["<img src=\"", href, "\" alt=\"", text, "\"", Html.optionalAttribute "title" title,
      Html.voidEnd o]
  | .plainText, .link href _ text => [text, " (", href, ")"]
  | .plainText, .image _ _ text => ["[image: ", text, "]"]
  | _, _ => []

/-- What a link or an image shows of what it is given. Plain text has no place for titles, nor for
the URL of an image. -/
def shownParts : Format → Construct Text → List Text
  | .html, .link href title text => href :: text :: title.toList
  | .html, .image href title text => href :: text :: title.toList
  | .plainText, .link href _ text => [href, text]
  | .plainText, .image _ _ text => [text]
  | _, _ => []

theorem infix_optionalAttribute (name : Text) {title : Option Text} {value : Text}
    (h : value ∈ title) : value <:+: Html.optionalAttribute name title := by
  cases h
  cases value with
  | nil => exact List.nil_infix
  | cons c rest => exact List.infix_append _ _ _

section Links

variable (format : Format) (o : RenderOptions) {href text : Text} {title : Option Text}
  {c : Construct Text}

/-- The options say whether a link or an image is admitted, and not what it is. -/
theorem construct_of_link_or_image (hc : c = .link href title text ∨ c = .image href title text)
    (sanitize : Value) :
    Renderer.construct ⟨format, { o with sanitize }⟩ c =
      liftM (RenderOptions.screen { o with sanitize } href (outputParts o format c).flatten) := by
  rcases hc with rfl | rfl <;> cases format
  all_goals
    simp [Renderer.construct, Html.construct, PlainText.construct, Html.link, Html.image,
      PlainText.link, PlainText.image, outputParts, Html.voidEnd]

theorem flatten_outputParts_ne_nil (hc : c = .link href title text ∨ c = .image href title text) :
    (outputParts o format c).flatten ≠ [] := by
  rcases hc with rfl | rfl <;> cases format <;> simp [outputParts, Text.ofString]

theorem infix_of_mem_shownParts (hc : c = .link href title text ∨ c = .image href title text) :
    ∀ part ∈ shownParts format c, part <:+: (outputParts o format c).flatten := by
  have hpart : ∀ {part}, part ∈ outputParts o format c →
      part <:+: (outputParts o format c).flatten := List.infix_of_mem_flatten
  have htitle : Html.optionalAttribute "title" title ∈ outputParts o format c → ∀ value ∈ title,
      value <:+: (outputParts o format c).flatten :=
    fun hmem value hvalue => (infix_optionalAttribute "title" hvalue).trans (hpart hmem)
  intro part hshown
  cases format with
  | html =>
    have hcases : part = href ∨ part = text ∨ part ∈ title := by
      rcases hc with rfl | rfl <;> simpa [shownParts] using hshown
    rcases hcases with rfl | rfl | hvalue
    · exact hpart (by rcases hc with rfl | rfl <;> simp [outputParts])
    · exact hpart (by rcases hc with rfl | rfl <;> simp [outputParts])
    · exact htitle (by rcases hc with rfl | rfl <;> simp [outputParts]) part hvalue
  | plainText =>
    apply hpart
    rcases hc with rfl | rfl
    · have hcases : part = href ∨ part = text := by simpa [shownParts] using hshown
      rcases hcases with rfl | rfl <;> simp [outputParts]
    · have htext : part = text := by simpa [shownParts] using hshown
      simp [outputParts, htext]

/-- **Links and images are filtered alike.** A link or an image of either format has one output,
which is not empty and shows what it is given. It has this output, and nothing is reported, where
the options do not ask to sanitize, and where they do and the URL is not rejected. Where they do and
the URL is rejected, the output is empty, and the one event that is reported is a report of the
filter with the URL in it. In no case is rendering stopped. -/
theorem links_and_images_filtered
    (hc : c = .link href title text ∨ c = .image href title text) :
    ∃ output : Text, output ≠ [] ∧ (∀ part ∈ shownParts format c, part <:+: output) ∧
      ∀ sanitize : Value,
        let result := (Renderer.construct ⟨format, { o with sanitize }⟩ c).run
        (sanitize.truthy = false → result = ⟨.ok output, []⟩) ∧
        (sanitize.truthy = true → ¬ Url.IsRejected href → result = ⟨.ok output, []⟩) ∧
        (sanitize.truthy = true → Url.IsRejected href →
          ∃ event, result = ⟨.ok [], [event]⟩ ∧ Url.IsRejection href event) := by
  refine ⟨(outputParts o format c).flatten, flatten_outputParts_ne_nil format o hc,
    infix_of_mem_shownParts format o hc, fun sanitize => ?_⟩
  let output : Text := (outputParts o format c).flatten
  let admitted : Logged Text := RenderOptions.screen { o with sanitize } href output
  have hrun : (Renderer.construct ⟨format, { o with sanitize }⟩ c).run =
      ⟨.ok admitted.value, admitted.events⟩ := by
    rw [construct_of_link_or_image format o hc, Attempt.run_lift]
  simp only [hrun]
  refine ⟨fun hoff => ?_, fun _ hkept => ?_, fun hon hrejected => ?_⟩
  · have hadmitted : admitted = pure output := RenderOptions.screen_of_not_sanitize output hoff
    rw [hadmitted]
    rfl
  · have hadmitted : admitted = pure output := RenderOptions.screen_of_not_isRejected output hkept
    rw [hadmitted]
    rfl
  · obtain ⟨event, hadmitted, hevent⟩ : ∃ event, admitted = ⟨[], [event]⟩ ∧ _ :=
      RenderOptions.screen_of_isRejected output hon hrejected
    rw [hadmitted]
    exact ⟨event, rfl, hevent⟩

end Links

/-- An image with a URL that cannot be decoded, in both formats, and a link in plain text that is
kept. -/
theorem links_and_images_filtered_undecodable :
    let o : RenderOptions := {}
    Url.IsRejected "%E0%A4%A" ∧ ¬ Url.IsRejected "data:x" ∧
      (∃ event, (Renderer.construct ⟨.html, { o with sanitize := .int 1 }⟩
          (.image "%E0%A4%A" (some "t") "x")).run = ⟨.ok [], [event]⟩ ∧
        Url.IsRejection "%E0%A4%A" event) ∧
      (∃ event, (Renderer.construct ⟨.plainText, { o with sanitize := .int 1 }⟩
          (.image "%E0%A4%A" none "x")).run = ⟨.ok [], [event]⟩ ∧
        Url.IsRejection "%E0%A4%A" event) ∧
      ∃ output, (Renderer.construct ⟨.plainText, { o with sanitize := .text "yes" }⟩
        (.link "data:x" none "y")).run = ⟨.ok output, []⟩ ∧ Text.ofString "data:x" <:+: output := by
  intro o
  have hrejected : Url.IsRejected "%E0%A4%A" := Or.inl ⟨.strayPercent "%E0%A4%A", by decide +kernel⟩
  have hkept : ¬ Url.IsRejected "data:x" := by
    have hbare : Url.normalize "data:x" = .ok "data:x" := by decide +kernel
    rintro (⟨e, he⟩ | ⟨bare, hok, hscheme⟩)
    · rw [hbare] at he
      cases he
    · rw [hbare] at hok
      cases hok
      exact absurd hscheme (by decide)
  obtain ⟨_, -, -, himage⟩ :=
    @links_and_images_filtered .html o "%E0%A4%A" "x" (some "t") _ (Or.inr rfl)
  obtain ⟨_, -, -, himage'⟩ :=
    @links_and_images_filtered .plainText o "%E0%A4%A" "x" none _ (Or.inr rfl)
  obtain ⟨output, -, hshown, hlink⟩ :=
    @links_and_images_filtered .plainText o "data:x" "y" none _ (Or.inl rfl)
  exact ⟨hrejected, hkept, (himage (.int 1)).2.2 rfl hrejected, (himage' (.int 1)).2.2 rfl hrejected,
    output, (hlink (.text "yes")).2.1 rfl hkept, hshown _ (by simp [shownParts])⟩

end MarkdownRender
