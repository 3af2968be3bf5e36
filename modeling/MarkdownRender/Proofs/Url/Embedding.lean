import MarkdownRender.Proofs.Html.LenientEscaping
import MarkdownRender.Proofs.Url.Verdict

/-!
# URLs escaped before they are embedded

References are decoded to look at the scheme of a URL, and for nothing else: named ones are dropped,
but for `&colon;`. So of the entities that escaping writes, four are dropped and the numeric one is
read (`decodeReferences_escape`). What is lost that way does not count when a scheme is told, so a
URL without `&` and `%` is judged after escaping as it was before (`escape_keeps_verdict`).
-/

namespace MarkdownRender.Html

open CodePoint (ofChar)

/-- The special code points whose entities are dropped when references are decoded. -/
def lost : Text := "&<>\""

theorem referenceMeaning_entityName {c : CodePoint} (h : c ∈ special) :
    referenceMeaning (entityName c) = if c ∈ lost then [] else [c] := by
  have hspecial : ∀ c ∈ special, referenceMeaning (entityName c) = if c ∈ lost then [] else [c] := by
    decide
  exact hspecial c h

theorem decodeReferences_entity_append (c : CodePoint) (rest : Text) :
    decodeReferences (entity c ++ rest) =
      (if c ∈ lost then [] else [c]) ++ decodeReferences rest := by
  by_cases hc : c ∈ special
  · have hname := isReferenceName_entityName hc
    have hne : entityName c ≠ [] := by
      intro hnil
      rw [hnil] at hname
      exact absurd hname (by decide)
    rw [entity_eq_reference hc, decodeReferences_reference_append hne
      fun d hd => isReferenceChar_of_mem_name hname hd, referenceMeaning_entityName hc]
  · have hlost : c ∉ lost := fun hmem => hc ((by decide : lost ⊆ special) hmem)
    have hampersand : c ≠ ofChar '&' := by
      rintro rfl
      exact hc (by decide)
    rw [entity_of_notMem hc, if_neg hlost]
    exact decodeReferences_cons_of_ne hampersand rest

/-- Of an escaped text the apostrophes and what was never special are read back. -/
theorem decodeReferences_escape (text : Text) :
    decodeReferences (escape text) = text.filter (· ∉ lost) := by
  rw [escape_eq_flatMap]
  induction text with
  | nil => rfl
  | cons c rest ih =>
    rw [List.flatMap_cons, decodeReferences_entity_append, ih]
    by_cases hc : c ∈ lost <;> simp [hc]

end MarkdownRender.Html

namespace MarkdownRender.Url

open CodePoint (ofChar)
open Html (decodeReferences decodeReferences_literals decodeReferences_escape escape lost)

theorem not_isSchemeChar_of_mem_lost : ∀ c ∈ lost, ¬ isSchemeChar c := by decide

/-- What does not count when a scheme is told may be dropped. -/
theorem reduce_filter {p : CodePoint → Bool} (h : ∀ c, isSchemeChar c → p c) (text : Text) :
    reduce (text.filter p) = reduce text := by
  have hboth : ∀ c, (isSchemeChar c && p c) = isSchemeChar c :=
    fun c => Bool.and_eq_left_iff_imp.mpr (h c)
  simp only [reduce, List.filter_filter, hboth]

theorem normalize_of_notMem_percent {url : Text} (h : ofChar '%' ∉ decodeReferences url) :
    normalize url = .ok (reduce (decodeReferences url)) := by
  have hself : PercentSpelling (decodeReferences url) (decodeReferences url) :=
    .self fun c hc heq => h (heq ▸ hc)
  exact normalize_eq_ok_iff.mpr ⟨_, hself.decode_eq, rfl⟩

/-- URLs with the same bare form are judged alike. -/
theorem isSafe_congr {url url' : Text} (h : normalize url = normalize url') :
    (isSafe url).value = (isSafe url').value :=
  isSafe_congr_ok fun bare => by rw [h]

/-- **Escaping a URL does not change the verdict on it.** Of an escaped text everything is read back
in order but `&`, `<`, `>` and `"`. A URL with neither `&` nor `%` therefore has the same bare form
escaped and as it is, and the same verdict. -/
theorem escape_keeps_verdict :
    (∀ text : Text, decodeReferences (escape text) = text.filter (· ∉ Text.ofString "&<>\"")) ∧
      ∀ url : Text, ofChar '&' ∉ url → ofChar '%' ∉ url →
        normalize url = .ok (reduce url) ∧ normalize (escape url) = normalize url ∧
          (isSafe (escape url)).value = (isSafe url).value := by
  refine ⟨decodeReferences_escape, fun url hampersand hpercent => ?_⟩
  have hplain : decodeReferences url = url :=
    decodeReferences_literals fun c hc heq => hampersand (heq ▸ hc)
  have hread : decodeReferences (escape url) = url.filter (· ∉ lost) := decodeReferences_escape url
  have hbare : normalize url = .ok (reduce url) := by
    rw [normalize_of_notMem_percent (by rwa [hplain]), hplain]
  have hescaped : normalize (escape url) = .ok (reduce (url.filter (· ∉ lost))) := by
    rw [normalize_of_notMem_percent, hread]
    rw [hread]
    exact fun hmem => hpercent (List.mem_of_mem_filter hmem)
  have hsame : normalize (escape url) = normalize url := by
    rw [hescaped, hbare, reduce_filter]
    intro c hc
    exact decide_eq_true fun hmem => not_isSchemeChar_of_mem_lost c hmem hc
  exact ⟨hbare, hsame, isSafe_congr hsame⟩

/-- A scheme broken up by an angle bracket is found before and after. -/
theorem escape_keeps_verdict_javascript :
    let url : Text := "java<script:'1'"
    (ofChar '&' ∉ url ∧ ofChar '%' ∉ url) ∧ normalize url = .ok (reduce url) ∧
      normalize (escape url) = normalize url ∧
      (isSafe (escape url)).value = (isSafe url).value ∧ (isSafe url).value = false := by
  intro url
  have hampersand : ofChar '&' ∉ url := by decide
  have hpercent : ofChar '%' ∉ url := by decide
  obtain ⟨hbare, hsame, hverdict⟩ := escape_keeps_verdict.2 url hampersand hpercent
  exact ⟨⟨hampersand, hpercent⟩, hbare, hsame, hverdict, by decide +kernel⟩

/-- With an ampersand in it, a URL may be judged otherwise: what it disguises is no reference any
more. -/
example : (isSafe "javascript&colon;").value = false ∧
    (isSafe (escape "javascript&colon;")).value = true := by decide +kernel

end MarkdownRender.Url
