import MarkdownRender.Proofs.Heading.Anchor
import MarkdownRender.Proofs.Unicode.Lowercase

/-!
# What a slug depends on

A text is collapsed from left to right, and all that is remembered of what has been read is whether
it ends in a gap (`exists_collapseGaps_append`). Of a gap itself nothing counts but that it is there
(`collapseGaps_gap`). So collapsing does not tell the two small sigmas apart, and the source may be
lowered code point by code point (`collapseGaps_lower`). What has no letters becomes hyphens, and
hyphens are trimmed off at both ends, whether or not they join a gap of the source
(`trimHyphens_collapseGaps_append_left` and its twin). A slug is therefore settled by the words of
the source, and an id made of a slug is its own slug.
-/

namespace MarkdownRender.Heading

open CodePoint (ofChar)
open Unicode (lowerForm)

/-! ### Collapsing -/

/-- What a slug keeps at its ends too: everything but hyphens. -/
def isSlugLetter (c : CodePoint) : Bool := c.isLower || c.isDigit || c = '_'

theorem isSlugChar_iff {c : CodePoint} : isSlugChar c ↔ isSlugLetter c ∨ c = ofChar '-' := by
  rw [isSlugChar, isSlugLetter, Bool.or_eq_true _ (decide (c = ofChar '-')), decide_eq_true_eq]

theorem collapseGaps_cons_of_isSlugChar {c : CodePoint} (h : isSlugChar c) (inGap : Bool)
    (rest : Text) : collapseGaps inGap (c :: rest) = c :: collapseGaps false rest := by
  rw [collapseGaps, if_pos h]

theorem collapseGaps_cons_of_not_isSlugChar {c : CodePoint} (h : ¬ isSlugChar c) (inGap : Bool)
    (rest : Text) : collapseGaps inGap (c :: rest) =
      (if inGap then [] else [ofChar '-']) ++ collapseGaps true rest := by
  rw [collapseGaps, if_neg h]
  cases inGap <;> rfl

theorem collapseGaps_of_isSlugChar {text : Text} (h : ∀ c ∈ text, isSlugChar c) (inGap : Bool) :
    collapseGaps inGap text = text := by
  induction text generalizing inGap with
  | nil => rfl
  | cons c rest ih =>
    rw [collapseGaps_cons_of_isSlugChar (h c List.mem_cons_self),
      ih fun d hd => h d (List.mem_cons_of_mem c hd)]

/-- A gap is a hyphen if it does not continue another, whatever it holds. -/
theorem collapseGaps_gap {gap : Text} (hne : gap ≠ []) (h : ∀ c ∈ gap, ¬ isSlugChar c)
    (inGap : Bool) (rest : Text) : collapseGaps inGap (gap ++ rest) =
      (if inGap then [] else [ofChar '-']) ++ collapseGaps true rest := by
  induction gap generalizing inGap with
  | nil => contradiction
  | cons c gap ih =>
    rw [List.cons_append, collapseGaps_cons_of_not_isSlugChar (h c List.mem_cons_self)]
    cases gap with
    | nil => rfl
    | cons d gap =>
      have htrue := ih (List.cons_ne_nil d gap) (fun e he => h e (List.mem_cons_of_mem c he)) true
      rw [htrue, if_pos rfl, List.nil_append]

/-- A text is collapsed part by part. -/
theorem exists_collapseGaps_append (inGap : Bool) (front : Text) : ∃ inGap', ∀ rest,
    collapseGaps inGap (front ++ rest) = collapseGaps inGap front ++ collapseGaps inGap' rest := by
  induction front generalizing inGap with
  | nil => exact ⟨inGap, fun _ => rfl⟩
  | cons c front ih =>
    by_cases hc : isSlugChar c
    · obtain ⟨inGap', hrest⟩ := ih false
      refine ⟨inGap', fun rest => ?_⟩
      rw [List.cons_append, collapseGaps_cons_of_isSlugChar hc, collapseGaps_cons_of_isSlugChar hc,
        hrest, List.cons_append]
    · obtain ⟨inGap', hrest⟩ := ih true
      refine ⟨inGap', fun rest => ?_⟩
      rw [List.cons_append, collapseGaps_cons_of_not_isSlugChar hc,
        collapseGaps_cons_of_not_isSlugChar hc, hrest, List.append_assoc]

/-- Texts that collapse alike do so behind any other text. -/
theorem collapseGaps_append_congr {rest rest' : Text}
    (h : ∀ inGap, collapseGaps inGap rest = collapseGaps inGap rest') (front : Text)
    (inGap : Bool) : collapseGaps inGap (front ++ rest) = collapseGaps inGap (front ++ rest') := by
  obtain ⟨inGap', hfront⟩ := exists_collapseGaps_append inGap front
  rw [hfront, hfront, h]

/-- Collapsing does not see which sigma stands at the end of a word. -/
theorem collapseGaps_lowerAfter (inGap : Bool) (before text : Text) :
    collapseGaps inGap (Text.lowerAfter before text) =
      collapseGaps inGap (text.flatMap lowerForm) := by
  have hfinal : ∀ c ∈ [Unicode.finalSigma], ¬ isSlugChar c := by decide
  have hsigma : ∀ c ∈ lowerForm Unicode.capitalSigma, ¬ isSlugChar c := by decide +kernel
  induction text generalizing inGap before with
  | nil => rfl
  | cons c rest ih =>
    rw [Text.lowerAfter, List.flatMap_cons,
      collapseGaps_append_congr (fun b => ih b (c :: before))]
    split
    · next h =>
      obtain ⟨hc, -⟩ := Bool.and_eq_true_iff.mp h
      rw [of_decide_eq_true hc, collapseGaps_gap (List.cons_ne_nil _ _) hfinal,
        collapseGaps_gap (Unicode.lowerForm_ne_nil _) hsigma]
    · rfl

theorem collapseGaps_lower (source : Text) :
    collapseGaps false source.lower = collapseGaps false (source.flatMap lowerForm) :=
  collapseGaps_lowerAfter false [] source

/-- Collapsing keeps all slug letters. -/
theorem filter_collapseGaps (inGap : Bool) (text : Text) :
    (collapseGaps inGap text).filter isSlugLetter = text.filter isSlugLetter := by
  induction text generalizing inGap with
  | nil => rfl
  | cons c rest ih =>
    by_cases hc : isSlugChar c
    · rw [collapseGaps_cons_of_isSlugChar hc, List.filter_cons, List.filter_cons, ih]
    · have hletter : ¬ isSlugLetter c := fun h => hc (isSlugChar_iff.mpr (Or.inl h))
      rw [collapseGaps_cons_of_not_isSlugChar hc, List.filter_append, ih,
        List.filter_cons_of_neg hletter]
      cases inGap <;> rfl

/-- Nothing but hyphens is made of what has no slug letters. -/
theorem eq_hyphen_of_mem_collapseGaps {inGap : Bool} {text : Text}
    (h : ∀ c ∈ text, ¬ isSlugLetter c) : ∀ c ∈ collapseGaps inGap text, c = ofChar '-' := by
  induction text generalizing inGap with
  | nil => simp [collapseGaps]
  | cons d rest ih =>
    have hrest : ∀ b, ∀ e ∈ collapseGaps b rest, e = ofChar '-' :=
      fun b => ih fun e he => h e (List.mem_cons_of_mem d he)
    by_cases hd : isSlugChar d
    · have hhyphen := (isSlugChar_iff.mp hd).resolve_left (h d List.mem_cons_self)
      rw [collapseGaps_cons_of_isSlugChar hd]
      exact List.forall_mem_cons.mpr ⟨hhyphen, hrest false⟩
    · rw [collapseGaps_cons_of_not_isSlugChar hd]
      refine List.forall_mem_append.mpr ⟨?_, hrest true⟩
      cases inGap <;> simp

/-! ### Trimming -/

theorem trimHyphens_hyphens_append {hyphens : Text} (h : ∀ c ∈ hyphens, c = ofChar '-')
    (text : Text) : trimHyphens (hyphens ++ text) = trimHyphens text := by
  have hp : ∀ c ∈ hyphens, (decide (c = ofChar '-')) = true := fun c hc => decide_eq_true (h c hc)
  rw [trimHyphens, trimHyphens, List.dropWhile_append_of_pos hp]

theorem trimHyphens_append_hyphens (text : Text) {hyphens : Text}
    (h : ∀ c ∈ hyphens, c = ofChar '-') : trimHyphens (text ++ hyphens) = trimHyphens text := by
  have hp : ∀ c ∈ hyphens, (decide (c = ofChar '-')) = true := fun c hc => decide_eq_true (h c hc)
  rw [trimHyphens, trimHyphens, List.dropWhile_append]
  split
  · next hnil =>
    rw [List.isEmpty_iff.mp hnil, List.dropWhile_eq_nil_iff.mpr hp]
  · exact Text.dropEndWhile_append_of_pos _ hp

theorem trimHyphens_eq_self {text : Text} (hhead : text.head? ≠ some (ofChar '-'))
    (hlast : text.getLast? ≠ some (ofChar '-')) : trimHyphens text = text := by
  have hfront : text.dropWhile (· = ofChar '-') = text := by
    cases text with
    | nil => rfl
    | cons c rest =>
      refine List.dropWhile_cons_of_neg ?_
      simpa using hhead
  rw [trimHyphens, hfront]
  refine Text.dropEndWhile_of_last fun c hc => ?_
  intro hhyphen
  obtain rfl := of_decide_eq_true hhyphen
  exact hlast hc

/-- Trimming keeps all slug letters. -/
theorem filter_trimHyphens (text : Text) :
    (trimHyphens text).filter isSlugLetter = text.filter isSlugLetter := by
  have hhyphen : ∀ c : CodePoint, decide (c = ofChar '-') → ¬ isSlugLetter c := by
    intro c hc
    rw [of_decide_eq_true hc]
    decide
  rw [trimHyphens, Text.filter_dropEndWhile hhyphen]
  induction text with
  | nil => rfl
  | cons c rest ih =>
    rw [List.dropWhile_cons]
    split
    · next hc => rw [ih, List.filter_cons_of_neg (hhyphen c hc)]
    · rfl

/-- The hyphen of a gap at the front is trimmed off, so the gap may as well be written already. -/
theorem trimHyphens_collapseGaps (inGap : Bool) (text : Text) :
    trimHyphens (collapseGaps inGap text) = trimHyphens (collapseGaps false text) := by
  cases text with
  | nil => rfl
  | cons c rest =>
    by_cases hc : isSlugChar c
    · rw [collapseGaps_cons_of_isSlugChar hc, collapseGaps_cons_of_isSlugChar hc]
    · have hhyphen : ∀ b : Bool, ∀ d ∈ if b then [] else [ofChar '-'], d = ofChar '-' := by simp
      rw [collapseGaps_cons_of_not_isSlugChar hc, collapseGaps_cons_of_not_isSlugChar hc,
        trimHyphens_hyphens_append (hhyphen inGap), trimHyphens_hyphens_append (hhyphen false)]

theorem trimHyphens_collapseGaps_append_left {before : Text}
    (h : ∀ c ∈ before, ¬ isSlugLetter c) (inGap : Bool) (text : Text) :
    trimHyphens (collapseGaps inGap (before ++ text)) = trimHyphens (collapseGaps false text) := by
  obtain ⟨inGap', hbefore⟩ := exists_collapseGaps_append inGap before
  rw [hbefore, trimHyphens_hyphens_append (eq_hyphen_of_mem_collapseGaps h),
    trimHyphens_collapseGaps]

theorem trimHyphens_collapseGaps_append_right {after : Text}
    (h : ∀ c ∈ after, ¬ isSlugLetter c) (inGap : Bool) (text : Text) :
    trimHyphens (collapseGaps inGap (text ++ after)) = trimHyphens (collapseGaps inGap text) := by
  obtain ⟨inGap', htext⟩ := exists_collapseGaps_append inGap text
  rw [htext, trimHyphens_append_hyphens _ (eq_hyphen_of_mem_collapseGaps h)]

/-! ### Slugs -/

theorem slug_eq (source : Text) :
    slug source = trimHyphens (collapseGaps false (source.flatMap lowerForm)) := by
  rw [slug, collapseGaps_lower]

/-- The letters, digits and low lines of a source are those of its slug, in the same order. -/
theorem filter_slug (source : Text) :
    (slug source).filter isSlugLetter = source.lower.filter isSlugLetter := by
  rw [slug, filter_trimHyphens, filter_collapseGaps]

/-- **Which sources have no slug**: those whose lower-case form has no slug letter. -/
theorem slug_eq_nil_iff {source : Text} :
    slug source = [] ↔ ∀ c ∈ source.lower, ¬ isSlugLetter c := by
  constructor
  · intro h
    rw [← List.filter_eq_nil_iff, ← filter_slug, h, List.filter_nil]
  · intro h
    exact trimHyphens_append_hyphens [] (eq_hyphen_of_mem_collapseGaps h)

/-! ### Settled ids -/

/-- Slugs are ASCII and hold no capital. -/
theorem small_of_isSlugChar {c : CodePoint} (h : isSlugChar c) :
    c.val < 0x80 ∧ c.isUpper = false := by
  simp only [isSlugChar, Bool.or_eq_true, decide_eq_true_eq] at h
  rw [← Bool.not_eq_true, CodePoint.isUpper_iff]
  rcases h with ((hlower | hdigit) | rfl) | rfl
  · have hrange := CodePoint.isLower_iff.mp hlower
    omega
  · have hrange := CodePoint.isDigit_iff.mp hdigit
    omega
  · decide
  · decide

theorem lower_of_isSlugChar {text : Text} (h : ∀ c ∈ text, isSlugChar c) : text.lower = text := by
  have hascii : ∀ c ∈ text, c.val < 0x80 := fun c hc => (small_of_isSlugChar (h c hc)).1
  have hsmall : ∀ c ∈ text, c.asciiLower = id c :=
    fun c hc => CodePoint.asciiLower_of_not_isUpper (small_of_isSlugChar (h c hc)).2
  calc text.lower = text.map CodePoint.asciiLower := Text.lower_of_ascii hascii
    _ = text.map id := List.map_congr_left hsmall
    _ = text := List.map_id text

theorem slug_of_isSlugChar {text : Text} (h : ∀ c ∈ text, isSlugChar c) :
    slug text = trimHyphens text := by
  rw [slug, lower_of_isSlugChar h, collapseGaps_of_isSlugChar h]

theorem anchorId_of_slug_ne_nil {source : Text} (h : slug source ≠ []) :
    anchorId source = withLetter (slug source) := by
  rw [anchorId, if_neg (by simpa using h)]

theorem anchorId_of_isLegalId {id : Text} (h : IsLegalId id)
    (hlast : id.getLast? ≠ some (ofChar '-')) : anchorId id = id := by
  obtain ⟨first, rest, rfl, hfirst, hrest⟩ := h
  have hchars : ∀ c ∈ first :: rest, isSlugChar c := by
    refine List.forall_mem_cons.mpr ⟨by simp [isSlugChar, hfirst], fun c hc => ?_⟩
    simpa [isSlugChar, or_assoc] using hrest c hc
  have hhead : (first :: rest).head? ≠ some (ofChar '-') := by
    intro h
    obtain rfl := Option.some.inj h
    exact absurd hfirst (by decide)
  have hslug : slug (first :: rest) = first :: rest := by
    rw [slug_of_isSlugChar hchars, trimHyphens_eq_self hhead hlast]
  have hletter : withLetter (first :: rest) = first :: rest := if_pos hfirst
  rw [anchorId_of_slug_ne_nil, hslug, hletter]
  rw [hslug]
  exact List.cons_ne_nil first rest

/-- The texts that are their own ids. -/
theorem anchorId_eq_self_iff {id : Text} :
    anchorId id = id ↔ IsLegalId id ∧ id.getLast? ≠ some (ofChar '-') := by
  constructor
  · intro h
    have hlegal := isLegalId_anchorId id
    rw [h] at hlegal
    have hne : id ≠ [] := by
      rintro rfl
      obtain ⟨first, rest, hnil, -⟩ := hlegal
      cases hnil
    have hlast := getLast?_anchorId_ne hne
    rw [h] at hlast
    exact ⟨hlegal, hlast⟩
  · rintro ⟨hlegal, hlast⟩
    exact anchorId_of_isLegalId hlegal hlast

/-- **Derived ids are settled.** The id of an id is that id, whatever source it comes from; only the
id of the empty source is not its own id. The texts that are their own ids are the legal ids that do
not end with a hyphen. -/
theorem derived_ids_settled (source : Text) :
    (anchorId (anchorId source) = anchorId source ↔ source ≠ []) ∧
      (anchorId source = source ↔ IsLegalId source ∧ source.getLast? ≠ some (ofChar '-')) := by
  refine ⟨⟨?_, fun h => ?_⟩, anchorId_eq_self_iff⟩
  · rintro hsettled rfl
    obtain ⟨-, hlast⟩ := anchorId_eq_self_iff.mp hsettled
    exact hlast (by decide)
  · exact anchorId_of_isLegalId (isLegalId_anchorId source) (getLast?_anchorId_ne h)

/-! ### Words -/

theorem anchorId_eq_of_slug_eq {source source' : Text} (h : slug source ≠ [])
    (heq : slug source' = slug source) : anchorId source' = anchorId source := by
  rw [anchorId_of_slug_ne_nil h, anchorId_of_slug_ne_nil (heq ▸ h), heq]

/-- A code point whose lower-case form no slug keeps anything of. -/
def IsNeutral (c : CodePoint) : Prop := ∀ d ∈ Text.lower [c], ¬ isSlugChar d

instance (c : CodePoint) : Decidable (IsNeutral c) := inferInstanceAs (Decidable (∀ _ ∈ _, _))

theorem not_isSlugChar_of_mem_lowerForms {gap : Text} (h : ∀ c ∈ gap, IsNeutral c) :
    ∀ d ∈ gap.flatMap lowerForm, ¬ isSlugChar d := by
  intro d hd
  obtain ⟨c, hc, hd⟩ := List.mem_flatMap.mp hd
  rw [← Text.lower_singleton] at hd
  exact h c hc d hd

theorem not_isSlugLetter_of_mem_lowerForms {edge : Text}
    (h : ∀ c ∈ edge, IsNeutral c ∨ c = ofChar '-') :
    ∀ d ∈ edge.flatMap lowerForm, ¬ isSlugLetter d := by
  have hhyphen : ∀ d ∈ lowerForm (ofChar '-'), ¬ isSlugLetter d := by decide +kernel
  intro d hd
  obtain ⟨c, hc, hd⟩ := List.mem_flatMap.mp hd
  rcases h c hc with hneutral | rfl
  · rw [← Text.lower_singleton] at hd
    exact fun hletter => hneutral d hd (isSlugChar_iff.mpr (Or.inl hletter))
  · exact hhyphen d hd

theorem slug_replace_gap (front back : Text) {gap gap' : Text} (hne : gap ≠ []) (hne' : gap' ≠ [])
    (h : ∀ c ∈ gap, IsNeutral c) (h' : ∀ c ∈ gap', IsNeutral c) :
    slug (front ++ gap' ++ back) = slug (front ++ gap ++ back) := by
  have hlower : ∀ {gap : Text}, gap ≠ [] → gap.flatMap lowerForm ≠ [] := by
    intro gap hne
    obtain ⟨c, hc⟩ := List.exists_mem_of_ne_nil gap hne
    simpa using ⟨c, hc, Unicode.lowerForm_ne_nil c⟩
  rw [slug_eq, slug_eq]
  simp only [List.flatMap_append, List.append_assoc]
  rw [collapseGaps_append_congr]
  intro inGap
  rw [collapseGaps_gap (hlower hne') (not_isSlugChar_of_mem_lowerForms h'),
    collapseGaps_gap (hlower hne) (not_isSlugChar_of_mem_lowerForms h)]

theorem slug_add_edges (source : Text) {before after : Text}
    (h : ∀ c ∈ before, IsNeutral c ∨ c = ofChar '-')
    (h' : ∀ c ∈ after, IsNeutral c ∨ c = ofChar '-') :
    slug (before ++ source ++ after) = slug source := by
  rw [slug_eq, slug_eq, List.flatMap_append, List.flatMap_append, List.append_assoc,
    trimHyphens_collapseGaps_append_left (not_isSlugLetter_of_mem_lowerForms h),
    trimHyphens_collapseGaps_append_right (not_isSlugLetter_of_mem_lowerForms h')]

/-- **A slug depends only on the words of the source.** Where there is a slug, it has all letters,
digits and low lines of the lower-case form. The id stays the same when ASCII letters change their
case, when neutral code points stand in the place of others, as long as there are some, and when
neutral code points and hyphens are put in front and behind. -/
theorem anchorId_depends_on_words {source : Text} (h : ∃ c ∈ source.lower, isSlugLetter c) :
    (anchorId source = withLetter (slug source) ∧
      (slug source).filter isSlugLetter = source.lower.filter isSlugLetter) ∧
    (∀ source', source.SameLetters source' → anchorId source' = anchorId source) ∧
    (∀ front gap gap' back, source = front ++ gap ++ back → gap ≠ [] → gap' ≠ [] →
      (∀ c ∈ gap, IsNeutral c) → (∀ c ∈ gap', IsNeutral c) →
      anchorId (front ++ gap' ++ back) = anchorId source) ∧
    ∀ before after, (∀ c ∈ before, IsNeutral c ∨ c = ofChar '-') →
      (∀ c ∈ after, IsNeutral c ∨ c = ofChar '-') →
      anchorId (before ++ source ++ after) = anchorId source := by
  have hslug : slug source ≠ [] := by
    obtain ⟨c, hc, hletter⟩ := h
    intro hnil
    exact slug_eq_nil_iff.mp hnil c hc hletter
  refine ⟨⟨anchorId_of_slug_ne_nil hslug, filter_slug source⟩, fun source' hsame => ?_,
    fun front gap gap' back heq hne hne' hgap hgap' => ?_, fun before after hbefore hafter => ?_⟩
  · apply anchorId_eq_of_slug_eq hslug
    rw [slug_eq, slug_eq, hsame.flatMap_lowerForm]
  · subst heq
    exact anchorId_eq_of_slug_eq hslug (slug_replace_gap front back hne hne' hgap hgap')
  · exact anchorId_eq_of_slug_eq hslug (slug_add_edges source hbefore hafter)

/-- The capital sigma becomes a final one in front of the space and a medial one in front of a
letter; neither is in the slug. -/
theorem anchorId_depends_on_words_sigma :
    let source : Text := "2ΑΣ to 4"
    anchorId source = "id-2-to-4" ∧ anchorId "2ΑΣ TO 4" = anchorId source ∧
      anchorId "2♥ΑΣto 4" = anchorId source ∧ anchorId "-♥2ΑΣ to 4Σ-" = anchorId source := by
  intro source
  have hword : ∃ c ∈ source.lower, isSlugLetter c := by decide +kernel
  obtain ⟨-, hcase, hgap, hedges⟩ := anchorId_depends_on_words hword
  refine ⟨by decide +kernel, ?_, ?_, ?_⟩
  · exact hcase _ (Text.sameLetters_iff.mpr (by decide +kernel))
  · exact hgap "2" "ΑΣ " "♥ΑΣ" "to 4" (by decide) (by decide) (by decide) (by decide +kernel)
      (by decide +kernel)
  · exact hedges "-♥" "Σ-" (by decide +kernel) (by decide +kernel)

end MarkdownRender.Heading
