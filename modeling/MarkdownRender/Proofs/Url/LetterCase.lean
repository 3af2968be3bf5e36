import MarkdownRender.Proofs.Url.Verdict

/-!
# The case of letters in a URL

Neither the names and digits of references nor the digits of escapes have a case that matters, and
what is left of the decoded text is lowered at the end. So each stage makes of a lowered text what it
makes of the text itself, up to the case of letters (`decodeReferences_map_asciiLower`,
`pieces?_map_asciiLower`, `decodeRuns?_map_lower`), and the last stage makes the same of both
(`reduce_map_asciiLower`). Two URLs that differ in case only are equal once they are lowered; each
stage keeps them so, and at the end they have one bare form, or none (`letter_case_keeps_verdict`).
-/

namespace MarkdownRender

open CodePoint (ofChar asciiLower)

/-! ### References -/

/-- A rule that does not tell a text from its image under `f` makes the same of both, up to `f`. -/
theorem Text.substituteFrom_map {rule : Rule} {f : CodePoint → CodePoint}
    (hf : ∀ c, f (f c) = f c) (hrule : ∀ c rest, rule (f c) (rest.map f) = rule c rest)
    (skip : Nat) (text : Text) :
    (substituteFrom rule skip (text.map f)).map f = (substituteFrom rule skip text).map f := by
  induction text generalizing skip with
  | nil => rfl
  | cons c rest ih =>
    cases skip with
    | succ skip => exact ih skip
    | zero =>
      rw [List.map_cons, substituteFrom, substituteFrom, hrule]
      cases rule c rest with
      | none => simp only [List.map_cons, hf, ih]
      | some stretch => simp only [List.map_append, ih]

namespace Html

theorem isReferenceChar_asciiLower (c : CodePoint) :
    isReferenceChar c.asciiLower = isReferenceChar c := by
  have hsign : c.asciiLower = ofChar '#' ↔ c = ofChar '#' :=
    CodePoint.asciiLower_eq_iff (by decide) (by decide)
  simp only [isReferenceChar, CodePoint.isWord_asciiLower, hsign]

theorem referenceMeaning_map_asciiLower (name : Text) :
    referenceMeaning (name.map asciiLower) = referenceMeaning name := by
  have hmap : (name.map asciiLower).map asciiLower = name.map asciiLower := by
    rw [List.map_map]
    exact List.map_congr_left fun c _ => c.asciiLower_asciiLower
  rw [referenceMeaning, referenceMeaning, hmap]

theorem referenceRule_asciiLower (c : CodePoint) (rest : Text) :
    referenceRule c.asciiLower (rest.map asciiLower) = referenceRule c rest := by
  have hstart : c.asciiLower = ofChar '&' ↔ c = ofChar '&' :=
    CodePoint.asciiLower_eq_iff (by decide) (by decide)
  have hend : ∀ d : CodePoint, d.asciiLower = ofChar ';' ↔ d = ofChar ';' :=
    fun d => CodePoint.asciiLower_eq_iff (by decide) (by decide)
  have hname : (rest.map asciiLower).takeWhile isReferenceChar =
      (rest.takeWhile isReferenceChar).map asciiLower := by
    rw [List.takeWhile_map]
    congr 2
    funext d
    exact isReferenceChar_asciiLower d
  have hhead : ∀ text : Text, (text.map asciiLower).head? = some (ofChar ';') ↔
      text.head? = some (ofChar ';') := by
    intro text
    cases text with
    | nil => simp
    | cons d others => simp [hend]
  simp only [referenceRule, hname, List.length_map, List.isEmpty_map, ← List.map_drop, hstart, hhead,
    referenceMeaning_map_asciiLower]

theorem decodeReferences_map_asciiLower (text : Text) :
    (decodeReferences (text.map asciiLower)).map asciiLower =
      (decodeReferences text).map asciiLower :=
  Text.substituteFrom_map CodePoint.asciiLower_asciiLower referenceRule_asciiLower 0 text

theorem decodeReferences_sameLetters {s t : Text} (h : s.SameLetters t) :
    (decodeReferences s).SameLetters (decodeReferences t) := by
  rw [Text.sameLetters_iff] at h ⊢
  rw [← decodeReferences_map_asciiLower s, h, decodeReferences_map_asciiLower t]

end Html

/-! ### Escapes -/

namespace Percent

/-- A piece in lower case; an octet has none. -/
def Piece.lower : Piece → Piece
  | literal c => literal c.asciiLower
  | octet b => octet b

theorem octet?_asciiLower (high low : CodePoint) :
    octet? high.asciiLower low.asciiLower = octet? high low := by
  simp only [octet?, CodePoint.hexValue?_asciiLower]

theorem pieces?_map_asciiLower (text : Text) :
    pieces? (text.map asciiLower) = (pieces? text).map (List.map Piece.lower) := by
  have hpercent : (ofChar '%').asciiLower = ofChar '%' := by decide
  fun_induction pieces? text with
  | case1 => rfl
  | case2 high low rest b hb ih =>
    simp only [List.map_cons, hpercent, pieces?, octet?_asciiLower, hb, ih, if_true]
    simp [Function.comp_def, Piece.lower]
  | case3 high low rest hnone =>
    simp [hpercent, pieces?, octet?_asciiLower, hnone]
  | case4 rest hshort =>
    rcases rest with _ | ⟨high, _ | ⟨low, others⟩⟩
    · simp [hpercent, pieces?]
    · simp [hpercent, pieces?]
    · exact absurd rfl (hshort high low others)
  | case5 c rest hc ih =>
    have hlower : c.asciiLower ≠ ofChar '%' := by
      intro h
      exact hc (CodePoint.eq_of_asciiLower_eq h (by decide))
    rw [List.map_cons, pieces?_cons_of_ne hlower, ih]
    simp [Function.comp_def, Piece.lower]

theorem decodeRuns?_map_lower (run : List UInt8) (ps : List Piece) :
    (decodeRuns? run (ps.map Piece.lower)).map (List.map asciiLower) =
      (decodeRuns? run ps).map (List.map asciiLower) := by
  induction ps generalizing run with
  | nil => rfl
  | cons p rest ih =>
    cases p with
    | octet b => exact ih (run ++ [b])
    | literal c =>
      have hrest := ih []
      simp only [List.map_cons, Piece.lower, decodeRuns?]
      cases Utf8.decode? run with
      | none => rfl
      | some start =>
        cases hd : decodeRuns? [] rest <;> cases hd' : decodeRuns? [] (rest.map Piece.lower) <;>
          simp_all [CodePoint.asciiLower_asciiLower]

/-- Two texts that differ in case only are decoded to such texts, or blamed for the same reason. -/
theorem decode_sameLetters {s t : Text} (h : s.SameLetters t) :
    (∃ reason, decode s = .error ⟨s, reason⟩ ∧ decode t = .error ⟨t, reason⟩) ∨
      ∃ decoded decoded', decode s = .ok decoded ∧ decode t = .ok decoded' ∧
        decoded.SameLetters decoded' := by
  have hpieces : (pieces? s).map (List.map Piece.lower) = (pieces? t).map (List.map Piece.lower) := by
    rw [← pieces?_map_asciiLower, Text.sameLetters_iff.mp h, pieces?_map_asciiLower]
  cases hs : pieces? s with
  | none =>
    have ht : pieces? t = none := by
      rw [hs] at hpieces
      exact Option.map_eq_none_iff.mp hpieces.symm
    simp only [decode, hs, ht]
    exact Or.inl ⟨_, rfl, rfl⟩
  | some ps =>
    rw [hs] at hpieces
    obtain ⟨ps', ht, hlower⟩ := Option.map_eq_some_iff.mp hpieces.symm
    have hruns : (decodeRuns? [] ps).map (List.map asciiLower) =
        (decodeRuns? [] ps').map (List.map asciiLower) := by
      rw [← decodeRuns?_map_lower, ← hlower, decodeRuns?_map_lower]
    cases hd : decodeRuns? [] ps with
    | none =>
      have hd' : decodeRuns? [] ps' = none := by
        rw [hd] at hruns
        exact Option.map_eq_none_iff.mp hruns.symm
      simp only [decode, hs, ht, hd, hd']
      exact Or.inl ⟨_, rfl, rfl⟩
    | some decoded =>
      rw [hd] at hruns
      obtain ⟨decoded', hd', hdecoded⟩ := Option.map_eq_some_iff.mp hruns.symm
      simp only [decode, hs, ht, hd, hd']
      exact Or.inr ⟨decoded, decoded', rfl, rfl, Text.sameLetters_iff.mpr hdecoded.symm⟩

end Percent

/-! ### The bare form -/

namespace Url

theorem isSchemeChar_asciiLower (c : CodePoint) : isSchemeChar c.asciiLower = isSchemeChar c := by
  have hcolon : c.asciiLower = ofChar ':' ↔ c = ofChar ':' :=
    CodePoint.asciiLower_eq_iff (by decide) (by decide)
  simp only [isSchemeChar, CodePoint.isWord_asciiLower, hcolon]

theorem reduce_map_asciiLower (text : Text) : reduce (text.map asciiLower) = reduce text := by
  have hclass : isSchemeChar ∘ asciiLower = isSchemeChar := funext isSchemeChar_asciiLower
  have htwice : asciiLower ∘ asciiLower = asciiLower := funext CodePoint.asciiLower_asciiLower
  rw [reduce, reduce, List.filter_map, hclass, List.map_map, htwice]

theorem reduce_sameLetters {s t : Text} (h : s.SameLetters t) : reduce s = reduce t := by
  rw [← reduce_map_asciiLower s, Text.sameLetters_iff.mp h, reduce_map_asciiLower]

/-- **The case of letters is no matter.** Two URLs of one length that differ in the case of ASCII
letters only, wherever these stand, have the same bare form, or neither has one, for the same reason.
The verdict on both is the same. -/
theorem letter_case_keeps_verdict {url url' : Text} (h : url.SameLetters url') :
    ((∃ e e', normalize url = .error e ∧ normalize url' = .error e' ∧ e.reason = e'.reason) ∨
      ∃ bare, normalize url = .ok bare ∧ normalize url' = .ok bare) ∧
    (isSafe url).value = (isSafe url').value := by
  have hdecode := Percent.decode_sameLetters (Html.decodeReferences_sameLetters h)
  rcases hdecode with ⟨reason, hs, ht⟩ | ⟨decoded, decoded', hs, ht, hsame⟩
  · have hurl := normalize_eq_error_iff.mpr hs
    have hurl' := normalize_eq_error_iff.mpr ht
    refine ⟨Or.inl ⟨_, _, hurl, hurl', rfl⟩, isSafe_congr_ok fun bare => ?_⟩
    rw [hurl, hurl']
    simp
  · have hurl : normalize url = .ok (reduce decoded) := normalize_eq_ok_iff.mpr ⟨_, hs, rfl⟩
    have hurl' : normalize url' = .ok (reduce decoded) :=
      normalize_eq_ok_iff.mpr ⟨_, ht, (reduce_sameLetters hsame).symm⟩
    refine ⟨Or.inr ⟨_, hurl, hurl'⟩, isSafe_congr_ok fun bare => ?_⟩
    rw [hurl, hurl']

/-- Case in the name of a reference, in its digits, in an escape behind a `%` that is itself spelled
by a reference, and in the letters. -/
theorem letter_case_keeps_verdict_javascript :
    let url : Text := "&#X25;4aaVA&NBSP;%73Cript&Colon;alert"
    let url' : Text := "&#x25;4Aava&nbsp;%73cRIPT&colON;ALERT"
    url.SameLetters url' ∧ normalize url = .ok "javascript:alert" ∧
      (isSafe url).value = (isSafe url').value ∧ (isSafe url).value = false := by
  intro url url'
  have hsame : url.SameLetters url' := Text.sameLetters_iff.mpr (by decide +kernel)
  have hurl : normalize url = .ok "javascript:alert" := by decide +kernel
  obtain ⟨-, hverdict⟩ := letter_case_keeps_verdict hsame
  exact ⟨hsame, hurl, hverdict, by decide +kernel⟩

end Url

end MarkdownRender
