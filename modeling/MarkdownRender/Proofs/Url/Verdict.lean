import MarkdownRender.Proofs.Html.Spelling
import MarkdownRender.Proofs.Url.PercentDecoding
import MarkdownRender.Url.Scheme

/-!
# What the verdict on a URL depends on

A URL may be disguised twice: its text written with percent escapes, and the result written with
references. Both disguises are undone exactly, so the verdict is about the text that is meant
(`isSafe_eq_false_iff_of_spelling`). And a URL that is rejected for its scheme is rejected with
anything appended to it (`isSafe_append`), although what is appended may complete a reference or
spoil an escape.
-/

namespace MarkdownRender.Url

open CodePoint (ofChar asciiLower)
open Html (decodeReferences)
open Percent (Piece pieces? decodeRuns?)

/-! ### The verdict -/

theorem normalize_eq_ok_iff {url bare : Text} :
    normalize url = .ok bare ↔
      ∃ decoded, Percent.decode (decodeReferences url) = .ok decoded ∧ reduce decoded = bare := by
  unfold normalize
  cases Percent.decode (decodeReferences url) <;> simp [Except.map]

theorem normalize_eq_error_iff {url : Text} {e : MalformedUrl} :
    normalize url = .error e ↔ Percent.decode (decodeReferences url) = .error e := by
  unfold normalize
  cases Percent.decode (decodeReferences url) <;> simp [Except.map]

/-- A URL is rejected if it cannot be decoded or begins with the rejected scheme. -/
theorem isSafe_eq_false_iff {url : Text} :
    (isSafe url).value = false ↔ ∀ bare, normalize url = .ok bare → rejectedScheme <+: bare := by
  unfold isSafe
  cases h : normalize url with
  | error e => simp
  | ok bare =>
    by_cases hbare : bare.startsWith rejectedScheme = true
    · simp [hbare, Text.startsWith_iff.mp hbare]
    · simp [hbare, mt Text.startsWith_iff.mpr hbare]

/-- URLs with the same bare form, or without one, are judged alike. -/
theorem isSafe_congr_ok {url url' : Text}
    (h : ∀ bare, normalize url = .ok bare ↔ normalize url' = .ok bare) :
    (isSafe url).value = (isSafe url').value := by
  have hfalse : (isSafe url).value = false ↔ (isSafe url').value = false := by
    simp only [isSafe_eq_false_iff, h]
  rw [Bool.eq_iff_iff, ← Bool.not_eq_false, ← Bool.not_eq_false, hfalse]

/-! ### Percent escapes -/

/-- The escapes of octets, in lower-case digits. -/
def escapes (bs : List UInt8) : Text := bs.flatMap fun b => ofChar '%' :: Text.hex 2 b.toNat

/-- `PercentSpelling w v`: in `v`, every code point of `w` is written as itself or by the escapes of
its octets, with digits of either case. -/
inductive PercentSpelling : Text → Text → Prop where
  | nil : PercentSpelling [] []
  | literal {c : CodePoint} (hc : c ≠ ofChar '%') {w v : Text} :
      PercentSpelling w v → PercentSpelling (c :: w) (c :: v)
  | escaped {c : CodePoint} (hc : c.isSurrogate = false) {text : Text}
      (htext : text.map asciiLower = escapes (Utf8.encodeOne c)) {w v : Text} :
      PercentSpelling w v → PercentSpelling (c :: w) (text ++ v)

/-- A text without `%` spells itself. -/
theorem PercentSpelling.self {w : Text} (h : ∀ c ∈ w, c ≠ ofChar '%') : PercentSpelling w w := by
  induction w with
  | nil => exact .nil
  | cons c w ih =>
    exact .literal (h c List.mem_cons_self) (ih fun x hx => h x (List.mem_cons_of_mem c hx))

theorem pieces?_escapes_append {bs : List UInt8} {text : Text}
    (h : text.map asciiLower = escapes bs) (rest : Text) :
    pieces? (text ++ rest) = (pieces? rest).map (bs.map Piece.octet ++ ·) := by
  induction bs generalizing text with
  | nil =>
    obtain rfl : text = [] := by simpa [escapes] using h
    simp
  | cons b bs ih =>
    have hb : b.toNat < 256 := b.toNat_lt
    rw [escapes, List.flatMap_cons, Text.hex_two hb] at h
    obtain ⟨p, text₁, rfl, hp, h₁⟩ := List.map_eq_cons_iff.mp h
    obtain ⟨high, text₂, rfl, hhigh, h₂⟩ := List.map_eq_cons_iff.mp h₁
    obtain ⟨low, others, rfl, hlow, hothers⟩ := List.map_eq_cons_iff.mp h₂
    obtain rfl := CodePoint.eq_of_asciiLower_eq hp (by decide)
    have hoctet : Percent.octet? high low = some b := by
      refine Percent.octet?_eq_some_iff.mpr ⟨b.toNat / 16, b.toNat % 16, ?_, ?_, ?_⟩
      · rw [← CodePoint.hexValue?_asciiLower, hhigh, CodePoint.hexValue?_digitChar (by omega)]
      · rw [← CodePoint.hexValue?_asciiLower, hlow, CodePoint.hexValue?_digitChar (by omega)]
      · rw [Nat.div_add_mod, UInt8.ofNat_toNat]
    simp [pieces?, hoctet, ih hothers, Function.comp_def]

theorem decodeRuns?_octets_append (run bs : List UInt8) (ps : List Piece) :
    decodeRuns? run (bs.map Piece.octet ++ ps) = decodeRuns? (run ++ bs) ps := by
  induction bs generalizing run with
  | nil => simp
  | cons b bs ih => simp [decodeRuns?, ih]

/-- The pieces of a spelling. An open run in front of them is decoded as before, since every
spelled code point brings all its octets. -/
theorem PercentSpelling.exists_pieces {w v : Text} (h : PercentSpelling w v) :
    ∃ ps, pieces? v = some ps ∧ ∀ run start, Utf8.decode? run = some start →
      decodeRuns? run ps = some (start ++ w) := by
  induction h with
  | nil => exact ⟨[], rfl, fun run start hrun => by simpa [decodeRuns?] using hrun⟩
  | @literal c hc w v _ ih =>
    obtain ⟨ps, hps, hruns⟩ := ih
    refine ⟨.literal c :: ps, ?_, fun run start hrun => ?_⟩
    · rw [Percent.pieces?_cons_of_ne hc, hps]
      rfl
    · rw [decodeRuns?, hrun, hruns [] [] rfl]
      rfl
  | @escaped c hc text htext w v _ ih =>
    obtain ⟨ps, hps, hruns⟩ := ih
    refine ⟨(Utf8.encodeOne c).map .octet ++ ps, ?_, fun run start hrun => ?_⟩
    · rw [pieces?_escapes_append htext, hps]
      rfl
    · have hone : Utf8.decode? (Utf8.encodeOne c) = some [c] := by
        have := Utf8.decode?_encodeOne_append hc []
        simpa [Utf8.decode?] using this
      have hrun' : Utf8.decode? (run ++ Utf8.encodeOne c) = some (start ++ [c]) := by
        rw [Utf8.decode?_append_of_some hrun, hone]
        rfl
      rw [decodeRuns?_octets_append, hruns _ _ hrun', List.append_assoc]
      rfl

/-- What is spelled by escapes is decoded to what was meant. -/
theorem PercentSpelling.decode_eq {w v : Text} (h : PercentSpelling w v) :
    Percent.decode v = .ok w := by
  obtain ⟨ps, hps, hruns⟩ := h.exists_pieces
  exact Percent.decode_eq_ok_iff.mpr ⟨ps, hps, hruns [] [] rfl⟩

/-- **A URL is judged by what it means.** However a text is spelled by escapes and the result by
references, the URL is rejected if and only if the word characters and colons of the text, in lower
case, begin with `javascript:`. -/
theorem isSafe_eq_false_iff_of_spelling {w v u : Text} (hv : PercentSpelling w v)
    (hu : Html.ReferenceSpelling v u) :
    (isSafe u).value = false ↔ Text.ofString "javascript:" <+: reduce w := by
  have hnorm : normalize u = .ok (reduce w) :=
    normalize_eq_ok_iff.mpr ⟨w, by rw [hu.decodeReferences_eq, hv.decode_eq], rfl⟩
  rw [isSafe_eq_false_iff]
  constructor
  · exact fun h => h _ hnorm
  · intro h bare hbare
    rw [hnorm] at hbare
    cases hbare
    exact h

/-- An escape whose `%` is itself written as a reference hides nothing. -/
theorem isSafe_disguised_javascript :
    PercentSpelling "javascript:" "%6Aavascript:" ∧
      Html.ReferenceSpelling "%6Aavascript:" "&nbsp;&#00037;6Aavascript:" ∧
      (isSafe "&nbsp;&#00037;6Aavascript:").value = false := by
  have hv : PercentSpelling "javascript:" "%6Aavascript:" := by
    refine @PercentSpelling.escaped (ofChar 'j') (by decide) "%6A" (by decide +kernel) _ _ ?_
    exact .self (w := "avascript:") (by decide)
  have hu : Html.ReferenceSpelling "%6Aavascript:" "&nbsp;&#00037;6Aavascript:" := by
    refine @Html.ReferenceSpelling.named "nbsp" (by decide) (by decide) (by decide) _ _ ?_
    refine @Html.ReferenceSpelling.spelled (ofChar '%') (.decimal 3) (by decide) _ _ ?_
    exact .self (v := "6Aavascript:") (by decide)
  exact ⟨hv, hu, (isSafe_eq_false_iff_of_spelling hv hu).mpr (by decide)⟩

/-! ### What is appended -/

theorem reduce_append (text text' : Text) : reduce (text ++ text') = reduce text ++ reduce text' := by
  simp [reduce]

theorem reduce_mono {text text' : Text} (h : text <+: text') : reduce text <+: reduce text' :=
  (h.filter isSchemeChar).map asciiLower

/-- A start that ends in `x` cannot reach into a part without `x`. -/
theorem prefix_of_prefix_append (start : Text) {front back : Text} {x : CodePoint}
    (h : start ++ [x] <+: front ++ back) (hx : x ∉ back) : start ++ [x] <+: front := by
  rcases List.prefix_or_prefix_of_prefix h (List.prefix_append front back) with hstart | hfront
  · exact hstart
  · obtain ⟨middle, hmiddle⟩ := hfront
    rw [← hmiddle, List.prefix_append_right_inj] at h
    rcases List.eq_nil_or_concat middle with rfl | ⟨others, y, rfl⟩
    · have hfront : start ++ [x] = front := by rw [← hmiddle, List.append_nil]
      exact hfront ▸ List.prefix_rfl
    · have hy : y = x := by
        have hlast := congrArg List.getLast? hmiddle
        simpa using hlast
      exact absurd (h.subset (by simp [hy])) hx

/-- The end of an incomplete reference has no colon. -/
theorem colon_notMem_reduce {text : Text} (h : Html.IsIncomplete text) :
    ofChar ':' ∉ reduce text := by
  intro hmem
  obtain ⟨c, hc, hlower⟩ := List.mem_map.mp hmem
  obtain rfl := CodePoint.eq_of_asciiLower_eq hlower (by decide)
  have hcolon := List.mem_of_mem_filter hc
  rcases h with rfl | ⟨name, hname, rfl⟩
  · cases hcolon
  · rcases List.mem_cons.mp hcolon with heq | hcolon
    · exact absurd heq (by decide)
    · exact absurd (hname _ hcolon) (by decide)

/-- What is decoded of a URL but an incomplete reference at its end is decoded by itself. -/
theorem exists_decode_settled {settled rest decoded : Text} (hrest : Html.IsIncomplete rest)
    (h : Percent.decode (settled ++ rest) = .ok decoded) :
    ∃ decoded', Percent.decode settled = .ok decoded' ∧ decoded = decoded' ++ rest := by
  rcases hrest with rfl | ⟨name, hname, rfl⟩
  · exact ⟨decoded, by simpa using h, (List.append_nil decoded).symm⟩
  · refine Percent.decode_append_literals (by unfold Percent.IsHexDigit; decide) ?_ h
    intro c hc hpercent
    subst hpercent
    rcases List.mem_cons.mp hc with heq | hc
    · exact absurd heq (by decide)
    · exact absurd (hname _ hc) (by decide)

/-- **Nothing appended rescues a rejected URL.** -/
theorem isSafe_append {url bare : Text} (h : normalize url = .ok bare)
    (hbare : Text.ofString "javascript:" <+: bare) (tail : Text) :
    (isSafe (url ++ tail)).value = false := by
  obtain ⟨settled, rest, hrest, heq, hpre⟩ := Html.decodeReferences_append url
  obtain ⟨decoded, hdecoded, rfl⟩ := normalize_eq_ok_iff.mp h
  rw [heq] at hdecoded
  obtain ⟨start, hstart, rfl⟩ := exists_decode_settled hrest hdecoded
  -- the scheme ends in a colon, so it lies in the part that nothing changes any more
  have hscheme : Text.ofString "javascript:" <+: reduce start := by
    rw [reduce_append] at hbare
    exact prefix_of_prefix_append (Text.ofString "javascript") hbare (colon_notMem_reduce hrest)
  refine isSafe_eq_false_iff.mpr fun bare' hbare' => ?_
  obtain ⟨decoded', hdecoded', rfl⟩ := normalize_eq_ok_iff.mp hbare'
  obtain ⟨more, hmore⟩ := hpre tail
  rw [← hmore] at hdecoded'
  exact hscheme.trans (reduce_mono (Percent.decode_append hstart hdecoded'))

/-- What is appended may complete a reference that the scheme was not waiting for, and spoil an
escape. -/
theorem isSafe_javascript_append :
    normalize "javascript:&#5" = .ok "javascript:5" ∧
      (isSafe (Text.ofString "javascript:&#5" ++ Text.ofString "8;%")).value = false := by
  have h : normalize "javascript:&#5" = .ok "javascript:5" := by decide +kernel
  exact ⟨h, isSafe_append h (by decide) "8;%"⟩

end MarkdownRender.Url
