import MarkdownRender.Proofs.Text.Numeral
import MarkdownRender.Proofs.Url.Utf8Decoding
import MarkdownRender.Url.Percent

/-!
# Percent-decoding, run by run and all at once

Decoding cuts a text into runs of escapes and decodes each run by itself. On texts without
surrogates this is the same as writing the literal code points in UTF-8 too and decoding all octets
together (`decode_eq_whole`): UTF-8 synchronises itself, so a run that is broken at its end cannot
be mended by the literals around it. In the same way, text that follows may spoil what is decoded
so far, but it cannot change it (`decode_append`).
-/

namespace MarkdownRender.Percent

open CodePoint (ofChar)
open Utf8 (NoSurrogate)

/-! ### The two readings -/

/-- The octets of a piece, a literal code point being written in UTF-8. -/
def Piece.octets : Piece → List UInt8
  | literal c => Utf8.encodeOne c
  | octet b => [b]

/-- The octets of a text: an escape is its octet, all else is written in UTF-8. -/
def octets : Text → List UInt8
  | [] => []
  | c :: rest =>
    if c = '%' then
      match rest with
      | [] => Utf8.encodeOne c
      | [d] => Utf8.encodeOne c ++ Utf8.encodeOne d
      | high :: low :: others =>
        match octet? high low with
        | some b => b :: octets others
        | none => Utf8.encodeOne c ++ octets (high :: low :: others)
    else Utf8.encodeOne c ++ octets rest

def IsHexDigit (c : CodePoint) : Prop := c.hexValue?.isSome

/-- Every `%` is followed by two hexadecimal digits. -/
def AllEscapesComplete (text : Text) : Prop :=
  ∀ rest, ofChar '%' :: rest <:+ text →
    ∃ high low others, rest = high :: low :: others ∧ IsHexDigit high ∧ IsHexDigit low

/-! ### Pieces -/

theorem octet?_eq_some_iff {high low : CodePoint} {b : UInt8} :
    octet? high low = some b ↔
      ∃ h l, high.hexValue? = some h ∧ low.hexValue? = some l ∧ UInt8.ofNat (16 * h + l) = b := by
  simp [octet?, Option.bind_eq_some_iff]

theorem isSome_octet?_iff {high low : CodePoint} :
    (octet? high low).isSome ↔ IsHexDigit high ∧ IsHexDigit low := by
  simp only [IsHexDigit, Option.isSome_iff_exists, octet?_eq_some_iff]
  constructor
  · rintro ⟨b, h, l, hh, hl, -⟩
    exact ⟨⟨h, hh⟩, ⟨l, hl⟩⟩
  · rintro ⟨⟨h, hh⟩, ⟨l, hl⟩⟩
    exact ⟨_, h, l, hh, hl, rfl⟩

theorem not_isHexDigit_percent : ¬ IsHexDigit (ofChar '%') := by
  unfold IsHexDigit
  decide

theorem allEscapesComplete_nil : AllEscapesComplete [] := by
  intro rest h
  simp at h

theorem allEscapesComplete_cons_of_ne {c : CodePoint} (hc : c ≠ ofChar '%') (rest : Text) :
    AllEscapesComplete (c :: rest) ↔ AllEscapesComplete rest := by
  constructor
  · exact fun h rest' hrest' => h rest' (hrest'.trans (List.suffix_cons c rest))
  · intro h rest' hrest'
    rcases List.suffix_cons_iff.mp hrest' with heq | hsuf
    · exact absurd (List.cons.inj heq).1.symm hc
    · exact h rest' hsuf

theorem allEscapesComplete_percent_iff {rest : Text} :
    AllEscapesComplete (ofChar '%' :: rest) ↔
      ∃ high low others, rest = high :: low :: others ∧ IsHexDigit high ∧ IsHexDigit low ∧
        AllEscapesComplete others := by
  have hne : ∀ {c}, IsHexDigit c → c ≠ ofChar '%' := fun h hc => not_isHexDigit_percent (hc ▸ h)
  constructor
  · intro h
    obtain ⟨high, low, others, rfl, hhigh, hlow⟩ := h rest (List.suffix_refl _)
    refine ⟨high, low, others, rfl, hhigh, hlow, fun rest' hrest' => h rest' ?_⟩
    exact hrest'.trans ⟨[ofChar '%', high, low], rfl⟩
  · rintro ⟨high, low, others, rfl, hhigh, hlow, h⟩ rest' hrest'
    rcases List.suffix_cons_iff.mp hrest' with heq | hsuf
    · obtain ⟨-, rfl⟩ := List.cons.inj heq
      exact ⟨high, low, others, rfl, hhigh, hlow⟩
    · have hothers : AllEscapesComplete (high :: low :: others) :=
        (allEscapesComplete_cons_of_ne (hne hhigh) _).mpr
          ((allEscapesComplete_cons_of_ne (hne hlow) _).mpr h)
      exact hothers rest' hsuf

/-- A text has pieces exactly if no `%` in it is stray. -/
theorem isSome_pieces?_iff (text : Text) : (pieces? text).isSome ↔ AllEscapesComplete text := by
  fun_induction pieces? text with
  | case1 => simp [allEscapesComplete_nil]
  | case2 high low rest b hb ih =>
    have hdigits := isSome_octet?_iff.mp (Option.isSome_of_eq_some hb)
    simp [allEscapesComplete_percent_iff, hdigits, ih]
  | case3 high low rest hnone =>
    have hdigits : ¬ (IsHexDigit high ∧ IsHexDigit low) := by
      rw [← isSome_octet?_iff, hnone]
      simp
    simp only [Option.isSome_none, Bool.false_eq_true, false_iff, allEscapesComplete_percent_iff]
    rintro ⟨high', low', others, heq, hhigh, hlow, -⟩
    cases heq
    exact hdigits ⟨hhigh, hlow⟩
  | case4 rest hshort =>
    simp only [Option.isSome_none, Bool.false_eq_true, false_iff, allEscapesComplete_percent_iff]
    rintro ⟨high, low, others, rfl, -⟩
    exact hshort high low others rfl
  | case5 c rest hc ih => simp [allEscapesComplete_cons_of_ne hc, ih]

instance (text : Text) : Decidable (AllEscapesComplete text) :=
  decidable_of_iff _ (isSome_pieces?_iff text)

theorem octets_cons_of_ne {c : CodePoint} (hc : c ≠ ofChar '%') (rest : Text) :
    octets (c :: rest) = Utf8.encodeOne c ++ octets rest := by
  conv_lhs => unfold octets
  rw [if_neg hc]

theorem octets_of_pieces? {text : Text} {ps : List Piece} (h : pieces? text = some ps) :
    octets text = ps.flatMap Piece.octets := by
  fun_induction pieces? text generalizing ps with
  | case1 =>
    cases h
    rfl
  | case2 high low rest b hb ih =>
    obtain ⟨others, hothers, rfl⟩ := Option.map_eq_some_iff.mp h
    simp [octets, hb, ih hothers, Piece.octets]
  | case3 | case4 => cases h
  | case5 c rest hc ih =>
    obtain ⟨others, hothers, rfl⟩ := Option.map_eq_some_iff.mp h
    simp [octets_cons_of_ne hc, ih hothers, Piece.octets]

theorem noSurrogate_literals {text : Text} (h : NoSurrogate text) {ps : List Piece}
    (hps : pieces? text = some ps) : ∀ c, Piece.literal c ∈ ps → c.isSurrogate = false := by
  fun_induction pieces? text generalizing ps with
  | case1 =>
    cases hps
    simp
  | case2 high low rest b hb ih =>
    obtain ⟨others, hothers, rfl⟩ := Option.map_eq_some_iff.mp hps
    intro c hc
    have hrest : NoSurrogate rest := fun x hx => h x (by simp [hx])
    exact ih hrest hothers c (by simpa using hc)
  | case3 | case4 => cases hps
  | case5 a rest ha ih =>
    obtain ⟨others, hothers, rfl⟩ := Option.map_eq_some_iff.mp hps
    obtain ⟨hsa, hrest⟩ := Utf8.noSurrogate_cons.mp h
    intro c hc
    rcases List.mem_cons.mp hc with heq | hc
    · cases heq
      exact hsa
    · exact ih hrest hothers c hc

/-! ### Runs -/

/-- **Run by run is all at once.** -/
theorem decodeRuns?_eq_decode? {ps : List Piece}
    (h : ∀ c, Piece.literal c ∈ ps → c.isSurrogate = false) (run : List UInt8) :
    decodeRuns? run ps = Utf8.decode? (run ++ ps.flatMap Piece.octets) := by
  induction ps generalizing run with
  | nil => simp [decodeRuns?]
  | cons p rest ih =>
    have hrest : ∀ c, Piece.literal c ∈ rest → c.isSurrogate = false := fun c hc =>
      h c (List.mem_cons_of_mem p hc)
    cases p with
    | octet b =>
      rw [decodeRuns?, ih hrest]
      simp [Piece.octets]
    | literal c =>
      have hc : c.isSurrogate = false := h c List.mem_cons_self
      rw [decodeRuns?, ih hrest, List.flatMap_cons, Piece.octets, List.nil_append,
        Utf8.decode?_append (Utf8.beginsFresh_encodeOne_append c _),
        Utf8.decode?_encodeOne_append hc]
      simp only [Option.pure_def, Option.bind_eq_bind, Option.bind_map]
      rfl

/-- **Decoding run by run is decoding the whole.** A text without surrogates is decoded exactly if
each of its `%` is followed by two hexadecimal digits and all its octets together are UTF-8, and
then to the string that these octets are. Otherwise the error names the whole text, and blames a
stray `%` wherever there is one. -/
theorem decode_eq_whole (text : Text) (h : NoSurrogate text) :
    decode text =
      if AllEscapesComplete text then
        match String.fromUTF8? (octets text).toByteArray with
        | some s => .ok (Text.ofString s)
        | none => .error ⟨text, "invalid UTF-8 sequence"⟩
      else .error ⟨text, "'%' not followed by two hex digits"⟩ := by
  unfold decode
  cases hps : pieces? text with
  | none =>
    have hstray : ¬ AllEscapesComplete text := by
      rw [← isSome_pieces?_iff, hps]
      simp
    rw [if_neg hstray]
    rfl
  | some ps =>
    have hcomplete : AllEscapesComplete text := (isSome_pieces?_iff text).mp (by rw [hps]; rfl)
    have hruns : decodeRuns? [] ps =
        (String.fromUTF8? (octets text).toByteArray).map Text.ofString := by
      rw [decodeRuns?_eq_decode? (noSurrogate_literals h hps), List.nil_append,
        ← octets_of_pieces? hps, Utf8.decode?_eq_fromUTF8?]
    rw [if_pos hcomplete]
    simp only [hruns]
    cases String.fromUTF8? (octets text).toByteArray <;> rfl

/-- A sequence that is broken off by a literal is not completed behind it. -/
theorem decode_broken_sequence :
    NoSurrogate "%C3é%A9" ∧ decode "%C3é%A9" = .error ⟨"%C3é%A9", "invalid UTF-8 sequence"⟩ := by
  have h : NoSurrogate "%C3é%A9" := Utf8.noSurrogate_ofString _
  have hoctets : String.fromUTF8? (octets "%C3é%A9").toByteArray = none := by decide +kernel
  refine ⟨h, ?_⟩
  rw [decode_eq_whole _ h, if_pos (by decide +kernel), hoctets]

/-! ### What follows a text -/

theorem decode_eq_ok_iff {text decoded : Text} :
    decode text = .ok decoded ↔
      ∃ ps, pieces? text = some ps ∧ decodeRuns? [] ps = some decoded := by
  unfold decode
  cases pieces? text with
  | none => simp
  | some ps => cases h : decodeRuns? [] ps <;> simp [h]

theorem pieces?_cons_of_ne {c : CodePoint} (hc : c ≠ ofChar '%') (rest : Text) :
    pieces? (c :: rest) = (pieces? rest).map (.literal c :: ·) := by
  conv_lhs => unfold pieces?
  rw [if_neg hc]

theorem pieces?_append {front : Text} {ps : List Piece} (h : pieces? front = some ps)
    (back : Text) : pieces? (front ++ back) = (pieces? back).map (ps ++ ·) := by
  fun_induction pieces? front generalizing ps with
  | case1 =>
    cases h
    simp
  | case2 high low rest b hb ih =>
    obtain ⟨others, hothers, rfl⟩ := Option.map_eq_some_iff.mp h
    simp [pieces?, hb, ih hothers, Function.comp_def]
  | case3 | case4 => cases h
  | case5 c rest hc ih =>
    obtain ⟨others, hothers, rfl⟩ := Option.map_eq_some_iff.mp h
    simp [pieces?_cons_of_ne hc, ih hothers, Function.comp_def]

/-- A code point that is no hexadecimal digit completes no escape. -/
theorem AllEscapesComplete.of_append {front back : Text} {c : CodePoint} (hc : ¬ IsHexDigit c)
    (h : AllEscapesComplete (front ++ c :: back)) : AllEscapesComplete front := by
  rintro rest ⟨before, rfl⟩
  obtain ⟨high, low, others, heq, hhigh, hlow⟩ := h (rest ++ c :: back) ⟨before, by simp⟩
  match rest, heq with
  | [], heq =>
    rw [← (List.cons.inj heq).1] at hhigh
    exact absurd hhigh hc
  | [d], heq =>
    rw [← (List.cons.inj (List.cons.inj heq).2).1] at hlow
    exact absurd hlow hc
  | d :: e :: rest, heq =>
    have hd : d = high := (List.cons.inj heq).1
    have he : e = low := (List.cons.inj (List.cons.inj heq).2).1
    exact ⟨d, e, rest, rfl, hd ▸ hhigh, he ▸ hlow⟩

theorem pieces?_literals {text : Text} (h : ∀ c ∈ text, c ≠ ofChar '%') :
    pieces? text = some (text.map Piece.literal) := by
  induction text with
  | nil => rfl
  | cons c rest ih =>
    have hrest := ih fun x hx => h x (List.mem_cons_of_mem c hx)
    simp [pieces?_cons_of_ne (h c List.mem_cons_self), hrest]

theorem decodeRuns?_literals (text : Text) :
    decodeRuns? [] (text.map Piece.literal) = some text := by
  induction text with
  | nil => rfl
  | cons c rest ih => simp [decodeRuns?, ih, Utf8.decode?]

/-- A literal code point separates what is decoded before it from what is decoded after it. -/
theorem decodeRuns?_append_literal (run : List UInt8) (ps : List Piece) (c : CodePoint)
    (rest : List Piece) :
    decodeRuns? run (ps ++ .literal c :: rest) = do
      return (← decodeRuns? run ps) ++ c :: (← decodeRuns? [] rest) := by
  induction ps generalizing run with
  | nil => simp [decodeRuns?]
  | cons p ps ih =>
    cases p with
    | octet b => simp [decodeRuns?, ih]
    | literal d => simp [decodeRuns?, ih, Option.bind_assoc]

/-- Whatever follows an open run, what is decoded begins with a run that extends it. -/
theorem exists_run_of_decodeRuns? {run : List UInt8} {ps : List Piece} {decoded : Text}
    (h : decodeRuns? run ps = some decoded) :
    ∃ more start, Utf8.decode? (run ++ more) = some start ∧ start <+: decoded := by
  induction ps generalizing run with
  | nil => exact ⟨[], decoded, by simpa [decodeRuns?] using h, List.prefix_rfl⟩
  | cons p ps ih =>
    cases p with
    | octet b =>
      obtain ⟨more, start, hstart, hpre⟩ := ih h
      exact ⟨b :: more, start, by simpa using hstart, hpre⟩
    | literal c =>
      simp only [decodeRuns?, Option.pure_def, Option.bind_eq_bind, Option.bind_eq_some_iff] at h
      obtain ⟨start, hstart, others, -, heq⟩ := h
      cases heq
      exact ⟨[], start, by simpa using hstart, List.prefix_append _ _⟩

theorem prefix_of_decodeRuns? {run : List UInt8} {ps rest : List Piece} {decoded decoded' : Text}
    (h : decodeRuns? run ps = some decoded) (h' : decodeRuns? run (ps ++ rest) = some decoded') :
    decoded <+: decoded' := by
  induction ps generalizing run decoded decoded' with
  | nil =>
    obtain ⟨more, start, hstart, hpre⟩ := exists_run_of_decodeRuns? h'
    rw [Utf8.decode?_append_of_some h] at hstart
    obtain ⟨others, -, rfl⟩ := Option.map_eq_some_iff.mp hstart
    exact (List.prefix_append decoded others).trans hpre
  | cons p ps ih =>
    cases p with
    | octet b => exact ih h h'
    | literal c =>
      simp only [List.cons_append, decodeRuns?, Option.pure_def, Option.bind_eq_bind,
        Option.bind_eq_some_iff] at h h'
      obtain ⟨start, hstart, others, hothers, heq⟩ := h
      obtain ⟨start', hstart', others', hothers', heq'⟩ := h'
      rw [hstart] at hstart'
      cases hstart'
      cases heq
      cases heq'
      exact (List.prefix_append_right_inj start).mpr
        (List.cons_prefix_cons.mpr ⟨rfl, ih hothers hothers'⟩)

/-- **What follows does not change what is decoded**, if all of it is decoded at all. -/
theorem decode_append {front back decoded decoded' : Text} (h : decode front = .ok decoded)
    (h' : decode (front ++ back) = .ok decoded') : decoded <+: decoded' := by
  obtain ⟨ps, hps, hruns⟩ := decode_eq_ok_iff.mp h
  obtain ⟨ps', hps', hruns'⟩ := decode_eq_ok_iff.mp h'
  rw [pieces?_append hps] at hps'
  obtain ⟨rest, -, rfl⟩ := Option.map_eq_some_iff.mp hps'
  exact prefix_of_decodeRuns? hruns hruns'

/-- Literal code points at the end of a text are decoded by themselves. -/
theorem decode_append_literals {front back decoded : Text} {c : CodePoint} (hc : ¬ IsHexDigit c)
    (hback : ∀ x ∈ c :: back, x ≠ ofChar '%') (h : decode (front ++ c :: back) = .ok decoded) :
    ∃ decoded', decode front = .ok decoded' ∧ decoded = decoded' ++ c :: back := by
  obtain ⟨ps, hps, hruns⟩ := decode_eq_ok_iff.mp h
  have hcomplete : AllEscapesComplete front :=
    AllEscapesComplete.of_append hc ((isSome_pieces?_iff _).mp (by rw [hps]; rfl))
  obtain ⟨ps', hps'⟩ := Option.isSome_iff_exists.mp ((isSome_pieces?_iff front).mpr hcomplete)
  rw [pieces?_append hps', pieces?_literals hback] at hps
  cases hps
  rw [List.map_cons, decodeRuns?_append_literal, decodeRuns?_literals] at hruns
  obtain ⟨decoded', hdecoded', heq⟩ := Option.bind_eq_some_iff.mp hruns
  cases heq
  exact ⟨decoded', decode_eq_ok_iff.mpr ⟨ps', hps', hdecoded'⟩, rfl⟩

end MarkdownRender.Percent
