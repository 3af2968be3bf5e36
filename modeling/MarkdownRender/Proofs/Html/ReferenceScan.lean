import Mathlib.Data.List.Basic
import Mathlib.Data.List.TakeWhile
import MarkdownRender.Html.Reference
import MarkdownRender.Proofs.Text.Numeral

/-!
# How references are scanned

A text is read from the left. What stands there is a code point that begins no reference, a
reference, or a reference that the text ends before it is complete; `scan_induction` is the
induction over these steps. An ampersand that begins no reference is known as soon as a code point
stands behind it that no reference has there, so only an incomplete reference at the very end can
change its meaning when more text follows (`decodeReferences_append`).
-/

namespace MarkdownRender.Text

/-! ### Cutting a text -/

/-- The code points at the front of a text that satisfy `p`, if another one ends them. -/
theorem takeWhile_append_cons {p : CodePoint → Bool} {front : Text} (h : ∀ c ∈ front, p c)
    {d : CodePoint} (hd : ¬ p d) (rest : Text) : (front ++ d :: rest).takeWhile p = front := by
  rw [List.takeWhile_append_of_pos h, List.takeWhile_cons_of_neg hd, List.append_nil]

/-- Every text is cut where the code points that satisfy `p` end. -/
theorem exists_takeWhile_append_cons {p : CodePoint → Bool} {text : Text} {d : CodePoint}
    (h : (text.drop (text.takeWhile p).length).head? = some d) :
    ∃ rest, text = text.takeWhile p ++ d :: rest := by
  refine ⟨(text.drop (text.takeWhile p).length).tail, ?_⟩
  rw [← List.eq_cons_of_mem_head? h]
  exact (List.prefix_iff_eq_append.mp (List.takeWhile_prefix p)).symm

theorem drop_append_cons (front : Text) (d : CodePoint) (rest : Text) :
    (front ++ d :: rest).drop (front.length + 1) = rest := by
  simp [← List.drop_drop]

end MarkdownRender.Text

namespace MarkdownRender.Html

open CodePoint (ofChar asciiLower)

/-! ### Reference characters -/

theorem isReferenceChar_of_isWord {c : CodePoint} (h : c.isWord) : isReferenceChar c := by
  simp [isReferenceChar, h]

theorem not_isReferenceChar_ampersand : ¬ isReferenceChar '&' := by decide

theorem not_isReferenceChar_semicolon : ¬ isReferenceChar ';' := by decide

/-! ### One step of the scan -/

theorem decodeReferences_cons_of_ne {c : CodePoint} (h : c ≠ ofChar '&') (rest : Text) :
    decodeReferences (c :: rest) = c :: decodeReferences rest :=
  Text.substitute_cons_of_none (by simp [referenceRule, h])

theorem decodeReferences_reference {name : Text} (hne : name ≠ [])
    (hname : ∀ c ∈ name, isReferenceChar c) (rest : Text) :
    decodeReferences (ofChar '&' :: (name ++ ofChar ';' :: rest)) =
      referenceMeaning name ++ decodeReferences rest := by
  have htake := Text.takeWhile_append_cons hname not_isReferenceChar_semicolon rest
  have hrule : referenceRule '&' (name ++ ofChar ';' :: rest) =
      some (referenceMeaning name, name.length + 1) := by
    simp [referenceRule, htake, hne]
  unfold decodeReferences
  rw [Text.substitute_cons_of_some hrule, Text.drop_append_cons]

theorem decodeReferences_ampersand {name : Text} (hname : ∀ c ∈ name, isReferenceChar c)
    {d : CodePoint} (hd : ¬ isReferenceChar d) (hbare : d = ofChar ';' → name = []) (rest : Text) :
    decodeReferences (ofChar '&' :: (name ++ d :: rest)) =
      ofChar '&' :: decodeReferences (name ++ d :: rest) := by
  have htake := Text.takeWhile_append_cons hname hd rest
  refine Text.substitute_cons_of_none ?_
  simp only [referenceRule, htake]
  by_cases hne : name = []
  · simp [hne]
  · have hsemi : d ≠ ofChar ';' := fun h => hne (hbare h)
    simp [hsemi]

theorem decodeReferences_literals {text : Text} (h : ∀ c ∈ text, c ≠ ofChar '&') :
    decodeReferences text = text := by
  induction text with
  | nil => rfl
  | cons c rest ih =>
    rw [decodeReferences_cons_of_ne (h c List.mem_cons_self),
      ih fun x hx => h x (List.mem_cons_of_mem c hx)]

theorem decodeReferences_open {name : Text} (hname : ∀ c ∈ name, isReferenceChar c) :
    decodeReferences (ofChar '&' :: name) = ofChar '&' :: name := by
  have htake : name.takeWhile isReferenceChar = name := List.takeWhile_eq_self_iff.mpr hname
  have hlit : ∀ c ∈ name, c ≠ ofChar '&' := fun c hc h =>
    not_isReferenceChar_ampersand (h ▸ hname c hc)
  have hrule : referenceRule '&' name = none := by simp [referenceRule, htake]
  have hstep : decodeReferences (ofChar '&' :: name) = ofChar '&' :: decodeReferences name :=
    Text.substitute_cons_of_none hrule
  rw [hstep, decodeReferences_literals hlit]

/-! ### The whole scan -/

/-- Induction over the steps of the scan. -/
theorem scan_induction {P : Text → Prop} (nil : P [])
    (literal : ∀ c rest, c ≠ ofChar '&' → P rest → P (c :: rest))
    (ampersand : ∀ (name : Text) (d : CodePoint) (rest : Text), (∀ c ∈ name, isReferenceChar c) →
      ¬ isReferenceChar d → (d = ofChar ';' → name = []) → P (name ++ d :: rest) →
      P (ofChar '&' :: (name ++ d :: rest)))
    (reference : ∀ (name rest : Text), name ≠ [] → (∀ c ∈ name, isReferenceChar c) → P rest →
      P (ofChar '&' :: (name ++ ofChar ';' :: rest)))
    (incomplete : ∀ name : Text, (∀ c ∈ name, isReferenceChar c) → P (ofChar '&' :: name))
    (text : Text) : P text := by
  induction hlen : text.length using Nat.strongRecOn generalizing text with
  | ind n ih =>
    subst hlen
    cases text with
    | nil => exact nil
    | cons c rest =>
      by_cases hc : c = ofChar '&'
      · subst hc
        set name := rest.takeWhile isReferenceChar with hname
        have hall : ∀ c ∈ name, isReferenceChar c := fun c hc => List.mem_takeWhile_imp hc
        have hsplit : rest = name ++ rest.dropWhile isReferenceChar :=
          (List.takeWhile_append_dropWhile ..).symm
        cases hdrop : rest.dropWhile isReferenceChar with
        | nil =>
          rw [hdrop, List.append_nil] at hsplit
          rw [hsplit]
          exact incomplete name hall
        | cons d others =>
          have hd : ¬ isReferenceChar d := by
            have hhead := List.head_dropWhile_not isReferenceChar (l := rest) (by simp [hdrop])
            simpa [hdrop] using hhead
          rw [hdrop] at hsplit
          rw [hsplit]
          by_cases hsemi : d = ofChar ';' ∧ name ≠ []
          · obtain ⟨rfl, hne⟩ := hsemi
            refine reference name others hne hall (ih others.length ?_ others rfl)
            rw [hsplit]
            simp
            omega
          · refine ampersand name d others hall hd (fun h => ?_) (ih _ ?_ _ rfl)
            · by_contra hne
              exact hsemi ⟨h, hne⟩
            · rw [← hsplit]
              simp
      · exact literal c rest hc (ih rest.length (by simp) rest rfl)

/-- What may stand at the end of a text that is cut off: nothing, or the beginning of a
reference. -/
def IsIncomplete (text : Text) : Prop :=
  text = [] ∨ ∃ name : Text, (∀ c ∈ name, isReferenceChar c) ∧ text = ofChar '&' :: name

/-- **More text settles nothing anew.** All of a decoded text but an incomplete reference at its
end stays as it is when more text follows. -/
theorem decodeReferences_append (text : Text) :
    ∃ settled rest : Text, IsIncomplete rest ∧ decodeReferences text = settled ++ rest ∧
      ∀ tail : Text, settled <+: decodeReferences (text ++ tail) := by
  induction text using scan_induction with
  | nil => exact ⟨[], [], Or.inl rfl, rfl, fun _ => List.nil_prefix⟩
  | literal c rest hc ih =>
    obtain ⟨settled, final, hfinal, heq, hpre⟩ := ih
    refine ⟨c :: settled, final, hfinal, ?_, fun tail => ?_⟩
    · rw [decodeReferences_cons_of_ne hc, heq, List.cons_append]
    · rw [List.cons_append, decodeReferences_cons_of_ne hc]
      exact List.cons_prefix_cons.mpr ⟨rfl, hpre tail⟩
  | ampersand name d rest hname hd hbare ih =>
    obtain ⟨settled, final, hfinal, heq, hpre⟩ := ih
    refine ⟨ofChar '&' :: settled, final, hfinal, ?_, fun tail => ?_⟩
    · rw [decodeReferences_ampersand hname hd hbare, heq, List.cons_append]
    · have hstep := decodeReferences_ampersand hname hd hbare (rest ++ tail)
      have htail := hpre tail
      rw [List.append_assoc, List.cons_append] at htail
      rw [List.cons_append, List.append_assoc, List.cons_append, hstep]
      exact List.cons_prefix_cons.mpr ⟨rfl, htail⟩
  | reference name rest hne hname ih =>
    obtain ⟨settled, final, hfinal, heq, hpre⟩ := ih
    refine ⟨referenceMeaning name ++ settled, final, hfinal, ?_, fun tail => ?_⟩
    · rw [decodeReferences_reference hne hname, heq, List.append_assoc]
    · rw [List.cons_append, List.append_assoc, List.cons_append,
        decodeReferences_reference hne hname]
      exact (List.prefix_append_right_inj _).mpr (hpre tail)
  | incomplete name hname =>
    exact ⟨[], ofChar '&' :: name, Or.inr ⟨name, hname, rfl⟩, decodeReferences_open hname,
      fun _ => List.nil_prefix⟩

/-! ### What a reference means -/

theorem asciiLower_numberSign : asciiLower (ofChar '#') = ofChar '#' := by decide

theorem referenceMeaning_colon {name : Text} (h : name.map asciiLower = Text.ofString "colon") :
    referenceMeaning name = ":" := by
  simp [referenceMeaning, lowerMeaning, h]

/-- A named reference other than `&colon;` means nothing. -/
theorem referenceMeaning_named {name : Text} (hname : ∀ c ∈ name, c.isWord)
    (hcolon : name.map asciiLower ≠ Text.ofString "colon") : referenceMeaning name = [] := by
  have hsign : ∀ start : Text, ¬ Text.startsWith (name.map asciiLower) (ofChar '#' :: start) := by
    intro start hstart
    obtain ⟨rest, hrest⟩ := Text.startsWith_iff.mp hstart
    have hmem : ofChar '#' ∈ name.map asciiLower := by simp [← hrest]
    obtain ⟨c, hc, hlower⟩ := List.mem_map.mp hmem
    have hword := hname c hc
    rw [CodePoint.eq_of_asciiLower_eq hlower (by decide)] at hword
    exact absurd hword (by decide)
  have hx : ¬ Text.startsWith (name.map asciiLower) "#x" := hsign "x"
  have hd : ¬ Text.startsWith (name.map asciiLower) "#" := hsign []
  simp [referenceMeaning, lowerMeaning, hcolon, hx, hd]

/-- The name of a numeric reference is not `colon`. -/
theorem numberSign_cons_ne_colon (digits : Text) :
    ofChar '#' :: digits ≠ Text.ofString "colon" :=
  fun h => absurd (List.cons.inj h).1 (by decide)

theorem referenceMeaning_decimal {digits : Text} {n : Nat} (h : Text.numeral? 10 digits = some n) :
    referenceMeaning (ofChar '#' :: digits) =
      if digits.length ≤ maxDecimalDigits then (CodePoint.ofNat? n).toList else [] := by
  have hlower : Text.numeral? 10 (digits.map asciiLower) = some n := by
    rw [Text.numeral?_map_asciiLower, h]
  have hx : ¬ Text.startsWith (ofChar '#' :: digits.map asciiLower) "#x" := by
    intro hstart
    obtain ⟨rest, hrest⟩ := Text.startsWith_iff.mp hstart
    have hmem : ofChar 'x' ∈ digits.map asciiLower := by
      rw [← (List.cons.inj hrest).2]
      exact List.mem_cons_self
    obtain ⟨d, hd⟩ := Text.hexValue?_of_mem_of_numeral? hlower hmem
    have hnone : (ofChar 'x').hexValue? = none := by decide
    rw [hnone] at hd
    cases hd
  have hsign : Text.startsWith (ofChar '#' :: digits.map asciiLower) "#" :=
    Text.startsWith_iff.mpr ⟨digits.map asciiLower, rfl⟩
  simp [referenceMeaning, lowerMeaning, asciiLower_numberSign, numberSign_cons_ne_colon, hx, hsign,
    numericMeaning, hlower]

theorem referenceMeaning_hexadecimal {x : CodePoint} (hx : x.asciiLower = ofChar 'x')
    {digits : Text} {n : Nat} (h : Text.numeral? 16 digits = some n) :
    referenceMeaning (ofChar '#' :: x :: digits) = (CodePoint.ofNat? n).toList := by
  have hlower : Text.numeral? 16 (digits.map asciiLower) = some n := by
    rw [Text.numeral?_map_asciiLower, h]
  have hstart : Text.startsWith (ofChar '#' :: ofChar 'x' :: digits.map asciiLower) "#x" :=
    Text.startsWith_iff.mpr ⟨digits.map asciiLower, rfl⟩
  simp [referenceMeaning, lowerMeaning, asciiLower_numberSign, numberSign_cons_ne_colon, hx, hstart,
    numericMeaning, hlower]

end MarkdownRender.Html
