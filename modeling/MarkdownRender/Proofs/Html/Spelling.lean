import MarkdownRender.Proofs.Html.ReferenceScan

/-!
# Spellings by references

A code point can be written in many ways that references undo: itself, its number in decimal or
hexadecimal digits behind any number of zeros, or `&colon;`. A `Spelling` is one of these ways.
All of them are read back but one: a decimal reference of more than `maxDecimalDigits` digits, the
zeros counted, is dropped (`decodeReferences_spelled_iff`). References by other names may stand
between spelled code points without being seen.
-/

namespace MarkdownRender.Html

open CodePoint (ofChar asciiLower)

/-- The reference of a name. -/
def reference (name : Text) : Text := ofChar '&' :: (name ++ [ofChar ';'])

theorem reference_append (name rest : Text) :
    reference name ++ rest = ofChar '&' :: (name ++ ofChar ';' :: rest) := by
  simp [reference]

/-- The decimal digits of `c` behind `zeros` zeros. -/
def decimalDigits (c : CodePoint) (zeros : Nat) : Text :=
  List.replicate zeros (ofChar '0') ++ Text.decimal c.val

/-- A way to write the code point `c`. -/
inductive Spelling (c : CodePoint) where
  /-- The code point itself, if it begins no reference. -/
  | literal (h : c ≠ ofChar '&')
  /-- `&#D;` -/
  | decimal (zeros : Nat)
  /-- `&#xH;` or `&#XH;`, with digits of either case. -/
  | hexadecimal (x : CodePoint) (hx : x = ofChar 'x' ∨ x = ofChar 'X') (digits : Text) (zeros : Nat)
      (hdigits : digits.map asciiLower =
        List.replicate zeros (ofChar '0') ++ Text.hex 0 c.val)
  /-- `&colon;`, with letters of either case. -/
  | colon (hc : c = ofChar ':') (name : Text)
      (hname : name.map asciiLower = Text.ofString "colon")

namespace Spelling

variable {c : CodePoint}

/-- What is written. -/
def text : Spelling c → Text
  | literal _ => [c]
  | decimal zeros => reference (ofChar '#' :: decimalDigits c zeros)
  | hexadecimal x _ digits _ _ => reference (ofChar '#' :: x :: digits)
  | colon _ name _ => reference name

/-- Decimal references must not be longer than `maxDecimalDigits`. -/
def isReadable : Spelling c → Bool
  | decimal zeros => (decimalDigits c zeros).length ≤ maxDecimalDigits
  | _ => true

end Spelling

/-- A code point and a way to write it. -/
structure Spelled where
  meant : CodePoint
  spelling : Spelling meant

namespace Spelled

def text (s : Spelled) : Text := s.spelling.text

def isReadable (s : Spelled) : Bool := s.spelling.isReadable

end Spelled

/-! ### Reading one spelling -/

theorem ofNat?_val (c : CodePoint) : CodePoint.ofNat? c.val = some c := by
  simp [CodePoint.ofNat?, c.isLt]

theorem decodeReferences_reference_append {name : Text} (hne : name ≠ [])
    (hname : ∀ c ∈ name, isReferenceChar c) (rest : Text) :
    decodeReferences (reference name ++ rest) = referenceMeaning name ++ decodeReferences rest := by
  rw [reference_append, decodeReferences_reference hne hname]

/-- The name of a numeric reference consists of reference characters. -/
theorem isReferenceChar_of_mem_numeric {marks : Text} (hmarks : ∀ c ∈ marks, isReferenceChar c)
    {base n : Nat} {digits : Text} (h : Text.numeral? base digits = some n) :
    ∀ c ∈ marks ++ digits, isReferenceChar c := by
  intro c hc
  rcases List.mem_append.mp hc with hc | hc
  · exact hmarks c hc
  · obtain ⟨d, hd⟩ := Text.hexValue?_of_mem_of_numeral? h hc
    exact isReferenceChar_of_isWord (CodePoint.isWord_of_hexValue? hd)

theorem isWord_of_map_asciiLower_eq_colon {name : Text}
    (h : name.map asciiLower = Text.ofString "colon") {c : CodePoint} (hc : c ∈ name) :
    c.isWord := by
  have hlower : c.asciiLower ∈ Text.ofString "colon" := h ▸ List.mem_map_of_mem hc
  have hletter : ∀ d ∈ Text.ofString "colon", d.isLower = true := by decide
  exact CodePoint.isWord_of_isLower_asciiLower (hletter _ hlower)

/-- **A spelling is read back**, unless it is a decimal reference with too many digits. -/
theorem decodeReferences_spelling {c : CodePoint} (s : Spelling c) (rest : Text) :
    decodeReferences (s.text ++ rest) =
      (if s.isReadable then [c] else []) ++ decodeReferences rest := by
  cases s with
  | literal h => exact decodeReferences_cons_of_ne h rest
  | decimal zeros =>
    have hnum : Text.numeral? 10 (decimalDigits c zeros) = some c.val :=
      Text.numeral?_decimal zeros c.val
    have hmarks : ∀ d ∈ [ofChar '#'], isReferenceChar d := by decide
    have hname : ∀ d ∈ ofChar '#' :: decimalDigits c zeros, isReferenceChar d :=
      isReferenceChar_of_mem_numeric hmarks hnum
    simp only [Spelling.text, Spelling.isReadable, decide_eq_true_eq]
    rw [decodeReferences_reference_append (List.cons_ne_nil _ _) hname,
      referenceMeaning_decimal hnum, ofNat?_val]
    rfl
  | hexadecimal x hx digits zeros hdigits =>
    have hnum : Text.numeral? 16 digits = some c.val := by
      rw [← Text.numeral?_map_asciiLower, hdigits]
      exact Text.numeral?_hex zeros 0 c.val
    have hlower : x.asciiLower = ofChar 'x' := by
      rcases hx with rfl | rfl <;> decide
    have hmarks : ∀ d ∈ [ofChar '#', x], isReferenceChar d := by
      rcases hx with rfl | rfl <;> decide
    have hname : ∀ d ∈ ofChar '#' :: x :: digits, isReferenceChar d :=
      isReferenceChar_of_mem_numeric hmarks hnum
    simp only [Spelling.text, Spelling.isReadable]
    rw [decodeReferences_reference_append (List.cons_ne_nil _ _) hname,
      referenceMeaning_hexadecimal hlower hnum, ofNat?_val]
    rfl
  | colon hc name hname =>
    have hne : name ≠ [] := by
      rintro rfl
      cases hname
    simp only [Spelling.text, Spelling.isReadable]
    rw [decodeReferences_reference_append hne
      fun d hd => isReferenceChar_of_isWord (isWord_of_map_asciiLower_eq_colon hname hd),
      referenceMeaning_colon hname, hc]
    rfl

/-! ### Reading whole texts -/

theorem decodeReferences_spelled (spelled : List Spelled) :
    decodeReferences (spelled.flatMap Spelled.text) =
      (spelled.filter Spelled.isReadable).map Spelled.meant := by
  induction spelled with
  | nil => rfl
  | cons s others ih =>
    have hs : decodeReferences (s.text ++ others.flatMap Spelled.text) =
        (if s.isReadable then [s.meant] else []) ++
          decodeReferences (others.flatMap Spelled.text) := decodeReferences_spelling s.spelling _
    rw [List.flatMap_cons, hs, ih]
    by_cases h : s.isReadable = true
    · rw [if_pos h, List.filter_cons_of_pos h]
      rfl
    · rw [if_neg h, List.filter_cons_of_neg h]
      rfl

/-- **Exactly the overlong decimal references are lost.** A spelled text is read as what it spells
without the code points in decimal references of more than `maxDecimalDigits` digits; it is read as
all that it spells if and only if it has no such reference. -/
theorem decodeReferences_spelled_iff (spelled : List Spelled) :
    decodeReferences (spelled.flatMap Spelled.text) =
        (spelled.filter Spelled.isReadable).map Spelled.meant ∧
      (decodeReferences (spelled.flatMap Spelled.text) = spelled.map Spelled.meant ↔
        ∀ s ∈ spelled, s.isReadable) := by
  refine ⟨decodeReferences_spelled spelled, ?_⟩
  rw [decodeReferences_spelled spelled]
  constructor
  · intro h
    have hlen : (spelled.filter Spelled.isReadable).length = spelled.length := by
      simpa using congrArg List.length h
    exact List.length_filter_eq_length_iff.mp hlen
  · intro h
    rw [List.filter_eq_self.mpr h]

/-- The letter `j` is lost when its decimal numeral stands behind 4298 zeros. -/
theorem decodeReferences_overlong_j :
    decodeReferences ([(⟨ofChar 'j', .decimal 4298⟩ : Spelled)].flatMap Spelled.text) ≠
      [(⟨ofChar 'j', .decimal 4298⟩ : Spelled)].map Spelled.meant := by
  have hdigits : (decimalDigits (ofChar 'j') 4298).length = 4301 := by
    rw [decimalDigits, List.length_append, List.length_replicate]
    decide
  have hlong : Spelled.isReadable ⟨ofChar 'j', .decimal 4298⟩ ≠ true := by
    show decide ((decimalDigits (ofChar 'j') 4298).length ≤ maxDecimalDigits) ≠ true
    rw [hdigits]
    decide
  rw [decodeReferences_spelled, List.filter_cons_of_neg hlong]
  exact fun h => absurd (congrArg List.length h) (by decide)

/-! ### Texts with references of no meaning -/

/-- `ReferenceSpelling v u`: in `u`, every code point of `v` is written by a spelling that can be
read, and references by names other than `colon` stand anywhere between them. -/
inductive ReferenceSpelling : Text → Text → Prop where
  | nil : ReferenceSpelling [] []
  | spelled {c : CodePoint} (s : Spelling c) (hs : s.isReadable) {v u : Text} :
      ReferenceSpelling v u → ReferenceSpelling (c :: v) (s.text ++ u)
  | named {name : Text} (hne : name ≠ []) (hname : ∀ c ∈ name, c.isWord)
      (hcolon : name.map asciiLower ≠ Text.ofString "colon") {v u : Text} :
      ReferenceSpelling v u → ReferenceSpelling v (reference name ++ u)

/-- A text without `&` spells itself. -/
theorem ReferenceSpelling.self {v : Text} (h : ∀ c ∈ v, c ≠ ofChar '&') :
    ReferenceSpelling v v := by
  induction v with
  | nil => exact .nil
  | cons c v ih =>
    exact .spelled (.literal (h c List.mem_cons_self)) rfl
      (ih fun x hx => h x (List.mem_cons_of_mem c hx))

/-- What is spelled by references is read back. -/
theorem ReferenceSpelling.decodeReferences_eq {v u : Text} (h : ReferenceSpelling v u) :
    decodeReferences u = v := by
  induction h with
  | nil => rfl
  | spelled s hs _ ih =>
    rw [decodeReferences_spelling, if_pos hs, ih]
    rfl
  | named hne hname hcolon _ ih =>
    rw [decodeReferences_reference_append hne
      fun c hc => isReferenceChar_of_isWord (hname c hc),
      referenceMeaning_named hname hcolon, ih]
    rfl

end MarkdownRender.Html
