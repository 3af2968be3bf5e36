import MarkdownRender.Proofs.Text.CodePoint
import MarkdownRender.Text.Numeral

/-!
# Numerals are read back

`Text.numeral?` reads what `Text.decimal` and `Text.hex` write, whatever number of zeros stands in
front. A numeral may be lowered before it is read.
-/

namespace MarkdownRender

/-! ### Digits -/

namespace CodePoint

theorem hexValue?_digitChar {d : Nat} (h : d < 16) :
    (ofChar (Nat.digitChar d)).hexValue? = some d := by
  have key : ∀ d : Fin 16, (ofChar (Nat.digitChar d)).hexValue? = some d.val := by decide
  exact key ⟨d, h⟩

/-- The hexadecimal digits are word characters. -/
theorem isWord_of_hexValue? {c : CodePoint} {n : Nat} (h : c.hexValue? = some n) : c.isWord := by
  rw [isWord_iff, isLower_iff, isUpper_iff, isDigit_iff]
  simp only [hexValue?, isDigit_iff, Bool.and_eq_true, decide_eq_true_eq, Char.reduceToNat] at h
  split at h
  · omega
  · split at h
    · omega
    · split at h
      · omega
      · cases h

end CodePoint

namespace Text

/-! ### Numerals -/

theorem digit?_digitChar {base d : Nat} (h : d < base) (hb : base ≤ 16) :
    digit? base (Nat.digitChar d) = some d := by
  simp [digit?, CodePoint.hexValue?_digitChar (show d < 16 by omega), h]

theorem digit?_zero {base : Nat} (hb : 0 < base) : digit? base '0' = some 0 := by
  have h0 : (CodePoint.ofChar '0').hexValue? = some 0 := by decide
  simp [digit?, h0, hb]

theorem ofDigits_concat (base : Nat) (ds : List Nat) (d : Nat) :
    ofDigits base (ds ++ [d]) = base * ofDigits base ds + d := by
  simp [ofDigits]

theorem ofDigits_zero_cons (base : Nat) (ds : List Nat) :
    ofDigits base (0 :: ds) = ofDigits base ds := by
  simp [ofDigits]

theorem numeral?_eq_some_iff {base n : Nat} {text : Text} :
    numeral? base text = some n ↔
      text ≠ [] ∧ ∃ ds, text.mapM (digit? base) = some ds ∧ ofDigits base ds = n := by
  cases text with
  | nil => simp [numeral?]
  | cons c rest =>
    simp only [numeral?, List.isEmpty_cons, Bool.false_eq_true, if_false, Option.map_eq_some_iff]
    simp

/-- The digits that are written for a number are read back, and they stand for it. -/
theorem mapM_digit?_toDigits {base : Nat} (hb : 1 < base) (hb' : base ≤ 16) (n : Nat) :
    ∃ ds, ((Nat.toDigits base n).map CodePoint.ofChar).mapM (digit? base) = some ds ∧
      ofDigits base ds = n := by
  induction n using Nat.strongRecOn with
  | ind n ih =>
    by_cases hn : n < base
    · refine ⟨[n], ?_, by simp [ofDigits]⟩
      rw [Nat.toDigits_of_lt_base hn]
      simp [digit?_digitChar hn hb']
    · have hlt : n % base < base := Nat.mod_lt _ (by omega)
      obtain ⟨ds, hds, hval⟩ := ih (n / base) (Nat.div_lt_self (by omega) hb)
      refine ⟨ds ++ [n % base], ?_, ?_⟩
      · rw [Nat.toDigits_of_base_le hb (by omega), List.map_append, List.mapM_append, hds]
        simp [digit?_digitChar hlt hb']
      · rw [ofDigits_concat, hval, Nat.div_add_mod]

theorem numeral?_toDigits {base : Nat} (hb : 1 < base) (hb' : base ≤ 16) (n : Nat) :
    numeral? base ((Nat.toDigits base n).map CodePoint.ofChar) = some n :=
  numeral?_eq_some_iff.mpr ⟨by simp [Nat.toDigits_ne_nil], mapM_digit?_toDigits hb hb' n⟩

theorem numeral?_zeros_append {base : Nat} (hb : 0 < base) (zeros : Nat) {text : Text} {n : Nat}
    (h : numeral? base text = some n) :
    numeral? base (List.replicate zeros (CodePoint.ofChar '0') ++ text) = some n := by
  induction zeros with
  | zero => simpa using h
  | succ zeros ih =>
    obtain ⟨-, ds, hds, hval⟩ := numeral?_eq_some_iff.mp ih
    rw [List.replicate_succ, List.cons_append]
    refine numeral?_eq_some_iff.mpr ⟨List.cons_ne_nil _ _, 0 :: ds, ?_, ?_⟩
    · rw [List.mapM_cons, digit?_zero hb, hds]
      rfl
    · rw [ofDigits_zero_cons, hval]

theorem numeral?_map_asciiLower (base : Nat) (text : Text) :
    numeral? base (text.map CodePoint.asciiLower) = numeral? base text := by
  have hdigit : ∀ c : CodePoint, digit? base c.asciiLower = digit? base c := fun c => by
    simp [digit?, CodePoint.hexValue?_asciiLower]
  have hdigits : ∀ text : Text,
      (text.map CodePoint.asciiLower).mapM (digit? base) = text.mapM (digit? base) := by
    intro text
    induction text with
    | nil => rfl
    | cons c rest ih => rw [List.map_cons, List.mapM_cons, List.mapM_cons, hdigit, ih]
  simp only [numeral?, hdigits, List.isEmpty_map]

/-- A numeral consists of digits. -/
theorem hexValue?_of_mem_of_numeral? {base n : Nat} {text : Text} (h : numeral? base text = some n)
    {c : CodePoint} (hc : c ∈ text) : ∃ d, c.hexValue? = some d := by
  obtain ⟨-, ds, hds, -⟩ := numeral?_eq_some_iff.mp h
  clear h
  induction text generalizing ds with
  | nil => simp at hc
  | cons a rest ih =>
    rw [List.mapM_cons] at hds
    obtain ⟨d, hd, hds⟩ := Option.bind_eq_some_iff.mp hds
    obtain ⟨ds', hds', -⟩ := Option.bind_eq_some_iff.mp hds
    rcases List.mem_cons.mp hc with rfl | hc
    · exact ⟨d, (Option.filter_eq_some_iff.mp hd).1⟩
    · exact ih hc ds' hds'

/-- A decimal numeral is read back, however many zeros stand in front of it. -/
theorem numeral?_decimal (zeros n : Nat) :
    numeral? 10 (List.replicate zeros (CodePoint.ofChar '0') ++ decimal n) = some n :=
  numeral?_zeros_append (by omega) zeros (numeral?_toDigits (by omega) (by omega) n)

theorem decimal_injective : Function.Injective decimal := by
  intro m n h
  have hm := numeral?_decimal 0 m
  rw [h, numeral?_decimal 0 n] at hm
  exact (Option.some.inj hm).symm

theorem decimal_ne_nil (n : Nat) : decimal n ≠ [] := by simp [decimal, Nat.toDigits_ne_nil]

/-- A hexadecimal numeral is read back, however many zeros stand in front of it. -/
theorem numeral?_hex (zeros width n : Nat) :
    numeral? 16 (List.replicate zeros (CodePoint.ofChar '0') ++ hex width n) = some n :=
  numeral?_zeros_append (by omega) zeros
    (numeral?_zeros_append (by omega) _ (numeral?_toDigits (by omega) (by omega) n))

/-- An octet is written in exactly two hexadecimal digits. -/
theorem hex_two {n : Nat} (h : n < 256) :
    hex 2 n =
      [CodePoint.ofChar (Nat.digitChar (n / 16)), CodePoint.ofChar (Nat.digitChar (n % 16))] := by
  by_cases h16 : n < 16
  · simp [hex, Nat.toDigits_of_lt_base h16, Nat.div_eq_of_lt h16, Nat.mod_eq_of_lt h16,
      Nat.digitChar]
  · have hdiv : n / 16 < 16 := by omega
    rw [hex, Nat.toDigits_of_base_le (by omega) (by omega), Nat.toDigits_of_lt_base hdiv]
    rfl

/-! ### What numerals are made of -/

theorem isDigit_of_mem_decimal {n : Nat} {c : CodePoint} (h : c ∈ decimal n) : c.isDigit := by
  obtain ⟨ch, hch, rfl⟩ := List.mem_map.mp h
  have hdigit := Nat.isDigit_of_mem_toDigits (by omega) (by omega) hch
  simp only [Char.isDigit, Bool.and_eq_true, decide_eq_true_eq, ge_iff_le,
    UInt32.le_iff_toNat_le] at hdigit
  simp only [CodePoint.isDigit, CodePoint.val_ofChar, Bool.and_eq_true]
  exact ⟨decide_eq_true hdigit.1, decide_eq_true hdigit.2⟩

/-- The digits of decimal numerals. -/
def decimalDigits : Text := "0123456789"

theorem mem_decimalDigits_of_mem_decimal {n : Nat} {c : CodePoint} (h : c ∈ decimal n) :
    c ∈ decimalDigits := by
  have hall : ∀ d : Fin 10, (⟨48 + d.val, by omega⟩ : CodePoint) ∈ decimalDigits := by decide
  have hdigit := isDigit_of_mem_decimal h
  simp only [CodePoint.isDigit, Bool.and_eq_true, decide_eq_true_eq, Char.reduceToNat] at hdigit
  have hc : c = ⟨48 + (c.val - 48), by omega⟩ := CodePoint.ext (by simp only; omega)
  rw [hc]
  exact hall ⟨c.val - 48, by omega⟩

theorem mem_decimalDigits_of_mem_integer {n : Int} {c : CodePoint} (h : c ∈ integer n) :
    c ∈ CodePoint.ofChar '-' :: decimalDigits := by
  have hdigit : ∀ {m : Nat}, c ∈ decimal m → c ∈ CodePoint.ofChar '-' :: decimalDigits :=
    fun hmem => List.mem_cons_of_mem _ (mem_decimalDigits_of_mem_decimal hmem)
  cases n with
  | ofNat n => exact hdigit h
  | negSucc n =>
    rcases List.mem_cons.mp h with rfl | h
    · exact List.mem_cons_self
    · exact hdigit h

end Text

end MarkdownRender
