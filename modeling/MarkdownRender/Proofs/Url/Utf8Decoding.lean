import Mathlib.Data.List.Basic
import Mathlib.Tactic.SplitIfs
import MarkdownRender.Url.Utf8

/-!
# UTF-8 is read back, and cut only between code points

`decode?` is the inverse of `encode` on texts without surrogates (`decode?_eq_some_iff`). No octet
but the first of a code point is of the form that a first octet has, so a sequence can be decoded
part by part wherever the next part does not begin with a continuation octet
(`decode?_append`).
-/

namespace MarkdownRender.Utf8

/-! ### Single code points -/

theorem payload?_eq_some_iff {low high k : Nat} {b : UInt8} :
    payload? low high b = some k ↔ low ≤ b.toNat ∧ b.toNat < high ∧ b.toNat - low = k := by
  simp [payload?, and_assoc]

theorem scalar?_eq_some_iff {least n : Nat} {x : CodePoint} :
    scalar? least n = some x ↔ least ≤ n ∧ x.val = n ∧ x.isSurrogate = false := by
  unfold scalar?
  split
  · next h => simp; omega
  · next h =>
    simp only [Option.filter_eq_some_iff, CodePoint.ofNat?, Bool.not_eq_true']
    constructor
    · rintro ⟨hx, hs⟩
      split at hx
      · cases hx
        exact ⟨by omega, rfl, hs⟩
      · cases hx
    · rintro ⟨-, rfl, hs⟩
      exact ⟨by simp [x.isLt], hs⟩

/-! ### The four lengths -/

section Lengths

variable {x : CodePoint} {a b c d : UInt8}

theorem encodeOne_eq_one_iff : encodeOne x = [a] ↔ x.val < 0x80 ∧ x.val = a.toNat := by
  unfold encodeOne
  dsimp only
  split_ifs <;> simp [← UInt8.toNat_inj] <;> omega

theorem encodeOne_eq_two_iff : encodeOne x = [a, b] ↔
    (0x80 ≤ x.val ∧ x.val < 0x800) ∧ a.toNat = 0xC0 + x.val / 64 ∧ b.toNat = 0x80 + x.val % 64 := by
  unfold encodeOne
  dsimp only
  split_ifs <;> simp [← UInt8.toNat_inj] <;> omega

theorem encodeOne_eq_three_iff : encodeOne x = [a, b, c] ↔
    (0x800 ≤ x.val ∧ x.val < 0x10000) ∧ a.toNat = 0xE0 + x.val / 4096 ∧
      b.toNat = 0x80 + x.val / 64 % 64 ∧ c.toNat = 0x80 + x.val % 64 := by
  unfold encodeOne
  dsimp only
  split_ifs <;> simp [← UInt8.toNat_inj] <;> omega

theorem encodeOne_eq_four_iff : encodeOne x = [a, b, c, d] ↔
    0x10000 ≤ x.val ∧ a.toNat = 0xF0 + x.val / 262144 ∧ b.toNat = 0x80 + x.val / 4096 % 64 ∧
      c.toNat = 0x80 + x.val / 64 % 64 ∧ d.toNat = 0x80 + x.val % 64 := by
  have hlt := x.isLt
  unfold encodeOne
  dsimp only
  split_ifs <;> simp [← UInt8.toNat_inj] <;> omega

theorem one?_eq_some_iff : one? a = some x ↔ x.isSurrogate = false ∧ encodeOne x = [a] := by
  simp only [one?, Option.bind_eq_bind, Option.bind_eq_some_iff, payload?_eq_some_iff,
    scalar?_eq_some_iff, encodeOne_eq_one_iff]
  constructor
  · rintro ⟨k, ⟨-, ha, rfl⟩, -, hx, hs⟩
    exact ⟨hs, by omega⟩
  · rintro ⟨hs, hx, ha⟩
    exact ⟨x.val, by omega, by omega, rfl, hs⟩

theorem two?_eq_some_iff : two? a b = some x ↔ x.isSurrogate = false ∧ encodeOne x = [a, b] := by
  simp only [two?, tail?, Option.bind_eq_bind, Option.bind_eq_some_iff, payload?_eq_some_iff,
    scalar?_eq_some_iff, encodeOne_eq_two_iff]
  constructor
  · rintro ⟨k, hk, l, hl, hleast, hx, hs⟩
    exact ⟨hs, by omega⟩
  · rintro ⟨hs, hx⟩
    exact ⟨x.val / 64, by omega, x.val % 64, by omega, by omega, by omega, hs⟩

theorem three?_eq_some_iff :
    three? a b c = some x ↔ x.isSurrogate = false ∧ encodeOne x = [a, b, c] := by
  simp only [three?, tail?, Option.bind_eq_bind, Option.bind_eq_some_iff, payload?_eq_some_iff,
    scalar?_eq_some_iff, encodeOne_eq_three_iff]
  constructor
  · rintro ⟨k, hk, l, hl, m, hm, hleast, hx, hs⟩
    exact ⟨hs, by omega⟩
  · rintro ⟨hs, hx⟩
    exact ⟨x.val / 4096, by omega, x.val / 64 % 64, by omega, x.val % 64, by omega, by omega,
      by omega, hs⟩

theorem four?_eq_some_iff :
    four? a b c d = some x ↔ x.isSurrogate = false ∧ encodeOne x = [a, b, c, d] := by
  have hlt := x.isLt
  simp only [four?, tail?, Option.bind_eq_bind, Option.bind_eq_some_iff, payload?_eq_some_iff,
    scalar?_eq_some_iff, encodeOne_eq_four_iff]
  constructor
  · rintro ⟨k, hk, l, hl, m, hm, n, hn, hleast, hx, hs⟩
    exact ⟨hs, by omega⟩
  · rintro ⟨hs, hx⟩
    exact ⟨x.val / 262144, by omega, x.val / 4096 % 64, by omega, x.val / 64 % 64, by omega,
      x.val % 64, by omega, by omega, by omega, hs⟩

end Lengths

/-- A code point takes one to four octets. -/
theorem encodeOne_cases (x : CodePoint) :
    (∃ a, encodeOne x = [a]) ∨ (∃ a b, encodeOne x = [a, b]) ∨
      (∃ a b c, encodeOne x = [a, b, c]) ∨ ∃ a b c d, encodeOne x = [a, b, c, d] := by
  unfold encodeOne
  dsimp only
  split_ifs <;> simp

/-! ### First octets -/

/-- The octets that stand in a sequence anywhere but at its front. -/
def IsContinuation (b : UInt8) : Prop := 0x80 ≤ b.toNat ∧ b.toNat < 0xC0

/-- The length of the sequence that an octet begins. -/
def lengthFrom (first : UInt8) : Nat :=
  if first.toNat < 0x80 then 1 else if first.toNat < 0xE0 then 2
  else if first.toNat < 0xF0 then 3 else 4

theorem encodeOne_eq_cons (x : CodePoint) :
    ∃ first rest, encodeOne x = first :: rest ∧ lengthFrom first = rest.length + 1 ∧
      ¬ IsContinuation first ∧ ∀ b ∈ rest, IsContinuation b := by
  have hlt := x.isLt
  rcases encodeOne_cases x with ⟨a, h⟩ | ⟨a, b, h⟩ | ⟨a, b, c, h⟩ | ⟨a, b, c, d, h⟩
  · have hx := encodeOne_eq_one_iff.mp h
    refine ⟨a, [], h, ?_, fun hc => ?_, by simp⟩
    · rw [lengthFrom, if_pos (by omega)]
      rfl
    · have := hc.1
      omega
  · have hx := encodeOne_eq_two_iff.mp h
    refine ⟨a, [b], h, ?_, fun hc => ?_, by simp [IsContinuation]; omega⟩
    · rw [lengthFrom, if_neg (by omega), if_pos (by omega)]
      rfl
    · have := hc.2
      omega
  · have hx := encodeOne_eq_three_iff.mp h
    refine ⟨a, [b, c], h, ?_, fun hc => ?_, by simp [IsContinuation]; omega⟩
    · rw [lengthFrom, if_neg (by omega), if_neg (by omega), if_pos (by omega)]
      rfl
    · have := hc.2
      omega
  · have hx := encodeOne_eq_four_iff.mp h
    refine ⟨a, [b, c, d], h, ?_, fun hc => ?_, by simp [IsContinuation]; omega⟩
    · rw [lengthFrom, if_neg (by omega), if_neg (by omega), if_neg (by omega)]
      rfl
    · have := hc.2
      omega

theorem length_eq_of_encodeOne_eq_cons {x : CodePoint} {first : UInt8} {rest : List UInt8}
    (h : encodeOne x = first :: rest) : rest.length + 1 = lengthFrom first := by
  obtain ⟨first', rest', h', hlen, -, -⟩ := encodeOne_eq_cons x
  rw [h] at h'
  cases h'
  exact hlen.symm

/-! ### Texts -/

theorem encode_nil : encode [] = [] := rfl

theorem encode_cons (x : CodePoint) (text : Text) :
    encode (x :: text) = encodeOne x ++ encode text := rfl

/-- The first octet tells the length, so a sequence of another length is not read there. -/
theorem eq_none_of_length_ne {x : CodePoint} {first : UInt8} {rest rest' : List UInt8}
    (hx : encodeOne x = first :: rest) {found : Option CodePoint}
    (hfound : ∀ y, found = some y → y.isSurrogate = false ∧ encodeOne y = first :: rest')
    (hne : rest.length ≠ rest'.length) : found = none := by
  refine Option.eq_none_iff_forall_ne_some.mpr fun y hy => hne ?_
  have hlen := length_eq_of_encodeOne_eq_cons hx
  have hlen' := length_eq_of_encodeOne_eq_cons (hfound y hy).2
  omega

/-- The sequence of a code point is decoded to it, whatever follows. -/
theorem decode?_encodeOne_append {x : CodePoint} (hs : x.isSurrogate = false) (bs : List UInt8) :
    decode? (encodeOne x ++ bs) = (decode? bs).map (x :: ·) := by
  rcases encodeOne_cases x with ⟨a, h⟩ | ⟨a, b, h⟩ | ⟨a, b, c, h⟩ | ⟨a, b, c, d, h⟩
  · have h1 : one? a = some x := one?_eq_some_iff.mpr ⟨hs, h⟩
    rw [h]
    simp [decode?, h1]
  · have h1 : one? a = none := eq_none_of_length_ne h (fun _ => one?_eq_some_iff.mp) (by simp)
    have h2 : two? a b = some x := two?_eq_some_iff.mpr ⟨hs, h⟩
    rw [h]
    simp [decode?, h1, h2]
  · have h1 : one? a = none := eq_none_of_length_ne h (fun _ => one?_eq_some_iff.mp) (by simp)
    have h2 : two? a b = none := eq_none_of_length_ne h (fun _ => two?_eq_some_iff.mp) (by simp)
    have h3 : three? a b c = some x := three?_eq_some_iff.mpr ⟨hs, h⟩
    rw [h]
    simp [decode?, h1, h2, h3]
  · have h1 : one? a = none := eq_none_of_length_ne h (fun _ => one?_eq_some_iff.mp) (by simp)
    have h2 : two? a b = none := eq_none_of_length_ne h (fun _ => two?_eq_some_iff.mp) (by simp)
    have h3 : three? a b c = none :=
      eq_none_of_length_ne h (fun _ => three?_eq_some_iff.mp) (by simp)
    have h4 : four? a b c d = some x := four?_eq_some_iff.mpr ⟨hs, h⟩
    rw [h]
    simp [decode?, h1, h2, h3, h4]

/-- UTF-8 has no sequences for surrogates. -/
def NoSurrogate (text : Text) : Prop := ∀ c ∈ text, c.isSurrogate = false

theorem noSurrogate_cons {x : CodePoint} {text : Text} :
    NoSurrogate (x :: text) ↔ x.isSurrogate = false ∧ NoSurrogate text := List.forall_mem_cons

theorem noSurrogate_append {text text' : Text} :
    NoSurrogate (text ++ text') ↔ NoSurrogate text ∧ NoSurrogate text' := List.forall_mem_append

theorem decode?_encode_append {text : Text} (h : NoSurrogate text) (bs : List UInt8) :
    decode? (encode text ++ bs) = (decode? bs).map (text ++ ·) := by
  induction text with
  | nil => simp [encode_nil]
  | cons x text ih =>
    obtain ⟨hx, htext⟩ := noSurrogate_cons.mp h
    rw [encode_cons, List.append_assoc, decode?_encodeOne_append hx, ih htext, Option.map_map]
    rfl

theorem eq_encode_of_decode? {bs : List UInt8} {text : Text} (h : decode? bs = some text) :
    NoSurrogate text ∧ encode text = bs := by
  have step : ∀ {x : CodePoint} {front rest : List UInt8} {text : Text},
      (x.isSurrogate = false ∧ encodeOne x = front) →
      (∀ {text : Text}, decode? rest = some text → NoSurrogate text ∧ encode text = rest) →
      (decode? rest).map (x :: ·) = some text →
      NoSurrogate text ∧ encode text = front ++ rest := by
    rintro x front rest text ⟨hs, rfl⟩ ih h
    obtain ⟨others, hothers, rfl⟩ := Option.map_eq_some_iff.mp h
    obtain ⟨hno, henc⟩ := ih hothers
    exact ⟨noSurrogate_cons.mpr ⟨hs, hno⟩, by rw [encode_cons, henc]⟩
  fun_induction decode? bs generalizing text with
  | case1 =>
    cases h
    exact ⟨by simp [NoSurrogate], rfl⟩
  | case2 a x rest h1 ih => exact step (one?_eq_some_iff.mp h1) ih h
  | case4 a b h1 x rest h2 ih => exact step (two?_eq_some_iff.mp h2) ih h
  | case6 a b h1 c h2 x rest h3 ih => exact step (three?_eq_some_iff.mp h3) ih h
  | case8 a b h1 c h2 d rest h3 x h4 ih => exact step (four?_eq_some_iff.mp h4) ih h
  | case3 | case5 | case7 | case9 => cases h

/-- **Decoding is the inverse of encoding.** A sequence is decoded exactly if it is the encoding of
a text without surrogates, and then to this text. -/
theorem decode?_eq_some_iff {bs : List UInt8} {text : Text} :
    decode? bs = some text ↔ NoSurrogate text ∧ encode text = bs := by
  refine ⟨eq_encode_of_decode?, ?_⟩
  rintro ⟨h, rfl⟩
  have hround := decode?_encode_append h []
  rw [List.append_nil] at hround
  rw [hround]
  simp [decode?]

/-- More octets change nothing of what is decoded already. -/
theorem decode?_append_of_some {bs : List UInt8} {text : Text} (h : decode? bs = some text)
    (bs' : List UInt8) : decode? (bs ++ bs') = (decode? bs').map (text ++ ·) := by
  obtain ⟨hno, rfl⟩ := eq_encode_of_decode? h
  exact decode?_encode_append hno bs'

/-! ### Cutting between code points -/

/-- A sequence does not begin in the middle of a code point. -/
def BeginsFresh (bs : List UInt8) : Prop := ∀ b ∈ bs.head?, ¬ IsContinuation b

theorem beginsFresh_encodeOne_append (x : CodePoint) (bs : List UInt8) :
    BeginsFresh (encodeOne x ++ bs) := by
  obtain ⟨first, rest, h, -, hfirst, -⟩ := encodeOne_eq_cons x
  rw [h]
  intro b hb
  cases hb
  exact hfirst

/-- **UTF-8 synchronises itself.** Where the encoding of a text is cut in front of an octet that
continues nothing, the text is cut between two code points. -/
theorem exists_of_encode_eq_append {text : Text} {front back : List UInt8}
    (h : encode text = front ++ back) (hback : BeginsFresh back) :
    ∃ text₁ text₂, text = text₁ ++ text₂ ∧ encode text₁ = front ∧ encode text₂ = back := by
  induction text generalizing front with
  | nil =>
    obtain ⟨rfl, rfl⟩ := List.append_eq_nil_iff.mp h.symm
    exact ⟨[], [], rfl, rfl, rfl⟩
  | cons x text ih =>
    rw [encode_cons] at h
    rcases List.append_eq_append_iff.mp h with ⟨middle, rfl, htext⟩ | ⟨middle, hx, rfl⟩
    · -- the cut lies behind the sequence of `x`
      obtain ⟨text₁, text₂, rfl, rfl, h₂⟩ := ih htext
      exact ⟨x :: text₁, text₂, rfl, rfl, h₂⟩
    · -- the cut lies in front of it: inside, `back` would begin with a continuation octet
      obtain ⟨first, rest, hcons, -, -, hrest⟩ := encodeOne_eq_cons x
      rw [hcons] at hx
      cases front with
      | nil =>
        refine ⟨[], x :: text, rfl, rfl, ?_⟩
        rw [encode_cons, hcons, hx]
        rfl
      | cons b front =>
        cases middle with
        | nil =>
          refine ⟨[x], text, rfl, ?_, rfl⟩
          rw [encode_cons, hcons, hx]
          simp [encode_nil]
        | cons b' middle =>
          have hmem : b' ∈ rest := by
            rw [(List.cons.inj hx).2]
            simp
          exact absurd (hrest b' hmem) (hback b' rfl)

/-- **Decoding part by part.** -/
theorem decode?_append {front back : List UInt8} (hback : BeginsFresh back) :
    decode? (front ++ back) = do return (← decode? front) ++ (← decode? back) := by
  ext text
  simp only [Option.pure_def, Option.bind_eq_bind, Option.bind_eq_some_iff, Option.some.injEq]
  constructor
  · intro h
    obtain ⟨hno, henc⟩ := decode?_eq_some_iff.mp h
    obtain ⟨text₁, text₂, rfl, h₁, h₂⟩ := exists_of_encode_eq_append henc hback
    obtain ⟨hno₁, hno₂⟩ := noSurrogate_append.mp hno
    exact ⟨text₁, decode?_eq_some_iff.mpr ⟨hno₁, h₁⟩, text₂,
      decode?_eq_some_iff.mpr ⟨hno₂, h₂⟩, rfl⟩
  · rintro ⟨text₁, h₁, text₂, h₂, rfl⟩
    rw [decode?_append_of_some h₁, h₂]
    rfl

/-! ### Strings -/

theorem noSurrogate_ofString (s : String) : NoSurrogate (Text.ofString s) := by
  intro c hc
  obtain ⟨x, -, rfl⟩ := List.mem_map.mp hc
  have hvalid : x.toNat.isValidChar := x.valid
  unfold Nat.isValidChar at hvalid
  have hval := CodePoint.val_ofChar x
  simp only [CodePoint.isSurrogate, Bool.and_eq_false_iff, decide_eq_false_iff_not]
  omega

theorem exists_ofChar {c : CodePoint} (hc : c.isSurrogate = false) :
    ∃ x : Char, CodePoint.ofChar x = c := by
  have hlt := c.isLt
  simp only [CodePoint.isSurrogate, Bool.and_eq_false_iff, decide_eq_false_iff_not] at hc
  have hvalid : c.val.isValidChar := by
    unfold Nat.isValidChar
    omega
  exact ⟨Char.ofNatAux c.val hvalid, CodePoint.ext rfl⟩

/-- The texts without surrogates are those of strings. -/
theorem NoSurrogate.exists_ofString {text : Text} (h : NoSurrogate text) :
    ∃ s : String, text = Text.ofString s := by
  have hlist : ∃ l : List Char, l.map CodePoint.ofChar = text := by
    induction text with
    | nil => exact ⟨[], rfl⟩
    | cons c text ih =>
      obtain ⟨hc, htext⟩ := noSurrogate_cons.mp h
      obtain ⟨x, rfl⟩ := exists_ofChar hc
      obtain ⟨l, rfl⟩ := ih htext
      exact ⟨x :: l, rfl⟩
  obtain ⟨l, rfl⟩ := hlist
  exact ⟨String.ofList l, by simp [Text.ofString]⟩

theorem encodeOne_ofChar (x : Char) :
    encodeOne (CodePoint.ofChar x) = String.utf8EncodeChar x := by
  have hlt : x.toNat < 0x110000 := (CodePoint.ofChar x).isLt
  have hval : x.val.toNat = x.toNat := rfl
  have h0 : 0x80 + x.toNat % 64 = x.toNat % 64 + 0x80 := by omega
  have h1 : 0x80 + x.toNat / 64 % 64 = x.toNat / 64 % 64 + 0x80 := by omega
  have h2 : 0x80 + x.toNat / 4096 % 64 = x.toNat / 4096 % 64 + 0x80 := by omega
  simp only [encodeOne, String.utf8EncodeChar, CodePoint.val_ofChar, hval, h0, h1, h2]
  by_cases h80 : x.toNat < 0x80
  · rw [if_pos h80, if_pos (show x.toNat ≤ 0x7F by omega)]
  rw [if_neg h80, if_neg (show ¬ x.toNat ≤ 0x7F by omega)]
  by_cases h800 : x.toNat < 0x800
  · rw [if_pos h800, if_pos (show x.toNat ≤ 0x7FF by omega),
      show 0xC0 + x.toNat / 64 = x.toNat / 64 % 0x20 + 0xC0 by omega]
  rw [if_neg h800, if_neg (show ¬ x.toNat ≤ 0x7FF by omega)]
  by_cases h10000 : x.toNat < 0x10000
  · rw [if_pos h10000, if_pos (show x.toNat ≤ 0xFFFF by omega),
      show 0xE0 + x.toNat / 4096 = x.toNat / 4096 % 0x10 + 0xE0 by omega]
  · rw [if_neg h10000, if_neg (show ¬ x.toNat ≤ 0xFFFF by omega),
      show 0xF0 + x.toNat / 262144 = x.toNat / 262144 % 0x08 + 0xF0 by omega]

theorem toByteArray_encode_ofString (s : String) :
    (encode (Text.ofString s)).toByteArray = s.toByteArray := by
  have hlist : encode (Text.ofString s) = s.toList.flatMap String.utf8EncodeChar := by
    simp [encode, Text.ofString, List.flatMap_map, encodeOne_ofChar]
  rw [hlist, ← String.utf8Encode_toList]
  rfl

/-- The decoder reads the same texts from the same octets as `String.fromUTF8?`. -/
theorem decode?_eq_fromUTF8? (bs : List UInt8) :
    decode? bs = (String.fromUTF8? bs.toByteArray).map Text.ofString := by
  unfold String.fromUTF8?
  split
  · next h =>
    have hbs : (encode (Text.ofString (String.fromUTF8 bs.toByteArray h))).toByteArray =
        bs.toByteArray := toByteArray_encode_ofString _
    exact decode?_eq_some_iff.mpr ⟨noSurrogate_ofString _, List.toByteArray_inj.mp hbs⟩
  · next h =>
    refine Option.eq_none_iff_forall_ne_some.mpr fun text htext => h ?_
    obtain ⟨hno, rfl⟩ := decode?_eq_some_iff.mp htext
    obtain ⟨s, rfl⟩ := hno.exists_ofString
    rw [toByteArray_encode_ofString]
    exact s.isValidUTF8

end MarkdownRender.Utf8
