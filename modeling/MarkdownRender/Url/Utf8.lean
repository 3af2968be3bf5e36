import MarkdownRender.Text.Basic

/-!
# UTF-8

Strict UTF-8: the shortest form of each code point, no surrogates, nothing beyond U+10FFFF. A
sequence is told by its lead octet, so the four lengths exclude one another and decoding tries
them in turn.
-/

namespace MarkdownRender.Utf8

/-- The octets of a code point. -/
def encodeOne (c : CodePoint) : List UInt8 :=
  let n := c.val
  if n < 0x80 then [UInt8.ofNat n]
  else if n < 0x800 then [UInt8.ofNat (0xC0 + n / 64), UInt8.ofNat (0x80 + n % 64)]
  else if n < 0x10000 then
    [UInt8.ofNat (0xE0 + n / 4096), UInt8.ofNat (0x80 + n / 64 % 64), UInt8.ofNat (0x80 + n % 64)]
  else
    [UInt8.ofNat (0xF0 + n / 262144), UInt8.ofNat (0x80 + n / 4096 % 64),
      UInt8.ofNat (0x80 + n / 64 % 64), UInt8.ofNat (0x80 + n % 64)]

/-- The octets of a text. -/
def encode (text : Text) : List UInt8 := text.flatMap encodeOne

/-- The payload of an octet between `low` and `high`, `high` excluded. -/
def payload? (low high : Nat) (octet : UInt8) : Option Nat :=
  if low ≤ octet.toNat && octet.toNat < high then some (octet.toNat - low) else none

/-- The payload of a continuation octet. -/
def tail? : UInt8 → Option Nat := payload? 0x80 0xC0

/-- The code point of number `n`, if `n` is at least `least` and no surrogate. -/
def scalar? (least n : Nat) : Option CodePoint :=
  if n < least then none else (CodePoint.ofNat? n).filter (!·.isSurrogate)

/-- The code point of a sequence of one octet. -/
def one? (a : UInt8) : Option CodePoint := do
  scalar? 0 (← payload? 0x00 0x80 a)

/-- The code point of a sequence of two octets. -/
def two? (a b : UInt8) : Option CodePoint := do
  scalar? 0x80 ((← payload? 0xC0 0xE0 a) * 64 + (← tail? b))

/-- The code point of a sequence of three octets. -/
def three? (a b c : UInt8) : Option CodePoint := do
  scalar? 0x800 (((← payload? 0xE0 0xF0 a) * 64 + (← tail? b)) * 64 + (← tail? c))

/-- The code point of a sequence of four octets. -/
def four? (a b c d : UInt8) : Option CodePoint := do
  scalar? 0x10000
    ((((← payload? 0xF0 0xF8 a) * 64 + (← tail? b)) * 64 + (← tail? c)) * 64 + (← tail? d))

/-- The text of a sequence of octets, if they are UTF-8. -/
def decode? : List UInt8 → Option Text
  | [] => some []
  | a :: rest =>
    match one? a, rest with
    | some x, rest => (decode? rest).map (x :: ·)
    | none, [] => none
    | none, b :: rest =>
      match two? a b, rest with
      | some x, rest => (decode? rest).map (x :: ·)
      | none, [] => none
      | none, c :: rest =>
        match three? a b c, rest with
        | some x, rest => (decode? rest).map (x :: ·)
        | none, [] => none
        | none, d :: rest =>
          match four? a b c d with
          | some x => (decode? rest).map (x :: ·)
          | none => none

end MarkdownRender.Utf8
