import MarkdownRender.Text.Basic

/-!
# Numerals

Numbers written in digits, and digits read back as numbers.
-/

namespace MarkdownRender.Text

/-- `n` in decimal digits, without leading zeros. -/
def decimal (n : Nat) : Text := (Nat.toDigits 10 n).map CodePoint.ofChar

/-- An integer in decimal digits, after `-` if it is negative. An integer of more than 4300 digits
is written out here, where a conversion to digits may be refused; such integers are not covered. -/
def integer : Int → Text
  | .ofNat n => decimal n
  | .negSucc n => '-' :: decimal (n + 1)

/-- `n` in at least `width` lower-case hexadecimal digits. -/
def hex (width n : Nat) : Text :=
  let digits : Text := (Nat.toDigits 16 n).map CodePoint.ofChar
  List.replicate (width - digits.length) (CodePoint.ofChar '0') ++ digits

/-- The value of a digit of base `base`, which is at most sixteen. -/
def digit? (base : Nat) (c : CodePoint) : Option Nat := c.hexValue?.filter (· < base)

/-- The number that the digits stand for, the most significant digit first. -/
def ofDigits (base : Nat) (digits : List Nat) : Nat :=
  digits.foldl (fun n d => base * n + d) 0

/-- The number that a text of one or more digits stands for. -/
def numeral? (base : Nat) (text : Text) : Option Nat :=
  if text.isEmpty then none else (text.mapM (digit? base)).map (ofDigits base)

end MarkdownRender.Text
