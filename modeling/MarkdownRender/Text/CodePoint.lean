/-!
# Code points

Texts may hold lone surrogates, so their elements are code points and not `Char`s. The classes
here are the ASCII ones; classes that follow the Unicode tables live under `Unicode`.
-/

namespace MarkdownRender

/-- A Unicode code point, lone surrogates included. -/
structure CodePoint where
  val : Nat
  isLt : val < 0x110000
deriving DecidableEq, Repr

namespace CodePoint

theorem ext {a b : CodePoint} (h : a.val = b.val) : a = b := by
  cases a; cases b; cases h; rfl

/-- The code point of a character. -/
def ofChar (c : Char) : CodePoint := ⟨c.toNat, by
  have h : c.toNat.isValidChar := c.valid
  unfold Nat.isValidChar at h
  omega⟩

instance : Coe Char CodePoint := ⟨ofChar⟩

@[simp] theorem val_ofChar (c : Char) : (ofChar c).val = c.toNat := rfl

/-- The code point of number `n`; there is none from U+110000 on. -/
def ofNat? (n : Nat) : Option CodePoint :=
  if h : n < 0x110000 then some ⟨n, h⟩ else none

/-- The code point `n` places after `c`, or `c` itself where the code points end. -/
def shift (c : CodePoint) (n : Int) : CodePoint :=
  (ofNat? (c.val + n).toNat).getD c

/-- Surrogates are code points that no character has. -/
def isSurrogate (c : CodePoint) : Bool := 0xD800 ≤ c.val && c.val ≤ 0xDFFF

/-- The character of a code point that is not a surrogate. -/
def toChar? (c : CodePoint) : Option Char :=
  if h : c.val.isValidChar then some (Char.ofNatAux c.val h) else none

/-! ## ASCII classes -/

def isDigit (c : CodePoint) : Bool := '0'.toNat ≤ c.val && c.val ≤ '9'.toNat

def isLower (c : CodePoint) : Bool := 'a'.toNat ≤ c.val && c.val ≤ 'z'.toNat

def isUpper (c : CodePoint) : Bool := 'A'.toNat ≤ c.val && c.val ≤ 'Z'.toNat

/-- ASCII word characters: letters, digits and `_`. -/
def isWord (c : CodePoint) : Bool := c.isLower || c.isUpper || c.isDigit || c = '_'

/-- The lower-case form of an ASCII letter; every other code point stays. -/
def asciiLower (c : CodePoint) : CodePoint := if c.isUpper then c.shift 32 else c

/-- The value of an ASCII hexadecimal digit, of either case. -/
def hexValue? (c : CodePoint) : Option Nat :=
  if c.isDigit then some (c.val - '0'.toNat)
  else if 'a'.toNat ≤ c.val && c.val ≤ 'f'.toNat then some (c.val - 'a'.toNat + 10)
  else if 'A'.toNat ≤ c.val && c.val ≤ 'F'.toNat then some (c.val - 'A'.toNat + 10)
  else none

end CodePoint

end MarkdownRender
