import MarkdownRender.Text.Numeral
import MarkdownRender.Text.Substitution

/-!
# Entity references

Decoding of the references that matter when a URL is inspected: numeric references and
`&colon;`. Every other named reference is dropped.
-/

namespace MarkdownRender.Html

/-- Longer decimal references, leading zeros counted, have no meaning. -/
def maxDecimalDigits : Nat := 4300

/-- The code points that may stand between `&` and `;`. -/
def isReferenceChar (c : CodePoint) : Bool := c.isWord || c = '#'

/-- The code point of a numeric reference: `digits` in base `base`. -/
def numericMeaning (base : Nat) (digits : Text) : Text :=
  (Text.numeral? base digits >>= CodePoint.ofNat?).toList

/-- The text that a lower-case reference name stands for: `:` for `colon`, the code point for
`#x` and hexadecimal digits or `#` and decimal digits, and nothing for any other name. -/
def lowerMeaning (name : Text) : Text :=
  if name = "colon" then ":"
  else if name.startsWith "#x" then numericMeaning 16 (name.drop 2)
  else if name.startsWith "#" then
    let digits := name.drop 1
    if digits.length ≤ maxDecimalDigits then numericMeaning 10 digits else []
  else []

/-- The text that a reference stands for; the case of ASCII letters in its name is no matter. -/
def referenceMeaning (name : Text) : Text := lowerMeaning (name.map CodePoint.asciiLower)

/-- A reference is `&`, one or more reference characters, and `;`. -/
def referenceRule : Text.Rule := fun c rest =>
  let name := rest.takeWhile isReferenceChar
  if c = '&' && !name.isEmpty && (rest.drop name.length).head? = some (CodePoint.ofChar ';') then
    some (referenceMeaning name, name.length + 1)
  else none

/-- Replaces every entity reference by what it stands for. -/
def decodeReferences (text : Text) : Text := text.substitute referenceRule

end MarkdownRender.Html
