import MarkdownRender.Highlight.Callback

/-!
# Option values

An option map may hold values of any kind. Options that are switches keep whatever they are given
and only ever ask whether it is truthy, so the values need a truth, an equality and a name for
their kind, and nothing else.
-/

namespace MarkdownRender

/-- A value in an option map or a mapping of cell flags. -/
inductive Value where
  | null
  | bool (b : Bool)
  | int (n : Int)
  /-- A binary floating-point number: `mantissa * 2 ^ exponent`, or its negative. Zero has both
  signs. -/
  | float (negative : Bool) (mantissa : Nat) (exponent : Int)
  | text (t : Text)
  | list (items : List Value)
  | mapping (entries : List (Text × Value))
  | callback (c : Callback)

namespace Value

/-- Nothing, zero and whatever is empty are falsy. -/
def truthy : Value → Bool
  | null => false
  | bool b => b
  | int n => n ≠ 0
  | float _ mantissa _ => mantissa ≠ 0
  | text t => !t.isEmpty
  | list items => !items.isEmpty
  | mapping entries => !entries.isEmpty
  | callback _ => true

/-- The name of a value's kind in messages. -/
def kind : Value → Text
  | null => "NoneType"
  | bool _ => "bool"
  | int _ => "int"
  | float _ _ _ => "float"
  | text _ => "str"
  | list _ => "list"
  | mapping _ => "dict"
  | callback _ => "function"

/-- The number that a value is, as a significand and a binary exponent; truth values count as one
and zero. -/
def number? : Value → Option (Int × Int)
  | bool b => some (if b then 1 else 0, 0)
  | int n => some (n, 0)
  | float negative mantissa exponent =>
    some (if negative then -Int.ofNat mantissa else Int.ofNat mantissa, exponent)
  | _ => none

/-- The significand of the same number at an exponent that is lower by `places`. -/
def lowerExponent (significand : Int) (places : Int) : Int :=
  significand * Int.ofNat (Nat.pow 2 places.toNat)

/-- Whether two numbers, given as significands and binary exponents, are equal. They are brought
to the lower of the two exponents, at which both significands are whole. -/
def sameNumber (x y : Int × Int) : Bool :=
  if x.2 ≤ y.2 then x.1 = lowerExponent y.1 (y.2 - x.2) else lowerExponent x.1 (x.2 - y.2) = y.1

mutual

/-- Equality of values: numbers by value, whatever their kind, lists item by item, mappings
without regard to order, callbacks by identity. -/
def same : Value → Value → Bool
  | null, null => true
  | text s, text t => s = t
  | list xs, list ys => sameItems xs ys
  | mapping xs, mapping ys => xs.length = ys.length && sameEntries xs ys
  | callback c, callback d => c.identity = d.identity
  | x, y =>
    match x.number?, y.number? with
    | some m, some n => sameNumber m n
    | _, _ => false
termination_by structural x => x

/-- Equality of lists of values. -/
def sameItems : List Value → List Value → Bool
  | [], [] => true
  | x :: xs, y :: ys => same x y && sameItems xs ys
  | _, _ => false
termination_by structural xs => xs

/-- Whether every entry of one mapping has an equal one in the other. -/
def sameEntries : List (Text × Value) → List (Text × Value) → Bool
  | [], _ => true
  | x :: xs, ys => ys.any (sameEntry x) && sameEntries xs ys
termination_by structural xs => xs

/-- Equality of entries: the same key and equal values. -/
def sameEntry : Text × Value → Text × Value → Bool
  | (key, x), (key', y) => key = key' && same x y
termination_by structural x => x

end

end Value

end MarkdownRender
