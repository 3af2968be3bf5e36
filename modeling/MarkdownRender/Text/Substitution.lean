import MarkdownRender.Text.Basic

/-!
# Substitution

A `Rule` looks at one place of a text, given as the code point there and what follows it. Where
it applies, it names the replacement of a stretch that starts there. `substitute` applies a rule
from left to right to stretches that do not overlap; a replacement is not looked at again.
-/

namespace MarkdownRender.Text

/-- `rule c rest = some (out, n)`: `c` and the `n` code points after it become `out`. -/
abbrev Rule := CodePoint → Text → Option (Text × Nat)

/-- Substitutes in a text whose first `skip` code points belong to a stretch already replaced. -/
def substituteFrom (rule : Rule) : Nat → Text → Text
  | _, [] => []
  | skip + 1, _ :: rest => substituteFrom rule skip rest
  | 0, c :: rest =>
    match rule c rest with
    | some (out, n) => out ++ substituteFrom rule n rest
    | none => c :: substituteFrom rule 0 rest

/-- Replaces, from left to right, every stretch that `rule` applies to. -/
def substitute (rule : Rule) (text : Text) : Text := substituteFrom rule 0 text

@[simp] theorem substituteFrom_nil (rule : Rule) (skip : Nat) : substituteFrom rule skip [] = [] := by
  cases skip <;> rfl

theorem substituteFrom_eq_drop (rule : Rule) (skip : Nat) (text : Text) :
    substituteFrom rule skip text = substitute rule (text.drop skip) := by
  induction text generalizing skip with
  | nil => simp [substitute]
  | cons c rest ih =>
    cases skip with
    | zero => rfl
    | succ skip => simpa [substituteFrom] using ih skip

theorem substitute_cons_of_none {rule : Rule} {c : CodePoint} {rest : Text}
    (h : rule c rest = none) :
    substitute rule (c :: rest) = c :: substitute rule rest := by
  simp only [substitute, substituteFrom, h]

theorem substitute_cons_of_some {rule : Rule} {c : CodePoint} {rest out : Text} {n : Nat}
    (h : rule c rest = some (out, n)) :
    substitute rule (c :: rest) = out ++ substitute rule (rest.drop n) := by
  rw [← substituteFrom_eq_drop]
  simp only [substitute, substituteFrom, h]

end MarkdownRender.Text
