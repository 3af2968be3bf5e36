import MarkdownRender.Text.Basic

/-!
# Lines

Two notions of a line are in use. `lines` cuts at newlines only and drops them, so that joining
the lines with newlines gives the text back. `brokenLines` cuts after every line boundary that
Unicode knows and keeps the boundaries, so that the lines concatenate to the text.
-/

namespace MarkdownRender.Text

/-- The parts between newlines: one more than there are newlines. -/
def lines : Text → List Text
  | [] => [[]]
  | c :: rest =>
    if c = '\n' then [] :: lines rest
    else
      match lines rest with
      | [] => [[c]]
      | line :: others => (c :: line) :: others

/-- The lines with a newline between any two neighbours. -/
def joinLines (parts : List Text) : Text := join "\n" parts

/-- Line boundaries: line feed, vertical tab, form feed, carriage return, the file, group and
record separators, next line, and the line and paragraph separators. -/
def isLineBreak (c : CodePoint) : Bool :=
  (0x0A ≤ c.val && c.val ≤ 0x0D) || (0x1C ≤ c.val && c.val ≤ 0x1E) || c.val = 0x85 ||
    c.val = 0x2028 || c.val = 0x2029

/-- Whether a line ends after `c`. A carriage return before a line feed does not end the line:
the line feed does. -/
def endsLine (c : CodePoint) (rest : Text) : Bool :=
  isLineBreak c && !(c = '\r' && startsWith rest "\n")

/-- The lines of a text, each with the boundary that ends it; no empty line follows the last
boundary. -/
def brokenLines : Text → List Text
  | [] => []
  | c :: rest =>
    if endsLine c rest then [c] :: brokenLines rest
    else
      match brokenLines rest with
      | [] => [[c]]
      | line :: others => (c :: line) :: others

/-- Nothing is lost by cutting a text at every line boundary. -/
theorem flatten_brokenLines (text : Text) : (brokenLines text).flatten = text := by
  induction text with
  | nil => rfl
  | cons c rest ih =>
    unfold brokenLines
    split
    · simp [ih]
    · split
      · next h => rw [h] at ih; rw [← ih]; rfl
      · next line others h => rw [h] at ih; rw [← ih]; rfl

theorem lines_ne_nil (text : Text) : lines text ≠ [] := by
  cases text with
  | nil => simp [lines]
  | cons c rest =>
    unfold lines
    split
    · simp
    · split <;> simp

/-- Nothing is lost by cutting a text into lines. -/
theorem joinLines_lines (text : Text) : joinLines (lines text) = text := by
  induction text with
  | nil => rfl
  | cons c rest ih =>
    unfold lines
    split
    · next h =>
      subst h
      cases hl : lines rest with
      | nil => exact absurd hl (lines_ne_nil rest)
      | cons line others => rw [hl] at ih; rw [← ih]; rfl
    · split
      · next h => rw [h] at ih; rw [← ih]; rfl
      · next line others h =>
        rw [h] at ih
        cases others with
        | nil => rw [← ih]; rfl
        | cons next others => rw [← ih]; rfl

end MarkdownRender.Text
