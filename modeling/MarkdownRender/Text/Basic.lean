import MarkdownRender.Text.CodePoint

/-!
# Texts

A text is a list of code points. String literals stand for texts wherever a text is expected.
-/

namespace MarkdownRender

/-- A list of code points, lone surrogates included. -/
abbrev Text := List CodePoint

namespace Text

/-- The text of a string. -/
def ofString (s : String) : Text := s.toList.map CodePoint.ofChar

instance : Coe String Text := ⟨ofString⟩

/-- Every `c` becomes `out`; nothing else changes. -/
def replace (text : Text) (c : CodePoint) (out : Text) : Text :=
  text.flatMap fun x => if x = c then out else [x]

/-- Whether the text begins with `start`. -/
def startsWith (text start : Text) : Bool := start.isPrefixOf text

theorem startsWith_iff {text start : Text} : text.startsWith start ↔ start <+: text :=
  List.isPrefixOf_iff_prefix

theorem startsWith_append {text start : Text} (h : text.startsWith start) (rest : Text) :
    startsWith (text ++ rest) start :=
  startsWith_iff.mpr ((startsWith_iff.mp h).trans (List.prefix_append text rest))

/-- The parts with `sep` between any two neighbours. -/
def join (sep : Text) : List Text → Text
  | [] => []
  | [part] => part
  | part :: next :: parts => part ++ sep ++ join sep (next :: parts)

/-- The text without the longest end whose code points all satisfy `p`. -/
def dropEndWhile (p : CodePoint → Bool) : Text → Text
  | [] => []
  | c :: rest =>
    match dropEndWhile p rest with
    | [] => if p c then [] else [c]
    | kept => c :: kept

/-- The text without its trailing newlines. -/
def dropEndNewlines (text : Text) : Text := text.dropEndWhile (· = '\n')

/-- What stands before the last occurrence of `mark`. -/
def beforeLast (mark : Text) : Text → Option Text
  | [] => if mark.isEmpty then some [] else none
  | c :: rest =>
    match beforeLast mark rest with
    | some before => some (c :: before)
    | none => if startsWith (c :: rest) mark then some [] else none

/-- The text without `ending`, if it ends so. -/
def withoutEnding? (ending text : Text) : Option Text :=
  if ending.isSuffixOf text then some (text.take (text.length - ending.length)) else none

theorem withoutEnding?_eq_some_iff {ending text front : Text} :
    withoutEnding? ending text = some front ↔ text = front ++ ending := by
  rw [withoutEnding?, Option.ite_none_right_eq_some, List.isSuffixOf_iff_suffix]
  constructor
  · rintro ⟨⟨before, rfl⟩, hfront⟩
    simp_all
  · rintro rfl
    exact ⟨List.suffix_append front ending, by simp⟩

end Text

end MarkdownRender
