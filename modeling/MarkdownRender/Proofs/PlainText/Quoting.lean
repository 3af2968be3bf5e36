import Mathlib.Logic.Function.Iterate
import MarkdownRender.Proofs.PlainText.Rows

/-!
# Quotes read back

A quote marks each of its lines: with the mark and a blank, or with the mark alone if the line is
empty. No marked line is empty, so the lines of a quote can be told from the empty line behind it,
and what they quote is read back line by line (`unquote_blockquote`). Only the newlines at the end
of what is quoted are lost. A quote always ends with the same two newlines, so nothing more is lost
when quotes are nested, however deep (`blockquote_injective_of_quotes`).
-/

namespace MarkdownRender.PlainText

open CodePoint (ofChar)
open Text (unlines joinLines)

/-! ### Marked lines -/

/-- A line of a quote, without the newline that ends it. -/
def markedLine (line : Text) : Text := if line.isEmpty then ">" else "> " ++ line

/-- What a line of a quote stands for. -/
def withoutMark (line : Text) : Text :=
  if line = ">" then [] else line.drop (Text.ofString "> ").length

/-- A single line that begins with the mark; behind a blank there is something. -/
def IsMarkedLine (line : Text) : Prop :=
  ofChar '\n' ∉ line ∧ (line = ">" ∨ ∃ rest : Text, rest ≠ [] ∧ line = "> " ++ rest)

/-- The lines that a quote of a text is made of. -/
def markedLines (quote : Text) : List Text := quote.dropEndNewlines.lines.map markedLine

/-- What a quote stands for: what its lines stand for, with newlines between them. -/
def unquote (text : Text) : Text := joinLines (text.dropEndNewlines.lines.map withoutMark)

theorem isMarkedLine_markedLine {line : Text} (h : ofChar '\n' ∉ line) :
    IsMarkedLine (markedLine line) := by
  have hmark : ofChar '\n' ∉ Text.ofString ">" := by decide
  have hblank : ofChar '\n' ∉ Text.ofString "> " := by decide
  cases line with
  | nil => exact ⟨hmark, Or.inl rfl⟩
  | cons c rest =>
    refine ⟨fun hmem => ?_, Or.inr ⟨c :: rest, List.cons_ne_nil c rest, rfl⟩⟩
    rcases List.mem_append.mp hmem with hmem | hmem
    · exact hblank hmem
    · exact h hmem

theorem IsMarkedLine.ne_nil {line : Text} (h : IsMarkedLine line) : line ≠ [] := by
  rcases h.2 with rfl | ⟨rest, -, rfl⟩
  · exact List.cons_ne_nil _ _
  · exact List.cons_ne_nil _ _

theorem withoutMark_markedLine (line : Text) : withoutMark (markedLine line) = line := by
  cases line with
  | nil => exact if_pos rfl
  | cons c rest =>
    have hne : markedLine (c :: rest) ≠ Text.ofString ">" := by
      intro heq
      have hlength := congrArg List.length heq
      simp [markedLine, Text.ofString] at hlength
    rw [withoutMark, if_neg hne]
    exact List.drop_left

theorem markedLines_ne_nil (quote : Text) : markedLines quote ≠ [] := by
  simpa [markedLines] using Text.lines_ne_nil quote.dropEndNewlines

theorem isMarkedLine_of_mem_markedLines {quote : Text} :
    ∀ line ∈ markedLines quote, IsMarkedLine line :=
  List.forall_mem_map.mpr fun _ hline =>
    isMarkedLine_markedLine (Text.newline_notMem_of_mem_lines hline)

/-- Nothing but newlines at its end is lost of what is quoted. -/
theorem joinLines_withoutMark (quote : Text) :
    joinLines ((markedLines quote).map withoutMark) = quote.dropEndNewlines := by
  have hlines : (markedLines quote).map withoutMark = quote.dropEndNewlines.lines := by
    rw [markedLines, List.map_map]
    exact List.map_id'' withoutMark_markedLine _
  rw [hlines, Text.joinLines_lines]

/-! ### Quotes -/

theorem blockquote_eq_unlines (quote : Text) :
    blockquote quote = unlines (markedLines quote) ++ [ofChar '\n'] := by
  have hline : quoteLine = fun line => markedLine line ++ [ofChar '\n'] := by
    funext line
    cases line <;> rfl
  rw [blockquote, hline, unlines, markedLines, List.flatMap_map]
  rfl

/-- The empty line behind a quote is cut off, and no line of it is. -/
theorem lines_dropEndNewlines_blockquote (quote : Text) :
    (blockquote quote).dropEndNewlines.lines = markedLines quote := by
  have hempty : blockquote quote = unlines (markedLines quote ++ [[]]) := by
    rw [blockquote_eq_unlines, Text.unlines_append]
    rfl
  have hnewline : ∀ line ∈ markedLines quote ++ [[]], ofChar '\n' ∉ line := by
    intro line hline
    rcases List.mem_append.mp hline with hline | hline
    · exact (isMarkedLine_of_mem_markedLines line hline).1
    · rw [List.mem_singleton.mp hline]
      exact List.not_mem_nil
  rw [hempty, lines_dropEndNewlines_unlines hnewline, keptColumns_concat_nil]
  obtain ⟨front, last, hlast⟩ := (List.eq_nil_or_concat (markedLines quote)).resolve_left
    (markedLines_ne_nil quote)
  rw [List.concat_eq_append] at hlast
  have hmem : last ∈ markedLines quote := by simp [hlast]
  have hmarked := isMarkedLine_of_mem_markedLines last hmem
  rw [hlast, keptColumns_concat hmarked.ne_nil]

/-- **What is quoted is read back**, without the newlines at its end. -/
theorem unquote_blockquote (quote : Text) : unquote (blockquote quote) = quote.dropEndNewlines := by
  rw [unquote, lines_dropEndNewlines_blockquote, joinLines_withoutMark]

/-- Quotes have the same newlines at their ends, so they are told apart without them. -/
theorem blockquote_injective_of_quotes {quote quote' : Text}
    (h : (blockquote quote).dropEndNewlines = (blockquote quote').dropEndNewlines) :
    blockquote quote = blockquote quote' := by
  have hlines := congrArg Text.lines h
  rw [lines_dropEndNewlines_blockquote, lines_dropEndNewlines_blockquote] at hlines
  rw [blockquote_eq_unlines, blockquote_eq_unlines, hlines]

/-- Nested quotes of two texts are the same only if the texts are, but for newlines at their
ends. -/
theorem dropEndNewlines_eq_of_iterate {quote quote' : Text} (depth : Nat)
    (h : blockquote^[depth] quote = blockquote^[depth] quote') :
    quote.dropEndNewlines = quote'.dropEndNewlines := by
  induction depth generalizing quote quote' with
  | zero => exact congrArg Text.dropEndNewlines h
  | succ depth ih =>
    rw [Function.iterate_succ_apply, Function.iterate_succ_apply] at h
    have hquotes := congrArg unquote (blockquote_injective_of_quotes (ih h))
    rwa [unquote_blockquote, unquote_blockquote] at hquotes

/-! ### Nested quotes -/

/-- A text inside as many quotes as `depth` says. -/
def nestedQuote (text : Text) : Nat → Node
  | 0 => .text text
  | depth + 1 => .construct (.blockquote [nestedQuote text depth])

theorem node_nestedQuote (o : RenderOptions) (text : Text) (depth : Nat) :
    Renderer.node ⟨.plainText, o⟩ (nestedQuote text depth) = pure (blockquote^[depth] text) := by
  induction depth with
  | zero => rw [nestedQuote, Renderer.node, Function.iterate_zero_apply]
  | succ depth ih =>
    rw [Function.iterate_succ_apply']
    simp only [nestedQuote, Renderer.node, Renderer.parts, Renderer.nodes, ih, pure_bind,
      List.append_nil]
    rfl

/-- **Quoting is reversible at any depth.** A quote is made of marked lines and one newline behind
them; without their marks and with newlines between them, these lines are what was quoted, less the
newlines at its end. Two texts that differ in more than that give different quotes, at whatever
depth they are nested. -/
theorem quotes_are_reversible (o : RenderOptions) :
    (∀ quote, ∃ lines : List Text,
      Renderer.node ⟨.plainText, o⟩ (.construct (.blockquote [.text quote])) =
          pure (unlines lines ++ [ofChar '\n']) ∧
        (∀ line ∈ lines, IsMarkedLine line) ∧
        joinLines (lines.map withoutMark) = quote.dropEndNewlines) ∧
    ∀ quote quote' : Text, quote.dropEndNewlines ≠ quote'.dropEndNewlines → ∀ depth,
      Renderer.node ⟨.plainText, o⟩ (nestedQuote quote depth) ≠
        Renderer.node ⟨.plainText, o⟩ (nestedQuote quote' depth) := by
  refine ⟨fun quote => ⟨markedLines quote, ?_, isMarkedLine_of_mem_markedLines,
    joinLines_withoutMark quote⟩, ?_⟩
  · rw [← blockquote_eq_unlines]
    exact node_nestedQuote o quote 1
  · intro quote quote' hne depth heq
    rw [node_nestedQuote, node_nestedQuote, Attempt.pure_inj] at heq
    exact hne (dropEndNewlines_eq_of_iterate depth heq)

/-- A quoted line and a line that only looks like one, with an empty line before it. -/
theorem quotes_are_reversible_marked_text :
    (Text.ofString "\n> a\n").dropEndNewlines ≠ (Text.ofString "\na").dropEndNewlines ∧
      Renderer.node ⟨.plainText, {}⟩ (nestedQuote "\n> a\n" 3) ≠
        Renderer.node ⟨.plainText, {}⟩ (nestedQuote "\na" 3) := by
  have hne : (Text.ofString "\n> a\n").dropEndNewlines ≠ (Text.ofString "\na").dropEndNewlines := by
    decide
  exact ⟨hne, (quotes_are_reversible {}).2 _ _ hne 3⟩

/-- The mark of an empty line has no blank behind it, and newlines at the end are gone. -/
example : blockquote "a\n\n> b\n\n" = Text.ofString "> a\n>\n> > b\n\n" ∧
    unquote "> a\n>\n> > b\n\n" = Text.ofString "a\n\n> b" := by
  decide +kernel

end MarkdownRender.PlainText
