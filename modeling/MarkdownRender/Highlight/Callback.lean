import MarkdownRender.Highlight.CodeBlock
import MarkdownRender.Log

/-!
# Highlighters

A renderer asks a callback for the markup of a piece of code. Callbacks are made from
highlighters, which are asked first whether they know the language.
-/

namespace MarkdownRender

/-- What a renderer asks for the markup of a piece of code. The callback answers with markup that
is escaped already, or with nothing to leave the code to the renderer, or fails. Its answer depends
on the code and the language alone: a callback keeps nothing from one call to the next and does not
look at options or sessions. Two callbacks are the same one if and only if they have the same
identity. -/
structure Callback where
  identity : Nat
  run : (code : Text) → (language : Option Text) → Except Failure (Option Text)

/-- Something that can highlight code in the languages it supports. It answers with a truth value
when it is asked for a language, and with a text when it is given code, unless it fails. -/
structure Highlighter where
  supports : (language : Text) → Except Failure Bool
  highlight : (code language : Text) → Except Failure Text

namespace Highlighter

/-- The answer of a highlighter to a renderer: nothing for code without a language or in a
language that it does not support. -/
def answer (h : Highlighter) (code : Text) : Option Text → Except Failure (Option Text)
  | none | some [] => .ok none
  | some language => do
    if ← h.supports language then return some (← h.highlight code language)
    else return none

/-- The callback of a highlighter. -/
def toCallback (h : Highlighter) (identity : Nat) : Callback := ⟨identity, h.answer⟩

/-- A highlighter that writes whole blocks, made to write the markup inside them. If it fails to
say whether it supports a language, it does not. -/
def unwrapping (h : Highlighter) : Highlighter where
  supports language := .ok (match h.supports language with
    | .ok known => known
    | .error _ => false)
  highlight code language := (h.highlight code language).map CodeBlock.unwrap

/-- The callback of the packaged highlighter, which may be missing. -/
def packaged (h : Option Highlighter) (identity : Nat) : Logged (Option Callback) :=
  match h with
  | some h => return some (h.unwrapping.toCallback identity)
  | none => do
    Logged.report .highlighterMissing
    return none

end Highlighter

end MarkdownRender
