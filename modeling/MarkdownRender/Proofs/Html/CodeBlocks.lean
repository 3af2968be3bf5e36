import Mathlib.Data.List.Basic
import MarkdownRender.Proofs.Html.Escaping
import MarkdownRender.Render.Renderer

/-!
# Code blocks read back

A code block that no highlighter has touched has two parts that come from outside: its code, and
the name of its language. Both are escaped, so neither holds a quotation mark or an angle bracket.
The part that names the language therefore ends at the first quotation mark behind the beginning
of the class, whatever that beginning holds, and what follows is the code. From the parts the code
and the language are read back, because escaping can be undone.
-/

namespace MarkdownRender.Html

open CodePoint (ofChar)

/-- A code block around what is written for its code, in a class that ends in what is written for
the name of its language. A block without a name has no class. -/
def blockAround (classStart body name : Text) : Text :=
  if name = [] then "<pre><code>" ++ body ++ "\n</code></pre>"
  else "<pre><code class=\"" ++ classStart ++ name ++ "\">" ++ body ++ "\n</code></pre>\n"

theorem escape_eq_nil_iff {text : Text} : escape text = [] ↔ text = [] :=
  escape_injective.eq_iff' rfl

theorem codeBlock_eq_blockAround (o : RenderOptions) (body : Text) (language : Option Text) :
    codeBlock o body language = blockAround o.langPrefix body (escape (language.getD [])) := by
  rcases language with _ | _ | ⟨c, name⟩
  · rfl
  · rfl
  · have hname : escape (c :: name) ≠ [] :=
      fun h => List.cons_ne_nil c name (escape_eq_nil_iff.mp h)
    rw [Option.getD_some, blockAround, if_neg hname]
    rfl

/-- Without a highlighter nothing is reported, and code that is not escaped yet is escaped. -/
theorem construct_code_plain (o : RenderOptions) (code : Text) (language : Option Text)
    (escaped : Bool) :
    Renderer.construct ⟨.html, { o with highlight := none }⟩ (.code code language escaped) =
      pure (codeBlock o (if escaped then code else escape code) language) := rfl

section Parts

variable {classStart body body' name name' : Text}

/-- A block with a class is not one without: they differ behind the name of the inner element. -/
theorem blockAround_nil_ne (h : name ≠ []) :
    blockAround classStart body [] ≠ blockAround classStart body' name := by
  intro heq
  rw [blockAround, blockAround, if_pos rfl, if_neg h] at heq
  simp only [List.append_assoc] at heq
  have hplain : Text.ofString "<pre><code>" = Text.ofString "<pre><code" ++ [ofChar '>'] := rfl
  have hclass : Text.ofString "<pre><code class=\"" =
      Text.ofString "<pre><code" ++ (ofChar ' ' :: Text.ofString "class=\"") := rfl
  rw [hplain, hclass, List.append_assoc, List.append_assoc] at heq
  have hhead := (List.cons.inj (List.append_cancel_left heq)).1
  exact absurd hhead (by decide)

/-- **The parts of a block can be told apart** if they are escaped: the name ends where the only
quotation mark behind it is. -/
theorem blockAround_inj (hbody : IsEscaped body) (hname : IsEscaped name) :
    blockAround classStart body name = blockAround classStart body' name' ↔
      body = body' ∧ name = name' := by
  constructor
  · intro heq
    by_cases hnil : name = [] <;> by_cases hnil' : name' = []
    · subst hnil hnil'
      rw [blockAround, blockAround, if_pos rfl, if_pos rfl] at heq
      exact ⟨List.append_cancel_left (List.append_cancel_right heq), rfl⟩
    · subst hnil
      exact absurd heq (blockAround_nil_ne hnil')
    · subst hnil'
      exact absurd heq.symm (blockAround_nil_ne hnil)
    · have hquote : Text.ofString "\">" = ofChar '"' :: Text.ofString ">" := rfl
      have hnoName : ofChar '"' ∉ name := hname.no_markup _ (by decide)
      have hnoBody : ofChar '"' ∉ Text.ofString ">" ++ body := by
        rw [List.mem_append, not_or]
        exact ⟨by decide, hbody.no_markup _ (by decide)⟩
      rw [blockAround, blockAround, if_neg hnil, if_neg hnil'] at heq
      replace heq := List.append_cancel_right heq
      simp only [List.append_assoc, hquote, List.cons_append] at heq
      replace heq := List.append_cancel_left (List.append_cancel_left heq)
      obtain ⟨hnames, -, hbodies⟩ := (List.append_cons_inj_of_notMem hnoName hnoBody).mp heq
      exact ⟨List.append_cancel_left hbodies, hnames⟩
  · rintro ⟨rfl, rfl⟩
    rfl

end Parts

/-- **Code blocks cannot be confused or broken out of.** Without a highlighter, the block for some
code in some language holds escaped text for both, and nothing else that comes from them: no
angle bracket and no quotation mark, and ampersands only where an entity begins. Two blocks of one
renderer are equal if and only if their codes and their languages are, where no language and the
one without a name are the same. -/
theorem code_blocks_distinct (o : RenderOptions) :
    let r : Renderer := ⟨.html, { o with highlight := none }⟩
    (∀ code language, ∃ body name,
      r.construct (.code code language false) = pure (blockAround o.langPrefix body name) ∧
        IsEscaped body ∧ IsEscaped name ∧ (name = [] ↔ language = none ∨ language = some [])) ∧
    ∀ code code' language language',
      r.construct (.code code language false) = r.construct (.code code' language' false) ↔
        code = code' ∧ language.getD [] = language'.getD [] := by
  intro r
  have hblock : ∀ code language, r.construct (.code code language false) =
      pure (blockAround o.langPrefix (escape code) (escape (language.getD []))) := by
    intro code language
    rw [construct_code_plain, codeBlock_eq_blockAround]
    rfl
  refine ⟨fun code language => ⟨_, _, hblock code language, isEscaped_escape code,
    isEscaped_escape _, ?_⟩, fun code code' language language' => ?_⟩
  · rw [escape_eq_nil_iff]
    cases language <;> simp
  · rw [hblock, hblock, Attempt.pure_inj, blockAround_inj (isEscaped_escape _) (isEscaped_escape _),
      escape_injective.eq_iff, escape_injective.eq_iff]

end MarkdownRender.Html
