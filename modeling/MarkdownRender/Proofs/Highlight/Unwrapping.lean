import MarkdownRender.Highlight.CodeBlock
import MarkdownRender.Proofs.Html.Nesting
import MarkdownRender.Proofs.Text.Lines
import MarkdownRender.Proofs.Text.Occurrence

/-!
# What is left of a block

A block is cut at the first start tag of `pre` that an end tag follows and at the last of these end
tags, whatever tags stand between the two (`preContent?_eq_some_iff`). If what stands there, without
the white space around it, is one stretch from a start tag of `code` to an end tag, these two are
taken off as well. So the markup of the tokens comes back even if it holds the same tags itself, and
markup that holds no block is left alone, and no other is.
-/

namespace MarkdownRender.CodeBlock

open CodePoint (ofChar)
open Html (tagged startTag endTag tagged_eq)

/-! ### Tags -/

/-- What may stand in a start tag behind its name: the name ends there, and the tag does not. -/
structure FollowsName (attributes : Text) : Prop where
  no_word : ∀ c ∈ attributes.head?, ¬ c.isUnicodeWord
  no_bracket : ofChar '>' ∉ attributes

theorem followsName_nil : FollowsName [] := ⟨by simp, List.not_mem_nil⟩

theorem followsName_blank {attributes : Text} (h : ofChar '>' ∉ attributes) :
    FollowsName (ofChar ' ' :: attributes) := by
  have hblank : ¬ (ofChar ' ').isUnicodeWord := by decide +kernel
  have hne : ofChar '>' ≠ ofChar ' ' := by decide
  refine ⟨?_, List.not_mem_cons_of_ne_of_not_mem hne h⟩
  rintro c ⟨⟩
  exact hblank

theorem tagged_append (name attributes content rest : Text) :
    tagged name attributes content ++ rest =
      startTag name attributes ++ (content ++ endTag name ++ rest) := by
  simp [tagged_eq]

theorem startTag_append (name attributes rest : Text) :
    startTag name attributes ++ rest =
      (ofChar '<' :: name) ++ (attributes ++ ofChar '>' :: rest) := by
  simp [startTag, Text.ofString]

theorem not_isUnicodeWord_bracket : ¬ (ofChar '>').isUnicodeWord := by decide +kernel

theorem exists_startTag_of_afterStartTag? {name text content : Text}
    (h : afterStartTag? name text = some content) :
    ∃ attributes, FollowsName attributes ∧ text = startTag name attributes ++ content := by
  obtain ⟨hbegins, hcontent⟩ := Option.ite_none_right_eq_some.mp h
  obtain ⟨hstart, hword⟩ := Bool.and_eq_true_iff.mp hbegins
  obtain ⟨rest, rfl⟩ := Text.startsWith_iff.mp hstart
  have hdrop : (ofChar '<' :: name ++ rest).drop (name.length + 1) = rest := by simp
  rw [hdrop] at hword hcontent
  split at hcontent
  · cases hcontent
  · next c tail htail =>
    cases hcontent
    have hrest : rest = rest.takeWhile (· ≠ ofChar '>') ++ c :: content := by
      rw [← htail, List.takeWhile_append_dropWhile]
    obtain rfl : c = ofChar '>' := by
      have hhead := List.head?_dropWhile_not (fun c => decide (c ≠ ofChar '>')) rest
      rw [htail] at hhead
      simpa using hhead
    refine ⟨rest.takeWhile (· ≠ ofChar '>'), ⟨?_, ?_⟩, ?_⟩
    · intro d hd
      obtain ⟨others, hothers⟩ := List.head?_eq_some_iff.mp hd
      have hhead : rest.head? = some d := by
        rw [hrest, hothers]
        rfl
      simpa [hhead] using hword
    · intro hmem
      simpa using List.mem_takeWhile_imp hmem
    · rw [startTag_append, ← hrest]

theorem afterStartTag?_startTag {attributes : Text} (h : FollowsName attributes)
    (name content : Text) :
    afterStartTag? name (startTag name attributes ++ content) = some content := by
  have hstart : Text.startsWith (startTag name attributes ++ content) (ofChar '<' :: name) := by
    rw [Text.startsWith_iff, startTag_append]
    exact List.prefix_append _ _
  have hdrop : (startTag name attributes ++ content).drop (name.length + 1) =
      attributes ++ ofChar '>' :: content := by
    rw [startTag_append]
    simp
  have hword : (attributes ++ ofChar '>' :: content).head?.any CodePoint.isUnicodeWord = false := by
    cases attributes with
    | nil => simp [not_isUnicodeWord_bracket]
    | cons c rest => simpa using h.no_word c rfl
  have hinside : ∀ c ∈ attributes, decide (c ≠ ofChar '>') :=
    fun c hc => decide_eq_true fun heq => h.no_bracket (heq ▸ hc)
  have htail : (attributes ++ ofChar '>' :: content).dropWhile (· ≠ ofChar '>') =
      ofChar '>' :: content := by
    rw [List.dropWhile_append_of_pos hinside, List.dropWhile_cons_of_neg (by simp)]
  unfold afterStartTag?
  simp only [hstart, hdrop, hword, htail]
  rfl

/-! ### Blocks -/

/-- The markup holds a start tag of `pre` that an end tag follows. -/
def HasBlock (markup : Text) : Prop :=
  ∃ before attributes content after, FollowsName attributes ∧
    markup = before ++ tagged "pre" attributes content ++ after

/-- A block as it is cut out of the markup: no start tag that an end tag follows stands in front of
it, and no end tag behind it. -/
structure IsBlock (markup before attributes content after : Text) : Prop where
  eq : markup = before ++ tagged "pre" attributes content ++ after
  follows : FollowsName attributes
  first : ∀ before' attributes' content' after', FollowsName attributes' →
    markup = before' ++ tagged "pre" attributes' content' ++ after' →
    before.length ≤ before'.length
  last : ¬ endTag "pre" <:+: after

/-- The content of a block that stands at the start of the markup. -/
def firstContent? (markup : Text) : Option Text :=
  (afterStartTag? "pre" markup).bind (Text.beforeLast "</pre>")

theorem preContent?_cons (c : CodePoint) (rest : Text) :
    preContent? (c :: rest) = (firstContent? (c :: rest)).or (preContent? rest) := by
  rw [preContent?, Option.orElse_eq_orElse, Option.orElse_eq_or]
  rfl

theorem beforeLast_endTag_eq_some_iff {text content : Text} :
    Text.beforeLast "</pre>" text = some content ↔
      ∃ after, text = content ++ endTag "pre" ++ after ∧ ¬ endTag "pre" <:+: after := by
  have hmark : ofChar '<' ∉ Text.ofString "/pre>" := by decide
  simp only [List.append_assoc]
  exact Text.beforeLast_eq_some_iff hmark

theorem firstContent?_eq_some_iff {markup content : Text} :
    firstContent? markup = some content ↔
      ∃ attributes after, FollowsName attributes ∧
        markup = tagged "pre" attributes content ++ after ∧ ¬ endTag "pre" <:+: after := by
  rw [firstContent?, Option.bind_eq_some_iff]
  constructor
  · rintro ⟨inner, hinner, hcontent⟩
    obtain ⟨attributes, hfollows, rfl⟩ := exists_startTag_of_afterStartTag? hinner
    obtain ⟨after, rfl, hafter⟩ := beforeLast_endTag_eq_some_iff.mp hcontent
    exact ⟨attributes, after, hfollows, (tagged_append _ _ _ _).symm, hafter⟩
  · rintro ⟨attributes, after, hfollows, rfl, hafter⟩
    rw [tagged_append]
    exact ⟨_, afterStartTag?_startTag hfollows "pre" _,
      beforeLast_endTag_eq_some_iff.mpr ⟨after, rfl, hafter⟩⟩

theorem firstContent?_ne_none {markup attributes content after : Text}
    (hfollows : FollowsName attributes) (h : markup = tagged "pre" attributes content ++ after) :
    firstContent? markup ≠ none := by
  rw [firstContent?, h, tagged_append, afterStartTag?_startTag hfollows, Option.bind_some]
  intro hnone
  exact (Text.beforeLast_eq_none_iff (by decide)).mp hnone ⟨content, after, rfl⟩

namespace IsBlock

variable {c : CodePoint} {rest before attributes content after : Text}

/-- A block further on is still cut out if none stands at the start. -/
theorem cons (hnone : firstContent? (c :: rest) = none)
    (h : IsBlock rest before attributes content after) :
    IsBlock (c :: rest) (c :: before) attributes content after := by
  refine ⟨by rw [h.eq]; rfl, h.follows, ?_, h.last⟩
  intro before' attributes' content' after' hfollows' heq
  cases before' with
  | nil => exact absurd hnone (firstContent?_ne_none hfollows' heq)
  | cons d before' =>
    have hle := h.first before' attributes' content' after' hfollows' (List.cons.inj heq).2
    exact Nat.succ_le_succ hle

theorem firstContent?_eq_none (h : IsBlock (c :: rest) (c :: before) attributes content after) :
    firstContent? (c :: rest) = none := by
  refine Option.eq_none_iff_forall_ne_some.mpr fun content' hhere => ?_
  obtain ⟨attributes', after', hfollows', heq, -⟩ := firstContent?_eq_some_iff.mp hhere
  have hle := h.first [] attributes' content' after' hfollows' heq
  exact absurd hle (by simp)

theorem of_cons (h : IsBlock (c :: rest) (c :: before) attributes content after) :
    IsBlock rest before attributes content after := by
  refine ⟨(List.cons.inj h.eq).2, h.follows, ?_, h.last⟩
  intro before' attributes' content' after' hfollows' heq
  have hle := h.first (c :: before') attributes' content' after' hfollows' (by rw [heq]; rfl)
  exact Nat.le_of_succ_le_succ hle

end IsBlock

theorem preContent?_eq_some_iff {markup content : Text} :
    preContent? markup = some content ↔
      ∃ before attributes after, IsBlock markup before attributes content after := by
  induction markup with
  | nil =>
    constructor
    · intro h
      cases h
    · rintro ⟨before, attributes, after, hblock⟩
      have hnil := hblock.eq
      simp [tagged, Text.ofString] at hnil
  | cons c rest ih =>
    rw [preContent?_cons, Option.or_eq_some_iff]
    constructor
    · rintro (hhere | ⟨hnone, hrest⟩)
      · obtain ⟨attributes, after, hfollows, heq, hafter⟩ := firstContent?_eq_some_iff.mp hhere
        exact ⟨[], attributes, after, heq, hfollows, fun _ _ _ _ _ _ => Nat.zero_le _, hafter⟩
      · obtain ⟨before, attributes, after, hblock⟩ := ih.mp hrest
        exact ⟨c :: before, attributes, after, hblock.cons hnone⟩
    · rintro ⟨before, attributes, after, hblock⟩
      cases before with
      | nil =>
        exact Or.inl (firstContent?_eq_some_iff.mpr
          ⟨attributes, after, hblock.follows, hblock.eq, hblock.last⟩)
      | cons d before =>
        obtain rfl : c = d := (List.cons.inj hblock.eq).1
        exact Or.inr ⟨hblock.firstContent?_eq_none,
          ih.mpr ⟨before, attributes, after, hblock.of_cons⟩⟩

theorem preContent?_eq_none_iff {markup : Text} : preContent? markup = none ↔ ¬ HasBlock markup := by
  constructor
  · rintro hnone ⟨before, attributes, content, after, hfollows, rfl⟩
    induction before with
    | nil =>
      obtain ⟨c, rest, hcons⟩ :
          ∃ c rest, [] ++ tagged "pre" attributes content ++ after = c :: rest := ⟨_, _, rfl⟩
      rw [hcons, preContent?_cons, Option.or_eq_none_iff] at hnone
      exact firstContent?_ne_none hfollows hcons.symm hnone.1
    | cons c before ih =>
      rw [List.cons_append, List.cons_append, preContent?_cons, Option.or_eq_none_iff] at hnone
      exact ih hnone.2
  · intro h
    refine Option.eq_none_iff_forall_ne_some.mpr fun content hcontent => ?_
    obtain ⟨before, attributes, after, hblock⟩ := preContent?_eq_some_iff.mp hcontent
    exact h ⟨before, attributes, content, after, hblock.follows, hblock.eq⟩

/-- Between the first start tag and the last end tag of a text, whatever they stand around. -/
theorem isBlock_of_first_and_last {front back attributes : Text} (content : Text)
    (hfollows : FollowsName attributes) (hfront : ¬ Text.ofString "<pre" <:+: front)
    (hback : ¬ endTag "pre" <:+: back) :
    IsBlock (front ++ tagged "pre" attributes content ++ back) front attributes content back := by
  refine ⟨rfl, hfollows, ?_, hback⟩
  intro before' attributes' content' after' _ heq
  have hmark : ofChar '<' ∉ Text.ofString "pre" := by decide
  rw [List.append_assoc, List.append_assoc, tagged_append, tagged_append, startTag_append,
    startTag_append, List.cons_append] at heq
  exact Text.length_le_of_not_infix hmark hfront heq

/-! ### Code elements -/

/-- The text is one stretch from a start tag of `code` to an end tag. -/
def IsCodeStretch (text : Text) : Prop :=
  ∃ attributes tokens, FollowsName attributes ∧ text = tagged "code" attributes tokens

theorem codeContent?_eq_some_iff {text tokens : Text} :
    codeContent? text = some tokens ↔
      ∃ attributes, FollowsName attributes ∧ text = tagged "code" attributes tokens := by
  rw [codeContent?, Option.bind_eq_some_iff]
  constructor
  · rintro ⟨inner, hinner, htokens⟩
    obtain ⟨attributes, hfollows, rfl⟩ := exists_startTag_of_afterStartTag? hinner
    refine ⟨attributes, hfollows, ?_⟩
    rw [Text.withoutEnding?_eq_some_iff.mp htokens, tagged_eq, List.append_assoc]
    rfl
  · rintro ⟨attributes, hfollows, rfl⟩
    rw [tagged_eq, List.append_assoc]
    exact ⟨_, afterStartTag?_startTag hfollows "code" _, Text.withoutEnding?_eq_some_iff.mpr rfl⟩

theorem codeContent?_eq_none_iff {text : Text} : codeContent? text = none ↔ ¬ IsCodeStretch text := by
  constructor
  · rintro hnone ⟨attributes, tokens, hfollows, htext⟩
    rw [codeContent?_eq_some_iff.mpr ⟨attributes, hfollows, htext⟩] at hnone
    cases hnone
  · intro h
    refine Option.eq_none_iff_forall_ne_some.mpr fun tokens htokens => ?_
    obtain ⟨attributes, hfollows, htext⟩ := codeContent?_eq_some_iff.mp htokens
    exact h ⟨attributes, tokens, hfollows, htext⟩

/-- White space around an element is what is cut off. -/
theorem strip_tagged {blanks blanks' : Text} (h : ∀ c ∈ blanks, c.isBlank)
    (h' : ∀ c ∈ blanks', c.isBlank) (name attributes content : Text) :
    Text.strip (blanks ++ tagged name attributes content ++ blanks') =
      tagged name attributes content := by
  have hhead : (tagged name attributes content).head? = some (ofChar '<') := rfl
  have hlast : (tagged name attributes content).getLast? = some (ofChar '>') :=
    List.getLast?_concat
  rw [List.append_assoc, Text.strip_blanks_append h]
  refine Text.strip_append_blanks (List.cons_ne_nil _ _) ?_ ?_ h'
  · rw [hhead]
    decide
  · rw [hlast]
    decide

/-! ### What is taken off -/

/-- `inside` is what is left of the markup, less its trailing newlines: the content of its block or,
where that is a stretch of code with white space around it, what stands in this stretch. -/
inductive Unwraps (markup : Text) : (front inside back : Text) → Prop
  | pre {before attributes content after : Text}
      (block : IsBlock markup before attributes content after)
      (other : ¬ IsCodeStretch content.strip) :
      Unwraps markup (before ++ startTag "pre" attributes) content (endTag "pre" ++ after)
  | code {before attributes blanks attributes' tokens blanks' after : Text}
      (block : IsBlock markup before attributes
        (blanks ++ tagged "code" attributes' tokens ++ blanks') after)
      (follows : FollowsName attributes') (blank : ∀ c ∈ blanks, c.isBlank)
      (blank' : ∀ c ∈ blanks', c.isBlank) :
      Unwraps markup (before ++ startTag "pre" attributes ++ blanks ++ startTag "code" attributes')
        tokens (endTag "code" ++ blanks' ++ endTag "pre" ++ after)

namespace Unwraps

variable {markup front inside back : Text}

theorem eq (h : Unwraps markup front inside back) : markup = front ++ inside ++ back := by
  cases h with
  | pre block => rw [block.eq, tagged_eq]; simp
  | code block => rw [block.eq, tagged_eq, tagged_eq]; simp

/-- What stands in front of `inside` ends with a tag. -/
theorem exists_front (h : Unwraps markup front inside back) :
    ∃ before, front = before ++ [ofChar '>'] := by
  cases h with
  | pre block => exact ⟨_, (List.append_assoc _ _ _).symm⟩
  | code block => exact ⟨_, (List.append_assoc _ _ _).symm⟩

theorem unwrap_eq (h : Unwraps markup front inside back) :
    unwrap markup = inside.dropEndNewlines := by
  cases h with
  | pre block other =>
    have hcontent := preContent?_eq_some_iff.mpr ⟨_, _, _, block⟩
    simp only [unwrap, hcontent, codeContent?_eq_none_iff.mpr other, Option.getD_none]
  | @code _ _ _ attributes' _ _ _ block follows blank blank' =>
    have hcontent := preContent?_eq_some_iff.mpr ⟨_, _, _, block⟩
    have htokens : codeContent? (tagged "code" attributes' inside) = some inside :=
      codeContent?_eq_some_iff.mpr ⟨attributes', follows, rfl⟩
    simp only [unwrap, hcontent, strip_tagged blank blank', htokens, Option.getD_some]

end Unwraps

theorem exists_unwraps {markup : Text} (h : HasBlock markup) :
    ∃ front inside back, Unwraps markup front inside back := by
  obtain ⟨content, hcontent⟩ := Option.ne_none_iff_exists'.mp (preContent?_eq_none_iff.not_left.mpr h)
  obtain ⟨before, attributes, after, block⟩ := preContent?_eq_some_iff.mp hcontent
  by_cases hcode : IsCodeStretch content.strip
  · obtain ⟨attributes', tokens, follows, hstrip⟩ := hcode
    obtain ⟨blanks, blanks', heq, blank, blank'⟩ := Text.exists_strip_eq content
    rw [hstrip] at heq
    subst heq
    exact ⟨_, _, _, .code block follows blank blank'⟩
  · exact ⟨_, _, _, .pre block hcode⟩

theorem unwrap_of_not_hasBlock {markup : Text} (h : ¬ HasBlock markup) : unwrap markup = markup := by
  rw [unwrap, preContent?_eq_none_iff.mpr h]

/-- What is taken off makes the markup shorter. -/
theorem length_unwrap_lt {markup : Text} (h : HasBlock markup) :
    (unwrap markup).length < markup.length := by
  obtain ⟨front, inside, back, hunwraps⟩ := exists_unwraps h
  obtain ⟨before, rfl⟩ := hunwraps.exists_front
  obtain ⟨tail, htail, -⟩ := Text.exists_append_dropEndWhile (· = ofChar '\n') inside
  have hinside := congrArg List.length htail
  have hmarkup := congrArg List.length hunwraps.eq
  have hleft : (unwrap markup).length = (Text.dropEndWhile (· = ofChar '\n') inside).length :=
    congrArg List.length hunwraps.unwrap_eq
  simp only [List.length_append, List.length_singleton] at hinside hmarkup
  omega

/-- **The tokens come back whatever they are.** Between the first start tag of `pre` and the last
end tag, an element `code` with white space around it is reduced to what stands in it, and any other
content is kept, both without their trailing newlines. Markup is left alone if and only if no start
tag of `pre` in it is followed by an end tag. -/
theorem unwrap_recovers_tokens :
    (∀ front attributes blanks attributes' tokens blanks' back : Text,
      ¬ Text.ofString "<pre" <:+: front → ¬ endTag "pre" <:+: back → FollowsName attributes →
      FollowsName attributes' → (∀ c ∈ blanks, c.isBlank) → (∀ c ∈ blanks', c.isBlank) →
      unwrap (front ++ tagged "pre" attributes
          (blanks ++ tagged "code" attributes' tokens ++ blanks') ++ back) =
        tokens.dropEndNewlines) ∧
    (∀ front attributes tokens back : Text,
      ¬ Text.ofString "<pre" <:+: front → ¬ endTag "pre" <:+: back → FollowsName attributes →
      ¬ IsCodeStretch tokens.strip →
      unwrap (front ++ tagged "pre" attributes tokens ++ back) = tokens.dropEndNewlines) ∧
    ∀ markup, unwrap markup = markup ↔ ¬ HasBlock markup := by
  refine ⟨?_, ?_, ?_⟩
  · intro front attributes blanks attributes' tokens blanks' back hfront hback hfollows hfollows'
      hblank hblank'
    have hblock := isBlock_of_first_and_last
      (blanks ++ tagged "code" attributes' tokens ++ blanks') hfollows hfront hback
    exact (Unwraps.code hblock hfollows' hblank hblank').unwrap_eq
  · intro front attributes tokens back hfront hback hfollows hother
    have hblock := isBlock_of_first_and_last tokens hfollows hfront hback
    exact (Unwraps.pre hblock hother).unwrap_eq
  · intro markup
    refine ⟨fun hself hblock => ?_, unwrap_of_not_hasBlock⟩
    have hlt := length_unwrap_lt hblock
    rw [hself] at hlt
    exact absurd hlt (Nat.lt_irrefl _)

/-- Tokens that hold the tags of a whole block, tokens without an element of their own around them,
and a start tag whose name only begins like that of a block. -/
theorem unwrap_recovers_inner_block :
    unwrap ("<div>" ++ tagged "pre" " class=\"x\""
        ("\n" ++ tagged "code" [] "<pre><code>a</code></pre>\n\n" ++ " ") ++ "</div>") =
      "<pre><code>a</code></pre>" ∧
    unwrap ([] ++ tagged "pre" [] "<b>a</b>\n<code>b</code>\n" ++ []) = "<b>a</b>\n<code>b</code>" ∧
    unwrap "<preface>a</pre>" = "<preface>a</pre>" := by
  obtain ⟨hcode, hpre, hnone⟩ := unwrap_recovers_tokens
  have hclass : FollowsName " class=\"x\"" := followsName_blank (by decide)
  refine ⟨?_, ?_, ?_⟩
  · exact hcode "<div>" _ "\n" [] _ " " "</div>" (by decide) (by decide) hclass followsName_nil
      (by decide) (by decide)
  · have hother : codeContent? (Text.strip "<b>a</b>\n<code>b</code>\n") = none := by decide +kernel
    exact hpre [] [] _ [] (by decide) (by decide) followsName_nil
      (codeContent?_eq_none_iff.mp hother)
  · have hblock : preContent? "<preface>a</pre>" = none := by decide +kernel
    exact (hnone _).mpr (preContent?_eq_none_iff.mp hblock)

end MarkdownRender.CodeBlock
