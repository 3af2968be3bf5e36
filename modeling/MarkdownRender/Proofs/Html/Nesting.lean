import Mathlib.Data.List.Induction
import MarkdownRender.Text.Blank

/-!
# Properly nested tags

Markup is read one code point at a time. A `Reader` knows the elements that are open, the innermost
one first, and the tag that it stands in, if it stands in one. A start tag opens an element, an end
tag has to name the innermost one and closes it, and the tag of a void element does neither. Markup
is well nested if it can be read from its start to its end in this way and leaves nothing open.

Reading goes from left to right, so it can be cut anywhere (`Reader.read_append`), and it never
looks at elements that were open before (`Reader.read_above`). From these two it follows that well
nested pieces can be put together and put into elements.
-/

namespace MarkdownRender.Html

open CodePoint (ofChar)

/-! ### Reading markup -/

/-- The elements that have no content and no end tag. -/
def voidNames : List Text := ["hr", "br", "img"]

/-- A tag that has not been read to its end. -/
structure OpenTag where
  /-- The name as far as it has been read. That of an end tag has a slash in front. -/
  name : Text := []
  /-- Whether the name has ended. -/
  named : Bool := false
  /-- Whether a slash closes the tag of a void element so far. -/
  closed : Bool := false
deriving DecidableEq

/-- One more code point of a tag. White space ends the name, and so does a slash that is not in
front of it. -/
def OpenTag.push (tag : OpenTag) (c : CodePoint) : OpenTag :=
  if tag.named || c.isBlank || (c = '/' && !tag.name.isEmpty) then
    { tag with named := true, closed := voidNames.contains tag.name && c = '/' }
  else { tag with name := tag.name ++ [c] }

/-- Where the reading of markup has come to. -/
structure Reader where
  /-- The names of the elements that are open, the innermost one first. -/
  opened : List Text := []
  tag : Option OpenTag := none
deriving DecidableEq

namespace Reader

/-- The end of a tag. The tag of a void element is closed by a slash if and only if `xhtml` says
so. -/
def finish (xhtml : Bool) (opened : List Text) (tag : OpenTag) : Option Reader :=
  if tag.name.head? = some (ofChar '/') then
    if opened.head? = some tag.name.tail then some { opened := opened.tail } else none
  else if voidNames.contains tag.name && tag.closed = xhtml then some { opened }
  else some { opened := tag.name :: opened }

/-- Reads one code point. Angle brackets stand for nothing but the bounds of tags. -/
def step (xhtml : Bool) (s : Reader) (c : CodePoint) : Option Reader :=
  match s.tag with
  | none =>
    if c = '<' then some { s with tag := some {} } else if c = '>' then none else some s
  | some tag =>
    if c = '>' then finish xhtml s.opened tag
    else if c = '<' then none
    else some { s with tag := some (tag.push c) }

/-- Reads a text. -/
def read (xhtml : Bool) (s : Reader) (text : Text) : Option Reader := text.foldlM (step xhtml) s

end Reader

/-- The start and end tags of the text are properly nested. -/
def WellNested (xhtml : Bool) (text : Text) : Prop := Reader.read xhtml {} text = some {}

instance (xhtml : Bool) (text : Text) : Decidable (WellNested xhtml text) :=
  inferInstanceAs (Decidable (_ = _))

/-- An end tag that is not the one expected, and a void tag written in the other way. -/
example : WellNested false "<p>a<br><em>b</em></p>" ∧ ¬ WellNested false "<p><em>b</p></em>" ∧
    ¬ WellNested true "<p>a<br></p>" := by
  decide +kernel

namespace Reader

variable {xhtml : Bool} {s s' : Reader}

theorem read_append (s : Reader) (text text' : Text) :
    read xhtml s (text ++ text') = (read xhtml s text).bind (read xhtml · text') :=
  List.foldlM_append

theorem read_append_of_read {text : Text} (h : read xhtml s text = some s') (text' : Text) :
    read xhtml s (text ++ text') = read xhtml s' text' := by
  rw [read_append, h, Option.bind_some]

theorem read_cons_of_step {c : CodePoint} (h : step xhtml s c = some s') (rest : Text) :
    read xhtml s (c :: rest) = read xhtml s' rest := by
  simp [read, h]

/-- The same place in markup that stands inside more elements. -/
def above (s : Reader) (below : List Text) : Reader := { s with opened := s.opened ++ below }

/-! ### The top of the open elements -/

/-- What one code point does: the elements it closes, those it opens instead, and the tag that the
reader stands in then. -/
structure Effect where
  closes : List Text := []
  opens : List Text := []
  tag : Option OpenTag := none

/-- What the end of a tag does. -/
def finishEffect (xhtml : Bool) (tag : OpenTag) : Effect :=
  if tag.name.head? = some (ofChar '/') then { closes := [tag.name.tail] }
  else if voidNames.contains tag.name && tag.closed = xhtml then {}
  else { opens := [tag.name] }

/-- What a code point does depends on the tag alone. -/
def stepEffect (xhtml : Bool) (tag : Option OpenTag) (c : CodePoint) : Option Effect :=
  match tag with
  | none =>
    if c = '<' then some { tag := some {} } else if c = '>' then none else some {}
  | some tag =>
    if c = '>' then some (finishEffect xhtml tag)
    else if c = '<' then none
    else some { tag := some (tag.push c) }

theorem finish_eq_some_iff {opened : List Text} {tag : OpenTag} :
    finish xhtml opened tag = some s ↔ ∃ rest, opened = (finishEffect xhtml tag).closes ++ rest ∧
      s = ⟨(finishEffect xhtml tag).opens ++ rest, (finishEffect xhtml tag).tag⟩ := by
  unfold finish finishEffect
  split
  · rw [Option.ite_none_right_eq_some, List.head?_eq_some_iff]
    constructor
    · rintro ⟨⟨rest, rfl⟩, hs⟩
      cases hs
      exact ⟨rest, rfl, rfl⟩
    · rintro ⟨rest, rfl, rfl⟩
      exact ⟨⟨rest, rfl⟩, rfl⟩
  · split <;> simp [eq_comm]

/-- **A step acts on the top of the open elements.** -/
theorem step_eq_some_iff {c : CodePoint} :
    step xhtml s c = some s' ↔ ∃ effect rest, stepEffect xhtml s.tag c = some effect ∧
      s.opened = effect.closes ++ rest ∧ s' = ⟨effect.opens ++ rest, effect.tag⟩ := by
  obtain ⟨opened, tag⟩ := s
  have hne : ofChar '>' ≠ ofChar '<' := by decide
  unfold step stepEffect
  cases tag with
  | none =>
    by_cases hlt : c = ofChar '<'
    · simp [hlt, eq_comm]
    · by_cases hgt : c = ofChar '>'
      · simp [hgt, hne]
      · simp [hlt, hgt, eq_comm]
  | some tag =>
    by_cases hgt : c = ofChar '>'
    · simp [hgt, finish_eq_some_iff]
    · by_cases hlt : c = ofChar '<'
      · simp [hlt, hne.symm]
      · simp [hlt, hgt, eq_comm]

theorem step_above {c : CodePoint} (h : step xhtml s c = some s') (below : List Text) :
    step xhtml (s.above below) c = some (s'.above below) := by
  obtain ⟨effect, rest, heffect, hopened, rfl⟩ := step_eq_some_iff.mp h
  refine step_eq_some_iff.mpr ⟨effect, rest ++ below, heffect, ?_, ?_⟩
  · rw [above, hopened, List.append_assoc]
  · rw [above, List.append_assoc]

/-- Elements that were open before are not looked at. -/
theorem read_above {text : Text} (h : read xhtml s text = some s') (below : List Text) :
    read xhtml (s.above below) text = some (s'.above below) := by
  induction text generalizing s with
  | nil =>
    cases h
    rfl
  | cons c rest ih =>
    obtain ⟨next, hstep, hrest⟩ := Option.bind_eq_some_iff.mp h
    rw [read_cons_of_step (step_above hstep below)]
    exact ih hrest

/-! ### Reading back -/

/-- Two readers that stand in the same tag stand in the same tag behind the next code point, and the
elements that were open follow from those that are. -/
theorem eq_of_step {opened opened' : List Text} {tag : Option OpenTag} {c : CodePoint}
    (h : step xhtml ⟨opened, tag⟩ c = some s) (h' : step xhtml ⟨opened', tag⟩ c = some s') :
    s.tag = s'.tag ∧ (s.opened = s'.opened → opened = opened') := by
  obtain ⟨effect, rest, heffect, rfl, rfl⟩ := step_eq_some_iff.mp h
  obtain ⟨effect', rest', heffect', rfl, rfl⟩ := step_eq_some_iff.mp h'
  obtain rfl : effect = effect' := Option.some.inj (heffect.symm.trans heffect')
  exact ⟨rfl, fun heq => congrArg _ (List.append_cancel_left heq)⟩

/-- **Markup can be read back.** The elements that were open before it are known from those that are
open behind it. -/
theorem opened_eq_of_read {opened opened' : List Text} {tag : Option OpenTag} {text : Text}
    (h : read xhtml ⟨opened, tag⟩ text = some s) (h' : read xhtml ⟨opened', tag⟩ text = some s) :
    opened = opened' := by
  induction text generalizing opened opened' tag with
  | nil =>
    cases h
    cases h'
    rfl
  | cons c rest ih =>
    obtain ⟨⟨top, inner⟩, hstep, hrest⟩ := Option.bind_eq_some_iff.mp h
    obtain ⟨⟨top', inner'⟩, hstep', hrest'⟩ := Option.bind_eq_some_iff.mp h'
    obtain ⟨rfl, hopened⟩ : inner = inner' ∧ (top = top' → opened = opened') :=
      eq_of_step hstep hstep'
    exact hopened (ih hrest hrest')

/-! ### Reading tags -/

/-- Text without angle brackets is passed over. -/
theorem read_text {text : Text} (h : ∀ c ∈ text, c ≠ ofChar '<' ∧ c ≠ ofChar '>')
    (opened : List Text) : read xhtml ⟨opened, none⟩ text = some ⟨opened, none⟩ := by
  induction text with
  | nil => rfl
  | cons c rest ih =>
    obtain ⟨hlt, hgt⟩ := h c List.mem_cons_self
    have hstep : step xhtml ⟨opened, none⟩ c = some ⟨opened, none⟩ := by simp [step, hlt, hgt]
    rw [read_cons_of_step hstep, ih fun d hd => h d (List.mem_cons_of_mem _ hd)]

/-- What stands in a tag becomes part of it. -/
theorem read_inside {text : Text} (h : ∀ c ∈ text, c ≠ ofChar '<' ∧ c ≠ ofChar '>')
    (opened : List Text) (tag : OpenTag) :
    read xhtml ⟨opened, some tag⟩ text = some ⟨opened, some (text.foldl OpenTag.push tag)⟩ := by
  induction text generalizing tag with
  | nil => rfl
  | cons c rest ih =>
    obtain ⟨hlt, hgt⟩ := h c List.mem_cons_self
    have hstep : step xhtml ⟨opened, some tag⟩ c = some ⟨opened, some (tag.push c)⟩ := by
      simp [step, hlt, hgt]
    rw [read_cons_of_step hstep, ih fun d hd => h d (List.mem_cons_of_mem _ hd)]
    rfl

/-- A tag is read from its start to its end. -/
theorem read_tag {text : Text} (h : ∀ c ∈ text, c ≠ ofChar '<' ∧ c ≠ ofChar '>')
    (opened : List Text) (rest : Text) :
    read xhtml ⟨opened, none⟩ (ofChar '<' :: (text ++ ofChar '>' :: rest)) =
      (finish xhtml opened (text.foldl OpenTag.push {})).bind (read xhtml · rest) := by
  have hstart : step xhtml ⟨opened, none⟩ '<' = some ⟨opened, some {}⟩ := by simp [step]
  have hne : ofChar '>' ≠ ofChar '<' := by decide
  rw [read_cons_of_step hstart, read_append_of_read (read_inside h opened {})]
  simp [read, step]

end Reader

/-! ### Names and attributes -/

/-- The code points of names. -/
def isNameChar (c : CodePoint) : Bool := !c.isBlank && c ≠ '/' && c ≠ '<' && c ≠ '>'

/-- A name that a tag can be written with. -/
def IsName (name : Text) : Prop := name ≠ [] ∧ ∀ c ∈ name, isNameChar c

instance (name : Text) : Decidable (IsName name) := inferInstanceAs (Decidable (_ ∧ _))

/-- Attributes, with a blank in front of each of them. -/
structure IsAttributes (attributes : Text) : Prop where
  blank : ∀ c ∈ attributes.head?, c.isBlank
  no_brackets : ∀ c ∈ attributes, c ≠ ofChar '<' ∧ c ≠ ofChar '>'

theorem IsName.no_brackets {name : Text} (h : IsName name) :
    ∀ c ∈ name, c ≠ ofChar '<' ∧ c ≠ ofChar '>' := by
  intro c hc
  have hchar := h.2 c hc
  simp only [isNameChar, Bool.and_eq_true, decide_eq_true_eq] at hchar
  exact ⟨hchar.1.2, hchar.2⟩

theorem IsName.head?_ne_slash {name : Text} (h : IsName name) : name.head? ≠ some (ofChar '/') := by
  intro hhead
  have hchar := h.2 _ (List.mem_of_mem_head? hhead)
  exact absurd hchar (by decide)

namespace IsAttributes

theorem nil : IsAttributes [] := ⟨by simp, by simp⟩

theorem append {attributes attributes' : Text} (h : IsAttributes attributes)
    (h' : IsAttributes attributes') : IsAttributes (attributes ++ attributes') := by
  refine ⟨fun c hc => ?_, List.forall_mem_append.mpr ⟨h.no_brackets, h'.no_brackets⟩⟩
  cases attributes with
  | nil => exact h'.blank c hc
  | cons d rest => exact h.blank c hc

end IsAttributes

namespace OpenTag

theorem foldl_push_name {name : Text} (h : ∀ c ∈ name, isNameChar c) (front : Text) :
    name.foldl push { name := front } = { name := front ++ name } := by
  induction name generalizing front with
  | nil => simp
  | cons c rest ih =>
    have hc := h c List.mem_cons_self
    simp only [isNameChar, Bool.and_eq_true, Bool.not_eq_true', decide_eq_true_eq] at hc
    have hpush : push { name := front } c = { name := front ++ [c] } := by
      simp [push, hc.1.1.1, hc.1.1.2]
    rw [List.foldl_cons, hpush, ih (fun d hd => h d (List.mem_cons_of_mem _ hd))]
    simp

/-- Attributes leave the name as it is. A slash that closes the tag is a slash at their end. -/
theorem foldl_push_attributes {attributes : Text} (h : IsAttributes attributes) (name : Text) :
    attributes.foldl push { name } = ⟨name, !attributes.isEmpty,
      voidNames.contains name && attributes.getLast? = some (ofChar '/')⟩ := by
  induction attributes using List.reverseRecOn with
  | nil => simp
  | append_singleton front c ih =>
    rw [List.foldl_append, List.foldl_cons, List.foldl_nil, List.getLast?_concat]
    cases front with
    | nil =>
      have hc : c.isBlank := h.blank c rfl
      simp [push, hc]
    | cons d rest =>
      have hfront : IsAttributes (d :: rest) :=
        ⟨h.blank, fun x hx => h.no_brackets x (List.mem_append_left _ hx)⟩
      rw [ih hfront]
      simp [push]

end OpenTag

/-! ### Elements -/

/-- An element: its content between a start tag with attributes and an end tag. -/
def tagged (name attributes content : Text) : Text :=
  "<" ++ name ++ attributes ++ ">" ++ content ++ "</" ++ name ++ ">"

/-- The start tag of an element. -/
def startTag (name attributes : Text) : Text := "<" ++ name ++ attributes ++ ">"

/-- The end tag of an element. -/
def endTag (name : Text) : Text := "</" ++ name ++ ">"

theorem tagged_eq (name attributes content : Text) :
    tagged name attributes content = startTag name attributes ++ content ++ endTag name := by
  simp [tagged, startTag, endTag]

/-- The tag of a void element. -/
def voidTag (xhtml : Bool) (name attributes : Text) : Text :=
  "<" ++ name ++ attributes ++ if xhtml then Text.ofString "/>" else ">"

namespace WellNested

variable {xhtml : Bool} {text text' : Text}

/-- Well nested markup is read in any elements, and leaves them open. -/
theorem read (h : WellNested xhtml text) (opened : List Text) :
    Reader.read xhtml ⟨opened, none⟩ text = some ⟨opened, none⟩ :=
  Reader.read_above h opened

theorem append (h : WellNested xhtml text) (h' : WellNested xhtml text') :
    WellNested xhtml (text ++ text') := by
  unfold WellNested
  rw [Reader.read_append_of_read h]
  exact h'

theorem of_text (h : ∀ c ∈ text, c ≠ ofChar '<' ∧ c ≠ ofChar '>') : WellNested xhtml text :=
  Reader.read_text h []

end WellNested

namespace Reader

variable {xhtml : Bool}

theorem read_startTag {name attributes : Text} (hname : IsName name)
    (hvoid : name ∉ voidNames) (hattributes : IsAttributes attributes) (opened : List Text)
    (rest : Text) :
    read xhtml ⟨opened, none⟩ (Text.ofString "<" ++ name ++ attributes ++ Text.ofString ">" ++ rest) =
      read xhtml ⟨name :: opened, none⟩ rest := by
  have hinner : ∀ c ∈ name ++ attributes, c ≠ ofChar '<' ∧ c ≠ ofChar '>' :=
    List.forall_mem_append.mpr ⟨hname.no_brackets, hattributes.no_brackets⟩
  have htext : Text.ofString "<" ++ name ++ attributes ++ Text.ofString ">" ++ rest =
      ofChar '<' :: (name ++ attributes ++ ofChar '>' :: rest) := by
    simp [Text.ofString]
  have hfinish : finish xhtml opened ((name ++ attributes).foldl OpenTag.push {}) =
      some ⟨name :: opened, none⟩ := by
    rw [List.foldl_append, OpenTag.foldl_push_name hname.2, List.nil_append,
      OpenTag.foldl_push_attributes hattributes]
    simp [finish, hname.head?_ne_slash, hvoid]
  rw [htext, read_tag hinner, hfinish, Option.bind_some]

theorem read_endTag {name : Text} (hname : IsName name) (opened : List Text) (rest : Text) :
    read xhtml ⟨name :: opened, none⟩ (Text.ofString "</" ++ name ++ Text.ofString ">" ++ rest) =
      read xhtml ⟨opened, none⟩ rest := by
  have hinner : ∀ c ∈ ofChar '/' :: name, c ≠ ofChar '<' ∧ c ≠ ofChar '>' :=
    List.forall_mem_cons.mpr ⟨by decide, hname.no_brackets⟩
  have htext : Text.ofString "</" ++ name ++ Text.ofString ">" ++ rest =
      ofChar '<' :: (ofChar '/' :: name ++ ofChar '>' :: rest) := by
    simp [Text.ofString]
  have hslash : OpenTag.push {} '/' = { name := [ofChar '/'] } := by decide
  have hfinish : finish xhtml (name :: opened) ((ofChar '/' :: name).foldl OpenTag.push {}) =
      some ⟨opened, none⟩ := by
    rw [List.foldl_cons, hslash, OpenTag.foldl_push_name hname.2]
    simp [finish]
  rw [htext, read_tag hinner, hfinish, Option.bind_some]

theorem isName_of_mem_voidNames : ∀ name ∈ voidNames, IsName name := by decide

theorem read_voidTag {name attributes : Text} (hvoid : name ∈ voidNames)
    (hattributes : IsAttributes attributes) (hlast : attributes.getLast? ≠ some (ofChar '/'))
    (opened : List Text) :
    read xhtml ⟨opened, none⟩ (voidTag xhtml name attributes) = some ⟨opened, none⟩ := by
  have hname := isName_of_mem_voidNames name hvoid
  have hinner : ∀ c ∈ name ++ attributes, c ≠ ofChar '<' ∧ c ≠ ofChar '>' :=
    List.forall_mem_append.mpr ⟨hname.no_brackets, hattributes.no_brackets⟩
  have hread : (name ++ attributes).foldl OpenTag.push {} =
      ⟨name, !attributes.isEmpty, false⟩ := by
    rw [List.foldl_append, OpenTag.foldl_push_name hname.2, List.nil_append,
      OpenTag.foldl_push_attributes hattributes]
    simp [hlast]
  cases xhtml with
  | false =>
    have htext : voidTag false name attributes =
        ofChar '<' :: (name ++ attributes ++ ofChar '>' :: []) := by
      simp [voidTag, Text.ofString]
    rw [htext, read_tag hinner, hread]
    simp [finish, hname.head?_ne_slash, hvoid, read]
  | true =>
    have htext : voidTag true name attributes =
        ofChar '<' :: (name ++ attributes ++ [ofChar '/'] ++ ofChar '>' :: []) := by
      simp [voidTag, Text.ofString]
    have hinner' : ∀ c ∈ name ++ attributes ++ [ofChar '/'], c ≠ ofChar '<' ∧ c ≠ ofChar '>' :=
      List.forall_mem_append.mpr ⟨hinner, by decide⟩
    have hpush : OpenTag.push ⟨name, !attributes.isEmpty, false⟩ '/' = ⟨name, true, true⟩ := by
      simp [OpenTag.push, hname.1, hvoid]
    rw [htext, read_tag hinner', List.foldl_append, hread, List.foldl_cons, hpush]
    simp [finish, hname.head?_ne_slash, hvoid, read]

end Reader

namespace WellNested

variable {xhtml : Bool} {name attributes content : Text}

/-- An element is well nested if and only if its content leaves it as the innermost one. -/
theorem tagged_iff (hname : IsName name) (hvoid : name ∉ voidNames)
    (hattributes : IsAttributes attributes) :
    WellNested xhtml (Html.tagged name attributes content) ↔
      Reader.read xhtml ⟨[name], none⟩ content = some ⟨[name], none⟩ := by
  have hend : Reader.read xhtml ⟨[name], none⟩ (Text.ofString "</" ++ (name ++ Text.ofString ">")) =
      some {} := by
    have hread : Reader.read xhtml ⟨[name], none⟩
        (Text.ofString "</" ++ name ++ Text.ofString ">" ++ []) = some {} :=
      Reader.read_endTag hname [] []
    rwa [List.append_nil, List.append_assoc] at hread
  unfold WellNested Html.tagged
  rw [List.append_assoc, List.append_assoc, List.append_assoc,
    Reader.read_startTag hname hvoid hattributes]
  constructor
  · intro h
    rw [Reader.read_append] at h
    obtain ⟨⟨opened, tag⟩, hcontent, hrest⟩ := Option.bind_eq_some_iff.mp h
    cases tag with
    | some tag =>
      -- an end tag cannot begin inside another tag
      have hne : ofChar '<' ≠ ofChar '>' := by decide
      simp [Reader.read, Reader.step, Text.ofString, hne] at hrest
    | none =>
      obtain rfl : opened = [name] := Reader.opened_eq_of_read hrest hend
      exact hcontent
  · intro h
    rw [Reader.read_append_of_read h, hend]

theorem tagged (hname : IsName name) (hvoid : name ∉ voidNames)
    (hattributes : IsAttributes attributes) (hcontent : WellNested xhtml content) :
    WellNested xhtml (Html.tagged name attributes content) :=
  (tagged_iff hname hvoid hattributes).mpr (hcontent.read [name])

/-- Text behind markup makes no difference. -/
theorem append_text_iff {text tail : Text} (h : ∀ c ∈ tail, c ≠ ofChar '<' ∧ c ≠ ofChar '>') :
    WellNested xhtml (text ++ tail) ↔ WellNested xhtml text := by
  refine ⟨fun hall => ?_, fun htext => htext.append (.of_text h)⟩
  unfold WellNested at hall
  rw [Reader.read_append] at hall
  obtain ⟨⟨opened, tag⟩, htext, htail⟩ := Option.bind_eq_some_iff.mp hall
  cases tag with
  | some tag =>
    rw [Reader.read_inside h] at htail
    cases htail
  | none =>
    rw [Reader.read_text h] at htail
    rw [WellNested, htext, htail]

end WellNested

end MarkdownRender.Html
