import Mathlib.Data.List.Basic
import MarkdownRender.Proofs.Html.Nesting

/-!
# Elements that stay open

Well nested markup can be read inside any elements. A stretch of markup that is read inside some
elements is well nested by itself if it closes none of them on the way and leaves no other open
(`wellNested_iff_isInside`). To see that a stretch closes none, it is enough to look at the tags that
stand in it: whatever is open at its end was open before or has its start tag there
(`Reader.exists_kept`). So the two tags of a name that no other start tag begins with belong together
(`isInside_of_name_once`).
-/

namespace MarkdownRender.Html

open CodePoint (ofChar)

namespace Reader

variable {xhtml : Bool} {s s' t : Reader} {text rest : Text} {c : CodePoint}
  {below below' : List Text}

theorem exists_read_of_append {text' : Text} (h : read xhtml s (text ++ text') = some t) :
    ∃ s', read xhtml s text = some s' ∧ read xhtml s' text' = some t :=
  Option.bind_eq_some_iff.mp ((read_append s text text').symm.trans h)

/-! ### Elements below -/

/-- The elements `below` are open behind each part of the text that is read from `s`. -/
def Keeps (xhtml : Bool) (below : List Text) (s : Reader) (text : Text) : Prop :=
  ∀ part, part <+: text → ∀ s', read xhtml s part = some s' → below <:+ s'.opened

theorem Keeps.mono (h : Keeps xhtml below s text) (hle : below' <:+ below) :
    Keeps xhtml below' s text :=
  fun part hpart s' hread => hle.trans (h part hpart s' hread)

theorem Keeps.of_step (hstep : step xhtml s c = some s') (h : Keeps xhtml below s (c :: rest)) :
    Keeps xhtml below s' rest := by
  intro part hpart t hread
  refine h (c :: part) (List.cons_prefix_cons.mpr ⟨rfl, hpart⟩) t ?_
  rw [read_cons_of_step hstep, hread]

theorem Keeps.concat (h : Keeps xhtml below s text)
    (hread : read xhtml s (text ++ [c]) = some t) (hlast : below <:+ t.opened) :
    Keeps xhtml below s (text ++ [c]) := by
  intro part hpart s' hpart'
  rcases List.prefix_concat_iff.mp hpart with rfl | hpart
  · rw [hread] at hpart'
    cases hpart'
    exact hlast
  · exact h part hpart s' hpart'

/-- What reads the text without `below` does not reach down to it. -/
theorem keeps_above (h : read xhtml s text = some s') (below : List Text) :
    Keeps xhtml below (s.above below) text := by
  rintro part ⟨rest, rfl⟩ t hpart
  obtain ⟨next, hnext, -⟩ := exists_read_of_append h
  rw [read_above hnext below] at hpart
  cases hpart
  exact List.suffix_append _ _

/-- All that a code point can do: begin a tag, stand between tags, end a tag, or become part of
one. -/
theorem stepEffect_cases {tag : Option OpenTag} {effect : Effect}
    (h : stepEffect xhtml tag c = some effect) :
    (tag = none ∧ c = ofChar '<' ∧ effect = { tag := some {} }) ∨
      (tag = none ∧ c ≠ ofChar '<' ∧ c ≠ ofChar '>' ∧ effect = {}) ∨
      (∃ inner, tag = some inner ∧ c = ofChar '>' ∧ effect = finishEffect xhtml inner) ∨
      ∃ inner, tag = some inner ∧ c ≠ ofChar '<' ∧ c ≠ ofChar '>' ∧
        effect = { tag := some (inner.push c) } := by
  unfold stepEffect at h
  cases tag with
  | none =>
    by_cases hlt : c = ofChar '<'
    · simp_all
    · by_cases hgt : c = ofChar '>' <;> simp_all
  | some inner =>
    by_cases hgt : c = ofChar '>'
    · simp_all
    · by_cases hlt : c = ofChar '<' <;> simp_all

theorem finishEffect_cases (xhtml : Bool) (tag : OpenTag) :
    finishEffect xhtml tag = { closes := [tag.name.tail] } ∨ finishEffect xhtml tag = {} ∨
      finishEffect xhtml tag = { opens := [tag.name] } := by
  unfold finishEffect
  split
  · exact Or.inl rfl
  · split
    · exact Or.inr (Or.inl rfl)
    · exact Or.inr (Or.inr rfl)

theorem closes_or_opens_eq_nil {tag : Option OpenTag} {effect : Effect}
    (h : stepEffect xhtml tag c = some effect) : effect.closes = [] ∨ effect.opens = [] := by
  rcases stepEffect_cases h with
    ⟨-, -, rfl⟩ | ⟨-, -, -, rfl⟩ | ⟨inner, -, -, rfl⟩ | ⟨inner, -, -, -, rfl⟩
  · exact Or.inl rfl
  · exact Or.inl rfl
  · rcases finishEffect_cases xhtml inner with heffect | heffect | heffect <;> simp [heffect]
  · exact Or.inl rfl

/-- A step that leaves `below` open can do without it. -/
theorem step_below (h : step xhtml (s.above below) c = some t) (hkeep : below <:+ t.opened) :
    ∃ s', step xhtml s c = some s' ∧ t = s'.above below := by
  obtain ⟨effect, opened, heffect, hopened, rfl⟩ := step_eq_some_iff.mp h
  obtain ⟨upper, rfl⟩ : ∃ upper, opened = upper ++ below := by
    rcases closes_or_opens_eq_nil heffect with hcloses | hopens
    · rw [hcloses] at hopened
      exact ⟨s.opened, hopened.symm⟩
    · rw [hopens] at hkeep
      obtain ⟨upper, hupper⟩ := hkeep
      exact ⟨upper, hupper.symm⟩
  have hupper : s.opened = effect.closes ++ upper := by
    rw [← List.append_assoc] at hopened
    exact List.append_cancel_right hopened
  refine ⟨⟨effect.opens ++ upper, effect.tag⟩, ?_, ?_⟩
  · exact step_eq_some_iff.mpr ⟨effect, upper, heffect, hupper, rfl⟩
  · rw [above, List.append_assoc]

/-- **Markup that leaves `below` open can be read without it.** -/
theorem read_below (h : read xhtml (s.above below) text = some t)
    (hkeeps : Keeps xhtml below (s.above below) text) :
    ∃ s', read xhtml s text = some s' ∧ t = s'.above below := by
  induction text generalizing s with
  | nil =>
    cases h
    exact ⟨s, rfl, rfl⟩
  | cons c rest ih =>
    obtain ⟨next, hstep, hrest⟩ := Option.bind_eq_some_iff.mp h
    have hone : read xhtml (s.above below) [c] = some next := by
      rw [read_cons_of_step hstep]
      rfl
    have hnext : below <:+ next.opened :=
      hkeeps [c] (List.cons_prefix_cons.mpr ⟨rfl, List.nil_prefix⟩) next hone
    obtain ⟨s₁, hstep₁, rfl⟩ := step_below hstep hnext
    obtain ⟨s', hread, ht⟩ := ih hrest (hkeeps.of_step hstep)
    exact ⟨s', by rw [read_cons_of_step hstep₁, hread], ht⟩

end Reader

/-! ### Stretches inside elements -/

/-- The elements that are open behind `front` stay open all through `inside`, and at its end no
other is open. -/
structure IsInside (xhtml : Bool) (front inside : Text) : Prop where
  keeps : ∀ s, Reader.read xhtml {} front = some s → Reader.Keeps xhtml s.opened s inside
  same : Reader.read xhtml {} (front ++ inside) = Reader.read xhtml {} front

theorem wellNested_iff_isInside {xhtml : Bool} {front inside : Text} {opened : List Text}
    (hfront : Reader.read xhtml {} front = some ⟨opened, none⟩) :
    WellNested xhtml inside ↔ IsInside xhtml front inside := by
  constructor
  · intro h
    refine ⟨fun s hs => ?_, ?_⟩
    · obtain rfl : ⟨opened, none⟩ = s := Option.some.inj (hfront.symm.trans hs)
      exact Reader.keeps_above h opened
    · rw [Reader.read_append_of_read hfront, h.read opened, hfront]
  · rintro ⟨hkeeps, hsame⟩
    rw [Reader.read_append_of_read hfront, hfront] at hsame
    have habove : Reader.read xhtml (Reader.above {} opened) inside = some ⟨opened, none⟩ := hsame
    obtain ⟨⟨opened', tag⟩, hread, hend⟩ := Reader.read_below habove (hkeeps _ hfront)
    obtain ⟨hopened, rfl⟩ := Reader.mk.inj hend
    obtain rfl : opened' = [] := List.append_cancel_right hopened.symm
    exact hread

/-! ### Start tags -/

/-- A start tag begins in the text whose name is `name` or goes on from it. -/
def HasStart (name text : Text) : Prop := ofChar '<' :: name <:+: text

theorem HasStart.append {name text : Text} (h : HasStart name text) (rest : Text) :
    HasStart name (text ++ rest) :=
  h.trans (List.prefix_append text rest).isInfix

theorem OpenTag.push_cases (tag : OpenTag) (c : CodePoint) :
    (tag.push c).name = tag.name ∧ (tag.push c).named = true ∨
      (tag.push c).name = tag.name ++ [c] ∧ tag.named = false := by
  unfold push
  split
  · exact Or.inl ⟨rfl, rfl⟩
  · next h => exact Or.inr ⟨rfl, by simp_all⟩

theorem OpenTag.name_prefix_foldl_push (text : Text) (tag : OpenTag) :
    tag.name <+: (text.foldl push tag).name := by
  induction text generalizing tag with
  | nil => exact List.prefix_rfl
  | cons c rest ih =>
    refine List.IsPrefix.trans ?_ (ih (tag.push c))
    rcases tag.push_cases c with ⟨hname, -⟩ | ⟨hname, -⟩
    · exact hname ▸ List.prefix_rfl
    · exact hname ▸ List.prefix_append tag.name [c]

namespace Reader

variable {xhtml : Bool} {s s' t : Reader} {text : Text} {c : CodePoint} {tag : OpenTag}
  {inner : Option OpenTag} {effect : Effect}

/-- A tag that is not read to its end begins here or was begun before. -/
theorem tag_of_stepEffect (h : stepEffect xhtml inner c = some effect)
    (htag : effect.tag = some tag) :
    (c = ofChar '<' ∧ tag = {}) ∨
      ∃ before, inner = some before ∧ c ≠ ofChar '>' ∧ tag = before.push c := by
  rcases stepEffect_cases h with
    ⟨-, rfl, rfl⟩ | ⟨-, -, -, rfl⟩ | ⟨before, -, -, rfl⟩ | ⟨before, rfl, -, hgt, rfl⟩
  · exact Or.inl ⟨rfl, (Option.some.inj htag).symm⟩
  · cases htag
  · rcases finishEffect_cases xhtml before with heffect | heffect | heffect <;> simp [heffect] at htag
  · exact Or.inr ⟨before, rfl, hgt, (Option.some.inj htag).symm⟩

/-- An element is opened by the end of its start tag. -/
theorem opens_of_stepEffect {name : Text} (h : stepEffect xhtml inner c = some effect)
    (hname : name ∈ effect.opens) : ∃ tag, inner = some tag ∧ tag.name = name := by
  rcases stepEffect_cases h with
    ⟨-, -, rfl⟩ | ⟨-, -, -, rfl⟩ | ⟨tag, rfl, -, rfl⟩ | ⟨tag, -, -, -, rfl⟩
  · cases hname
  · cases hname
  · rcases finishEffect_cases xhtml tag with heffect | heffect | heffect <;>
      simp [heffect] at hname
    exact ⟨tag, rfl, hname.symm⟩
  · cases hname

/-- A tag that is not read to its end stands in the text, and at its end if its name has not
ended. -/
theorem hasStart_of_tag (h : read xhtml s text = some s') (hs : s.tag = none)
    (htag : s'.tag = some tag) :
    HasStart tag.name text ∧ (tag.named = false → ofChar '<' :: tag.name <:+ text) := by
  induction text using List.reverseRecOn generalizing s' tag with
  | nil =>
    cases h
    rw [hs] at htag
    cases htag
  | append_singleton front c ih =>
    obtain ⟨⟨opened, inner⟩, hfront, hlast⟩ := exists_read_of_append h
    have hstep : step xhtml ⟨opened, inner⟩ c = some s' := by simpa [read] using hlast
    obtain ⟨effect, rest, heffect, -, rfl⟩ := step_eq_some_iff.mp hstep
    rcases tag_of_stepEffect heffect htag with ⟨rfl, rfl⟩ | ⟨before, rfl, -, rfl⟩
    · have hsuffix : [ofChar '<'] <:+ front ++ [ofChar '<'] := List.suffix_append front _
      exact ⟨hsuffix.isInfix, fun _ => hsuffix⟩
    · obtain ⟨hwithin, hsuffix⟩ := ih hfront rfl
      rcases before.push_cases c with ⟨hname, hnamed⟩ | ⟨hname, hnamed⟩
      · rw [hname, hnamed]
        exact ⟨hwithin.append [c], fun h => by cases h⟩
      · have hlonger : ofChar '<' :: (before.name ++ [c]) <:+ front ++ [c] := by
          rw [← List.cons_append]
          exact (List.suffix_append_inj_of_length_eq rfl).mpr ⟨hsuffix hnamed, rfl⟩
        rw [hname]
        exact ⟨hlonger.isInfix, fun _ => hlonger⟩

/-- **Where open elements come from.** Behind a text, some of the elements that were open are open
still, those that were open all the time, and above them stand elements whose start tags are in the
text. -/
theorem exists_kept (h : read xhtml s text = some s') (hs : s.tag = none) :
    ∃ upper kept, s'.opened = upper ++ kept ∧ kept <:+ s.opened ∧ Keeps xhtml kept s text ∧
      ∀ name ∈ upper, HasStart name text := by
  induction text using List.reverseRecOn generalizing s' with
  | nil =>
    cases h
    refine ⟨[], s.opened, rfl, List.suffix_rfl, ?_, by simp⟩
    intro part hpart s' hread
    obtain rfl := List.prefix_nil.mp hpart
    cases hread
    exact List.suffix_rfl
  | append_singleton front c ih =>
    obtain ⟨⟨opened, inner⟩, hfront, hlast⟩ := exists_read_of_append h
    have hstep : step xhtml ⟨opened, inner⟩ c = some s' := by simpa [read] using hlast
    obtain ⟨upper, kept, hopened, hkept, hkeeps, hupper⟩ := ih hfront
    obtain ⟨effect, rest, heffect, hrest, rfl⟩ := step_eq_some_iff.mp hstep
    have hopens : ∀ name ∈ effect.opens, HasStart name (front ++ [c]) := by
      intro name hname
      obtain ⟨tag, rfl, rfl⟩ := opens_of_stepEffect heffect hname
      exact (hasStart_of_tag hfront hs rfl).1.append [c]
    rcases List.append_eq_append_iff.mp (hrest.symm.trans hopened) with
      ⟨left, rfl, rfl⟩ | ⟨closed, hcloses, rfl⟩
    · -- what is closed was opened in the text
      refine ⟨effect.opens ++ left, kept, by simp, hkept, ?_, ?_⟩
      · exact hkeeps.concat h ⟨effect.opens ++ left, by simp⟩
      · refine List.forall_mem_append.mpr ⟨hopens, fun name hname => ?_⟩
        exact (hupper name (List.mem_append_right _ hname)).append [c]
    · -- an element is closed that was open before
      have hrest : rest <:+ closed ++ rest := List.suffix_append closed rest
      refine ⟨effect.opens, rest, rfl, hrest.trans hkept, ?_, hopens⟩
      exact (hkeeps.mono hrest).concat h (List.suffix_append effect.opens rest)

/-! ### Whole tags -/

theorem tag_eq_none_of_read {rest : Text} (h : read xhtml s (ofChar '<' :: rest) = some t) :
    s.tag = none := by
  have hne : ofChar '<' ≠ ofChar '>' := by decide
  obtain ⟨next, hstep, -⟩ := Option.bind_eq_some_iff.mp h
  obtain ⟨effect, -, heffect, -, -⟩ := step_eq_some_iff.mp hstep
  rcases stepEffect_cases heffect with
    ⟨htag, -⟩ | ⟨htag, -⟩ | ⟨-, -, hgt, -⟩ | ⟨-, -, hlt, -⟩
  · exact htag
  · exact htag
  · exact absurd hgt hne
  · exact absurd rfl hlt

theorem tag_eq_none_of_read_concat (h : read xhtml s (text ++ [ofChar '>']) = some t) :
    t.tag = none := by
  obtain ⟨next, -, hlast⟩ := exists_read_of_append h
  have hstep : step xhtml next '>' = some t := by simpa [read] using hlast
  obtain ⟨effect, -, heffect, -, rfl⟩ := step_eq_some_iff.mp hstep
  refine Option.eq_none_iff_forall_ne_some.mpr fun tag htag => ?_
  rcases tag_of_stepEffect heffect htag with ⟨hlt, -⟩ | ⟨-, -, hgt, -⟩
  · exact absurd hlt (by decide)
  · exact hgt rfl

/-- What stands in a tag has become part of it. -/
theorem eq_of_read_inside {opened : List Text} (h : read xhtml ⟨opened, some tag⟩ text = some s)
    (htext : ofChar '>' ∉ text) : s = ⟨opened, some (text.foldl OpenTag.push tag)⟩ := by
  induction text generalizing tag with
  | nil => exact (Option.some.inj h).symm
  | cons c rest ih =>
    obtain ⟨hc, hrest⟩ := not_or.mp (List.mem_cons.not.mp htext)
    obtain ⟨next, hstep, hread⟩ := Option.bind_eq_some_iff.mp h
    obtain ⟨effect, opened', heffect, hopened, rfl⟩ := step_eq_some_iff.mp hstep
    rcases stepEffect_cases heffect with
      ⟨hnone, -⟩ | ⟨hnone, -⟩ | ⟨-, -, hgt, -⟩ | ⟨before, hbefore, -, -, rfl⟩
    · cases hnone
    · cases hnone
    · exact absurd hgt.symm hc
    · cases hbefore
      obtain rfl : opened = opened' := hopened
      exact ih hread hrest

/-- A tag that is read comes to its end. -/
theorem exists_finish_of_read {opened : List Text} {rest : Text} (htext : ofChar '>' ∉ text)
    (h : read xhtml ⟨opened, none⟩ (ofChar '<' :: (text ++ ofChar '>' :: rest)) = some t) :
    ∃ s, finish xhtml opened (text.foldl OpenTag.push {}) = some s ∧ read xhtml s rest = some t := by
  have hstart : step xhtml ⟨opened, none⟩ '<' = some ⟨opened, some {}⟩ := by simp [step]
  rw [read_cons_of_step hstart] at h
  obtain ⟨next, hinside, hend⟩ := exists_read_of_append h
  obtain rfl := eq_of_read_inside hinside htext
  obtain ⟨s, hstep, hrest⟩ := Option.bind_eq_some_iff.mp hend
  exact ⟨s, by simpa [step] using hstep, hrest⟩

theorem exists_opened_of_startTag {name attributes : Text} {opened : List Text}
    (hname : IsName name) (hvoid : ∀ void ∈ voidNames, ¬ name <+: void)
    (hattributes : ofChar '>' ∉ attributes)
    (h : read xhtml ⟨opened, none⟩ (startTag name attributes) = some s) :
    ∃ full, name <+: full ∧ s = ⟨full :: opened, none⟩ := by
  have hbracket : ofChar '>' ∉ name ++ attributes := by
    intro hmem
    rcases List.mem_append.mp hmem with hmem | hmem
    · exact (hname.no_brackets _ hmem).2 rfl
    · exact hattributes hmem
  have htag : startTag name attributes = ofChar '<' :: (name ++ attributes ++ ofChar '>' :: []) := by
    simp [startTag, Text.ofString]
  rw [htag] at h
  obtain ⟨s', hfinish, hread⟩ := exists_finish_of_read hbracket h
  obtain rfl : s' = s := Option.some.inj hread
  have hpush : (name ++ attributes).foldl OpenTag.push {} =
      attributes.foldl OpenTag.push { name := name } := by
    rw [List.foldl_append, OpenTag.foldl_push_name hname.2, List.nil_append]
  have hstarts : name <+: (attributes.foldl OpenTag.push { name := name }).name :=
    OpenTag.name_prefix_foldl_push attributes { name := name }
  rw [hpush] at hfinish
  generalize attributes.foldl OpenTag.push { name := name } = tag at hfinish hstarts
  refine ⟨tag.name, hstarts, ?_⟩
  have hslash : tag.name.head? ≠ some (ofChar '/') := by
    obtain ⟨rest, hrest⟩ := hstarts
    rw [← hrest, List.head?_append_of_ne_nil _ hname.1]
    exact hname.head?_ne_slash
  have hmem : tag.name ∉ voidNames := fun hmem => hvoid _ hmem hstarts
  simpa [finish, hslash, hmem, eq_comm] using hfinish

theorem exists_opened_of_endTag {name rest : Text} {opened : List Text} (hname : IsName name)
    (h : read xhtml ⟨opened, none⟩ (endTag name ++ rest) = some s) :
    ∃ below, opened = name :: below := by
  have hbracket : ofChar '>' ∉ ofChar '/' :: name := by
    have hne : ofChar '>' ≠ ofChar '/' := by decide
    exact List.not_mem_cons_of_ne_of_not_mem hne fun hmem => (hname.no_brackets _ hmem).2 rfl
  have htag : endTag name ++ rest = ofChar '<' :: (ofChar '/' :: name ++ ofChar '>' :: rest) := by
    simp [endTag, Text.ofString]
  have hslash : OpenTag.push {} '/' = { name := [ofChar '/'] } := by decide
  rw [htag] at h
  obtain ⟨s', hfinish, -⟩ := exists_finish_of_read hbracket h
  rw [List.foldl_cons, hslash, OpenTag.foldl_push_name hname.2] at hfinish
  have hhead : opened.head? = some name := by
    by_contra hne
    simp [finish, hne] at hfinish
  exact List.head?_eq_some_iff.mp hhead

end Reader

section Once

variable {xhtml : Bool} {name attributes before inside after : Text}

/-- **Tags of one element.** Where no other start tag begins with the name, a start tag and an end
tag behind it belong together. -/
theorem isInside_of_name_once (hname : IsName name) (hvoid : ∀ void ∈ voidNames, ¬ name <+: void)
    (hattributes : ofChar '>' ∉ attributes)
    (h : WellNested xhtml
      (before ++ startTag name attributes ++ inside ++ (endTag name ++ after)))
    (hbefore : ¬ HasStart name before) (hinside : ¬ HasStart name inside) :
    IsInside xhtml (before ++ startTag name attributes) inside := by
  obtain ⟨⟨opened', tag'⟩, hread, hend⟩ := Reader.exists_read_of_append h
  obtain ⟨s, hfront, hcontent⟩ := Reader.exists_read_of_append hread
  obtain ⟨⟨opened, tag⟩, hlead, hstart⟩ := Reader.exists_read_of_append hfront
  obtain rfl : tag = none := Reader.tag_eq_none_of_read hstart
  obtain rfl : tag' = none := Reader.tag_eq_none_of_read hend
  obtain ⟨full, -, rfl⟩ := Reader.exists_opened_of_startTag hname hvoid hattributes hstart
  obtain ⟨below, rfl⟩ := Reader.exists_opened_of_endTag hname hend
  -- nothing named so is opened in the content, so it is one of those that were open before it
  obtain ⟨upper, kept, hopened, hkept, hkeeps, hupper⟩ := Reader.exists_kept hcontent rfl
  obtain rfl : upper = [] := by
    cases upper with
    | nil => rfl
    | cons first others =>
      obtain rfl : name = first := (List.cons.inj hopened).1
      exact absurd (hupper name List.mem_cons_self) hinside
  obtain rfl : name :: below = kept := hopened
  have hall : name :: below = full :: opened := by
    rcases List.suffix_cons_iff.mp hkept with heq | hsuffix
    · exact heq
    · obtain ⟨upper', kept', hopened', hkept', -, hupper'⟩ := Reader.exists_kept hlead rfl
      obtain rfl : kept' = [] := List.suffix_nil.mp hkept'
      obtain rfl : opened = upper' := hopened'.trans (List.append_nil upper')
      exact absurd (hupper' name (hsuffix.subset List.mem_cons_self)) hbefore
  rw [hall] at hkeeps hread
  refine ⟨fun s hs => ?_, ?_⟩
  · obtain rfl : ⟨full :: opened, none⟩ = s := Option.some.inj (hfront.symm.trans hs)
    exact hkeeps
  · rw [hread, hfront]

end Once

end MarkdownRender.Html
