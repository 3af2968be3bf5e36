import Mathlib.Data.List.Chain
import MarkdownRender.Proofs.Heading.Markers

/-!
# Ends of void tags

Output that depends on nothing but how void tags end is a `Form` that has been filled in: a text
with a gap at the end of each void tag. Two ways to fill in a form can be told apart only at its
gaps. So that one of them can be turned into the other by replacing `/>`, no slash may stand in
front of a gap or of a closing bracket. This alone is not kept when markers are removed: what stands
before a marker and what stands behind it become neighbours. It is kept if no closing brace stands
there either (`IsTidy`), because a marker ends with a closing brace, and what stands behind it
therefore begins neither with a gap nor with a closing bracket.
-/

namespace MarkdownRender

open CodePoint (ofChar)

namespace Text

/-- A mark becomes `out`. -/
def replacement (mark out : Text) : Rule := fun c rest =>
  if startsWith (c :: rest) mark then some (out, mark.length - 1) else none

/-- Replaces a mark, from left to right, wherever it stands. -/
def replaceAll (mark out text : Text) : Text := text.substitute (replacement mark out)

/-- A code point that occurs in a list has a last occurrence in it. -/
theorem exists_last_of_mem {α : Type} [DecidableEq α] {a : α} {items : List α} (h : a ∈ items) :
    ∃ front back, items = front ++ a :: back ∧ a ∉ back := by
  obtain ⟨back, front, hsplit, hback⟩ := List.eq_append_cons_of_mem (List.mem_reverse.mpr h)
  refine ⟨front.reverse, back.reverse, ?_, by simpa using hback⟩
  rw [← List.reverse_reverse items, hsplit]
  simp

end Text

namespace Html

/-- A text with gaps in it. -/
abbrev Form := List (Option CodePoint)

/-- How the tag of a void element ends. -/
def voidTagEnd (xhtml : Bool) : Text := if xhtml then "/>" else ">"

namespace Form

/-- The form of a text, without gaps. -/
def ofText (text : Text) : Form := text.map some

/-- A form with the ends of void tags in its gaps. -/
def fill (xhtml : Bool) : Form → Text
  | [] => []
  | none :: form => voidTagEnd xhtml ++ fill xhtml form
  | some c :: form => c :: fill xhtml form

variable {xhtml : Bool} {form form' : Form}

@[simp] theorem fill_append (form form' : Form) :
    fill xhtml (form ++ form') = fill xhtml form ++ fill xhtml form' := by
  induction form with
  | nil => rfl
  | cons item form ih => cases item <;> simp [fill, ih]

@[simp] theorem fill_ofText (text : Text) : fill xhtml (ofText text) = text := by
  induction text with
  | nil => rfl
  | cons c rest ih => exact congrArg (c :: ·) ih

theorem fill_ne_nil (h : form ≠ []) : fill xhtml form ≠ [] := by
  obtain ⟨item, form, rfl⟩ := List.exists_cons_of_ne_nil h
  cases item
  · cases xhtml <;> exact List.cons_ne_nil _ _
  · exact List.cons_ne_nil _ _

/-- What is not part of the end of a tag stands in the form. -/
theorem mem_fill_iff {c : CodePoint} (hc : c ≠ ofChar '/' ∧ c ≠ ofChar '>') :
    c ∈ fill xhtml form ↔ some c ∈ form := by
  have hend : c ∉ voidTagEnd xhtml := by
    cases xhtml <;> simp [voidTagEnd, Text.ofString, hc.1, hc.2]
  induction form with
  | nil => simp [fill]
  | cons item form ih => cases item <;> simp [fill, ih, hend]

/-- A form is cut at a newline wherever its text is. -/
theorem takeWhile_fill (xhtml : Bool) (form : Form) :
    (fill xhtml form).takeWhile (· ≠ ofChar '\n') =
      fill xhtml (form.takeWhile (· ≠ some (ofChar '\n'))) := by
  have hend : ∀ d ∈ voidTagEnd xhtml, decide (d ≠ ofChar '\n') := by cases xhtml <;> decide
  induction form with
  | nil => rfl
  | cons item form ih =>
    cases item with
    | none =>
      rw [fill, List.takeWhile_append_of_pos hend, ih, List.takeWhile_cons_of_pos (by simp), fill]
    | some c =>
      by_cases hc : c = ofChar '\n'
      · simp [fill, hc]
      · rw [fill, List.takeWhile_cons_of_pos (by simpa using hc), ih,
          List.takeWhile_cons_of_pos (by simpa using hc), fill]

/-! ### Tidy forms -/

/-- A tag may end behind anything but a slash and a closing brace. -/
def MayFollow (before item : Option CodePoint) : Prop :=
  item = none ∨ item = some (ofChar '>') →
    before ≠ some (ofChar '/') ∧ before ≠ some (ofChar '\x7d')

/-- No tag ends where the form begins, behind a slash or behind a closing brace. -/
def IsTidy (form : Form) : Prop := (some (ofChar '\x7d') :: form).IsChain MayFollow

/-- The beginning of a tidy form may stand behind anything. -/
theorem IsTidy.behind (h : form.IsTidy) (before : Option CodePoint) :
    (before :: form).IsChain MayFollow := by
  refine List.IsChain.imp_head (fun {item} hitem hend => ?_) h
  exact absurd rfl (hitem hend).2

theorem IsTidy.append (h : form.IsTidy) (h' : form'.IsTidy) : IsTidy (form ++ form') := by
  refine List.isChain_append.mpr ⟨h, List.isChain_of_isChain_cons h', ?_⟩
  intro last _ first hfirst
  exact (h'.behind last).rel_head? hfirst

theorem isTidy_ofText {text : Text} (h : ofChar '>' ∉ text) : IsTidy (ofText text) := by
  have hany : ∀ before : Option CodePoint, (before :: ofText text).IsChain MayFollow := by
    induction text with
    | nil => exact fun before => List.isChain_singleton before
    | cons c rest ih =>
      intro before
      obtain ⟨hc, hrest⟩ := not_or.mp (List.mem_cons.not.mp h)
      refine List.isChain_cons_cons.mpr ⟨fun hend => ?_, ih hrest (some c)⟩
      rcases hend with hgap | hbracket
      · cases hgap
      · exact absurd (Option.some.inj hbracket).symm hc
  exact hany _

/-- The code points that a tag cannot end behind, and the one that it ends with. -/
def tagMarks : Text := "/>\x7d"

/-- A tag may end behind anything else. -/
theorem IsTidy.append_tagEnd (h : form.IsTidy) {last : CodePoint} (hlast : last ∉ tagMarks)
    (item : Option CodePoint) : IsTidy (form ++ [some last, item]) := by
  have hmarks : tagMarks = [ofChar '/', ofChar '>', ofChar '\x7d'] := rfl
  simp only [hmarks, List.mem_cons, List.not_mem_nil, or_false, not_or] at hlast
  obtain ⟨hslash, hbracket, hbrace⟩ := hlast
  have hend : IsTidy [some last, item] := by
    refine List.isChain_cons_cons.mpr ⟨fun hlast => ?_, List.isChain_cons_cons.mpr ⟨fun _ => ?_,
      List.isChain_singleton item⟩⟩
    · rcases hlast with hgap | hlast
      · cases hgap
      · exact absurd (Option.some.inj hlast) hbracket
    · exact ⟨fun heq => hslash (Option.some.inj heq), fun heq => hbrace (Option.some.inj heq)⟩
  exact h.append hend

/-! ### From one way to the other -/

/-- Tags of a tidy form that do not end with a slash have none in front of their ends. -/
theorem IsTidy.not_infix (h : form.IsTidy) :
    ¬ Text.ofString "/>" <:+: fill false form := by
  have hchain := List.isChain_of_isChain_cons h
  clear h
  induction form with
  | nil => decide
  | cons item form ih =>
    have hrest := ih (List.isChain_of_isChain_cons hchain)
    have hfirst : fill false (item :: form) = (item.getD (ofChar '>')) :: fill false form := by
      cases item <;> rfl
    rw [hfirst, List.infix_cons_iff, not_or]
    refine ⟨fun hstarts => ?_, hrest⟩
    obtain ⟨hslash, hstarts⟩ := List.cons_prefix_cons.mp hstarts
    have hitem : item = some (ofChar '/') := by
      cases item with
      | none => exact absurd hslash (by decide)
      | some c => exact congrArg some hslash.symm
    cases form with
    | nil => exact absurd hstarts (by decide)
    | cons next form =>
      have hnext : next = none ∨ next = some (ofChar '>') := by
        cases next with
        | none => exact Or.inl rfl
        | some d => exact Or.inr (congrArg some (List.cons_prefix_cons.mp hstarts).1.symm)
      exact (hchain.rel_head? rfl hnext).1 hitem

/-- **The slashes of a tidy form are found again**: where `/>` is replaced by `>`, nothing but the
ends of void tags is changed. -/
theorem IsTidy.replaceAll_fill (h : form.IsTidy) :
    Text.replaceAll "/>" ">" (fill true form) = fill false form := by
  have hchain := List.isChain_of_isChain_cons h
  clear h
  induction form with
  | nil => rfl
  | cons item form ih =>
    have hrest := ih (List.isChain_of_isChain_cons hchain)
    cases item with
    | none =>
      have hrule : Text.replacement "/>" ">" '/' (ofChar '>' :: fill true form) =
          some (Text.ofString ">", 1) := rfl
      have hgap : fill false (none :: form) = Text.ofString ">" ++ fill false form := rfl
      rw [hgap, ← hrest]
      exact Text.substitute_cons_of_some hrule
    | some c =>
      rw [fill, fill, ← hrest]
      refine Text.substitute_cons_of_none (if_neg fun hstarts => ?_)
      have hprefix : Text.ofString "/>" <+: c :: fill true form := Text.startsWith_iff.mp hstarts
      obtain ⟨hslash, hclosing⟩ := List.cons_prefix_cons.mp hprefix
      obtain rfl : ofChar '/' = c := hslash
      cases form with
      | nil => exact absurd hclosing (by decide)
      | cons next form =>
        cases next with
        | none => exact (hchain.rel_head? rfl (Or.inl rfl)).1 rfl
        | some d =>
          have hd : ofChar '>' = d := (List.cons_prefix_cons.mp hclosing).1
          exact (hchain.rel_head? rfl (Or.inr (congrArg some hd.symm))).1 rfl

/-! ### Markers in forms -/

/-- A marker can begin at `c`: an opening stands there, and behind it on the line a closing brace
with something in front. -/
def BeginsMarker (c : CodePoint) (form : Form) : Prop :=
  c = ofChar '\x7b' ∧ ∃ body, form = some (ofChar '#') :: body ∧
    some (ofChar '\x7d') ∈ (body.takeWhile (· ≠ some (ofChar '\n'))).tail

theorem mem_tail_of_mem_tail_fill (xhtml : Bool) {c : CodePoint}
    (hc : c ≠ ofChar '/' ∧ c ≠ ofChar '>') (h : c ∈ (fill xhtml form).tail) :
    some c ∈ form.tail := by
  cases form with
  | nil => cases h
  | cons item form =>
    have hmem : c ∈ fill xhtml form := by
      cases item with
      | none =>
        have hend : c ∉ (voidTagEnd xhtml).tail := by
          cases xhtml <;> simp [voidTagEnd, Text.ofString, hc.2]
        have hne : voidTagEnd xhtml ≠ [] := by cases xhtml <;> decide
        rw [fill, List.tail_append_of_ne_nil hne] at h
        exact (List.mem_append.mp h).resolve_left hend
      | some d => exact h
    exact (mem_fill_iff hc).mp hmem

theorem head?_fill_eq_numberSign (h : (fill xhtml form).head? = some (ofChar '#')) :
    ∃ body, form = some (ofChar '#') :: body := by
  have hend : ∀ rest, (voidTagEnd xhtml ++ rest).head? ≠ some (ofChar '#') := by
    cases xhtml <;> exact fun rest => by simp [voidTagEnd, Text.ofString]; decide
  cases form with
  | nil => cases h
  | cons item body =>
    cases item with
    | none => exact absurd h (hend _)
    | some d =>
      obtain rfl := Option.some.inj h
      exact ⟨body, rfl⟩

theorem beginsMarker_of_markerAt? {c : CodePoint} {token : Text}
    (h : Heading.markerAt? c (fill xhtml form) = some token) : BeginsMarker c form := by
  obtain ⟨back, heq, htoken⟩ := Heading.markerAt?_eq_some_iff.mp h
  rw [Heading.marker_append] at heq
  obtain ⟨rfl, hform⟩ := List.cons.inj heq
  obtain ⟨body, rfl⟩ := head?_fill_eq_numberSign (by rw [hform]; rfl)
  have hbody : fill xhtml body = token ++ ofChar '\x7d' :: back := (List.cons.inj hform).2
  have hline := takeWhile_fill xhtml body
  rw [hbody, Heading.takeWhile_token htoken.one_line] at hline
  refine ⟨rfl, body, rfl, mem_tail_of_mem_tail_fill xhtml (by decide) ?_⟩
  rw [← hline, List.tail_append_of_ne_nil htoken.ne_nil]
  simp

/-- The first line of a form. -/
theorem exists_line (form : Form) :
    ∃ line rest : Form, form = line ++ rest ∧ form.takeWhile (· ≠ some (ofChar '\n')) = line ∧
      some (ofChar '\n') ∉ line ∧ rest.takeWhile (· ≠ some (ofChar '\n')) = [] := by
  have hline : ∀ item ∈ form.takeWhile (· ≠ some (ofChar '\n')),
      decide (item ≠ some (ofChar '\n')) = true := fun _ => List.mem_takeWhile_imp
  refine ⟨_, form.dropWhile (· ≠ some (ofChar '\n')), List.takeWhile_append_dropWhile.symm, rfl,
    fun hmem => by simpa using hline _ hmem, ?_⟩
  have hwhole : form.takeWhile (· ≠ some (ofChar '\n')) ++
      (form.dropWhile (· ≠ some (ofChar '\n'))).takeWhile (· ≠ some (ofChar '\n')) =
        form.takeWhile (· ≠ some (ofChar '\n')) := by
    rw [← List.takeWhile_append_of_pos hline, List.takeWhile_append_dropWhile]
  exact List.append_cancel_left (hwhole.trans (List.append_nil _).symm)

/-- A marker that can begin does, and it is the same stretch of the form whatever stands in the
gaps. -/
theorem BeginsMarker.exists_token {c : CodePoint} (h : BeginsMarker c form) :
    ∃ token back : Form, form = some (ofChar '#') :: (token ++ some (ofChar '\x7d') :: back) ∧
      ∀ xhtml, Heading.IsToken (fill xhtml token) (fill xhtml back) := by
  obtain ⟨-, body, rfl, hmem⟩ := h
  obtain ⟨line, rest, rfl, hline, hnewline, hrest⟩ := exists_line body
  rw [hline] at hmem
  cases line with
  | nil => cases hmem
  | cons first line =>
    obtain ⟨front, after, rfl, hafter⟩ := Text.exists_last_of_mem hmem
    simp only [List.mem_cons, List.mem_append, not_or] at hnewline
    obtain ⟨hfirst, hfront, -, hbehind⟩ := hnewline
    refine ⟨first :: front, after ++ rest, by simp, fun xhtml => ⟨?_, ?_, ?_⟩⟩
    · exact fill_ne_nil (List.cons_ne_nil _ _)
    · rw [mem_fill_iff (by decide)]
      simp [hfirst, hfront]
    · have hpos : ∀ item ∈ after, decide (item ≠ some (ofChar '\n')) = true := by
        rintro item hitem
        exact decide_eq_true fun heq => hbehind (heq ▸ hitem)
      rw [takeWhile_fill, mem_fill_iff (by decide), List.takeWhile_append_of_pos hpos, hrest,
        List.append_nil]
      exact hafter

theorem markerAt?_eq_none_of_ne {c : CodePoint} (hc : c ≠ ofChar '\x7b') (rest : Text) :
    Heading.markerAt? c rest = none := by
  simp [Heading.markerAt?, hc]

theorem stripMarkers_voidTagEnd (xhtml : Bool) (rest : Text) :
    Heading.stripMarkers (voidTagEnd xhtml ++ rest) =
      voidTagEnd xhtml ++ Heading.stripMarkers rest := by
  have hbracket (rest : Text) : Heading.markerAt? '>' rest = none :=
    markerAt?_eq_none_of_ne (by decide) rest
  have hslash (rest : Text) : Heading.markerAt? '/' rest = none :=
    markerAt?_eq_none_of_ne (by decide) rest
  cases xhtml with
  | false => exact Heading.stripMarkers_cons (hbracket rest)
  | true =>
    have hboth := Heading.stripMarkers_cons (hslash (ofChar '>' :: rest))
    rw [Heading.stripMarkers_cons (hbracket rest)] at hboth
    exact hboth

/-- **The same markers are removed whatever stands in the gaps**, and what is left of a tidy form is
tidy. -/
theorem exists_stripMarkers_fill (form : Form) :
    ∃ left : Form, (∀ xhtml, Heading.stripMarkers (fill xhtml form) = fill xhtml left) ∧
      ∀ before : Option CodePoint, (before :: form).IsChain MayFollow →
        (before :: left).IsChain MayFollow := by
  induction hlen : form.length using Nat.strongRecOn generalizing form with
  | ind n ih =>
    subst hlen
    cases form with
    | nil => exact ⟨[], fun _ => rfl, fun before _ => List.isChain_singleton before⟩
    | cons item form =>
      obtain ⟨left, hleft, htidy⟩ := ih form.length (by simp) form rfl
      -- an item that is kept
      have hkeep : (∀ xhtml, Heading.stripMarkers (fill xhtml (item :: form)) =
          fill xhtml (item :: left)) → ∃ left : Form,
          (∀ xhtml, Heading.stripMarkers (fill xhtml (item :: form)) = fill xhtml left) ∧
            ∀ before : Option CodePoint, (before :: item :: form).IsChain MayFollow →
              (before :: left).IsChain MayFollow := by
        refine fun hstrip => ⟨item :: left, hstrip, fun before hchain => ?_⟩
        obtain ⟨hitem, hrest⟩ := List.isChain_cons_cons.mp hchain
        exact List.isChain_cons_cons.mpr ⟨hitem, htidy item hrest⟩
      cases item with
      | none =>
        refine hkeep fun xhtml => ?_
        rw [fill, stripMarkers_voidTagEnd, hleft, fill]
      | some c =>
        by_cases hbegins : BeginsMarker c form
        · obtain ⟨token, back, rfl, htoken⟩ := hbegins.exists_token
          obtain rfl := hbegins.1
          obtain ⟨left, hleft, htidy⟩ := ih back.length (by simp; omega) back rfl
          refine ⟨left, fun xhtml => ?_, fun before hchain => ?_⟩
          · have hmarker := Heading.stripMarkers_marker (htoken xhtml)
            rw [Heading.marker_append] at hmarker
            rw [← hleft, ← hmarker, fill, fill, fill_append, fill]
          · have hback : (some (ofChar '\x7d') :: back).IsChain MayFollow :=
              hchain.suffix ⟨before :: some (ofChar '\x7b') :: some (ofChar '#') :: token, by simp⟩
            exact IsTidy.behind (htidy _ hback) before
        · refine hkeep fun xhtml => ?_
          have hat : Heading.markerAt? c (fill xhtml form) = none :=
            Option.eq_none_iff_forall_ne_some.mpr fun token hat =>
              hbegins (beginsMarker_of_markerAt? hat)
          rw [fill, Heading.stripMarkers_cons hat, hleft, fill]

end Form

end Html

end MarkdownRender
