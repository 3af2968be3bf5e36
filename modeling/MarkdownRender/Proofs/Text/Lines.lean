import Mathlib.Data.List.DropRight
import MarkdownRender.Text.Blank
import MarkdownRender.Text.Lines

/-!
# Lines put together and cut apart

`unlines` ends each line with a newline and `joinLines` puts newlines between them. Lines that hold
no newline come back from either (`lines_joinLines`), and lines that hold no line boundary at all
come back with their newlines where a text is cut at every boundary (`brokenLines_unlines`). White
space at the ends of a text is the library's `rdropWhile` on one side and `dropWhile` on the other.
-/

namespace MarkdownRender.Text

open CodePoint (ofChar)

/-! ### White space at the ends -/

theorem dropEndWhile_concat (p : CodePoint → Bool) (text : Text) (c : CodePoint) :
    dropEndWhile p (text ++ [c]) = if p c then dropEndWhile p text else text ++ [c] := by
  induction text with
  | nil => rfl
  | cons d rest ih =>
    rw [List.cons_append, dropEndWhile, ih]
    by_cases hc : p c
    · rw [if_pos hc, if_pos hc, dropEndWhile]
    · have hne : rest ++ [c] ≠ [] := by simp
      rw [if_neg hc, if_neg hc]
      split
      · contradiction
      · rfl

theorem dropEndWhile_eq_rdropWhile (p : CodePoint → Bool) (text : Text) :
    dropEndWhile p text = text.rdropWhile p := by
  induction text using List.reverseRecOn with
  | nil => rfl
  | append_singleton front c ih => rw [dropEndWhile_concat, List.rdropWhile_concat, ih]

theorem dropEndWhile_append_of_pos {p : CodePoint → Bool} (text : Text) {tail : Text}
    (h : ∀ c ∈ tail, p c) : dropEndWhile p (text ++ tail) = dropEndWhile p text := by
  rw [dropEndWhile_eq_rdropWhile, dropEndWhile_eq_rdropWhile]
  unfold List.rdropWhile
  rw [List.reverse_append, List.dropWhile_append_of_pos fun c hc => h c (List.mem_reverse.mp hc)]

theorem dropEndWhile_of_last {p : CodePoint → Bool} {text : Text}
    (h : ∀ c ∈ text.getLast?, ¬ p c) : dropEndWhile p text = text := by
  rw [dropEndWhile_eq_rdropWhile, List.rdropWhile_eq_self_iff]
  exact fun hne => h _ (List.getLast_mem_getLast? hne)

/-- Dropping an end drops nothing of what has no part in it. -/
theorem filter_dropEndWhile {p q : CodePoint → Bool} (h : ∀ c, p c → ¬ q c) (text : Text) :
    (dropEndWhile p text).filter q = text.filter q := by
  induction text using List.reverseRecOn with
  | nil => rfl
  | append_singleton front c ih =>
    rw [dropEndWhile_concat]
    split
    · next hc => simp [ih, h c hc]
    · rfl

/-- Dropping an end drops what satisfies the condition. -/
theorem exists_append_dropEndWhile (p : CodePoint → Bool) (text : Text) :
    ∃ tail, text = dropEndWhile p text ++ tail ∧ ∀ c ∈ tail, p c := by
  refine ⟨text.rtakeWhile p, ?_, fun c hc => List.mem_rtakeWhile_imp hc⟩
  rw [dropEndWhile_eq_rdropWhile, List.rdropWhile_append_rtakeWhile]

/-- What is cut off at both ends is white space. -/
theorem exists_strip_eq (text : Text) :
    ∃ lead trail, text = lead ++ strip text ++ trail ∧ (∀ c ∈ lead, c.isBlank) ∧
      ∀ c ∈ trail, c.isBlank := by
  obtain ⟨trail, htail, htrail⟩ :=
    exists_append_dropEndWhile CodePoint.isBlank (text.dropWhile CodePoint.isBlank)
  refine ⟨text.takeWhile CodePoint.isBlank, trail, ?_, fun c hc => List.mem_takeWhile_imp hc, htrail⟩
  rw [List.append_assoc, strip, ← htail, List.takeWhile_append_dropWhile]

theorem strip_blanks_append {blanks : Text} (h : ∀ c ∈ blanks, c.isBlank) (text : Text) :
    strip (blanks ++ text) = strip text := by
  rw [strip, strip, List.dropWhile_append_of_pos h]

/-- White space behind a text that neither begins nor ends with any is all that is cut off. -/
theorem strip_append_blanks {text blanks : Text} (hne : text ≠ [])
    (hhead : ∀ c ∈ text.head?, ¬ c.isBlank) (hlast : ∀ c ∈ text.getLast?, ¬ c.isBlank)
    (hblanks : ∀ c ∈ blanks, c.isBlank) : strip (text ++ blanks) = text := by
  have hfront : (text ++ blanks).dropWhile CodePoint.isBlank = text ++ blanks := by
    cases text with
    | nil => contradiction
    | cons c rest => exact List.dropWhile_cons_of_neg (hhead c rfl)
  rw [strip, hfront, dropEndWhile_append_of_pos text hblanks, dropEndWhile_of_last hlast]

/-! ### Parts between separators -/

theorem mem_or_mem_of_mem_join {sep : Text} {parts : List Text} {c : CodePoint}
    (h : c ∈ join sep parts) : c ∈ sep ∨ ∃ part ∈ parts, c ∈ part := by
  induction parts with
  | nil => cases h
  | cons part parts ih =>
    cases parts with
    | nil => exact Or.inr ⟨part, List.mem_cons_self, h⟩
    | cons next parts =>
      rw [join, List.append_assoc, List.mem_append, List.mem_append] at h
      rcases h with hpart | hsep | hrest
      · exact Or.inr ⟨part, List.mem_cons_self, hpart⟩
      · exact Or.inl hsep
      · rcases ih hrest with hsep | ⟨other, hother, hc⟩
        · exact Or.inl hsep
        · exact Or.inr ⟨other, List.mem_cons_of_mem _ hother, hc⟩

theorem join_concat (sep : Text) {front : List Text} (h : front ≠ []) (last : Text) :
    join sep (front ++ [last]) = join sep front ++ sep ++ last := by
  induction front with
  | nil => contradiction
  | cons part parts ih =>
    cases parts with
    | nil => rfl
    | cons next parts =>
      have hrest := ih (List.cons_ne_nil next parts)
      simp only [List.cons_append, join, List.append_assoc] at hrest ⊢
      rw [hrest]

theorem join_eq_intercalate (sep : Text) (parts : List Text) :
    join sep parts = sep.intercalate parts := by
  induction parts with
  | nil => rfl
  | cons part parts ih =>
    cases parts with
    | nil => simp [join]
    | cons next parts => rw [join, ih, List.intercalate_cons_cons]

/-- Parts that are not empty and do not hold the mark between them are read back; no part at all is
told from an empty one by leaving it out. -/
theorem splitOn_join {mark : CodePoint} {parts : List Text}
    (h : ∀ part ∈ parts, part ≠ [] ∧ mark ∉ part) :
    ((join [mark] parts).splitOn mark).filter (· ≠ []) = parts := by
  by_cases hnil : parts = []
  · subst hnil
    simp [join]
  · have hmark : ∀ part ∈ parts, mark ∉ part := fun part hpart => (h part hpart).2
    rw [join_eq_intercalate, List.splitOn_intercalate mark hmark hnil,
      List.filter_eq_self.mpr fun part hpart => decide_eq_true (h part hpart).1]

/-! ### Newlines -/

/-- The lines, each with a newline behind it. -/
def unlines (parts : List Text) : Text := parts.flatMap (· ++ [ofChar '\n'])

@[simp] theorem unlines_nil : unlines [] = [] := rfl

@[simp] theorem unlines_cons (line : Text) (others : List Text) :
    unlines (line :: others) = line ++ ofChar '\n' :: unlines others := by
  simp [unlines]

@[simp] theorem unlines_append (parts parts' : List Text) :
    unlines (parts ++ parts') = unlines parts ++ unlines parts' := by
  simp [unlines]

theorem joinLines_cons_cons (line next : Text) (others : List Text) :
    joinLines (line :: next :: others) = line ++ ofChar '\n' :: joinLines (next :: others) := by
  simp [joinLines, join, ofString]

/-- Lines put together begin with the first of them. -/
theorem prefix_joinLines_cons (line : Text) (others : List Text) :
    line <+: joinLines (line :: others) := by
  cases others with
  | nil => exact List.prefix_rfl
  | cons next others => exact ⟨_, (joinLines_cons_cons line next others).symm⟩

theorem joinLines_cons_ne_nil {line : Text} (h : line ≠ []) (others : List Text) :
    joinLines (line :: others) ≠ [] := by
  intro hnil
  have hpre := prefix_joinLines_cons line others
  rw [hnil, List.prefix_nil] at hpre
  exact h hpre

theorem head?_joinLines_cons {line : Text} (h : line ≠ []) (others : List Text) :
    (joinLines (line :: others)).head? = line.head? := by
  obtain ⟨rest, hrest⟩ := prefix_joinLines_cons line others
  rw [← hrest, List.head?_append_of_ne_nil _ h]

/-- Newlines between the lines and one more behind the last. -/
theorem joinLines_cons_append_newline (line : Text) (others : List Text) :
    joinLines (line :: others) ++ [ofChar '\n'] = unlines (line :: others) := by
  induction others generalizing line with
  | nil => simp [joinLines, join]
  | cons next others ih =>
    rw [joinLines_cons_cons, List.append_assoc, List.cons_append, ih, ← unlines_cons]

/-- Newlines behind all lines but the last. -/
theorem joinLines_concat (front : List Text) (last : Text) :
    joinLines (front ++ [last]) = unlines front ++ last := by
  cases front with
  | nil => rfl
  | cons line others =>
    have hjoin := join_concat (ofString "\n") (List.cons_ne_nil line others) last
    rw [joinLines, hjoin, ← joinLines_cons_append_newline]
    rfl

theorem lines_eq_singleton {line : Text} (h : ofChar '\n' ∉ line) : lines line = [line] := by
  induction line with
  | nil => rfl
  | cons c rest ih =>
    have hc : c ≠ ofChar '\n' := fun e => h (e ▸ List.mem_cons_self)
    have hrest : ofChar '\n' ∉ rest := fun hmem => h (List.mem_cons_of_mem _ hmem)
    rw [lines, if_neg hc, ih hrest]

theorem lines_append_newline {line : Text} (h : ofChar '\n' ∉ line) (rest : Text) :
    lines (line ++ ofChar '\n' :: rest) = line :: lines rest := by
  induction line with
  | nil => rfl
  | cons c line ih =>
    have hc : c ≠ ofChar '\n' := fun e => h (e ▸ List.mem_cons_self)
    have hline : ofChar '\n' ∉ line := fun hmem => h (List.mem_cons_of_mem _ hmem)
    rw [List.cons_append, lines, if_neg hc, ih hline]

/-- Induction over the lines of a text. -/
theorem line_induction {P : Text → Prop} (last : ∀ line, ofChar '\n' ∉ line → P line)
    (line : ∀ line rest, ofChar '\n' ∉ line → P rest → P (line ++ ofChar '\n' :: rest))
    (text : Text) : P text := by
  have hfront : ∀ front, ofChar '\n' ∉ front → P (front ++ text) := by
    induction text with
    | nil =>
      intro front h
      rw [List.append_nil]
      exact last front h
    | cons c rest ih =>
      intro front h
      by_cases hc : c = ofChar '\n'
      · rw [hc]
        exact line front rest h (ih [] List.not_mem_nil)
      · have hlonger : ofChar '\n' ∉ front ++ [c] := by simp [h, Ne.symm hc]
        simpa using ih (front ++ [c]) hlonger
  exact hfront [] List.not_mem_nil

theorem newline_notMem_of_mem_lines {text line : Text} (h : line ∈ lines text) :
    ofChar '\n' ∉ line := by
  induction text using line_induction with
  | last whole hwhole =>
    rw [lines_eq_singleton hwhole, List.mem_singleton] at h
    rwa [h]
  | line first rest hfirst ih =>
    rw [lines_append_newline hfirst] at h
    rcases List.mem_cons.mp h with rfl | hrest
    · exact hfirst
    · exact ih hrest

/-- A newline between the first line and the others. -/
theorem joinLines_cons {others : List Text} (h : others ≠ []) (line : Text) :
    joinLines (line :: others) = line ++ ofChar '\n' :: joinLines others := by
  obtain ⟨next, others, rfl⟩ := List.exists_cons_of_ne_nil h
  exact joinLines_cons_cons line next others

theorem lines_joinLines {line : Text} {others : List Text}
    (h : ∀ l ∈ line :: others, ofChar '\n' ∉ l) :
    lines (joinLines (line :: others)) = line :: others := by
  induction others generalizing line with
  | nil => exact lines_eq_singleton (h line List.mem_cons_self)
  | cons next others ih =>
    rw [joinLines_cons_cons, lines_append_newline (h line List.mem_cons_self),
      ih fun l hl => h l (List.mem_cons_of_mem _ hl)]

/-- The newline behind the last line leaves an empty line. -/
theorem lines_unlines {parts : List Text} (h : ∀ l ∈ parts, ofChar '\n' ∉ l) :
    lines (unlines parts) = parts ++ [[]] := by
  induction parts with
  | nil => rfl
  | cons line others ih =>
    rw [unlines_cons, lines_append_newline (h line List.mem_cons_self),
      ih fun l hl => h l (List.mem_cons_of_mem _ hl), List.cons_append]

theorem getLast?_joinLines_cons (line : Text) (others : List Text)
    (h : ∀ l ∈ line :: others, l ≠ []) :
    (joinLines (line :: others)).getLast? = ((line :: others).getLast (by simp)).getLast? := by
  induction others generalizing line with
  | nil => rfl
  | cons next others ih =>
    have hnext := joinLines_cons_ne_nil (h next (by simp)) others
    rw [joinLines_cons_cons, List.getLast?_append_cons, List.getLast?_cons_of_ne_nil hnext,
      ih next fun l hl => h l (List.mem_cons_of_mem _ hl), List.getLast_cons_cons]

/-! ### Line boundaries -/

theorem isLineBreak_newline : isLineBreak '\n' := by decide

theorem brokenLines_append_newline {line : Text} (h : ∀ c ∈ line, ¬ isLineBreak c) (rest : Text) :
    brokenLines (line ++ ofChar '\n' :: rest) = (line ++ [ofChar '\n']) :: brokenLines rest := by
  induction line with
  | nil =>
    have hends : endsLine '\n' rest := by
      have hne : ofChar '\n' ≠ ofChar '\r' := by decide
      simp [endsLine, isLineBreak_newline, hne]
    rw [List.nil_append, brokenLines, if_pos hends]
    rfl
  | cons c line ih =>
    have hends : ¬ endsLine c (line ++ ofChar '\n' :: rest) := by
      simp [endsLine, h c List.mem_cons_self]
    rw [List.cons_append, brokenLines, if_neg hends,
      ih fun d hd => h d (List.mem_cons_of_mem _ hd)]
    rfl

/-- What holds no line boundary stands on the first line of a text that begins with it. -/
theorem exists_brokenLines_append {front : Text} (hne : front ≠ [])
    (h : ∀ c ∈ front, ¬ isLineBreak c) (rest : Text) :
    ∃ line others, brokenLines (front ++ rest) = (front ++ line) :: others := by
  induction front with
  | nil => contradiction
  | cons c front ih =>
    have hends : ¬ endsLine c (front ++ rest) := by simp [endsLine, h c List.mem_cons_self]
    rw [List.cons_append, brokenLines, if_neg hends]
    cases front with
    | nil =>
      rw [List.nil_append]
      cases brokenLines rest with
      | nil => exact ⟨[], [], rfl⟩
      | cons line others => exact ⟨line, others, rfl⟩
    | cons d front =>
      obtain ⟨line, others, hlines⟩ := ih (List.cons_ne_nil d front)
        fun c hc => h c (List.mem_cons_of_mem _ hc)
      rw [hlines]
      exact ⟨line, others, rfl⟩

theorem brokenLines_unlines {parts : List Text} (h : ∀ l ∈ parts, ∀ c ∈ l, ¬ isLineBreak c) :
    brokenLines (unlines parts) = parts.map (· ++ [ofChar '\n']) := by
  induction parts with
  | nil => rfl
  | cons line others ih =>
    rw [unlines_cons, brokenLines_append_newline (h line List.mem_cons_self),
      ih fun l hl => h l (List.mem_cons_of_mem _ hl), List.map_cons]

end MarkdownRender.Text
