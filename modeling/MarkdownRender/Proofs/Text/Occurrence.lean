import Mathlib.Data.List.Infix
import MarkdownRender.Text.Basic

/-!
# Occurrences of a mark

A mark occurs in a text where the text goes on with it (`occurrences`). Two occurrences of a mark
whose first code point stands in it only once cannot overlap, so the last occurrence is one behind
which the mark does not occur at all (`beforeLast_eq_some_iff`).
-/

namespace MarkdownRender.Text

variable {c : CodePoint} {mark text front back before : Text} {i : Nat}

/-! ### Places of a mark -/

/-- The places where a mark stands in a text, from the first to the last. -/
def occurrences (mark text : Text) : List Nat :=
  (List.range text.length).filter fun i => startsWith (text.drop i) mark

theorem mem_occurrences_iff :
    i ∈ occurrences mark text ↔ i < text.length ∧ mark <+: text.drop i := by
  rw [occurrences, List.mem_filter, List.mem_range, startsWith_iff]

theorem pairwise_lt_occurrences (mark text : Text) : (occurrences mark text).Pairwise (· < ·) :=
  List.pairwise_lt_range.filter _

theorem mem_occurrences_of_eq {front back : Text} (h : mark ≠ [])
    (heq : text = front ++ (mark ++ back)) : front.length ∈ occurrences mark text := by
  subst heq
  rw [mem_occurrences_iff, List.drop_left]
  refine ⟨?_, List.prefix_append mark back⟩
  have hmark := List.length_pos_of_ne_nil h
  simp only [List.length_append]
  omega

/-- In front of the first place there is none. -/
theorem le_of_head?_occurrences (h : (occurrences mark text).head? = some i) {j : Nat}
    (hj : j ∈ occurrences mark text) : i ≤ j := by
  obtain ⟨others, hall⟩ := List.head?_eq_some_iff.mp h
  have hsorted := pairwise_lt_occurrences mark text
  rw [hall] at hsorted hj
  rcases List.mem_cons.mp hj with rfl | hj
  · exact Nat.le_refl j
  · exact Nat.le_of_lt ((List.pairwise_cons.mp hsorted).1 j hj)

/-- Behind the last place there is none. -/
theorem le_of_getLast?_occurrences (h : (occurrences mark text).getLast? = some i) {j : Nat}
    (hj : j ∈ occurrences mark text) : j ≤ i := by
  obtain ⟨others, hall⟩ := List.getLast?_eq_some_iff.mp h
  have hsorted := pairwise_lt_occurrences mark text
  rw [hall] at hsorted hj
  rcases List.mem_append.mp hj with hj | hj
  · exact Nat.le_of_lt ((List.pairwise_append.mp hsorted).2.2 j hj i List.mem_cons_self)
  · exact Nat.le_of_eq (List.mem_singleton.mp hj)

theorem exists_head?_occurrences (h : i ∈ occurrences mark text) :
    ∃ first, (occurrences mark text).head? = some first ∧ first ≤ i := by
  have hne := List.ne_nil_of_mem h
  have hfirst := List.head?_eq_some_head hne
  exact ⟨_, hfirst, le_of_head?_occurrences hfirst h⟩

theorem exists_getLast?_occurrences (h : i ∈ occurrences mark text) :
    ∃ last, (occurrences mark text).getLast? = some last ∧ i ≤ last := by
  have hne := List.ne_nil_of_mem h
  have hlast := List.getLast?_eq_some_getLast hne
  exact ⟨_, hlast, le_of_getLast?_occurrences hlast h⟩

/-- Where a mark ends within `front`, what follows makes no difference. -/
theorem mem_occurrences_append_iff (hmark : mark ≠ []) (h : i + mark.length ≤ front.length)
    (back : Text) : i ∈ occurrences mark (front ++ back) ↔ i ∈ occurrences mark front := by
  have hpos := List.length_pos_of_ne_nil hmark
  have hlength : mark.length ≤ (front.drop i).length := by
    rw [List.length_drop]
    omega
  rw [mem_occurrences_iff, mem_occurrences_iff, List.drop_append_of_le_length (by omega)]
  constructor
  · rintro ⟨-, hstarts⟩
    exact ⟨by omega, List.prefix_of_prefix_length_le hstarts (List.prefix_append _ back) hlength⟩
  · rintro ⟨hlt, hstarts⟩
    refine ⟨?_, hstarts.trans (List.prefix_append _ back)⟩
    rw [List.length_append]
    omega

theorem eq_of_length_occurrences_le_one (h : (occurrences mark text).length ≤ 1) {j : Nat}
    (hi : i ∈ occurrences mark text) (hj : j ∈ occurrences mark text) : i = j := by
  obtain ⟨first, hfirst, -⟩ := exists_head?_occurrences hi
  obtain ⟨others, hall⟩ := List.head?_eq_some_iff.mp hfirst
  obtain rfl : others = [] := by
    rw [hall, List.length_cons] at h
    exact List.eq_nil_of_length_eq_zero (by omega)
  rw [hall, List.mem_singleton] at hi hj
  rw [hi, hj]

/-- A mark that occurs once occurs neither in front of that place nor behind it. -/
theorem not_infix_of_length_occurrences_le_one (hmark : mark ≠ [])
    (h : (occurrences mark (front ++ (mark ++ back))).length ≤ 1) :
    ¬ mark <:+: front ∧ ¬ mark <:+: back := by
  have hpos := List.length_pos_of_ne_nil hmark
  have hhere : front.length ∈ occurrences mark (front ++ (mark ++ back)) :=
    mem_occurrences_of_eq hmark rfl
  constructor
  · rintro ⟨before, between, rfl⟩
    have hearlier : before.length ∈ occurrences mark (before ++ mark ++ between ++ (mark ++ back)) :=
      mem_occurrences_of_eq hmark
        (show _ = before ++ (mark ++ (between ++ (mark ++ back))) by simp)
    have hsame := eq_of_length_occurrences_le_one h hhere hearlier
    simp only [List.length_append] at hsame
    omega
  · rintro ⟨between, after, rfl⟩
    have hlater : (front ++ mark ++ between).length ∈
        occurrences mark (front ++ (mark ++ (between ++ mark ++ after))) :=
      mem_occurrences_of_eq hmark
        (show _ = front ++ mark ++ between ++ (mark ++ after) by simp)
    have hsame := eq_of_length_occurrences_le_one h hhere hlater
    simp only [List.length_append] at hsame
    omega

/-! ### The last occurrence -/

/-- A mark does not begin in a text that its first code point does not stand in. -/
theorem infix_append_iff_of_notMem (h : c ∉ front) :
    c :: mark <:+: front ++ back ↔ c :: mark <:+: back := by
  induction front with
  | nil => rfl
  | cons d front ih =>
    obtain ⟨hne, hfront⟩ := not_or.mp (List.mem_cons.not.mp h)
    rw [List.cons_append, List.infix_cons_iff, ih hfront]
    constructor
    · rintro (hstarts | hwithin)
      · exact absurd (List.cons_prefix_cons.mp hstarts).1 hne
      · exact hwithin
    · exact Or.inr

/-- A mark does not reach over a code point that does not stand in it. -/
theorem prefix_append_cons_iff_of_notMem (h : c ∉ mark) (rest : Text) :
    mark <+: front ++ c :: rest ↔ mark <+: front := by
  refine ⟨fun hstarts => ?_, fun hstarts => hstarts.trans (List.prefix_append front _)⟩
  rcases List.prefix_or_prefix_of_prefix hstarts (List.prefix_append front (c :: rest)) with
    hle | ⟨between, rfl⟩
  · exact hle
  · cases between with
    | nil => simp
    | cons d between =>
      obtain rfl : d = c := (List.cons_prefix_cons.mp
        ((List.prefix_append_right_inj front).mp hstarts)).1
      simp at h

/-- In front of the first code point of a mark, the mark does not begin if it does not occur
there. -/
theorem length_le_of_not_infix (h : c ∉ mark) (hfront : ¬ c :: mark <:+: front) {rest after : Text}
    (heq : front ++ c :: rest = before ++ (c :: mark ++ after)) : front.length ≤ before.length := by
  rcases List.append_eq_append_iff.mp heq with ⟨between, rfl, -⟩ | ⟨between, rfl, hrest⟩
  · simp
  · cases between with
    | nil => simp
    | cons d between =>
      obtain rfl : c = d := (List.cons.inj hrest).1
      have htail : mark ++ after = between ++ c :: rest := (List.cons.inj hrest).2
      have hstarts : mark <+: between := by
        rw [← prefix_append_cons_iff_of_notMem h rest, ← htail]
        exact List.prefix_append mark after
      have hoccurs : c :: mark <+: c :: between := List.cons_prefix_cons.mpr ⟨rfl, hstarts⟩
      exact absurd (hoccurs.isInfix.trans (List.suffix_append before _).isInfix) hfront

theorem beforeLast_cons (mark : Text) (c : CodePoint) (rest : Text) :
    beforeLast mark (c :: rest) = ((beforeLast mark rest).map (c :: ·)).or
      (if startsWith (c :: rest) mark then some [] else none) := by
  rw [beforeLast]
  cases beforeLast mark rest <;> simp

theorem beforeLast_eq_none_iff (h : mark ≠ []) : beforeLast mark text = none ↔ ¬ mark <:+: text := by
  induction text with
  | nil => simp [beforeLast, h]
  | cons c rest ih =>
    rw [beforeLast_cons, Option.or_eq_none_iff, Option.map_eq_none_iff, ih, List.infix_cons_iff,
      not_or, ← startsWith_iff]
    simp [and_comm]

/-- The last occurrence is the one behind which there is none. -/
theorem beforeLast_eq_some_iff (h : c ∉ mark) :
    beforeLast (c :: mark) text = some before ↔
      ∃ after, text = before ++ (c :: mark ++ after) ∧ ¬ c :: mark <:+: after := by
  have hne : c :: mark ≠ [] := List.cons_ne_nil c mark
  induction text generalizing before with
  | nil => simp [beforeLast]
  | cons d rest ih =>
    rw [beforeLast_cons]
    constructor
    · intro hbefore
      rcases Option.or_eq_some_iff.mp hbefore with hrest | ⟨hnone, hhere⟩
      · obtain ⟨front, hfront, rfl⟩ := Option.map_eq_some_iff.mp hrest
        obtain ⟨after, rfl, hafter⟩ := ih.mp hfront
        exact ⟨after, rfl, hafter⟩
      · obtain ⟨hstart, hnil⟩ := Option.ite_none_right_eq_some.mp hhere
        cases hnil
        obtain ⟨after, hafter⟩ := startsWith_iff.mp hstart
        obtain ⟨rfl, rfl⟩ := List.cons.inj hafter
        have hlater := (beforeLast_eq_none_iff hne).mp (Option.map_eq_none_iff.mp hnone)
        exact ⟨after, rfl, fun hwithin => hlater ((infix_append_iff_of_notMem h).mpr hwithin)⟩
    · rintro ⟨after, heq, hafter⟩
      cases before with
      | nil =>
        obtain rfl : d = c := (List.cons.inj heq).1
        have hrest : rest = mark ++ after := (List.cons.inj heq).2
        have hnone : beforeLast (d :: mark) rest = none := by
          rw [beforeLast_eq_none_iff hne, hrest, infix_append_iff_of_notMem h]
          exact hafter
        have hstart : startsWith (d :: rest) (d :: mark) := by
          rw [startsWith_iff, hrest]
          exact List.prefix_append (d :: mark) after
        rw [hnone, if_pos hstart]
        rfl
      | cons e before =>
        obtain ⟨rfl, hrest⟩ := List.cons.inj heq
        rw [ih.mpr ⟨after, hrest, hafter⟩]
        rfl

end MarkdownRender.Text
