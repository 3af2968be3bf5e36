import MarkdownRender.Proofs.Heading.MarkerLines

/-!
# Removed markers stay removed

Where a marker is cut out of a line, what stood in front of it and what stood behind it become
neighbours, and a brace in front and a number sign behind are an opening that was not there before.
It begins no marker, because the last closing brace of the line is gone and all others stand in
front of the cut (`markerSpan?_withoutMarker`). So one removal is enough, and the texts that it
leaves alone are those without an explicit id.
-/

namespace MarkdownRender

open CodePoint (ofChar)

namespace Heading

variable {line : Text}

/-- What is left of a line that had a marker has none. The last closing brace is gone with it, so the
closing brace of another marker stands in front of the cut, and its opening does too; but the
opening that was cut out was the first. -/
theorem markerSpan?_cut {first last : Nat} (h : markerSpan? line = some (first, last)) :
    markerSpan? (line.take first ++ line.drop (last + 1)) = none := by
  obtain ⟨hfirst, hlast, hle⟩ := markerSpan?_eq_some_iff.mp h
  obtain ⟨hlt, -⟩ := Text.mem_occurrences_iff.mp (List.mem_of_getLast? hlast)
  have hlength : (line.take first).length = first := by
    rw [List.length_take]
    omega
  refine Option.eq_none_iff_forall_ne_some.mpr ?_
  rintro ⟨opening, closing⟩ hleft
  obtain ⟨hopening, hclosing, hdistance⟩ := markerSpan?_eq_some_iff.mp hleft
  by_cases hcut : closing < first
  · -- then the opening stands in front of the cut as well, where the line has none
    have hends : opening + (Text.ofString "\x7b#").length ≤ (line.take first).length := by
      rw [hlength]
      show opening + 2 ≤ first
      omega
    have hfront : opening ∈ Text.occurrences "\x7b#" (line.take first) :=
      (Text.mem_occurrences_append_iff opening_ne_nil hends _).mp (List.mem_of_head? hopening)
    have hline := (Text.mem_occurrences_append_iff opening_ne_nil hends (line.drop first)).mpr hfront
    rw [List.take_append_drop] at hline
    have hmin := Text.le_of_head?_occurrences hfirst hline
    omega
  · obtain ⟨-, hbrace⟩ := Text.mem_occurrences_iff.mp (List.mem_of_getLast? hclosing)
    rw [List.drop_append, List.drop_eq_nil_of_le (by omega), List.nil_append] at hbrace
    have hmem : ofChar '\x7d' ∈ line.drop (last + 1) :=
      List.mem_of_mem_drop (hbrace.subset List.mem_cons_self)
    exact closing_notMem_drop hlast hmem

theorem markerSpan?_withoutMarker (line : Text) : markerSpan? (withoutMarker line) = none := by
  unfold withoutMarker
  cases hspan : markerSpan? line with
  | none => exact hspan
  | some span => exact markerSpan?_cut hspan

theorem withoutMarker_eq_self (h : markerSpan? line = none) : withoutMarker line = line := by
  rw [withoutMarker, h]

theorem mem_of_mem_withoutMarker {c : CodePoint} (h : c ∈ withoutMarker line) : c ∈ line := by
  unfold withoutMarker at h
  split at h
  · rcases List.mem_append.mp h with hfront | hback
    · exact List.mem_of_mem_take hfront
    · exact List.mem_of_mem_drop hback
  · exact h

/-- Removal works line by line, so it makes no line and joins none. -/
theorem lines_stripMarkers (text : Text) :
    Text.lines (stripMarkers text) = (Text.lines text).map withoutMarker := by
  have hlines : ∀ line ∈ (Text.lines text).map withoutMarker, ofChar '\n' ∉ line := by
    refine List.forall_mem_map.mpr fun line hline hmem => ?_
    exact Text.newline_notMem_of_mem_lines hline (mem_of_mem_withoutMarker hmem)
  obtain ⟨first, others, hall⟩ := List.exists_cons_of_ne_nil (Text.lines_ne_nil text)
  rw [stripMarkers_eq_joinLines]
  rw [hall, List.map_cons] at hlines ⊢
  exact Text.lines_joinLines hlines

theorem explicitId?_eq_none_iff {text : Text} :
    explicitId? text = none ↔ ∀ line ∈ Text.lines text, markerSpan? line = none := by
  rw [explicitId?_eq_findSome?, List.findSome?_eq_none_iff]
  simp only [lineToken?, Option.map_eq_none_iff]

theorem explicitId?_stripMarkers (text : Text) : explicitId? (stripMarkers text) = none := by
  rw [explicitId?_eq_none_iff, lines_stripMarkers]
  exact List.forall_mem_map.mpr fun line _ => markerSpan?_withoutMarker line

theorem stripMarkers_of_explicitId?_eq_none {text : Text} (h : explicitId? text = none) :
    stripMarkers text = text := by
  have hlines : (Text.lines text).map withoutMarker = Text.lines text := by
    rw [List.map_congr_left fun line hline =>
      withoutMarker_eq_self (explicitId?_eq_none_iff.mp h line hline), List.map_id']
  rw [stripMarkers_eq_joinLines, hlines, Text.joinLines_lines]

/-- **Removal leaves no marker behind.** What is left of a text has no explicit id and stays as it
is if markers are removed again; and a text is left alone if and only if it has no explicit id. -/
theorem stripMarkers_leaves_no_marker (text : Text) :
    explicitId? (stripMarkers text) = none ∧
      stripMarkers (stripMarkers text) = stripMarkers text ∧
      (stripMarkers text = text ↔ explicitId? text = none) := by
  have hnone := explicitId?_stripMarkers text
  refine ⟨hnone, stripMarkers_of_explicitId?_eq_none hnone, ?_, stripMarkers_of_explicitId?_eq_none⟩
  intro hself
  rw [← hself]
  exact hnone

/-- The brace in front of a marker and the number sign behind it come to stand side by side, behind
the only closing brace that is left. -/
example : stripMarkers "a\x7d \x7b\x7b#b\x7d#c" = "a\x7d \x7b#c" ∧
    explicitId? "a\x7d \x7b#c" = none := by
  decide +kernel

end Heading

end MarkdownRender
