import MarkdownRender.Proofs.Heading.Markers
import MarkdownRender.Proofs.Text.Lines

/-!
# Markers line by line

A token holds no newline, and of what stands behind it only the rest of its line is looked at. So
extraction and removal both go through a text line by line (`explicitId?_eq_findSome?`,
`stripMarkers_eq_joinLines`). On one line the marker is settled by two places, that of the first
opening and that of the last closing brace (`isMarkerIn_of_markerSpan?`), and where these are too
close to each other or one is missing, nothing on the line is a marker
(`exists_markerSpan?_of_marker`).
-/

namespace MarkdownRender

open CodePoint (ofChar)

namespace Text

/-! ### The first line -/

theorem takeWhile_ne_newline_self {line : Text} (h : ofChar '\n' ∉ line) :
    line.takeWhile (· ≠ ofChar '\n') = line := by
  have hline := takeWhile_ne_newline_append h []
  rwa [List.append_nil, List.takeWhile_nil, List.append_nil] at hline

theorem takeWhile_ne_newline_append_newline {line : Text} (h : ofChar '\n' ∉ line) (rest : Text) :
    (line ++ ofChar '\n' :: rest).takeWhile (· ≠ ofChar '\n') = line := by
  rw [takeWhile_ne_newline_append h, List.takeWhile_cons_of_neg (by simp), List.append_nil]

end Text

namespace Heading

/-! ### The marker of one line -/

/-- Where the marker of a line begins and where it ends: at the first opening and at the last
closing brace, if this one stands three places behind that one or more. -/
def markerSpan? (line : Text) : Option (Nat × Nat) := do
  let first ← (Text.occurrences "\x7b#" line).head?
  let last ← (Text.occurrences "\x7d" line).getLast?
  if first + 3 ≤ last then some (first, last) else none

/-- What the marker of a line has between its opening and its closing brace. -/
def lineToken? (line : Text) : Option Text :=
  (markerSpan? line).map fun (first, last) => (line.take last).drop (first + 2)

/-- A line without its marker. -/
def withoutMarker (line : Text) : Text :=
  match markerSpan? line with
  | some (first, last) => line.take first ++ line.drop (last + 1)
  | none => line

theorem opening_ne_nil : Text.ofString "\x7b#" ≠ [] := by decide

theorem closing_ne_nil : Text.ofString "\x7d" ≠ [] := by decide

theorem markerSpan?_eq_some_iff {line : Text} {first last : Nat} :
    markerSpan? line = some (first, last) ↔
      (Text.occurrences "\x7b#" line).head? = some first ∧
        (Text.occurrences "\x7d" line).getLast? = some last ∧ first + 3 ≤ last := by
  simp only [markerSpan?, Option.bind_eq_bind, Option.bind_eq_some_iff,
    Option.ite_none_right_eq_some, Option.some.injEq, Prod.mk.injEq]
  constructor
  · rintro ⟨i, hi, j, hj, hle, rfl, rfl⟩
    exact ⟨hi, hj, hle⟩
  · rintro ⟨hi, hj, hle⟩
    exact ⟨first, hi, last, hj, hle, rfl, rfl⟩

/-- A line is cut at the two places. -/
theorem eq_of_markerSpan? {line : Text} {first last : Nat}
    (h : markerSpan? line = some (first, last)) :
    line = line.take first ++ marker ((line.take last).drop (first + 2)) ++
      line.drop (last + 1) := by
  obtain ⟨hfirst, hlast, hle⟩ := markerSpan?_eq_some_iff.mp h
  obtain ⟨-, ⟨rest, hrest⟩⟩ := Text.mem_occurrences_iff.mp (List.mem_of_head? hfirst)
  obtain ⟨hlt, ⟨back, hback⟩⟩ := Text.mem_occurrences_iff.mp (List.mem_of_getLast? hlast)
  have hopening : line.drop first = ofChar '\x7b' :: ofChar '#' :: line.drop (first + 2) := by
    rw [← List.drop_drop, ← hrest]
    rfl
  have hclosing : line.drop last = ofChar '\x7d' :: line.drop (last + 1) := by
    rw [← List.drop_drop, ← hback]
    rfl
  have hlength : first + 2 ≤ (line.take last).length := by
    rw [List.length_take]
    omega
  have hinside : line.drop (first + 2) = (line.take last).drop (first + 2) ++ line.drop last := by
    rw [← List.drop_append_of_le_length hlength, List.take_append_drop]
  calc line = line.take first ++ line.drop first := (List.take_append_drop first line).symm
    _ = _ := by rw [List.append_assoc, marker_append, hopening, hinside, hclosing]

theorem closing_notMem_drop {line : Text} {last : Nat}
    (hlast : (Text.occurrences "\x7d" line).getLast? = some last) :
    ofChar '\x7d' ∉ line.drop (last + 1) := by
  intro hmem
  obtain ⟨before, after, hback⟩ := List.append_of_mem hmem
  have hcut : line = line.take (last + 1) ++ before ++ (Text.ofString "\x7d" ++ after) := by
    rw [List.append_assoc]
    exact hback ▸ (List.take_append_drop (last + 1) line).symm
  have hplace := Text.mem_occurrences_of_eq closing_ne_nil hcut
  have hmax := Text.le_of_getLast?_occurrences hlast hplace
  obtain ⟨hlt, -⟩ := Text.mem_occurrences_iff.mp (List.mem_of_getLast? hlast)
  rw [List.length_append, List.length_take] at hmax
  omega

theorem take_ne_append_opening {line : Text} {first : Nat}
    (hfirst : (Text.occurrences "\x7b#" line).head? = some first) (before inside : Text) :
    line.take first ≠ before ++ ofChar '\x7b' :: ofChar '#' :: inside := by
  intro hfront
  have hcut : line = before ++ (Text.ofString "\x7b#" ++ (inside ++ line.drop first)) := by
    calc line = before ++ ofChar '\x7b' :: ofChar '#' :: inside ++ line.drop first := by
          rw [← hfront, List.take_append_drop]
      _ = before ++ (Text.ofString "\x7b#" ++ (inside ++ line.drop first)) := by
          rw [List.append_assoc]
          rfl
  have hplace := Text.mem_occurrences_of_eq opening_ne_nil hcut
  have hmin := Text.le_of_head?_occurrences hfirst hplace
  have hlength := congrArg List.length hfront
  simp only [List.length_take, List.length_append, List.length_cons] at hlength
  omega

/-- The two places are those of the marker that the scan removes. -/
theorem isMarkerIn_of_markerSpan? {line : Text} {first last : Nat}
    (h : markerSpan? line = some (first, last)) (hline : ofChar '\n' ∉ line) :
    IsMarkerIn line (line.take first) ((line.take last).drop (first + 2))
      (line.drop (last + 1)) := by
  have heq := eq_of_markerSpan? h
  obtain ⟨hfirst, hlast, hle⟩ := markerSpan?_eq_some_iff.mp h
  obtain ⟨hlt, -⟩ := Text.mem_occurrences_iff.mp (List.mem_of_getLast? hlast)
  refine ⟨⟨?_, ?_, ?_⟩, heq, ?_⟩
  · apply List.ne_nil_of_length_pos
    rw [List.length_drop, List.length_take]
    omega
  · intro hmem
    exact hline (List.mem_of_mem_take (List.mem_of_mem_drop hmem))
  · intro hmem
    exact closing_notMem_drop hlast ((List.takeWhile_prefix _).subset hmem)
  · intro before inside hfront
    exact absurd hfront (take_ne_append_opening hfirst before inside)

/-- A marker has an opening and, three places behind it or more, a closing brace. -/
theorem exists_markerSpan?_of_marker {token : Text} (hne : token ≠ []) (front back : Text) :
    ∃ span, markerSpan? (front ++ marker token ++ back) = some span := by
  have hopening : front ++ marker token ++ back =
      front ++ (Text.ofString "\x7b#" ++ (token ++ ofChar '\x7d' :: back)) := by
    rw [List.append_assoc, marker_append]
    rfl
  have hclosing : front ++ marker token ++ back =
      front ++ ofChar '\x7b' :: ofChar '#' :: token ++ (Text.ofString "\x7d" ++ back) := by
    rw [List.append_assoc, List.append_assoc, marker_append]
    rfl
  obtain ⟨first, hfirst, hle⟩ :=
    Text.exists_head?_occurrences (Text.mem_occurrences_of_eq opening_ne_nil hopening)
  obtain ⟨last, hlast, hge⟩ :=
    Text.exists_getLast?_occurrences (Text.mem_occurrences_of_eq closing_ne_nil hclosing)
  have htoken := List.length_pos_of_ne_nil hne
  simp only [List.length_append, List.length_cons] at hge
  exact ⟨(first, last), markerSpan?_eq_some_iff.mpr ⟨hfirst, hlast, by omega⟩⟩

theorem not_isToken_of_markerSpan?_eq_none {line : Text} (h : markerSpan? line = none)
    (front token back : Text) (heq : line = front ++ marker token ++ back) :
    ¬ IsToken token back := by
  intro htoken
  obtain ⟨span, hspan⟩ := exists_markerSpan?_of_marker htoken.ne_nil front back
  rw [← heq, h] at hspan
  cases hspan

theorem explicitId?_line {line : Text} (h : ofChar '\n' ∉ line) :
    explicitId? line = lineToken? line := by
  unfold lineToken?
  cases hspan : markerSpan? line with
  | none =>
    refine Option.eq_none_iff_forall_ne_some.mpr fun token hid => ?_
    obtain ⟨front, back, heq, htoken⟩ := exists_marker_of_explicitId? hid
    exact not_isToken_of_markerSpan?_eq_none hspan front token back heq htoken
  | some span => exact (isMarkerIn_of_markerSpan? hspan h).explicitId?_eq h

theorem stripMarkers_line {line : Text} (h : ofChar '\n' ∉ line) :
    stripMarkers line = withoutMarker line := by
  unfold withoutMarker
  cases hspan : markerSpan? line with
  | none => exact stripMarkers_eq_self (not_isToken_of_markerSpan?_eq_none hspan)
  | some span => exact (isMarkerIn_of_markerSpan? hspan h).stripMarkers_eq h

/-! ### Line by line -/

theorem markerAt?_newline (rest : Text) : markerAt? '\n' rest = none := by
  have hbrace : ofChar '\n' ≠ ofChar '\x7b' := by decide
  simp [markerAt?, hbrace]

theorem token?_append_newline {line : Text} (h : ofChar '\n' ∉ line) (rest : Text) :
    token? (line ++ ofChar '\n' :: rest) = token? line := by
  rw [token?, token?, Text.takeWhile_ne_newline_append_newline h, Text.takeWhile_ne_newline_self h]

theorem markerAt?_append_newline {line : Text} (h : ofChar '\n' ∉ line) (c : CodePoint)
    (rest : Text) : markerAt? c (line ++ ofChar '\n' :: rest) = markerAt? c line := by
  cases line with
  | nil =>
    have hsign : ofChar '#' ≠ ofChar '\n' := by decide
    simp [markerAt?, Text.startsWith, Text.ofString, hsign]
  | cons d line =>
    have htoken := token?_append_newline (fun hmem => h (List.mem_cons_of_mem d hmem)) rest
    simp [markerAt?, Text.startsWith, Text.ofString, htoken]

theorem IsToken.append_newline {token back : Text} (h : IsToken token back)
    (hback : ofChar '\n' ∉ back) (rest : Text) : IsToken token (back ++ ofChar '\n' :: rest) := by
  refine ⟨h.ne_nil, h.one_line, ?_⟩
  have hbrace := h.last_brace
  rw [Text.takeWhile_ne_newline_self hback] at hbrace
  rwa [Text.takeWhile_ne_newline_append_newline hback]

theorem explicitId?_append_newline {line : Text} (h : ofChar '\n' ∉ line) (rest : Text) :
    explicitId? (line ++ ofChar '\n' :: rest) = (explicitId? line).or (explicitId? rest) := by
  induction line with
  | nil =>
    rw [List.nil_append, explicitId?_cons, markerAt?_newline]
    rfl
  | cons c line ih =>
    have hline : ofChar '\n' ∉ line := fun hmem => h (List.mem_cons_of_mem c hmem)
    rw [List.cons_append, explicitId?_cons, explicitId?_cons, markerAt?_append_newline hline,
      ih hline, Option.or_assoc]

theorem stripMarkers_append_newline {line : Text} (h : ofChar '\n' ∉ line) (rest : Text) :
    stripMarkers (line ++ ofChar '\n' :: rest) =
      stripMarkers line ++ ofChar '\n' :: stripMarkers rest := by
  induction line using strip_induction with
  | nil => exact stripMarkers_cons (markerAt?_newline rest)
  | keep c line hat ih =>
    have hline : ofChar '\n' ∉ line := fun hmem => h (List.mem_cons_of_mem c hmem)
    have hat' : markerAt? c (line ++ ofChar '\n' :: rest) = none := by
      rw [markerAt?_append_newline hline, hat]
    rw [List.cons_append, stripMarkers_cons hat', stripMarkers_cons hat, ih hline, List.cons_append]
  | remove token back htoken ih =>
    have hback : ofChar '\n' ∉ back := fun hmem => h (List.mem_append_right _ hmem)
    rw [List.append_assoc, stripMarkers_marker (htoken.append_newline hback rest),
      stripMarkers_marker htoken, ih hback]

theorem explicitId?_eq_findSome? (text : Text) :
    explicitId? text = (Text.lines text).findSome? lineToken? := by
  induction text using Text.line_induction with
  | last line h =>
    rw [Text.lines_eq_singleton h, explicitId?_line h]
    simp
  | line line rest h ih =>
    rw [explicitId?_append_newline h, explicitId?_line h, ih, Text.lines_append_newline h,
      List.findSome?_cons]
    cases lineToken? line <;> rfl

theorem stripMarkers_eq_joinLines (text : Text) :
    stripMarkers text = Text.joinLines ((Text.lines text).map withoutMarker) := by
  induction text using Text.line_induction with
  | last line h =>
    rw [Text.lines_eq_singleton h, stripMarkers_line h]
    rfl
  | line line rest h ih =>
    have hne : (Text.lines rest).map withoutMarker ≠ [] := by simpa using Text.lines_ne_nil rest
    rw [stripMarkers_append_newline h, stripMarkers_line h, ih, Text.lines_append_newline h,
      List.map_cons, Text.joinLines_cons hne]

/-- **Extraction and removal read the same markers**, one on each line where the first opening and
the last closing brace have something between them. The explicit id is the token of the first line
with a marker, and what is removed is the marker of each line and nothing else. -/
theorem markers_line_by_line (text : Text) :
    explicitId? text = (Text.lines text).findSome? lineToken? ∧
      stripMarkers text = Text.joinLines ((Text.lines text).map withoutMarker) :=
  ⟨explicitId?_eq_findSome? text, stripMarkers_eq_joinLines text⟩

/-- A token may be a closing brace if another follows, and hold a carriage return; the empty marker
on the first line is none. -/
example :
    let text : Text := "\x7b#\x7d a\nb \x7b#\x7dc\r\x7d d\n\x7b#e\x7d"
    explicitId? text = some (Text.ofString "\x7dc\r") ∧
      stripMarkers text = "\x7b#\x7d a\nb  d\n" := by
  decide +kernel

end Heading

end MarkdownRender
