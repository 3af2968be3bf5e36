import Mathlib.Data.List.TakeWhile
import MarkdownRender.Heading.Marker
import MarkdownRender.Proofs.Text.Occurrence

/-!
# Where markers stand

A marker reaches from an opening to the last closing brace of its line. What the scan finds at one
place is spelled out by `markerAt?_eq_some_iff`, and `stripMarkers_marker` and `stripMarkers_cons`
are its two steps. A line has at most one marker: none stands behind an opening that begins none,
and none behind another marker.
-/

namespace MarkdownRender

open CodePoint (ofChar)

namespace Text

/-- The last occurrence of a code point is the one behind which it does not occur. -/
theorem beforeLast_singleton_eq_some_iff {m : CodePoint} {text before : Text} :
    beforeLast [m] text = some before ↔ ∃ after, text = before ++ m :: after ∧ m ∉ after := by
  rw [beforeLast_eq_some_iff List.not_mem_nil]
  simp only [List.singleton_infix_iff, List.singleton_append]

/-- What stands before the first newline. -/
theorem takeWhile_ne_newline_append {line : Text} (h : ofChar '\n' ∉ line) (rest : Text) :
    (line ++ rest).takeWhile (· ≠ ofChar '\n') = line ++ rest.takeWhile (· ≠ ofChar '\n') :=
  List.takeWhile_append_of_pos fun _ hc => decide_eq_true fun hnewline => h (hnewline ▸ hc)

end Text

namespace Heading

/-! ### Tokens -/

/-- The token reaches up to the last closing brace of its line, behind which `back` stands. -/
structure IsToken (token back : Text) : Prop where
  ne_nil : token ≠ []
  one_line : ofChar '\n' ∉ token
  last_brace : ofChar '\x7d' ∉ back.takeWhile (· ≠ ofChar '\n')

/-- The line that a closing brace stands on, from its token to its end. -/
theorem takeWhile_token {token : Text} (h : ofChar '\n' ∉ token) (back : Text) :
    (token ++ ofChar '\x7d' :: back).takeWhile (· ≠ ofChar '\n') =
      token ++ ofChar '\x7d' :: back.takeWhile (· ≠ ofChar '\n') := by
  rw [Text.takeWhile_ne_newline_append h]
  rfl

theorem token?_eq_some_iff {text token : Text} :
    token? text = some token ↔
      ∃ back, text = token ++ ofChar '\x7d' :: back ∧ IsToken token back := by
  have hdef : token? text = (Text.beforeLast [ofChar '\x7d']
      (text.takeWhile (· ≠ ofChar '\n'))).filter (!·.isEmpty) := rfl
  rw [hdef]
  constructor
  · intro h
    obtain ⟨hbefore, hne⟩ := Option.filter_eq_some_iff.mp h
    obtain ⟨after, hline, hafter⟩ := Text.beforeLast_singleton_eq_some_iff.mp hbefore
    have hnewline : ofChar '\n' ∉ token := by
      intro hmem
      have hmem' := List.mem_append_left (ofChar '\x7d' :: after) hmem
      rw [← hline] at hmem'
      simpa using List.mem_takeWhile_imp hmem'
    have htext : text =
        token ++ ofChar '\x7d' :: (after ++ text.dropWhile (· ≠ ofChar '\n')) := by
      rw [← List.cons_append, ← List.append_assoc, ← hline, List.takeWhile_append_dropWhile]
    refine ⟨_, htext, by simpa using hne, hnewline, ?_⟩
    rw [htext, takeWhile_token hnewline] at hline
    rw [(List.cons.inj (List.append_cancel_left hline)).2]
    exact hafter
  · rintro ⟨back, rfl, htoken⟩
    rw [takeWhile_token htoken.one_line]
    refine Option.filter_eq_some_iff.mpr ⟨?_, by simpa using htoken.ne_nil⟩
    exact Text.beforeLast_singleton_eq_some_iff.mpr ⟨_, rfl, htoken.last_brace⟩

/-! ### Markers at one place -/

/-- The marker of a token. -/
def marker (token : Text) : Text := ofChar '\x7b' :: ofChar '#' :: (token ++ [ofChar '\x7d'])

theorem marker_append (token back : Text) :
    marker token ++ back = ofChar '\x7b' :: ofChar '#' :: (token ++ ofChar '\x7d' :: back) := by
  simp [marker]

theorem newline_notMem_marker {token : Text} (h : ofChar '\n' ∉ token) :
    ofChar '\n' ∉ marker token := by
  have hbrace : ofChar '\n' ≠ ofChar '\x7b' := by decide
  have hsign : ofChar '\n' ≠ ofChar '#' := by decide
  have hclosing : ofChar '\n' ≠ ofChar '\x7d' := by decide
  simp [marker, h, hbrace, hsign, hclosing]

theorem markerAt?_eq_some_iff {c : CodePoint} {rest token : Text} :
    markerAt? c rest = some token ↔
      ∃ back, c :: rest = marker token ++ back ∧ IsToken token back := by
  constructor
  · intro h
    obtain ⟨hopening, htoken⟩ := Option.ite_none_right_eq_some.mp h
    obtain ⟨hbrace, hsign⟩ := Bool.and_eq_true_iff.mp hopening
    obtain ⟨body, rfl⟩ := Text.startsWith_iff.mp hsign
    obtain ⟨back, hbody, hback⟩ := token?_eq_some_iff.mp htoken
    have hbody' : body = token ++ ofChar '\x7d' :: back := hbody
    refine ⟨back, ?_, hback⟩
    rw [of_decide_eq_true hbrace, hbody', marker_append]
    rfl
  · rintro ⟨back, heq, hback⟩
    rw [marker_append] at heq
    obtain ⟨rfl, rfl⟩ := List.cons.inj heq
    have htoken := token?_eq_some_iff.mpr ⟨back, rfl, hback⟩
    simpa [markerAt?, Text.startsWith, Text.ofString] using htoken

theorem explicitId?_cons (c : CodePoint) (rest : Text) :
    explicitId? (c :: rest) = (markerAt? c rest).or (explicitId? rest) := by
  rw [explicitId?, Option.orElse_eq_orElse, Option.orElse_eq_or]

/-- The explicit id of a source is the token of a marker that stands in it. -/
theorem exists_marker_of_explicitId? {source token : Text} (h : explicitId? source = some token) :
    ∃ front back, source = front ++ marker token ++ back ∧ IsToken token back := by
  induction source with
  | nil => cases h
  | cons c rest ih =>
    rw [explicitId?_cons] at h
    rcases Option.or_eq_some_iff.mp h with hhere | ⟨-, hrest⟩
    · obtain ⟨back, heq, htoken⟩ := markerAt?_eq_some_iff.mp hhere
      exact ⟨[], back, heq, htoken⟩
    · obtain ⟨front, back, rfl, htoken⟩ := ih hrest
      exact ⟨c :: front, back, rfl, htoken⟩

/-! ### One step of the scan -/

theorem stripMarkers_cons {c : CodePoint} {rest : Text} (h : markerAt? c rest = none) :
    stripMarkers (c :: rest) = c :: stripMarkers rest :=
  Text.substitute_cons_of_none (by simp [markerRule, h])

theorem stripMarkers_marker {token back : Text} (h : IsToken token back) :
    stripMarkers (marker token ++ back) = stripMarkers back := by
  have hat := markerAt?_eq_some_iff.mpr ⟨back, (marker_append token back).symm, h⟩
  have hrule : markerRule '\x7b' (ofChar '#' :: (token ++ ofChar '\x7d' :: back)) =
      some ([], token.length + 2) := by simp [markerRule, hat]
  have hdrop : (ofChar '#' :: (token ++ ofChar '\x7d' :: back)).drop (token.length + 2) = back := by
    simp [← List.drop_drop]
  rw [marker_append, stripMarkers, Text.substitute_cons_of_some hrule, hdrop]
  rfl

/-- Induction over the steps of the scan. -/
theorem strip_induction {P : Text → Prop} (nil : P [])
    (keep : ∀ c rest, markerAt? c rest = none → P rest → P (c :: rest))
    (remove : ∀ token back, IsToken token back → P back → P (marker token ++ back))
    (text : Text) : P text := by
  induction hlen : text.length using Nat.strongRecOn generalizing text with
  | ind n ih =>
    subst hlen
    cases text with
    | nil => exact nil
    | cons c rest =>
      cases hat : markerAt? c rest with
      | none => exact keep c rest hat (ih rest.length (by simp) rest rfl)
      | some token =>
        obtain ⟨back, heq, htoken⟩ := markerAt?_eq_some_iff.mp hat
        rw [heq]
        refine remove token back htoken (ih back.length ?_ back rfl)
        rw [heq, marker_append]
        simp
        omega

/-- A text without markers stays as it is. -/
theorem stripMarkers_eq_self {text : Text}
    (h : ∀ front token back, text = front ++ marker token ++ back → ¬ IsToken token back) :
    stripMarkers text = text := by
  induction text using strip_induction with
  | nil => rfl
  | keep c rest hat ih =>
    rw [stripMarkers_cons hat, ih]
    intro front token back heq
    exact h (c :: front) token back (by rw [heq]; rfl)
  | remove token back htoken => exact absurd htoken (h [] token back rfl)

/-! ### The markers of a line -/

/-- No marker begins on the rest of the line. -/
def LineDone (rest : Text) : Prop :=
  ∀ front token back, rest = front ++ marker token ++ back → IsToken token back →
    ofChar '\n' ∈ front

/-- Behind a marker the line has no other. -/
theorem IsToken.lineDone {token back : Text} (h : IsToken token back) : LineDone back := by
  rintro front token' back' rfl htoken'
  by_contra hnewline
  refine h.last_brace ?_
  rw [List.append_assoc, Text.takeWhile_ne_newline_append hnewline,
    Text.takeWhile_ne_newline_append (newline_notMem_marker htoken'.one_line)]
  simp [marker]

theorem LineDone.tail {c : CodePoint} {rest : Text} (h : LineDone (c :: rest))
    (hc : c ≠ ofChar '\n') : LineDone rest := by
  rintro front token back rfl htoken
  exact List.mem_of_ne_of_mem hc.symm (h (c :: front) token back rfl htoken)

/-- Behind an opening that begins no marker, the line has none. -/
theorem lineDone_of_opening {rest : Text} (hat : markerAt? '\x7b' rest = none)
    (hhead : rest.head? = some (ofChar '#')) : LineDone rest := by
  rintro front token back rfl htoken
  by_contra hnewline
  have hsign : ofChar '\x7b' ≠ ofChar '#' := by decide
  cases front with
  | nil => exact hsign (Option.some.inj hhead)
  | cons d front =>
    obtain rfl : d = ofChar '#' := Option.some.inj hhead
    have hmarker := newline_notMem_marker htoken.one_line
    have hlonger : IsToken (front ++ ofChar '\x7b' :: ofChar '#' :: token) back := by
      refine ⟨by simp, ?_, htoken.last_brace⟩
      simp_all [marker]
    have hsome := markerAt?_eq_some_iff.mpr ⟨back, (marker_append _ back).symm, hlonger⟩
    have hrest : ofChar '#' :: front ++ marker token ++ back = ofChar '#' ::
        (front ++ ofChar '\x7b' :: ofChar '#' :: token ++ ofChar '\x7d' :: back) := by
      simp [marker]
    rw [hrest, hsome] at hat
    cases hat

/-! ### The whole scan -/

/-- No opening on the last line of `front`, one that `rest` completes included. -/
def NoOpening (front rest : Text) : Prop :=
  ∀ before line, front = before ++ ofChar '\x7b' :: line → ofChar '\n' ∉ line →
    (line ++ rest).head? ≠ some (ofChar '#')

theorem NoOpening.concat {front rest : Text} {c : CodePoint}
    (hfront : c ≠ ofChar '\n' → NoOpening front (c :: rest))
    (hhere : c = ofChar '\x7b' → rest.head? ≠ some (ofChar '#')) :
    NoOpening (front ++ [c]) rest := by
  intro before line heq hline
  rcases List.eq_nil_or_concat line with rfl | ⟨line, d, rfl⟩
  · obtain ⟨-, hc⟩ := List.append_inj' heq rfl
    exact hhere (List.cons.inj hc).1
  · rw [List.concat_eq_append] at heq hline ⊢
    rw [← List.cons_append, ← List.append_assoc] at heq
    obtain ⟨rfl, hd⟩ := List.append_inj' heq rfl
    obtain rfl : c = d := (List.cons.inj hd).1
    have hc : c ≠ ofChar '\n' := fun h => hline (by simp [h])
    have hnewline : ofChar '\n' ∉ line := fun h => hline (List.mem_append_left _ h)
    have hhead := hfront hc before line rfl hnewline
    simpa using hhead

/-- Where the scan has come to: it looks for the first opening on its line, or the line has no
marker left. -/
def IsScanPoint (front rest : Text) : Prop := LineDone rest ∨ NoOpening front rest

theorem isScanPoint_nil (text : Text) : IsScanPoint [] text := by
  refine Or.inr fun before line heq => ?_
  simp at heq

theorem IsScanPoint.keep {front rest : Text} {c : CodePoint} (hat : markerAt? c rest = none)
    (h : IsScanPoint front (c :: rest)) : IsScanPoint (front ++ [c]) rest := by
  rcases h with hdone | hnone
  · by_cases hc : c = ofChar '\n'
    · have hbrace : c ≠ ofChar '\x7b' := by rw [hc]; decide
      exact Or.inr (.concat (fun hne => absurd hc hne) fun heq => absurd heq hbrace)
    · exact Or.inl (hdone.tail hc)
  · by_cases hopening : c = ofChar '\x7b' ∧ rest.head? = some (ofChar '#')
    · obtain ⟨rfl, hhead⟩ := hopening
      exact Or.inl (lineDone_of_opening hat hhead)
    · exact Or.inr (.concat (fun _ => hnone) fun hc hhead => hopening ⟨hc, hhead⟩)

/-- A marker that the scan of `text` removes, `front` and `back` around it. -/
structure IsMarkerIn (text front token back : Text) : Prop extends IsToken token back where
  eq : text = front ++ marker token ++ back
  first : ∀ before line, front = before ++ ofChar '\x7b' :: ofChar '#' :: line → ofChar '\n' ∈ line

theorem IsScanPoint.first {front token back : Text} (htoken : IsToken token back)
    (h : IsScanPoint front (marker token ++ back)) (before line : Text)
    (heq : front = before ++ ofChar '\x7b' :: ofChar '#' :: line) : ofChar '\n' ∈ line := by
  rcases h with hdone | hnone
  · exact absurd (hdone [] token back rfl htoken) (by simp)
  · by_contra hnewline
    have hsign : ofChar '\n' ≠ ofChar '#' := by decide
    refine hnone before (ofChar '#' :: line) heq ?_ rfl
    simp [hsign, hnewline]

/-- **An invariant of the scan.** What holds of the text read and the text kept at the start, and
stays so for each code point that is kept and each marker that is removed, holds at the end. -/
theorem stripMarkers_invariant {Q : Text → Text → Prop} {text : Text} (start : Q [] [])
    (keep : ∀ front out c, Q front out → Q (front ++ [c]) (out ++ [c]))
    (remove : ∀ front token back out, IsMarkerIn text front token back → Q front out →
      Q (front ++ marker token) out) : Q text (stripMarkers text) := by
  have hscan : ∀ rest front out, text = front ++ rest → IsScanPoint front rest → Q front out →
      Q text (out ++ stripMarkers rest) := by
    intro rest
    induction rest using strip_induction with
    | nil =>
      intro front out heq _ hq
      rw [heq]
      simpa [stripMarkers, Text.substitute] using hq
    | keep c rest hat ih =>
      intro front out heq hpoint hq
      have hstep := ih (front ++ [c]) (out ++ [c]) (by simpa using heq) (hpoint.keep hat)
        (keep front out c hq)
      rw [stripMarkers_cons hat]
      simpa using hstep
    | remove token back htoken ih =>
      intro front out heq hpoint hq
      rw [← List.append_assoc] at heq
      have hmarker : IsMarkerIn text front token back := ⟨htoken, heq, hpoint.first htoken⟩
      rw [stripMarkers_marker htoken]
      exact ih _ out heq (Or.inl htoken.lineDone) (remove front token back out hmarker hq)
  exact hscan text [] [] rfl (isScanPoint_nil text) start

/-- In front of the first opening of its line, no marker begins. -/
theorem markerAt?_eq_none_of_first {c : CodePoint} {front token back : Text}
    (hline : ofChar '\n' ∉ c :: front)
    (hfirst : ∀ before line, c :: front = before ++ ofChar '\x7b' :: ofChar '#' :: line →
      ofChar '\n' ∈ line) : markerAt? c (front ++ (marker token ++ back)) = none := by
  cases hat : markerAt? c (front ++ (marker token ++ back)) with
  | none => rfl
  | some token' =>
    obtain ⟨after, heq, -⟩ := markerAt?_eq_some_iff.mp hat
    obtain ⟨rfl, htail⟩ := List.cons.inj heq
    cases front with
    | nil =>
      have hsign : ofChar '\x7b' ≠ ofChar '#' := by decide
      exact absurd (List.cons.inj htail).1 hsign
    | cons d line =>
      obtain rfl : d = ofChar '#' := (List.cons.inj htail).1
      have hmem := hfirst [] line rfl
      exact absurd (List.mem_cons_of_mem _ (List.mem_cons_of_mem _ hmem)) hline

/-- On a single line, the scan keeps what stands in front of a marker and comes to the marker. -/
theorem IsMarkerIn.scan {text front token back : Text} (h : IsMarkerIn text front token back)
    (hline : ofChar '\n' ∉ text) :
    stripMarkers text = front ++ stripMarkers (marker token ++ back) ∧
      explicitId? text = explicitId? (marker token ++ back) := by
  obtain ⟨-, rfl, hfirst⟩ := h
  rw [List.append_assoc]
  have hfront : ofChar '\n' ∉ front := by
    intro hmem
    rw [List.append_assoc] at hline
    exact hline (List.mem_append_left _ hmem)
  clear hline
  induction front with
  | nil => exact ⟨rfl, rfl⟩
  | cons c front ih =>
    have hat : markerAt? c (front ++ (marker token ++ back)) = none :=
      markerAt?_eq_none_of_first hfront hfirst
    obtain ⟨hstrip, hid⟩ := ih (fun before line heq => hfirst (c :: before) line (by rw [heq]; rfl))
      fun hmem => hfront (List.mem_cons_of_mem _ hmem)
    refine ⟨?_, ?_⟩
    · rw [List.cons_append, stripMarkers_cons hat, hstrip, List.cons_append]
    · rw [List.cons_append, explicitId?_cons, hat, hid, Option.none_or]

/-- On a single line, a marker is all that is removed. -/
theorem IsMarkerIn.stripMarkers_eq {text front token back : Text}
    (h : IsMarkerIn text front token back) (hline : ofChar '\n' ∉ text) :
    stripMarkers text = front ++ back := by
  have hback : ofChar '\n' ∉ back := by
    intro hmem
    rw [h.eq] at hline
    exact hline (List.mem_append_right _ hmem)
  have hrest : stripMarkers back = back := by
    refine stripMarkers_eq_self fun before token' after heq htoken' => hback ?_
    rw [heq, List.append_assoc]
    exact List.mem_append_left _ (h.toIsToken.lineDone before token' after heq htoken')
  rw [(h.scan hline).1, stripMarkers_marker h.toIsToken, hrest]

/-- On a single line, the token of its marker is the explicit id. -/
theorem IsMarkerIn.explicitId?_eq {text front token back : Text}
    (h : IsMarkerIn text front token back) (hline : ofChar '\n' ∉ text) :
    explicitId? text = some token := by
  have hat := markerAt?_eq_some_iff.mpr ⟨back, (marker_append token back).symm, h.toIsToken⟩
  rw [(h.scan hline).2, marker_append, explicitId?_cons, hat, Option.some_or]

theorem IsMarkerIn.front_eq_of_prefix {text front token back front' token' back' : Text}
    (h : IsMarkerIn text front token back) (h' : IsMarkerIn text front' token' back')
    (hline : ofChar '\n' ∉ text) (hpre : front <+: front') : front = front' := by
  obtain ⟨between, rfl⟩ := hpre
  have heq : marker token ++ back = between ++ (marker token' ++ back') := by
    have htext := h.eq.symm.trans h'.eq
    rw [List.append_assoc, List.append_assoc, List.append_assoc] at htext
    exact List.append_cancel_left htext
  rw [marker_append] at heq
  cases between with
  | nil => exact (List.append_nil front).symm
  | cons c rest =>
    obtain ⟨rfl, htail⟩ := List.cons.inj heq
    cases rest with
    | nil =>
      have hsign : ofChar '#' ≠ ofChar '\x7b' := by decide
      exact absurd (List.cons.inj htail).1 hsign
    | cons d line =>
      obtain rfl : ofChar '#' = d := (List.cons.inj htail).1
      have hnewline := h'.first front line rfl
      refine absurd ?_ hline
      rw [h'.eq]
      simp [hnewline]

/-- **A line has at most one marker.** -/
theorem IsMarkerIn.unique {text front token back front' token' back' : Text}
    (h : IsMarkerIn text front token back) (h' : IsMarkerIn text front' token' back')
    (hline : ofChar '\n' ∉ text) : front = front' ∧ token = token' := by
  have hfront : front = front' := by
    have hpre : front <+: text := ⟨marker token ++ back, by rw [h.eq, List.append_assoc]⟩
    have hpre' : front' <+: text := ⟨marker token' ++ back', by rw [h'.eq, List.append_assoc]⟩
    rcases List.prefix_or_prefix_of_prefix hpre hpre' with hle | hge
    · exact h.front_eq_of_prefix h' hline hle
    · exact (h'.front_eq_of_prefix h hline hge).symm
  subst hfront
  have heq : marker token ++ back = marker token' ++ back' := by
    have htext := h.eq.symm.trans h'.eq
    rw [List.append_assoc, List.append_assoc] at htext
    exact List.append_cancel_left htext
  have htoken := token?_eq_some_iff.mpr ⟨back, rfl, h.toIsToken⟩
  have htoken' := token?_eq_some_iff.mpr ⟨back', rfl, h'.toIsToken⟩
  rw [marker_append, marker_append] at heq
  rw [(List.cons.inj (List.cons.inj heq).2).2, htoken'] at htoken
  exact ⟨rfl, (Option.some.inj htoken).symm⟩

end Heading

end MarkdownRender
