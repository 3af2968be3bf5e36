import Mathlib.Algebra.Order.BigOperators.Group.List
import Mathlib.Algebra.Order.Group.Nat
import MarkdownRender.Proofs.PlainText.Outline

/-!
# Numbers of items

An ordered list numbers the lines that begin with the mark of an item. An item keeps its other
lines from beginning so by a blank, but it does so behind newlines only, whereas the list ends a
line at every boundary that Unicode knows. A mark behind any other boundary in an item is numbered
as well. So the list cuts its items before such marks and numbers the parts (`cutAtMarks`). Its
numbers are those of the items if and only if no item holds such a mark (`node_orderedList_iff`).
-/

namespace MarkdownRender.PlainText

open CodePoint (ofChar)
open Text (unlines joinLines brokenLines isLineBreak endsLine startsWith)

/-! ### Marks inside a text -/

/-- A mark stands behind a line boundary in the text. -/
def HoldsMark (text : Text) : Prop :=
  ∃ front c back, text = front ++ c :: (itemMark ++ back) ∧ isLineBreak c

/-- A mark stands behind a line boundary within a line of the text of an item. That boundary is no
newline. -/
def HasStrayMark (text : Text) : Prop := ∃ line ∈ text.strip.lines, HoldsMark line

/-- The parts of a text, cut before each mark behind a line boundary. -/
def cutAtMarks : Text → List Text
  | [] => [[]]
  | c :: rest =>
    if isLineBreak c && startsWith rest itemMark then [c] :: cutAtMarks rest
    else
      match cutAtMarks rest with
      | [] => [[c]]
      | part :: parts => (c :: part) :: parts

/-- Texts that begin with a mark, with numbers from `number` on in place of their marks. -/
def numbered (number : Nat) : List Text → Text
  | [] => []
  | part :: parts =>
    Text.decimal number ++ ". " ++ part.drop itemMark.length ++ numbered (number + 1) parts

/-- An ordered list of items. -/
def orderedListNode (items : List Text) : Node :=
  .construct (.list (items.map fun item => .construct (.listItem [.text item])) true)

theorem not_isLineBreak_of_mem_itemMark : ∀ c ∈ itemMark, ¬ isLineBreak c := by decide

theorem not_holdsMark_nil : ¬ HoldsMark [] := by
  rintro ⟨front, c, back, h, -⟩
  simp at h

theorem holdsMark_cons {c : CodePoint} {rest : Text} :
    HoldsMark (c :: rest) ↔ (isLineBreak c ∧ startsWith rest itemMark) ∨ HoldsMark rest := by
  constructor
  · rintro ⟨front, d, back, h, hd⟩
    cases front with
    | nil =>
      obtain ⟨rfl, rfl⟩ := List.cons.inj h
      exact Or.inl ⟨hd, Text.startsWith_iff.mpr ⟨back, rfl⟩⟩
    | cons e front =>
      obtain ⟨rfl, rfl⟩ := List.cons.inj h
      exact Or.inr ⟨front, d, back, rfl, hd⟩
  · rintro (⟨hc, hstart⟩ | ⟨front, d, back, rfl, hd⟩)
    · obtain ⟨back, rfl⟩ := Text.startsWith_iff.mp hstart
      exact ⟨[], c, back, rfl, hc⟩
    · exact ⟨c :: front, d, back, rfl, hd⟩

theorem startsWith_append_newline (line rest : Text) :
    startsWith (line ++ ofChar '\n' :: rest) itemMark = startsWith line itemMark := by
  have hdash : ofChar '-' ≠ ofChar '\n' := by decide
  have hblank : ofChar ' ' ≠ ofChar '\n' := by decide
  rcases line with _ | ⟨c, _ | ⟨d, line⟩⟩ <;>
    simp [startsWith, itemMark, Text.ofString, List.isPrefixOf, hdash, hblank]

theorem holdsMark_append_newline {line rest : Text} :
    HoldsMark (line ++ ofChar '\n' :: rest) ↔
      HoldsMark line ∨ startsWith rest itemMark ∨ HoldsMark rest := by
  induction line with
  | nil =>
    rw [List.nil_append, holdsMark_cons]
    simp [Text.isLineBreak_newline, not_holdsMark_nil]
  | cons c line ih =>
    rw [List.cons_append, holdsMark_cons, holdsMark_cons, startsWith_append_newline, ih]
    tauto

theorem holdsMark_append_of_unbroken {front : Text} (h : ∀ c ∈ front, ¬ isLineBreak c)
    (rest : Text) : HoldsMark (front ++ rest) ↔ HoldsMark rest := by
  induction front with
  | nil => rfl
  | cons c front ih =>
    have hc := h c List.mem_cons_self
    rw [List.cons_append, holdsMark_cons, ih fun d hd => h d (List.mem_cons_of_mem _ hd)]
    simp [hc]

/-- In lines put together a mark stands behind a boundary in a line, or begins a later line. -/
theorem holdsMark_unlines {line : Text} {others : List Text} :
    HoldsMark (unlines (line :: others)) ↔
      (∃ l ∈ line :: others, HoldsMark l) ∨ ∃ l ∈ others, startsWith l itemMark := by
  induction others generalizing line with
  | nil =>
    have hstart : ¬ startsWith [] itemMark := by decide
    rw [Text.unlines_cons, holdsMark_append_newline]
    simp [hstart, not_holdsMark_nil]
  | cons next others ih =>
    rw [Text.unlines_cons, holdsMark_append_newline, ih, Text.unlines_cons,
      startsWith_append_newline]
    simp only [List.exists_mem_cons_iff]
    grind

/-! ### Items -/

theorem listItem_eq_unlines {text first : Text} {rest : List Text}
    (h : text.strip.lines = first :: rest) :
    listItem text = unlines ((itemMark ++ first) :: rest.map indent) := by
  rw [listItem, h]
  exact Text.joinLines_cons_append_newline _ _

theorem startsWith_listItem (text : Text) : startsWith (listItem text) itemMark := by
  obtain ⟨first, rest, hlines⟩ := List.exists_cons_of_ne_nil (Text.lines_ne_nil text.strip)
  rw [listItem_eq_unlines hlines, Text.unlines_cons, List.append_assoc]
  exact Text.startsWith_iff.mpr ⟨_, rfl⟩

theorem startsWith_flatMap_listItem (item : Text) (items : List Text) :
    startsWith ((item :: items).flatMap listItem) itemMark := by
  rw [List.flatMap_cons]
  exact Text.startsWith_append (startsWith_listItem item) _

theorem not_startsWith_indent (line : Text) : ¬ startsWith (indent line) itemMark := by
  unfold indent
  split
  · decide
  · exact not_startsWith_itemMark_of_blank line

theorem holdsMark_indent (line : Text) : HoldsMark (indent line) ↔ HoldsMark line := by
  unfold indent
  split
  · next h => rw [List.isEmpty_iff.mp h]
  · exact holdsMark_append_of_unbroken (by decide) line

/-- **Where an item holds a mark**: behind no newline, since every line behind one is indented. -/
theorem holdsMark_listItem (text : Text) : HoldsMark (listItem text) ↔ HasStrayMark text := by
  obtain ⟨first, rest, hlines⟩ := List.exists_cons_of_ne_nil (Text.lines_ne_nil text.strip)
  have hfirst := holdsMark_append_of_unbroken not_isLineBreak_of_mem_itemMark first
  rw [listItem_eq_unlines hlines, holdsMark_unlines, HasStrayMark, hlines]
  simp [hfirst, holdsMark_indent, not_startsWith_indent]

/-! ### Parts -/

theorem cutAtMarks_ne_nil (text : Text) : cutAtMarks text ≠ [] := by
  cases text with
  | nil => exact List.cons_ne_nil _ _
  | cons c rest =>
    unfold cutAtMarks
    split
    · exact List.cons_ne_nil _ _
    · split <;> exact List.cons_ne_nil _ _

theorem cutAtMarks_cons {c : CodePoint} {rest part : Text} {parts : List Text}
    (h : ¬ (isLineBreak c && startsWith rest itemMark)) (hrest : cutAtMarks rest = part :: parts) :
    cutAtMarks (c :: rest) = (c :: part) :: parts := by
  rw [cutAtMarks, if_neg h, hrest]

/-- Nothing is lost by cutting a text. -/
theorem flatten_cutAtMarks (text : Text) : (cutAtMarks text).flatten = text := by
  induction text with
  | nil => rfl
  | cons c rest ih =>
    obtain ⟨part, parts, hcut⟩ := List.exists_cons_of_ne_nil (cutAtMarks_ne_nil rest)
    by_cases h : isLineBreak c && startsWith rest itemMark
    · rw [cutAtMarks, if_pos h, List.flatten_cons, ih]
      rfl
    · rw [hcut] at ih
      rw [cutAtMarks_cons h hcut, ← ih]
      rfl

theorem length_cutAtMarks_eq_one_iff (text : Text) :
    (cutAtMarks text).length = 1 ↔ ¬ HoldsMark text := by
  induction text with
  | nil => exact iff_of_true rfl not_holdsMark_nil
  | cons c rest ih =>
    obtain ⟨part, parts, hcut⟩ := List.exists_cons_of_ne_nil (cutAtMarks_ne_nil rest)
    rw [holdsMark_cons]
    by_cases h : isLineBreak c && startsWith rest itemMark
    · rw [cutAtMarks, if_pos h, hcut]
      simp_all
    · rw [cutAtMarks_cons h hcut]
      rw [hcut] at ih
      simp_all

theorem cutAtMarks_of_not_holdsMark {text : Text} (h : ¬ HoldsMark text) :
    cutAtMarks text = [text] := by
  obtain ⟨part, hpart⟩ := List.length_eq_one_iff.mp ((length_cutAtMarks_eq_one_iff text).mpr h)
  have hflatten := flatten_cutAtMarks text
  rw [hpart] at hflatten ⊢
  simpa using hflatten

theorem length_cutAtMarks_pos (text : Text) : 0 < (cutAtMarks text).length :=
  List.length_pos_iff.mpr (cutAtMarks_ne_nil text)

theorem one_lt_length_cutAtMarks {text : Text} (h : HoldsMark text) :
    1 < (cutAtMarks text).length := by
  have hpos := length_cutAtMarks_pos text
  have hne : (cutAtMarks text).length ≠ 1 :=
    fun hone => (length_cutAtMarks_eq_one_iff text).mp hone h
  omega

/-- A text that begins with a mark is cut off from a line before it. -/
theorem cutAtMarks_append {rest : Text} (h : startsWith rest itemMark) (front : Text) :
    cutAtMarks (front ++ ofChar '\n' :: rest) =
      cutAtMarks (front ++ [ofChar '\n']) ++ cutAtMarks rest := by
  induction front with
  | nil =>
    have hnewline : isLineBreak '\n' && startsWith rest itemMark := by
      simp [Text.isLineBreak_newline, h]
    rw [List.nil_append, cutAtMarks, if_pos hnewline]
    rfl
  | cons c front ih =>
    obtain ⟨part, parts, hcut⟩ :=
      List.exists_cons_of_ne_nil (cutAtMarks_ne_nil (front ++ [ofChar '\n']))
    have hstart : startsWith (front ++ [ofChar '\n']) itemMark =
        startsWith (front ++ ofChar '\n' :: rest) itemMark := by
      rw [startsWith_append_newline, startsWith_append_newline]
    rw [List.cons_append, List.cons_append]
    by_cases hc : isLineBreak c && startsWith (front ++ [ofChar '\n']) itemMark
    · rw [cutAtMarks, cutAtMarks, ← hstart, if_pos hc, if_pos hc, ih]
      rfl
    · rw [hcut] at ih
      rw [cutAtMarks_cons (hstart ▸ hc) ih, cutAtMarks_cons hc hcut]
      rfl

/-- Items are cut one by one. -/
theorem cutAtMarks_flatMap_listItem {items : List Text} (h : items ≠ []) :
    cutAtMarks (items.flatMap listItem) = items.flatMap fun item => cutAtMarks (listItem item) := by
  induction items with
  | nil => contradiction
  | cons item items ih =>
    cases items with
    | nil => simp
    | cons next items =>
      obtain ⟨first, rest, hlines⟩ := List.exists_cons_of_ne_nil (Text.lines_ne_nil item.strip)
      have hitem := (listItem_eq_unlines hlines).trans
        (Text.joinLines_cons_append_newline _ _).symm
      have hcut := ih (List.cons_ne_nil next items)
      rw [List.flatMap_cons, List.flatMap_cons (f := fun i => cutAtMarks (listItem i)), ← hcut,
        hitem, List.append_assoc]
      exact cutAtMarks_append (startsWith_flatMap_listItem next items) _

/-! ### Numbered lines -/

theorem startsWith_head_brokenLines {text line : Text} {others : List Text}
    (h : brokenLines text = line :: others) :
    startsWith line itemMark = startsWith text itemMark := by
  rw [Bool.eq_iff_iff]
  constructor
  · intro hline
    have htext := Text.flatten_brokenLines text
    rw [h, List.flatten_cons] at htext
    rw [← htext]
    exact Text.startsWith_append hline _
  · intro htext
    obtain ⟨back, hback⟩ := Text.startsWith_iff.mp htext
    obtain ⟨tail, others', hlines⟩ :=
      Text.exists_brokenLines_append (by decide) not_isLineBreak_of_mem_itemMark back
    rw [hback, h] at hlines
    rw [(List.cons.inj hlines).1]
    exact Text.startsWith_iff.mpr ⟨_, rfl⟩

theorem numberItems_cons_of_startsWith {line middle : Text} {others parts : List Text}
    (hline : startsWith line itemMark)
    (hothers : ∀ count, numberItems count others = middle ++ numbered (count + 1) parts)
    (count : Nat) :
    numberItems count (line :: others) = numbered (count + 1) ((line ++ middle) :: parts) := by
  obtain ⟨back, rfl⟩ := Text.startsWith_iff.mp hline
  have hdrop : (itemMark ++ back ++ middle).drop itemMark.length = back ++ middle := by
    rw [List.append_assoc]
    exact List.drop_left
  have hdrop' : (itemMark ++ back).drop itemMark.length = back := List.drop_left
  rw [numberItems, if_pos hline, hothers, numbered, hdrop, hdrop']
  simp only [List.append_assoc]

/-- The lines behind the first one are numbered like the parts behind the first one. -/
theorem exists_numberItems {text : Text} (h : text ≠ []) :
    ∃ line others middle parts, brokenLines text = line :: others ∧
      cutAtMarks text = (line ++ middle) :: parts ∧
      ∀ count, numberItems count others = middle ++ numbered (count + 1) parts := by
  induction text with
  | nil => contradiction
  | cons c rest ih =>
    by_cases hrest : rest = []
    · subst hrest
      have hcut : ¬ (isLineBreak c && startsWith [] itemMark) := by
        simp [startsWith, itemMark, Text.ofString]
      refine ⟨[c], [], [], [], ?_, cutAtMarks_cons hcut rfl, fun count => rfl⟩
      unfold brokenLines
      split <;> rfl
    obtain ⟨line, others, middle, parts, hlines, hcut, hcount⟩ := ih hrest
    have hline := startsWith_head_brokenLines hlines
    by_cases hends : endsLine c rest
    · have hbreak : isLineBreak c := (Bool.and_eq_true_iff.mp hends).1
      have hcons : brokenLines (c :: rest) = [c] :: line :: others := by
        rw [brokenLines, if_pos hends, hlines]
      by_cases hstart : startsWith rest itemMark
      · -- the next line begins a part of its own
        refine ⟨[c], line :: others, [], (line ++ middle) :: parts, hcons, ?_, fun count => ?_⟩
        · rw [cutAtMarks, if_pos (by simp [hbreak, hstart]), hcut]
          rfl
        · exact numberItems_cons_of_startsWith (hline.trans hstart) hcount count
      · refine ⟨[c], line :: others, line ++ middle, parts, hcons, ?_, fun count => ?_⟩
        · exact cutAtMarks_cons (by simp [hstart]) hcut
        · rw [numberItems, hline, if_neg hstart, hcount, List.append_assoc]
    · have hcons : brokenLines (c :: rest) = (c :: line) :: others := by
        rw [brokenLines, if_neg hends, hlines]
      refine ⟨c :: line, others, middle, parts, hcons, cutAtMarks_cons ?_ hcut, hcount⟩
      -- a carriage return that ends no line stands before a newline, and not before a mark
      intro hmark
      obtain ⟨hbreak, hstart⟩ := Bool.and_eq_true_iff.mp hmark
      obtain ⟨back, rfl⟩ := Text.startsWith_iff.mp hstart
      refine hends ?_
      rw [endsLine, hbreak]
      have hdash : startsWith (itemMark ++ back) "\n" = false := rfl
      simp [hdash]

/-- **What an ordered list numbers**: the parts of its items. -/
theorem list_listItems (items : List Text) :
    list (items.flatMap listItem) true =
      numbered 1 (items.flatMap fun item => cutAtMarks (listItem item)) ++ "\n" := by
  rw [list, if_pos rfl]
  congr 1
  cases items with
  | nil => rfl
  | cons item items =>
    have hstart := startsWith_flatMap_listItem item items
    have hne : (item :: items).flatMap listItem ≠ [] := by
      intro hnil
      rw [hnil] at hstart
      exact absurd hstart (by decide)
    obtain ⟨line, others, middle, parts, hlines, hcut, hcount⟩ := exists_numberItems hne
    rw [← cutAtMarks_flatMap_listItem (List.cons_ne_nil item items), hlines, hcut]
    exact numberItems_cons_of_startsWith ((startsWith_head_brokenLines hlines).trans hstart)
      hcount 0

/-! ### Lengths -/

/-- The length of `count` numerals from that of `number` on. -/
def numeralsLength (number : Nat) : Nat → Nat
  | 0 => 0
  | count + 1 => (Text.decimal number).length + numeralsLength (number + 1) count

theorem numeralsLength_strictMono (number : Nat) : StrictMono (numeralsLength number) := by
  refine strictMono_nat_of_lt_succ fun count => ?_
  induction count generalizing number with
  | zero =>
    have hpos : 0 < (Text.decimal number).length := by
      simp [Text.decimal, Nat.length_toDigits_pos]
    simpa [numeralsLength] using hpos
  | succ count ih =>
    rw [numeralsLength, numeralsLength]
    exact Nat.add_lt_add_left (ih (number + 1)) _

theorem le_length_numbered (number : Nat) (parts : List Text) :
    parts.flatten.length + numeralsLength number parts.length ≤ (numbered number parts).length := by
  induction parts generalizing number with
  | nil => exact Nat.le_refl _
  | cons part parts ih =>
    have hrest := ih (number + 1)
    have hmark : itemMark.length = 2 := rfl
    have hpoint : (Text.ofString ". ").length = 2 := rfl
    simp only [numbered, List.length_append, List.length_drop, List.flatten_cons,
      List.length_cons, numeralsLength, hmark, hpoint]
    omega

theorem length_numbered {parts : List Text} (h : ∀ part ∈ parts, startsWith part itemMark)
    (number : Nat) :
    (numbered number parts).length =
      parts.flatten.length + numeralsLength number parts.length := by
  induction parts generalizing number with
  | nil => rfl
  | cons part parts ih =>
    obtain ⟨back, rfl⟩ := Text.startsWith_iff.mp (h part List.mem_cons_self)
    have hrest := ih (fun p hp => h p (List.mem_cons_of_mem _ hp)) (number + 1)
    have hmark : itemMark.length = 2 := rfl
    have hpoint : (Text.ofString ". ").length = 2 := rfl
    simp only [numbered, List.length_append, List.length_drop, List.flatten_cons,
      List.length_cons, numeralsLength, hmark, hpoint]
    omega

/-- Parts that are more than the items get more numerals. -/
theorem numbered_parts_eq_iff (items : List Text) :
    numbered 1 (items.flatMap fun item => cutAtMarks (listItem item)) =
        numbered 1 (items.map listItem) ↔
      ∀ item ∈ items, ¬ HasStrayMark item := by
  constructor
  · intro heq item hitem hstray
    have hmore := one_lt_length_cutAtMarks ((holdsMark_listItem item).mpr hstray)
    have hcount : items.length < (items.flatMap fun i => cutAtMarks (listItem i)).length := by
      have hsum := List.sum_lt_sum (fun _ => 1) (fun i => (cutAtMarks (listItem i)).length)
        (fun i _ => length_cutAtMarks_pos (listItem i)) ⟨item, hitem, hmore⟩
      rw [List.length_flatMap]
      simpa using hsum
    have hflatten : (items.flatMap fun i => cutAtMarks (listItem i)).flatten =
        (items.map listItem).flatten := by
      simp [List.flatMap_def, List.flatten_flatten, flatten_cutAtMarks, Function.comp_def]
    have hle := le_length_numbered 1 (items.flatMap fun i => cutAtMarks (listItem i))
    have hitems := length_numbered
      (List.forall_mem_map.mpr fun i (_ : i ∈ items) => startsWith_listItem i) 1
    have hnumerals := numeralsLength_strictMono 1 hcount
    rw [heq, hitems, hflatten, List.length_map] at hle
    omega
  · intro h
    have hcut : ∀ item ∈ items, cutAtMarks (listItem item) = [listItem item] :=
      fun item hitem => cutAtMarks_of_not_holdsMark (mt (holdsMark_listItem item).mp (h item hitem))
    rw [List.flatMap_congr hcut, List.map_eq_flatMap]

/-! ### Ordered lists -/

/-- **What an ordered list of items comes to**, whatever the options. It numbers the parts of its
items, and these are the items themselves if and only if none of them holds a mark behind a line
boundary within a line. -/
theorem node_orderedList_iff (o : RenderOptions) (items : List Text) :
    Renderer.node ⟨.plainText, o⟩ (orderedListNode items) =
      pure (numbered 1 (items.flatMap fun item => cutAtMarks (listItem item)) ++ "\n") ∧
    (Renderer.node ⟨.plainText, o⟩ (orderedListNode items) =
        pure (numbered 1 (items.map listItem) ++ "\n") ↔
      ∀ item ∈ items, ¬ HasStrayMark item) := by
  have hitem : ∀ item : Text,
      Renderer.node ⟨.plainText, o⟩ (.construct (.listItem [.text item])) = pure (listItem item) :=
    fun item => node_listItem (by simp [Renderer.nodes, Renderer.node])
  have hnode : Renderer.node ⟨.plainText, o⟩ (orderedListNode items) =
      pure (numbered 1 (items.flatMap fun item => cutAtMarks (listItem item)) ++ "\n") := by
    rw [orderedListNode, node_list (nodes_map hitem items), list_listItems]
  refine ⟨hnode, ?_⟩
  rw [hnode, Attempt.pure_inj, List.append_left_inj, numbered_parts_eq_iff]

/-- The boundary behind a newline is no matter, and neither is a mark within a line. -/
example : list (listItem "a - b\n- c" ++ listItem "d") true =
    Text.ofString "1. a - b\n  - c\n2. d\n\n" := by
  decide +kernel

/-- A mark behind a carriage return is numbered like the mark of an item. -/
theorem orderedList_numbers_stray_mark :
    Renderer.node ⟨.plainText, {}⟩ (orderedListNode ["a\r- b"]) =
        pure (Text.ofString "1. a\r2. b\n\n") ∧
      numbered 1 ([Text.ofString "a\r- b"].map listItem) ++ "\n" =
        Text.ofString "1. a\r- b\n\n" ∧
      Text.ofString "1. a\r2. b\n\n" ≠ Text.ofString "1. a\r- b\n\n" := by
  refine ⟨rfl, rfl, ?_⟩
  decide

end MarkdownRender.PlainText
