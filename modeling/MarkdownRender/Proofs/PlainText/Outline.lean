import MarkdownRender.Proofs.Text.Lines
import MarkdownRender.Proofs.Text.Numeral
import MarkdownRender.Render.Renderer

/-!
# Nested lists as outlines

An outline is drawn from the top: each entry stands on a line of its own, behind two spaces for
each list around its own list and behind the mark that its own list gives it. Plain text is
rendered from the bottom, and each list around an entry touches its line again: an item indents
the lines that it is given, and an ordered list looks for the lines that still begin with the mark
of an item. `node_outline` says that both come to the same. What carries the induction is that a
rendered item has its mark on its first line and a blank in front of every other line.
-/

namespace MarkdownRender.PlainText

open CodePoint (ofChar)
open Text (unlines joinLines isLineBreak)

/-! ### Outlines and their drawings -/

/-- A text that takes one line and that no white space is cut off from. -/
structure Label where
  text : Text
  ne_nil : text ≠ []
  head_not_blank : ∀ c ∈ text.head?, ¬ c.isBlank
  last_not_blank : ∀ c ∈ text.getLast?, ¬ c.isBlank
  one_line : ∀ c ∈ text, ¬ isLineBreak c

/-- A label, with or without a list nested under it. -/
inductive Entry where
  | leaf (label : Label)
  | branch (label : Label) (ordered : Bool) (entries : List Entry)

/-- A list of entries, ordered or not. -/
structure Outline where
  ordered : Bool
  entries : List Entry

/-- What stands in front of the entry at `place` in its list, counted from one. -/
def entryMark (ordered : Bool) (place : Nat) : Text :=
  if ordered then Text.decimal place ++ ". " else "- "

/-- Two spaces for each level. -/
def margin (depth : Nat) : Text := List.replicate (2 * depth) ' '

mutual

/-- The lines of an entry: its own, and those of the list nested under it. -/
def Entry.drawn (depth : Nat) (mark : Text) : Entry → List Text
  | .leaf label => [margin depth ++ mark ++ label.text]
  | .branch label ordered entries =>
    (margin depth ++ mark ++ label.text) :: drawnFrom (depth + 1) ordered 1 entries

/-- The lines of the entries of a list from `place` on. -/
def drawnFrom (depth : Nat) (ordered : Bool) (place : Nat) : List Entry → List Text
  | [] => []
  | entry :: rest =>
    entry.drawn depth (entryMark ordered place) ++ drawnFrom depth ordered (place + 1) rest

end

/-- The lines of an outline, and an empty line after them. -/
def Outline.drawing (outline : Outline) : Text :=
  unlines (drawnFrom 0 outline.ordered 1 outline.entries) ++ "\n"

/-! ### Outlines as nodes -/

mutual

/-- An item with the label, and with the nested list on the lines behind it. -/
def Entry.node : Entry → Node
  | .leaf label => .construct (.listItem [.text label.text])
  | .branch label ordered entries =>
    .construct (.listItem
      [.text (label.text ++ "\n"), .construct (.list (entryNodes entries) ordered)])

def entryNodes : List Entry → List Node
  | [] => []
  | entry :: rest => entry.node :: entryNodes rest

end

/-- A list of the items of the entries. -/
def Outline.node (outline : Outline) : Node :=
  .construct (.list (entryNodes outline.entries) outline.ordered)

/-! ### The lines of a drawing -/

theorem margin_succ (depth : Nat) : margin (depth + 1) = "  " ++ margin depth := by
  have h : 2 * (depth + 1) = 2 * depth + 1 + 1 := by omega
  rw [margin, margin, h, List.replicate_succ, List.replicate_succ]
  rfl

mutual

theorem Entry.drawn_succ (depth : Nat) (mark : Text) :
    (entry : Entry) → entry.drawn (depth + 1) mark =
      (entry.drawn depth mark).map (Text.ofString "  " ++ ·)
  | .leaf label => by simp [Entry.drawn, margin_succ]
  | .branch label ordered entries => by
    simp [Entry.drawn, margin_succ, drawnFrom_succ (depth + 1) ordered 1 entries]

/-- A list one level deeper is the same list with every line indented. -/
theorem drawnFrom_succ (depth : Nat) (ordered : Bool) (place : Nat) :
    (entries : List Entry) → drawnFrom (depth + 1) ordered place entries =
      (drawnFrom depth ordered place entries).map (Text.ofString "  " ++ ·)
  | [] => rfl
  | entry :: rest => by
    rw [drawnFrom, drawnFrom, entry.drawn_succ depth, drawnFrom_succ depth ordered _ rest,
      List.map_append]

end

/-- A line of a drawing ends with a label, and takes one line. -/
def IsDrawnLine (line : Text) : Prop :=
  ∃ (front : Text) (label : Label), line = front ++ label.text ∧ ∀ c ∈ front, ¬ isLineBreak c

theorem not_isLineBreak_of_mem_margin (depth : Nat) : ∀ c ∈ margin depth, ¬ isLineBreak c := by
  intro c hc
  rw [List.eq_of_mem_replicate hc]
  decide

theorem not_isLineBreak_of_mem_entryMark (ordered : Bool) (place : Nat) :
    ∀ c ∈ entryMark ordered place, ¬ isLineBreak c := by
  have hdigits : ∀ c ∈ Text.decimalDigits, ¬ isLineBreak c := by decide
  have hdot : ∀ c ∈ Text.ofString ". ", ¬ isLineBreak c := by decide
  have hdash : ∀ c ∈ Text.ofString "- ", ¬ isLineBreak c := by decide
  cases ordered with
  | false => exact hdash
  | true =>
    refine List.forall_mem_append.mpr ⟨fun c hc => ?_, hdot⟩
    exact hdigits c (Text.mem_decimalDigits_of_mem_decimal hc)

mutual

theorem Entry.isDrawnLine (depth : Nat) (mark : Text) (hmark : ∀ c ∈ mark, ¬ isLineBreak c) :
    (entry : Entry) → ∀ line ∈ entry.drawn depth mark, IsDrawnLine line
  | .leaf label => by
    intro line hline
    rw [List.mem_singleton.mp hline]
    exact ⟨margin depth ++ mark, label, rfl,
      List.forall_mem_append.mpr ⟨not_isLineBreak_of_mem_margin depth, hmark⟩⟩
  | .branch label ordered entries => by
    intro line hline
    rcases List.mem_cons.mp hline with rfl | hline
    · exact ⟨margin depth ++ mark, label, rfl,
        List.forall_mem_append.mpr ⟨not_isLineBreak_of_mem_margin depth, hmark⟩⟩
    · exact isDrawnLine_of_mem (depth + 1) ordered 1 entries line hline

theorem isDrawnLine_of_mem (depth : Nat) (ordered : Bool) (place : Nat) :
    (entries : List Entry) → ∀ line ∈ drawnFrom depth ordered place entries, IsDrawnLine line
  | [] => by simp [drawnFrom]
  | entry :: rest => by
    intro line hline
    rcases List.mem_append.mp hline with hline | hline
    · exact entry.isDrawnLine depth _ (not_isLineBreak_of_mem_entryMark ordered place) line hline
    · exact isDrawnLine_of_mem depth ordered (place + 1) rest line hline

end

namespace IsDrawnLine

variable {line : Text}

theorem ne_nil (h : IsDrawnLine line) : line ≠ [] := by
  obtain ⟨front, label, rfl, -⟩ := h
  simp [label.ne_nil]

theorem last_not_blank (h : IsDrawnLine line) : ∀ c ∈ line.getLast?, ¬ c.isBlank := by
  obtain ⟨front, label, rfl, -⟩ := h
  rw [List.getLast?_append_of_ne_nil _ label.ne_nil]
  exact label.last_not_blank

theorem one_line (h : IsDrawnLine line) : ∀ c ∈ line, ¬ isLineBreak c := by
  obtain ⟨front, label, rfl, hfront⟩ := h
  exact List.forall_mem_append.mpr ⟨hfront, label.one_line⟩

theorem newline_notMem (h : IsDrawnLine line) : ofChar '\n' ∉ line :=
  fun hmem => h.one_line _ hmem Text.isLineBreak_newline

end IsDrawnLine

theorem Label.isDrawnLine (label : Label) : IsDrawnLine label.text :=
  ⟨[], label, rfl, by simp⟩

/-! ### Items -/

/-- **An item indents the lines below its first**, and drops the empty lines after them. -/
theorem listItem_drawn (label : Label) {lines : List Text} (h : ∀ line ∈ lines, IsDrawnLine line)
    {blanks : Text} (hblanks : ∀ c ∈ blanks, c.isBlank) :
    listItem (joinLines (label.text :: lines) ++ blanks) =
      unlines ((itemMark ++ label.text) :: lines.map (Text.ofString "  " ++ ·)) := by
  have hall : ∀ line ∈ label.text :: lines, IsDrawnLine line :=
    List.forall_mem_cons.mpr ⟨label.isDrawnLine, h⟩
  have hlast := Text.getLast?_joinLines_cons label.text lines fun line hl => (hall line hl).ne_nil
  have hstrip : Text.strip (joinLines (label.text :: lines) ++ blanks) =
      joinLines (label.text :: lines) := by
    refine Text.strip_append_blanks ?_ ?_ ?_ hblanks
    · exact Text.joinLines_cons_ne_nil label.ne_nil lines
    · rw [Text.head?_joinLines_cons label.ne_nil]
      exact label.head_not_blank
    · rw [hlast]
      exact (hall _ (List.getLast_mem _)).last_not_blank
  have hlines := Text.lines_joinLines fun line hl => (hall line hl).newline_notMem
  have hindent : lines.map indent = lines.map (Text.ofString "  " ++ ·) := by
    refine List.map_congr_left fun line hl => ?_
    simp [indent, (h line hl).ne_nil]
  rw [listItem, hstrip, hlines]
  exact hindent ▸ Text.joinLines_cons_append_newline (itemMark ++ label.text) (lines.map indent)

/-! ### Lists -/

/-- Lines that begin with no mark are not counted. -/
theorem numberItems_append_unmarked {lines : List Text}
    (h : ∀ line ∈ lines, ¬ Text.startsWith line itemMark) (count : Nat) (rest : List Text) :
    numberItems count (lines ++ rest) = lines.flatten ++ numberItems count rest := by
  induction lines with
  | nil => rfl
  | cons line lines ih =>
    rw [List.cons_append, numberItems, if_neg (h line List.mem_cons_self),
      ih fun l hl => h l (List.mem_cons_of_mem _ hl), List.flatten_cons, List.append_assoc]

theorem not_startsWith_itemMark_of_blank (rest : Text) :
    ¬ Text.startsWith (Text.ofString "  " ++ rest) itemMark := by
  intro hstart
  obtain ⟨more, hmore⟩ := Text.startsWith_iff.mp hstart
  have hhead : ofChar '-' = ofChar ' ' := (List.cons.inj hmore).1
  exact absurd hhead (by decide)

/-- What an entry draws: a line with its mark, and indented lines. -/
theorem Entry.exists_drawn (entry : Entry) : ∃ (label : Label) (nested : List Text),
    ∀ mark : Text, entry.drawn 0 mark =
      (mark ++ label.text) :: nested.map (Text.ofString "  " ++ ·) := by
  cases entry with
  | leaf label => exact ⟨label, [], fun mark => rfl⟩
  | branch label ordered entries =>
    refine ⟨label, drawnFrom 0 ordered 1 entries, fun mark => ?_⟩
    rw [Entry.drawn, drawnFrom_succ 0]
    rfl

/-- **Numbering an ordered list** gives each entry its place and leaves the lines of nested lists
alone. -/
theorem numberItems_drawn (entries : List Entry) (count : Nat) :
    numberItems count ((entries.flatMap (·.drawn 0 itemMark)).map (· ++ [ofChar '\n'])) =
      unlines (drawnFrom 0 true (count + 1) entries) := by
  induction entries generalizing count with
  | nil => rfl
  | cons entry rest ih =>
    obtain ⟨label, nested, hdrawn⟩ := entry.exists_drawn
    have hmark : Text.startsWith (itemMark ++ label.text ++ [ofChar '\n']) itemMark :=
      Text.startsWith_iff.mpr ⟨label.text ++ [ofChar '\n'], by simp⟩
    have hnested : ∀ line ∈ (nested.map (Text.ofString "  " ++ ·)).map (· ++ [ofChar '\n']),
        ¬ Text.startsWith line itemMark := by
      intro line hline
      obtain ⟨_, hmem, rfl⟩ := List.mem_map.mp hline
      obtain ⟨tail, -, rfl⟩ := List.mem_map.mp hmem
      exact not_startsWith_itemMark_of_blank _
    rw [List.flatMap_cons, List.map_append, hdrawn, List.map_cons, List.cons_append, numberItems,
      if_pos hmark, numberItems_append_unmarked hnested, ih, drawnFrom, hdrawn]
    simp [entryMark, unlines, List.flatMap_def]

theorem drawnFrom_unordered (entries : List Entry) (place : Nat) :
    drawnFrom 0 false place entries = entries.flatMap (·.drawn 0 itemMark) := by
  induction entries generalizing place with
  | nil => rfl
  | cons entry rest ih => rw [drawnFrom, ih, List.flatMap_cons]; rfl

/-- A list of rendered items is the drawing of the list. -/
theorem list_drawn (entries : List Entry) (ordered : Bool) :
    list (unlines (entries.flatMap (·.drawn 0 itemMark))) ordered =
      unlines (drawnFrom 0 ordered 1 entries) ++ "\n" := by
  cases ordered with
  | false => rw [list, drawnFrom_unordered]; rfl
  | true =>
    have hone : ∀ line ∈ entries.flatMap (·.drawn 0 itemMark), ∀ c ∈ line, ¬ isLineBreak c := by
      intro line hline
      rw [← drawnFrom_unordered entries 1] at hline
      exact (isDrawnLine_of_mem 0 false 1 entries line hline).one_line
    rw [list, if_pos rfl, Text.brokenLines_unlines hone, numberItems_drawn]

/-! ### Outlines -/

section Rendering

variable {o : RenderOptions} {nodes : List Node} {text : Text}

theorem node_listItem (h : Renderer.nodes ⟨.plainText, o⟩ nodes = pure text) :
    Renderer.node ⟨.plainText, o⟩ (.construct (.listItem nodes)) = pure (listItem text) := by
  simp only [Renderer.node, Renderer.parts, h, pure_bind]
  rfl

theorem node_list (h : Renderer.nodes ⟨.plainText, o⟩ nodes = pure text) (ordered : Bool) :
    Renderer.node ⟨.plainText, o⟩ (.construct (.list nodes ordered)) =
      pure (list text ordered) := by
  simp only [Renderer.node, Renderer.parts, h, pure_bind]
  rfl

theorem nodes_pair {first second : Node} {text' : Text}
    (hfirst : Renderer.node ⟨.plainText, o⟩ first = pure text)
    (hsecond : Renderer.node ⟨.plainText, o⟩ second = pure text') :
    Renderer.nodes ⟨.plainText, o⟩ [first, second] = pure (text ++ text') := by
  simp only [Renderer.nodes, hfirst, hsecond, pure_bind, List.append_nil]

theorem nodes_map {α : Type} {node : α → Node} {output : α → Text}
    (h : ∀ a, Renderer.node ⟨.plainText, o⟩ (node a) = pure (output a)) (items : List α) :
    Renderer.nodes ⟨.plainText, o⟩ (items.map node) = pure (items.flatMap output) := by
  induction items with
  | nil => rfl
  | cons a rest ih =>
    simp only [List.map_cons, Renderer.nodes, h a, ih, pure_bind, List.flatMap_cons]

/-- What stands in an item with a nested list: its lines, and two newlines behind them. -/
theorem text_append_drawing (text : Text) (lines : List Text) :
    text ++ Text.ofString "\n" ++ (unlines lines ++ Text.ofString "\n") =
      joinLines (text :: lines) ++ Text.ofString "\n\n" := by
  have hjoin := Text.joinLines_cons_append_newline text lines
  calc text ++ Text.ofString "\n" ++ (unlines lines ++ Text.ofString "\n")
      = unlines (text :: lines) ++ Text.ofString "\n" := by simp [Text.ofString]
    _ = joinLines (text :: lines) ++ Text.ofString "\n\n" := by
      rw [← hjoin, List.append_assoc]
      rfl

mutual

theorem node_entry : (entry : Entry) →
    Renderer.node ⟨.plainText, o⟩ entry.node = pure (unlines (entry.drawn 0 itemMark))
  | .leaf label => by
    have hnodes : Renderer.nodes ⟨.plainText, o⟩ [.text label.text] =
        pure (joinLines [label.text] ++ []) := by
      simp [Renderer.nodes, Renderer.node, joinLines, Text.join]
    rw [Entry.node, node_listItem hnodes, listItem_drawn label (by simp) (by simp)]
    rfl
  | .branch label ordered entries => by
    have hlist : Renderer.node ⟨.plainText, o⟩ (.construct (.list (entryNodes entries) ordered)) =
        pure (unlines (drawnFrom 0 ordered 1 entries) ++ Text.ofString "\n") := by
      rw [node_list (nodes_entryNodes entries), list_drawn]
    have htext : Renderer.node ⟨.plainText, o⟩ (.text (label.text ++ Text.ofString "\n")) =
        pure (label.text ++ Text.ofString "\n") := by rw [Renderer.node]
    have hnodes := nodes_pair htext hlist
    rw [text_append_drawing] at hnodes
    rw [Entry.node, node_listItem hnodes,
      listItem_drawn label (isDrawnLine_of_mem 0 ordered 1 entries) (by decide), Entry.drawn,
      drawnFrom_succ 0]
    rfl

/-- **Items are rendered as they are drawn** in an unordered list at the margin. -/
theorem nodes_entryNodes : (entries : List Entry) →
    Renderer.nodes ⟨.plainText, o⟩ (entryNodes entries) =
      pure (unlines (entries.flatMap (·.drawn 0 itemMark)))
  | [] => rfl
  | entry :: rest => by
    rw [entryNodes, Renderer.nodes, node_entry entry, nodes_entryNodes rest]
    simp

end

/-- **A nested list is drawn as its outline**, whatever the options. -/
theorem node_outline (o : RenderOptions) (outline : Outline) :
    Renderer.node ⟨.plainText, o⟩ outline.node = pure outline.drawing := by
  rw [Outline.node, node_list (nodes_entryNodes outline.entries), list_drawn]
  rfl

end Rendering

/-- The marks of an outer and an inner list side by side. -/
example : Outline.drawing ⟨true,
    [.branch ⟨"a", by decide, by decide, by decide, by decide⟩ false
      [.leaf ⟨"- x", by decide, by decide, by decide, by decide⟩],
     .leaf ⟨"b", by decide, by decide, by decide, by decide⟩]⟩ =
    Text.ofString "1. a\n  - - x\n2. b\n\n" := by
  decide +kernel

end MarkdownRender.PlainText
