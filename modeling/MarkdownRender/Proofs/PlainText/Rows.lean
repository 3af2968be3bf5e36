import MarkdownRender.Proofs.PlainText.Outline

/-!
# Rows of cells

A newline ends each cell, and a row takes its cells apart at the newlines again. First it cuts off
the newlines at its end, and not only the one that ends its last cell: an empty cell is nothing but
a newline, so the empty cells at the end of a row are cut off with it. `node_row` says which
columns are left, and that all of them are if and only if the row has a single cell or ends with
one that is not empty. Empty cells elsewhere keep their columns, and a row always takes one line.
-/

namespace MarkdownRender.PlainText

open CodePoint (ofChar)
open Text (unlines joinLines)

/-! ### Cells and columns -/

/-- A cell of a row, with whatever flags it is given. -/
structure Cell where
  content : Text
  flags : CellFlagsInput

/-- What a cell shows: its content, with a blank for each newline. -/
def Cell.shown (cell : Cell) : Text :=
  cell.content.map fun c => if c = ofChar '\n' then ofChar ' ' else c

def Cell.node (cell : Cell) : Node :=
  .construct (.tableCell [.text cell.content] cell.flags)

/-- A row of the cells. -/
def rowNode (cells : List Cell) : Node := .construct (.tableRow (cells.map Cell.node))

/-- Columns on one line, with a bar before and behind each. -/
def drawnRow (columns : List Text) : Text := "| " ++ Text.join " | " columns ++ " |\n"

/-- What is left of the columns of a row without the empty ones at its end; a row of empty columns
keeps one. -/
def keptColumns (columns : List Text) : List Text :=
  let kept := columns.rdropWhile (·.isEmpty)
  if kept = [] then [[]] else kept

/-! ### Kept columns -/

theorem keptColumns_concat_nil (columns : List Text) :
    keptColumns (columns ++ [[]]) = keptColumns columns := by
  simp only [keptColumns]
  rw [List.rdropWhile_concat_pos _ _ _ rfl]

theorem keptColumns_concat {last : Text} (h : last ≠ []) (columns : List Text) :
    keptColumns (columns ++ [last]) = columns ++ [last] := by
  have hlast : ¬ last.isEmpty := by simpa using h
  simp only [keptColumns]
  rw [List.rdropWhile_concat_neg _ _ _ hlast, if_neg (by simp)]

/-- The columns of a row are read back from its cells, without the empty ones at the end. -/
theorem lines_dropEndNewlines_unlines {columns : List Text}
    (h : ∀ column ∈ columns, ofChar '\n' ∉ column) :
    (unlines columns).dropEndNewlines.lines = keptColumns columns := by
  induction columns using List.reverseRecOn with
  | nil => rfl
  | append_singleton front last ih =>
    have hfront : ∀ column ∈ front, ofChar '\n' ∉ column :=
      fun column hmem => h column (List.mem_append_left _ hmem)
    have hunlines : unlines (front ++ [last]) = joinLines (front ++ [last]) ++ [ofChar '\n'] := by
      rw [Text.joinLines_concat]
      simp
    by_cases hlast : last = []
    · subst hlast
      have hnewlines : (unlines (front ++ [[]])).dropEndNewlines = (unlines front).dropEndNewlines := by
        rw [Text.unlines_append]
        exact Text.dropEndWhile_append_of_pos _ (by decide)
      rw [hnewlines, ih hfront, keptColumns_concat_nil]
    · have hend : ∀ c ∈ (joinLines (front ++ [last])).getLast?, ¬ decide (c = ofChar '\n') := by
        intro c hc
        rw [Text.joinLines_concat, List.getLast?_append_of_ne_nil _ hlast] at hc
        have hmem : c ∈ last := List.mem_of_getLast? hc
        have hnewline : ofChar '\n' ∉ last := h last (by simp)
        rw [decide_eq_true_iff]
        rintro rfl
        exact hnewline hmem
      have hcut : (unlines (front ++ [last])).dropEndNewlines = joinLines (front ++ [last]) := by
        rw [hunlines, Text.dropEndNewlines, Text.dropEndWhile_append_of_pos _ (by decide)]
        exact Text.dropEndWhile_of_last hend
      rw [hcut, keptColumns_concat hlast]
      obtain ⟨column, others, hcons⟩ := List.exists_cons_of_ne_nil (l := front ++ [last]) (by simp)
      rw [hcons] at h ⊢
      exact Text.lines_joinLines h

theorem length_join_keptColumns_le (sep : Text) (columns : List Text) :
    (Text.join sep (keptColumns columns)).length ≤ (Text.join sep columns).length := by
  induction columns using List.reverseRecOn with
  | nil => exact Nat.le_refl _
  | append_singleton front last ih =>
    by_cases hlast : last = []
    · subst hlast
      rw [keptColumns_concat_nil]
      refine ih.trans ?_
      by_cases hfront : front = []
      · subst hfront
        exact Nat.le_refl _
      · rw [Text.join_concat sep hfront]
        simp
    · rw [keptColumns_concat hlast]

/-- A row shows all its columns if and only if it has a single one or the last is not empty. -/
theorem drawnRow_keptColumns_iff (columns : List Text) :
    drawnRow (keptColumns columns) = drawnRow columns ↔
      columns.length ≤ 1 ∨ ∀ last ∈ columns.getLast?, last ≠ [] := by
  rcases List.eq_nil_or_concat columns with rfl | ⟨front, last, rfl⟩
  · simp [keptColumns, drawnRow, Text.join]
  rw [List.concat_eq_append]
  by_cases hlast : last = []
  · subst hlast
    rw [keptColumns_concat_nil]
    by_cases hfront : front = []
    · subst hfront
      simp [keptColumns, drawnRow, Text.join]
    · have hle := length_join_keptColumns_le (Text.ofString " | ") front
      have hlonger : drawnRow (keptColumns front) ≠ drawnRow (front ++ [[]]) := by
        intro heq
        have hlength := congrArg List.length heq
        rw [drawnRow, drawnRow, Text.join_concat _ hfront] at hlength
        simp only [List.length_append] at hlength
        have hsep : (Text.ofString " | ").length = 3 := rfl
        omega
      have hlength : ¬ (front ++ [([] : Text)]).length ≤ 1 := by
        have hpos := List.length_pos_iff.mpr hfront
        simp
        omega
      simp [hlonger, hfront]
  · rw [keptColumns_concat hlast]
    simp [hlast]

/-! ### Rows -/

theorem tableCell_eq (cell : Cell) : tableCell cell.content = cell.shown ++ [ofChar '\n'] := by
  have hblank : ∀ c : CodePoint,
      (if c = ofChar '\n' then Text.ofString " " else [c]) =
        [if c = ofChar '\n' then ofChar ' ' else c] := by
    intro c
    split <;> rfl
  rw [tableCell, Text.replace, Cell.shown, List.map_eq_flatMap]
  simp only [hblank]
  rfl

theorem newline_notMem_shown (cell : Cell) : ofChar '\n' ∉ cell.shown := by
  have hblank : ofChar ' ' ≠ ofChar '\n' := by decide
  intro hmem
  obtain ⟨c, -, hc⟩ := List.mem_map.mp hmem
  split at hc
  · exact hblank hc
  · contradiction

/-- **A row shows its cells in order**, without the empty ones at its end. -/
theorem tableRow_eq (cells : List Cell) :
    tableRow (cells.flatMap fun cell => tableCell cell.content) =
      drawnRow (keptColumns (cells.map Cell.shown)) := by
  have hcontent : (cells.flatMap fun cell => tableCell cell.content) =
      unlines (cells.map Cell.shown) := by
    simp only [tableCell_eq, unlines, List.flatMap_map]
  have hnewline : ∀ column ∈ cells.map Cell.shown, ofChar '\n' ∉ column :=
    List.forall_mem_map.mpr fun cell _ => newline_notMem_shown cell
  rw [hcontent, tableRow, lines_dropEndNewlines_unlines hnewline]
  rfl

theorem mem_of_mem_keptColumns {columns : List Text} {column : Text}
    (h : column ∈ keptColumns columns) : column = [] ∨ column ∈ columns := by
  simp only [keptColumns] at h
  split at h
  · exact Or.inl (List.mem_singleton.mp h)
  · exact Or.inr ((List.rdropWhile_prefix _ _).subset h)

/-- A row of columns without newlines takes one line. -/
theorem exists_line_drawnRow {columns : List Text} (h : ∀ column ∈ columns, ofChar '\n' ∉ column) :
    ∃ line, drawnRow columns = line ++ [ofChar '\n'] ∧ ofChar '\n' ∉ line := by
  have hbars : ∀ mark ∈ [Text.ofString "| ", Text.ofString " | ", Text.ofString " |"],
      ofChar '\n' ∉ mark := by decide
  refine ⟨"| " ++ Text.join " | " columns ++ " |", ?_, ?_⟩
  · rw [List.append_assoc]
    rfl
  · intro hmem
    rcases List.mem_append.mp hmem with hmem | hmem
    · rcases List.mem_append.mp hmem with hmem | hmem
      · exact hbars _ (by simp) hmem
      · rcases Text.mem_or_mem_of_mem_join hmem with hsep | ⟨column, hcolumn, hmem⟩
        · exact hbars _ (by simp) hsep
        · exact h column hcolumn hmem
    · exact hbars _ (by simp) hmem

theorem node_rowNode (o : RenderOptions) (cells : List Cell) :
    Renderer.node ⟨.plainText, o⟩ (rowNode cells) =
      pure (drawnRow (keptColumns (cells.map Cell.shown))) := by
  have hcell : ∀ cell : Cell,
      Renderer.node ⟨.plainText, o⟩ cell.node = pure (tableCell cell.content) := by
    intro cell
    simp only [Cell.node, Renderer.node, Renderer.parts, Renderer.nodes, pure_bind, List.append_nil]
    rfl
  have hcells := nodes_map hcell cells
  rw [← tableRow_eq]
  simp only [rowNode, Renderer.node, Renderer.parts, hcells, pure_bind]
  rfl

/-- **Which columns a row keeps**, whatever the options and the flags of its cells. A row takes one
line and shows its cells in order, without the empty ones at its end. It shows all of them if and
only if it has one cell at most or its last cell is not empty. -/
theorem node_row (o : RenderOptions) (cells : List Cell) :
    (∃ line, Renderer.node ⟨.plainText, o⟩ (rowNode cells) = pure (line ++ [ofChar '\n']) ∧
      ofChar '\n' ∉ line) ∧
    Renderer.node ⟨.plainText, o⟩ (rowNode cells) =
      pure (drawnRow (keptColumns (cells.map Cell.shown))) ∧
    (Renderer.node ⟨.plainText, o⟩ (rowNode cells) = pure (drawnRow (cells.map Cell.shown)) ↔
      cells.length ≤ 1 ∨ ∀ last ∈ cells.getLast?, last.content ≠ []) := by
  refine ⟨?_, node_rowNode o cells, ?_⟩
  · have hnewline : ∀ column ∈ keptColumns (cells.map Cell.shown), ofChar '\n' ∉ column := by
      intro column hcolumn
      rcases mem_of_mem_keptColumns hcolumn with rfl | hmem
      · exact List.not_mem_nil
      · obtain ⟨cell, -, rfl⟩ := List.mem_map.mp hmem
        exact newline_notMem_shown cell
    obtain ⟨line, hline, hone⟩ := exists_line_drawnRow hnewline
    exact ⟨line, by rw [node_rowNode, hline], hone⟩
  · rw [node_rowNode, Attempt.pure_inj, drawnRow_keptColumns_iff]
    simp [Cell.shown]

/-- Empty cells before another one keep their columns. -/
example : tableRow (tableCell "" ++ tableCell "" ++ tableCell "a\nb") =
    Text.ofString "|  |  | a b |\n" := by
  decide +kernel

/-- An empty cell at the end of a row loses its column. -/
theorem row_loses_empty_cell :
    Renderer.node ⟨.plainText, {}⟩ (rowNode [⟨"a", .flags {}⟩, ⟨"", .flags {}⟩]) =
        pure (Text.ofString "| a |\n") ∧
      drawnRow ([⟨"a", .flags {}⟩, ⟨"", .flags {}⟩].map Cell.shown) =
        Text.ofString "| a |  |\n" ∧
      Text.ofString "| a |\n" ≠ Text.ofString "| a |  |\n" := by
  refine ⟨rfl, rfl, ?_⟩
  decide

end MarkdownRender.PlainText
