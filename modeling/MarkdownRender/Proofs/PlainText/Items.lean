import Mathlib.Data.List.SplitBy
import MarkdownRender.Proofs.PlainText.Numbering

/-!
# Items read back

An item puts its mark before its first line and two blanks before every other line that is not
empty. So none of its lines but the first begins with the mark, whatever marks and blanks stand in
the text that it is given. Marked and indented lines are read back one by one, and nothing else is
read as an item (`itemContent?_eq_some_iff`), so an item loses only the white space at the ends of
its text. In a list without numbers a line that begins with the mark is the first line of an item,
so the items are told apart (`itemGroups_flatMap_listItem`) and nothing more is lost.
-/

namespace MarkdownRender.PlainText

open CodePoint (ofChar)
open Text (unlines joinLines startsWith)

/-! ### Marked and indented lines -/

/-- The lines of an item that holds the text. -/
def itemLines (content : Text) : List Text :=
  match content.lines with
  | [] => [itemMark]
  | first :: rest => (itemMark ++ first) :: rest.map indent

/-- The first line begins with the mark of an item and none behind it does: each of these is empty
or begins with two blanks. -/
def IsMarkedOnce (lines : List Text) : Prop :=
  ∃ first others, lines = first :: others ∧ startsWith first itemMark ∧
    ∀ line ∈ others, ¬ startsWith line itemMark ∧ (line = [] ∨ startsWith line "  ")

/-- A line without its indent. An empty line has none, and any other must have one with something
behind it. -/
def unindent? (line : Text) : Option Text :=
  if line.isEmpty then some [] else (line.dropPrefix? "  ").filter fun rest => !rest.isEmpty

/-- What the lines of an item hold, if the first has the mark and the others are indented. -/
def heldBy? : List Text → Option Text
  | [] => none
  | first :: others => do
    let first ← first.dropPrefix? itemMark
    let others ← others.mapM unindent?
    return joinLines (first :: others)

/-- What an item holds, if a newline ends it. -/
def itemContent? (item : Text) : Option Text :=
  (Text.withoutEnding? "\n" item).bind fun body => heldBy? body.lines

section Lines

variable {line content : Text} {lines contents : List Text}

theorem exists_itemLines (content : Text) : ∃ first rest, content.lines = first :: rest ∧
    itemLines content = (itemMark ++ first) :: rest.map indent := by
  obtain ⟨first, rest, hlines⟩ := List.exists_cons_of_ne_nil (Text.lines_ne_nil content)
  exact ⟨first, rest, hlines, by rw [itemLines, hlines]⟩

theorem indent_of_ne_nil (h : line ≠ []) : indent line = Text.ofString "  " ++ line :=
  if_neg (by simpa using h)

theorem indent_eq_nil_or_startsWith (line : Text) :
    indent line = [] ∨ startsWith (indent line) "  " := by
  cases line with
  | nil => exact Or.inl rfl
  | cons c rest => exact Or.inr (Text.startsWith_iff.mpr ⟨c :: rest, rfl⟩)

theorem isMarkedOnce_itemLines (content : Text) : IsMarkedOnce (itemLines content) := by
  obtain ⟨first, rest, -, hitem⟩ := exists_itemLines content
  refine ⟨itemMark ++ first, rest.map indent, hitem, Text.startsWith_iff.mpr ⟨first, rfl⟩, ?_⟩
  exact List.forall_mem_map.mpr fun line _ =>
    ⟨not_startsWith_indent line, indent_eq_nil_or_startsWith line⟩

/-- An empty line behind the others has no mark. -/
theorem IsMarkedOnce.concat_nil (h : IsMarkedOnce lines) : IsMarkedOnce (lines ++ [[]]) := by
  obtain ⟨first, others, rfl, hfirst, hothers⟩ := h
  refine ⟨first, others ++ [[]], rfl, hfirst, List.forall_mem_append.mpr ⟨hothers, ?_⟩⟩
  exact List.forall_mem_singleton.mpr ⟨by decide, Or.inl rfl⟩

theorem newline_mem_indent_iff : ofChar '\n' ∈ indent line ↔ ofChar '\n' ∈ line := by
  have hblanks : ofChar '\n' ∉ Text.ofString "  " := by decide
  by_cases h : line = []
  · rw [h]
    rfl
  · rw [indent_of_ne_nil h, List.mem_append, or_iff_right hblanks]

theorem newline_mem_itemMark_append_iff : ofChar '\n' ∈ itemMark ++ line ↔ ofChar '\n' ∈ line := by
  have hmark : ofChar '\n' ∉ itemMark := by decide
  rw [List.mem_append, or_iff_right hmark]

/-- The mark and the indents neither bring a newline nor take one away. -/
theorem newline_notMem_marked_iff :
    (∀ l ∈ (itemMark ++ line) :: lines.map indent, ofChar '\n' ∉ l) ↔
      ∀ l ∈ line :: lines, ofChar '\n' ∉ l := by
  rw [List.forall_mem_cons, List.forall_mem_cons, List.forall_mem_map,
    newline_mem_itemMark_append_iff]
  simp only [newline_mem_indent_iff]

theorem newline_notMem_of_mem_itemLines (content : Text) :
    ∀ line ∈ itemLines content, ofChar '\n' ∉ line := by
  obtain ⟨first, rest, hlines, hitem⟩ := exists_itemLines content
  rw [hitem, newline_notMem_marked_iff, ← hlines]
  exact fun line hline => Text.newline_notMem_of_mem_lines hline

/-! ### Lines read back -/

theorem dropPrefix?_eq_some_iff {mark : Text} :
    line.dropPrefix? mark = some content ↔ line = mark ++ content := by
  simp [List.dropPrefix?_eq_some_iff]

theorem unindent?_eq_some_iff : unindent? line = some content ↔ line = indent content := by
  by_cases hcontent : content = []
  · -- an empty line is not indented, and blanks alone are not read as an empty line
    subst hcontent
    have hnil : indent [] = [] := rfl
    rw [hnil, unindent?]
    split <;> simp_all
  · rw [indent_of_ne_nil hcontent, unindent?]
    split
    · next h => simp_all [Text.ofString]
    · simp [Option.filter_eq_some_iff, dropPrefix?_eq_some_iff, hcontent]

theorem mapM_unindent?_eq_some_iff :
    lines.mapM unindent? = some contents ↔ lines = contents.map indent := by
  induction lines generalizing contents with
  | nil => simp [eq_comm]
  | cons line lines ih =>
    simp only [List.mapM_cons]
    cases contents <;> simp [Option.bind_eq_some_iff, unindent?_eq_some_iff, ih]

theorem heldBy?_eq_some_iff_exists : heldBy? lines = some content ↔ ∃ first rest,
    lines = (itemMark ++ first) :: rest.map indent ∧ joinLines (first :: rest) = content := by
  cases lines with
  | nil => simp [heldBy?]
  | cons line lines =>
    simp only [heldBy?, Option.bind_eq_bind, Option.bind_eq_some_iff, dropPrefix?_eq_some_iff,
      mapM_unindent?_eq_some_iff, Option.pure_def, Option.some_inj, List.cons.injEq]
    constructor
    · rintro ⟨first, hfirst, rest, hrest, hcontent⟩
      exact ⟨first, rest, ⟨hfirst, hrest⟩, hcontent⟩
    · rintro ⟨first, rest, ⟨hfirst, hrest⟩, hcontent⟩
      exact ⟨first, hfirst, rest, hrest, hcontent⟩

/-- **Lines are read as those of an item** if and only if they are. -/
theorem heldBy?_eq_some_iff (h : ∀ line ∈ lines, ofChar '\n' ∉ line) :
    heldBy? lines = some content ↔ lines = itemLines content := by
  rw [heldBy?_eq_some_iff_exists]
  constructor
  · rintro ⟨first, rest, rfl, rfl⟩
    have hlines := Text.lines_joinLines (newline_notMem_marked_iff.mp h)
    rw [itemLines, hlines]
  · rintro rfl
    obtain ⟨first, rest, hlines, hitem⟩ := exists_itemLines content
    exact ⟨first, rest, hitem, by rw [← hlines, Text.joinLines_lines]⟩

theorem heldBy?_itemLines (content : Text) : heldBy? (itemLines content) = some content :=
  (heldBy?_eq_some_iff (newline_notMem_of_mem_itemLines content)).mpr rfl

theorem itemLines_injective : Function.Injective itemLines := by
  intro content content' h
  have hread := heldBy?_itemLines content
  rw [h, heldBy?_itemLines] at hread
  exact (Option.some_inj.mp hread).symm

end Lines

/-! ### Items -/

theorem unlines_itemLines (content : Text) :
    unlines (itemLines content) = joinLines (itemLines content) ++ Text.ofString "\n" := by
  obtain ⟨first, rest, -, hitem⟩ := exists_itemLines content
  rw [hitem]
  exact (Text.joinLines_cons_append_newline _ _).symm

theorem lines_joinLines_itemLines (content : Text) :
    (joinLines (itemLines content)).lines = itemLines content := by
  have hnewline := newline_notMem_of_mem_itemLines content
  obtain ⟨first, rest, -, hitem⟩ := exists_itemLines content
  rw [hitem] at hnewline ⊢
  exact Text.lines_joinLines hnewline

/-- **A text is read as an item** if and only if it is made of the lines of an item, each with a
newline behind it. -/
theorem itemContent?_eq_some_iff {item content : Text} :
    itemContent? item = some content ↔ item = unlines (itemLines content) := by
  rw [itemContent?, Option.bind_eq_some_iff, unlines_itemLines]
  simp only [Text.withoutEnding?_eq_some_iff]
  constructor
  · rintro ⟨body, rfl, hbody⟩
    have hnewline : ∀ line ∈ body.lines, ofChar '\n' ∉ line :=
      fun line hline => Text.newline_notMem_of_mem_lines hline
    rw [← (heldBy?_eq_some_iff hnewline).mp hbody, Text.joinLines_lines]
  · rintro rfl
    refine ⟨joinLines (itemLines content), rfl, ?_⟩
    rw [lines_joinLines_itemLines, heldBy?_itemLines]

theorem listItem_eq_unlines_itemLines (text : Text) :
    listItem text = unlines (itemLines text.strip) := by
  obtain ⟨first, rest, hlines, hitem⟩ := exists_itemLines text.strip
  rw [listItem_eq_unlines hlines, hitem]

/-- An item that is given a text. -/
def itemNode (text : Text) : Node := .construct (.listItem [.text text])

theorem node_itemNode (o : RenderOptions) (text : Text) :
    Renderer.node ⟨.plainText, o⟩ (itemNode text) = pure (listItem text) :=
  node_listItem (by simp [Renderer.nodes, Renderer.node])

/-- **An item has one mark at the margin and loses no text**, whatever the text and the options.
Of its lines the first begins with the mark; each of the others, the empty one behind the last
newline among them, is empty or begins with two blanks. Without the mark, these blanks and the last
newline the item is the text that it was given, less the white space at the ends of this text. -/
theorem items_marked_once_and_reversible (o : RenderOptions) (text : Text) :
    ∃ item, Renderer.node ⟨.plainText, o⟩ (itemNode text) = pure item ∧
      IsMarkedOnce item.lines ∧ itemContent? item = some text.strip := by
  have hitem := listItem_eq_unlines_itemLines text
  have hlines : (listItem text).lines = itemLines text.strip ++ [[]] := by
    rw [hitem, Text.lines_unlines (newline_notMem_of_mem_itemLines text.strip)]
  refine ⟨listItem text, node_itemNode o text, ?_, itemContent?_eq_some_iff.mpr hitem⟩
  rw [hlines]
  exact (isMarkedOnce_itemLines text.strip).concat_nil

/-- Marks and blanks at the beginning of a later line are kept behind the indent, and a line of
nothing but a blank is not empty. -/
example : listItem "\t- a\n\n- b\n  c\n \nd\n\n" =
      Text.ofString "- - a\n\n  - b\n    c\n   \n  d\n" ∧
    itemContent? "- - a\n\n  - b\n    c\n   \n  d\n" =
      some (Text.ofString "- a\n\n- b\n  c\n \nd") ∧
    itemContent? "- a\nb\n" = none := by
  decide +kernel

/-! ### Lists -/

/-- The lines of a list, taken together from each mark at the margin to the next. -/
def itemGroups (body : Text) : List (List Text) :=
  (Text.lines body).dropLast.splitBy fun _ next => !startsWith next itemMark

namespace IsMarkedOnce

variable {lines : List Text}

theorem ne_nil (h : IsMarkedOnce lines) : lines ≠ [] := by
  obtain ⟨first, others, rfl, -⟩ := h
  exact List.cons_ne_nil first others

theorem startsWith_head (h : IsMarkedOnce lines) : startsWith (lines.head h.ne_nil) itemMark := by
  obtain ⟨first, others, rfl, hfirst, -⟩ := h
  exact hfirst

/-- No line follows another with a mark of its own. -/
theorem isChain (h : IsMarkedOnce lines) :
    lines.IsChain fun _ next => !startsWith next itemMark := by
  obtain ⟨first, others, rfl, -, hothers⟩ := h
  induction others generalizing first with
  | nil => exact List.isChain_singleton first
  | cons next others ih =>
    have hnext := (hothers next List.mem_cons_self).1
    refine List.isChain_cons_cons.mpr ⟨by simpa using hnext, ih next fun line hline => ?_⟩
    exact hothers line (List.mem_cons_of_mem next hline)

end IsMarkedOnce

/-- Lines are taken together as they were put together if each group has one mark. -/
theorem splitBy_flatten_of_isMarkedOnce {groups : List (List Text)}
    (h : ∀ group ∈ groups, IsMarkedOnce group) :
    groups.flatten.splitBy (fun _ next => !startsWith next itemMark) = groups := by
  refine List.splitBy_flatten (fun hnil => (h [] hnil).ne_nil rfl)
    (fun group hgroup => (h group hgroup).isChain) (List.Pairwise.isChain ?_)
  refine List.pairwise_of_forall_mem_list fun group hgroup next hnext => ?_
  have hhead := (h next hnext).startsWith_head
  exact ⟨(h group hgroup).ne_nil, (h next hnext).ne_nil, by simpa using hhead⟩

theorem flatMap_listItem_eq_unlines (items : List Text) :
    items.flatMap listItem = unlines ((items.map Text.strip).map itemLines).flatten := by
  rw [← List.flatMap_def, List.flatMap_map, unlines, List.flatMap_assoc]
  exact List.flatMap_congr fun item _ => listItem_eq_unlines_itemLines item

/-- **The items of a list are told apart** by the marks at the margin. -/
theorem itemGroups_flatMap_listItem (items : List Text) :
    itemGroups (items.flatMap listItem) = (items.map Text.strip).map itemLines := by
  have hnewline : ∀ line ∈ ((items.map Text.strip).map itemLines).flatten, ofChar '\n' ∉ line := by
    intro line hline
    obtain ⟨group, hgroup, hmem⟩ := List.mem_flatten.mp hline
    obtain ⟨content, -, rfl⟩ := List.mem_map.mp hgroup
    exact newline_notMem_of_mem_itemLines content line hmem
  rw [itemGroups, flatMap_listItem_eq_unlines, Text.lines_unlines hnewline, List.dropLast_concat]
  exact splitBy_flatten_of_isMarkedOnce
    (List.forall_mem_map.mpr fun content _ => isMarkedOnce_itemLines content)

/-- **Nothing but white space at the ends of items is lost in a list without numbers.** Two such
lists are the same if and only if they have the same items in the same order without this white
space. -/
theorem node_unorderedList_eq_iff (o : RenderOptions) (items items' : List Text) :
    Renderer.node ⟨.plainText, o⟩ (.construct (.list (items.map itemNode) false)) =
        Renderer.node ⟨.plainText, o⟩ (.construct (.list (items'.map itemNode) false)) ↔
      items.map Text.strip = items'.map Text.strip := by
  have hnode : ∀ items : List Text,
      Renderer.node ⟨.plainText, o⟩ (.construct (.list (items.map itemNode) false)) =
        pure (items.flatMap listItem ++ "\n") :=
    fun items => node_list (nodes_map (node_itemNode o) items) false
  rw [hnode, hnode, Attempt.pure_inj, List.append_left_inj]
  constructor
  · intro h
    have hgroups := congrArg itemGroups h
    rw [itemGroups_flatMap_listItem, itemGroups_flatMap_listItem] at hgroups
    exact List.map_injective_iff.mpr itemLines_injective hgroups
  · intro h
    rw [flatMap_listItem_eq_unlines, flatMap_listItem_eq_unlines, h]

end MarkdownRender.PlainText
