import Mathlib.Data.List.Basic
import MarkdownRender.Html.Escape
import MarkdownRender.Text.Substitution

/-!
# Escaping one code point at a time

The replacements of strict escaping do not get in each other's way: the ampersands come first, and
no later one meets what an earlier one has written. So each code point becomes its entity, and all
the rest stays. No entity is the beginning of another, so the code points can be read back
(`escape_reversible`), and nothing that could be taken for markup is left (`isEscaped_escape`).
-/

namespace MarkdownRender.Html

open CodePoint (ofChar)

/-- The code points that have an entity. -/
def special : Text := "&<>\"'"

/-- The entity of a special code point; every other one stands for itself. -/
def entity (c : CodePoint) : Text :=
  if c = '&' then Text.ofString "&amp;"
  else if c = '<' then Text.ofString "&lt;"
  else if c = '>' then Text.ofString "&gt;"
  else if c = '"' then Text.ofString "&quot;"
  else if c = '\'' then Text.ofString "&#39;"
  else [c]

theorem entity_of_notMem {c : CodePoint} (h : c ∉ special) : entity c = [c] := by
  simp [special, Text.ofString] at h
  simp [entity, h]

theorem escape_singleton (c : CodePoint) : escape [c] = entity c := by
  have hspecial : ∀ c ∈ special, escape [c] = entity c := by decide
  by_cases hc : c ∈ special
  · exact hspecial c hc
  · rw [entity_of_notMem hc]
    simp [special, Text.ofString] at hc
    simp [escape, escapeMarkup, Text.replace, hc]

theorem escape_eq_flatMap (text : Text) : escape text = text.flatMap entity := by
  have hsingle : escape text = text.flatMap fun c => escape [c] := by
    simp [escape, escapeMarkup, Text.replace, List.flatMap_assoc]
  simp only [hsingle, escape_singleton]

/-- Escaping leaves no angle bracket, and writes no brace. -/
theorem mem_escape {text : Text} {d : CodePoint} (h : d ∈ escape text) :
    d ≠ ofChar '<' ∧ d ≠ ofChar '>' ∧ (d = ofChar '\x7b' → d ∈ text) := by
  have hspecial : ∀ c ∈ special, ∀ d ∈ entity c,
      d ≠ ofChar '<' ∧ d ≠ ofChar '>' ∧ d ≠ ofChar '\x7b' := by decide
  rw [escape_eq_flatMap] at h
  obtain ⟨c, hc, hd⟩ := List.mem_flatMap.mp h
  by_cases hmem : c ∈ special
  · obtain ⟨hlt, hgt, hbrace⟩ := hspecial c hmem d hd
    exact ⟨hlt, hgt, fun heq => absurd heq hbrace⟩
  · rw [entity_of_notMem hmem] at hd
    obtain rfl := List.mem_singleton.mp hd
    refine ⟨fun heq => hmem ?_, fun heq => hmem ?_, fun _ => hc⟩ <;> rw [heq] <;> decide

/-! ### Reading back -/

theorem entity_ne_nil (c : CodePoint) : entity c ≠ [] := by
  have hspecial : ∀ c ∈ special, entity c ≠ [] := by decide
  by_cases hc : c ∈ special
  · exact hspecial c hc
  · rw [entity_of_notMem hc]
    exact List.cons_ne_nil c []

theorem head?_entity_append {c : CodePoint} (h : c ∈ special) (rest : Text) :
    (entity c ++ rest).head? = some (ofChar '&') := by
  have hspecial : ∀ c ∈ special, (entity c).head? = some (ofChar '&') := by decide
  rw [List.head?_append, hspecial c h]
  rfl

/-- **Entities form a prefix code**, together with the code points that stand for themselves. -/
theorem entity_append_inj {c d : CodePoint} {s t : Text} (h : entity c ++ s = entity d ++ t) :
    c = d ∧ s = t := by
  have hbegins : ∀ c ∈ special, ∀ d ∈ special, entity c <+: entity d → c = d := by decide
  have hampersand : ofChar '&' ∈ special := by decide
  by_cases hc : c ∈ special <;> by_cases hd : d ∈ special
  · have hle : entity c <+: entity d ++ t := ⟨s, h⟩
    have hcd : c = d := by
      rcases List.prefix_or_prefix_of_prefix hle (List.prefix_append (entity d) t) with hle | hle
      · exact hbegins c hc d hd hle
      · exact (hbegins d hd c hc hle).symm
    subst hcd
    exact ⟨rfl, List.append_cancel_left h⟩
  · -- an entity begins with an ampersand, and nothing but entities does
    have hhead := head?_entity_append hc s
    rw [h, entity_of_notMem hd] at hhead
    cases hhead
    exact absurd hampersand hd
  · have hhead := head?_entity_append hd t
    rw [← h, entity_of_notMem hc] at hhead
    cases hhead
    exact absurd hampersand hc
  · rw [entity_of_notMem hc, entity_of_notMem hd] at h
    exact List.cons.inj h

/-- Where an entity stands: the code point it is the entity of, and how much of it follows. -/
def entityRule : Text.Rule := fun c rest =>
  (special.find? fun d => Text.startsWith (c :: rest) (entity d)).map
    fun d => ([d], (entity d).length - 1)

/-- Replaces entities by their code points, from left to right and in one pass. -/
def readEntities (text : Text) : Text := text.substitute entityRule

/-- The entity in front of a text, if `c` is written there, is that of `c`. -/
theorem find?_entity (c : CodePoint) (rest : Text) :
    (special.find? fun d => Text.startsWith (entity c ++ rest) (entity d)) =
      if c ∈ special then some c else none := by
  cases hfind : special.find? fun d => Text.startsWith (entity c ++ rest) (entity d) with
  | none =>
    have hc : c ∉ special := fun hc => List.find?_eq_none.mp hfind c hc
      (Text.startsWith_iff.mpr (List.prefix_append (entity c) rest))
    rw [if_neg hc]
  | some d =>
    have hstarts := List.find?_some hfind
    obtain ⟨more, hmore⟩ := Text.startsWith_iff.mp hstarts
    obtain rfl := (entity_append_inj hmore).1
    rw [if_pos (List.mem_of_find?_eq_some hfind)]

theorem readEntities_entity_append (c : CodePoint) (rest : Text) :
    readEntities (entity c ++ rest) = c :: readEntities rest := by
  obtain ⟨x, others, hentity⟩ := List.exists_cons_of_ne_nil (entity_ne_nil c)
  have hfind := find?_entity c rest
  rw [hentity, List.cons_append] at hfind
  by_cases hc : c ∈ special
  · have hrule : entityRule x (others ++ rest) = some ([c], others.length) := by
      simp [entityRule, hfind, hc, hentity]
    rw [hentity, List.cons_append, readEntities, Text.substitute_cons_of_some hrule, List.drop_left]
    rfl
  · have hrule : entityRule x (others ++ rest) = none := by simp [entityRule, hfind, hc]
    rw [entity_of_notMem hc] at hentity ⊢
    obtain ⟨rfl, rfl⟩ := List.cons.inj hentity
    exact Text.substitute_cons_of_none hrule

theorem readEntities_escape (text : Text) : readEntities (escape text) = text := by
  rw [escape_eq_flatMap]
  induction text with
  | nil => rfl
  | cons c text ih => rw [List.flatMap_cons, readEntities_entity_append, ih]

theorem escape_injective : Function.Injective escape :=
  Function.LeftInverse.injective readEntities_escape

/-- **Strict escaping is a reversible code, one code point at a time.** A text is escaped part by
part, each special code point as its entity and every other one as itself, and the text is read
back by one pass over the entities. -/
theorem escape_reversible :
    (∀ s t : Text, escape (s ++ t) = escape s ++ escape t) ∧
      (∀ t : Text, escape t = t.flatMap entity) ∧
      ∀ t : Text, readEntities (escape t) = t := by
  refine ⟨fun s t => ?_, escape_eq_flatMap, readEntities_escape⟩
  rw [escape_eq_flatMap, escape_eq_flatMap, escape_eq_flatMap, List.flatMap_append]

/-- What is read is not read again. -/
example : escape "&lt;" = "&amp;lt;" ∧ readEntities "&amp;lt;" = "&lt;" := by decide

/-! ### Nothing left to be taken for markup -/

/-- The entities that escaping writes. -/
def entities : List Text := ["&amp;", "&lt;", "&gt;", "&quot;", "&#39;"]

/-- A text without angle brackets and quotation marks, in which each ampersand begins an entity. -/
structure IsEscaped (text : Text) : Prop where
  no_markup : ∀ c ∈ Text.ofString "<>\"'", c ∉ text
  entity_of_ampersand : ∀ front rest, text = front ++ ofChar '&' :: rest →
    ∃ e ∈ entities, e <+: ofChar '&' :: rest

theorem IsEscaped.append {s t : Text} (hs : IsEscaped s) (ht : IsEscaped t) :
    IsEscaped (s ++ t) := by
  refine ⟨fun c hc => ?_, fun front rest h => ?_⟩
  · simp [hs.no_markup c hc, ht.no_markup c hc]
  · rcases List.append_eq_append_iff.mp h with ⟨front', -, h'⟩ | ⟨inner, hinner, h'⟩
    · exact ht.entity_of_ampersand front' rest h'
    · cases inner with
      | nil => exact ht.entity_of_ampersand [] rest h'.symm
      | cons d inner =>
        obtain ⟨rfl, rfl⟩ := List.cons.inj h'
        obtain ⟨e, hmem, hbegins⟩ := hs.entity_of_ampersand front inner hinner
        exact ⟨e, hmem, hbegins.trans (List.prefix_append _ t)⟩

theorem isEscaped_entity (c : CodePoint) : IsEscaped (entity c) := by
  have hspecial : ∀ c ∈ special, (∀ d ∈ Text.ofString "<>\"'", d ∉ entity c) ∧
      entity c ∈ entities ∧ ofChar '&' ∉ (entity c).tail := by decide
  by_cases hc : c ∈ special
  · obtain ⟨hmarkup, hmem, htail⟩ := hspecial c hc
    refine ⟨hmarkup, fun front rest h => ?_⟩
    cases front with
    | nil => exact ⟨entity c, hmem, [], by simp [h]⟩
    | cons d front =>
      rw [h] at htail
      exact absurd (List.mem_append_right front (List.mem_cons_self ..)) htail
  · have hmarkup : ∀ d ∈ Text.ofString "<>\"'", d ∈ special := by decide
    rw [entity_of_notMem hc]
    refine ⟨fun d hd hdc => hc (List.mem_singleton.mp hdc ▸ hmarkup d hd), fun front rest h => ?_⟩
    have hmem : ofChar '&' ∈ [c] := h ▸ List.mem_append_right front (List.mem_cons_self ..)
    obtain rfl := List.mem_singleton.mp hmem
    exact absurd (by decide) hc

theorem isEscaped_escape (text : Text) : IsEscaped (escape text) := by
  rw [escape_eq_flatMap]
  induction text with
  | nil => exact ⟨fun _ _ => List.not_mem_nil, fun front rest h => by simp at h⟩
  | cons c text ih => exact (isEscaped_entity c).append ih

end MarkdownRender.Html
