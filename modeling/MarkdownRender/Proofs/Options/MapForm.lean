import MarkdownRender.Proofs.Options.Layers

/-!
# Records as option maps

The map form of a record has an entry for every option but the highlighter, under the spelling with
inner capitals. That spelling names its option and no other (`OptionField.ofKey?_altName`), so what
the map form says about an option is what the record has (`value?_toMap`). A draft under the map
form is then the draft of the record itself, apart from the highlighter, which stays what it was
below (`apply_toMap`). Both ways back to a record, from the map alone and over another record, are
read off there; no value is looked at on the way, so none can be refused or changed.
-/

namespace MarkdownRender

/-! ### The spelling with inner capitals -/

theorem OptionField.ofKey?_altName (field : OptionField) : ofKey? field.altName = some field :=
  ofKey?_eq_some_iff.mpr (Or.inr rfl)

/-- A map that gives some options by their other spelling says this about each of them, and nothing
about the rest. -/
theorem OptionMap.value?_of_altNames {map : OptionMap} {draft : OptionDraft}
    {fields : List OptionField}
    (h : map.entries = fields.map fun field => (field.altName, draft field)) (field : OptionField) :
    map.value? field = if field ∈ fields then some (draft field) else none := by
  have hkey : ((fun entry : Text × Value => decide (OptionField.ofKey? entry.1 = some field)) ∘
      fun other : OptionField => (other.altName, draft other)) = fun other => decide (other = field) :=
    funext fun other => by simp [OptionField.ofKey?_altName]
  rw [value?, h, ← List.map_reverse, List.find?_map, hkey]
  cases hfind : fields.reverse.find? fun other => decide (other = field) with
  | none =>
    have hother : ∀ other ∈ fields, other ≠ field := by simpa using hfind
    rw [if_neg fun hmem => hother field hmem rfl]
    rfl
  | some named =>
    obtain rfl : named = field := by simpa using List.find?_some hfind
    have hmem : named ∈ fields := List.mem_reverse.mp (List.mem_of_find?_eq_some hfind)
    rw [if_pos hmem]
    rfl

namespace RenderOptions

variable (o b : RenderOptions)

/-! ### What the map form says -/

theorem value?_toMap (field : OptionField) :
    o.toMap.value? field = if field = .highlight then none else some (o.toDraft field) := by
  have hmem : field ∈ OptionField.all.filter (· ≠ .highlight) ↔ field ≠ .highlight := by
    cases field <;> decide
  rw [OptionMap.value?_of_altNames rfl, if_congr hmem rfl rfl, ite_not]

/-- Another highlighter changes the draft of a record at the highlighter only. -/
theorem toDraft_with_highlight {field : OptionField} (h : field ≠ .highlight)
    (highlight : Option Callback) :
    toDraft { o with highlight := highlight } field = o.toDraft field := by
  cases field with
  | highlight => exact absurd rfl h
  | _ => rfl

/-- **The map form replaces a draft**, and keeps its highlighter. -/
theorem apply_toMap :
    b.toDraft.apply o.toMap = toDraft { o with highlight := b.highlight } := by
  rw [OptionDraft.apply_eq_value?]
  funext field
  rw [value?_toMap]
  by_cases h : field = .highlight
  · subst h
    rfl
  · rw [if_neg h, Option.getD_some]
    exact (toDraft_with_highlight o h b.highlight).symm

/-! ### Back to a record -/

theorem merge_toMap : b.merge o.toMap = .ok { o with highlight := b.highlight } :=
  OptionDraft.build_eq_ok_iff.mpr (apply_toMap o b)

theorem ofMap_toMap : ofMap o.toMap = .ok { o with highlight := none } := by
  rw [ofMap_eq_merge, merge_toMap]

/-- The map form always has entries, so that merging it makes a new record. -/
theorem session_merge_toMap (s : Session.State) (r : Session.Record) :
    s.merge r o.toMap = pure (s.make { o with highlight := r.options.highlight }) := by
  rw [Session.State.merge, merge_toMap, if_neg (by simp [toMap, OptionField.all])]
  rfl

/-- **Options survive their map form.** The record of a record's map form is the record without its
highlighter. Merged into another record, the map form gives the record with that one's highlighter.
Neither is ever refused, whatever the options are, and in a session the merge makes a new record. -/
theorem record_survives_map_form :
    ofMap o.toMap = .ok { o with highlight := none } ∧
      (∀ b : RenderOptions, b.merge o.toMap = .ok { o with highlight := b.highlight }) ∧
      ∀ (s : Session.State) (r : Session.Record),
        s.merge r o.toMap = pure (s.make { o with highlight := r.options.highlight }) :=
  ⟨ofMap_toMap o, fun b => merge_toMap o b, session_merge_toMap o⟩

end RenderOptions

end MarkdownRender
