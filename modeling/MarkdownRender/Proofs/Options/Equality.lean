import MarkdownRender.Options.Basic

/-!
# Equality of option records

Equality of values looks through their kinds and takes mappings without their order, so that a value
equals itself is something to prove.
-/

namespace MarkdownRender

namespace Value

theorem sameNumber_self (x : Int × Int) : sameNumber x x := by
  simp [sameNumber, lowerExponent]

mutual

/-- **A value equals itself.** -/
theorem same_self : (v : Value) → same v v
  | .null => rfl
  | .bool _ | .int _ | .float _ _ _ => sameNumber_self _
  | .text _ => by simp [same]
  | .list items => sameItems_self items
  | .mapping entries => by
    simp only [same, decide_true, Bool.true_and]
    exact sameEntries_of_subset entries fun _ h => h
  | .callback _ => by simp [same]

theorem sameItems_self : (items : List Value) → sameItems items items
  | [] => rfl
  | v :: rest => by simp [sameItems, same_self v, sameItems_self rest]

/-- A mapping has an equal entry for each of its own. -/
theorem sameEntries_of_subset : (entries : List (Text × Value)) → {others : List (Text × Value)} →
    (∀ entry ∈ entries, entry ∈ others) → sameEntries entries others
  | [], _, _ => rfl
  | (key, v) :: rest, others, h => by
    have hfirst : others.any (sameEntry (key, v)) :=
      List.any_eq_true.mpr ⟨_, h _ List.mem_cons_self, by simp [sameEntry, same_self v]⟩
    simp [sameEntries, hfirst,
      sameEntries_of_subset rest fun entry hmem => h entry (List.mem_cons_of_mem _ hmem)]

end

end Value

/-- A record equals itself. -/
theorem RenderOptions.same_self (o : RenderOptions) : o.same o := by
  simp [same, Value.same_self]

end MarkdownRender
