import MarkdownRender.Value

/-!
# Option maps

An option map is a list of entries with distinct keys, in the order in which the keys were first
set. Setting a key again replaces its value and leaves it in its place.
-/

namespace MarkdownRender

namespace OptionMap

/-- Sets a key among some entries. -/
def setEntry (key : Text) (value : Value) : List (Text × Value) → List (Text × Value)
  | [] => [(key, value)]
  | entry :: rest =>
    if entry.1 = key then (key, value) :: rest else entry :: setEntry key value rest

theorem keys_setEntry (key : Text) (value : Value) (entries : List (Text × Value)) :
    (setEntry key value entries).map (·.1) =
      if key ∈ entries.map (·.1) then entries.map (·.1) else entries.map (·.1) ++ [key] := by
  induction entries with
  | nil => simp [setEntry]
  | cons entry rest ih =>
    unfold setEntry
    by_cases h : entry.1 = key
    · simp [h]
    · have h' : ¬ key = entry.1 := fun e => h e.symm
      simp only [h, if_false, List.map_cons, ih, List.mem_cons, h', false_or]
      split <;> simp

theorem nodup_setEntry (key : Text) (value : Value) {entries : List (Text × Value)}
    (h : (entries.map (·.1)).Nodup) : ((setEntry key value entries).map (·.1)).Nodup := by
  rw [keys_setEntry]
  split
  · exact h
  · next hk =>
    refine List.nodup_append.2 ⟨h, by simp, fun a ha b hb => ?_⟩
    rw [List.mem_singleton.1 hb]
    rintro rfl
    exact hk ha

end OptionMap

/-- Option values by key, in the order in which the keys were first set. -/
structure OptionMap where
  entries : List (Text × Value)
  nodup : (entries.map (·.1)).Nodup

namespace OptionMap

/-- The map without entries. -/
def empty : OptionMap := ⟨[], List.nodup_nil⟩

/-- Sets a key. -/
def set (map : OptionMap) (key : Text) (value : Value) : OptionMap :=
  ⟨setEntry key value map.entries, nodup_setEntry key value map.nodup⟩

/-- The map that is made by setting keys one after the other. -/
def ofList (pairs : List (Text × Value)) : OptionMap :=
  pairs.foldl (fun map pair => map.set pair.1 pair.2) empty

end OptionMap

end MarkdownRender
