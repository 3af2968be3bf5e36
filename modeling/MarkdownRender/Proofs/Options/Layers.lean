import Mathlib.Data.List.Induction
import MarkdownRender.Session.State

/-!
# Layers of option maps

A record with maps merged into it one after the other is read option by option. An option has the
value of the last entry that names it, by either spelling, in the last map that has such an entry,
or else the value of the record below. Nothing else matters about the maps. That a map is applied
entry by entry comes to the same as looking up each option in it (`apply_eq_value?`). From this the
whole chain follows by induction on the maps, and a record made from a map alone is one merged into
the defaults.
-/

namespace MarkdownRender

/-! ### Names of options -/

namespace OptionField

/-- A key names an option by its name or by its other spelling. -/
def IsNamedBy (field : OptionField) (key : Text) : Prop := key = field.name ∨ key = field.altName

instance (field : OptionField) (key : Text) : Decidable (field.IsNamedBy key) :=
  inferInstanceAs (Decidable (_ ∨ _))

/-- A key names one option at most, so the search finds it. -/
theorem ofKey?_eq_some_iff {key : Text} {field : OptionField} :
    ofKey? key = some field ↔ field.IsNamedBy key := by
  constructor
  · intro h
    have hkey := List.find?_some h
    simpa [IsNamedBy] using hkey
  · rintro (rfl | rfl) <;> cases field <;> decide

/-- Whether an option can have a value. Switches keep any. -/
def accepts : OptionField → Value → Bool
  | .highlight, .null | .highlight, .callback _ => true
  | .langPrefix, .text _ | .headerPrefix, .text _ => true
  | .highlight, _ | .langPrefix, _ | .headerPrefix, _ => false
  | _, _ => true

/-- The options that are no switches, in the order in which they are looked at. -/
def checked : List OptionField := [.highlight, .langPrefix, .headerPrefix]

/-- What an option that is no switch is expected to be. -/
def expected : OptionField → Text
  | .highlight => "a callable"
  | _ => "a string"

/-- The error about a value that an option cannot have. -/
def refusal (field : OptionField) (value : Value) : ConfigError :=
  ⟨field.name, "expected " ++ field.expected ++ ", got " ++ value.kind⟩

theorem refusal_highlight (value : Value) :
    highlight.refusal value = ⟨highlight.name, "expected a callable, got " ++ value.kind⟩ := rfl

theorem refusal_text {field : OptionField} (h : field = langPrefix ∨ field = headerPrefix)
    (value : Value) : field.refusal value = ⟨field.name, "expected a string, got " ++ value.kind⟩ := by
  rcases h with rfl | rfl <;> rfl

end OptionField

/-! ### What a map says -/

namespace OptionMap

variable {map : OptionMap} {field : OptionField} {value : Value}

/-- The last entry of a map for an option has the value. -/
def Gives (map : OptionMap) (field : OptionField) (value : Value) : Prop :=
  ∃ front key back, map.entries = front ++ (key, value) :: back ∧ field.IsNamedBy key ∧
    ∀ entry ∈ back, ¬ field.IsNamedBy entry.1

/-- A map has no entry for an option. -/
def Skips (map : OptionMap) (field : OptionField) : Prop :=
  ∀ entry ∈ map.entries, ¬ field.IsNamedBy entry.1

theorem value?_eq_some_iff : map.value? field = some value ↔ map.Gives field value := by
  rw [value?, Option.map_eq_some_iff]
  constructor
  · rintro ⟨⟨key, value⟩, hfind, rfl⟩
    obtain ⟨hkey, back, front, hentries, hback⟩ := List.find?_eq_some_iff_append.mp hfind
    refine ⟨front.reverse, key, back.reverse, ?_, ?_, ?_⟩
    · have hreverse := congrArg List.reverse hentries
      simpa using hreverse
    · exact OptionField.ofKey?_eq_some_iff.mp (of_decide_eq_true hkey)
    · intro entry hentry hnamed
      have hother := hback entry (List.mem_reverse.mp hentry)
      simp [OptionField.ofKey?_eq_some_iff.mpr hnamed] at hother
  · rintro ⟨front, key, back, hentries, hkey, hback⟩
    refine ⟨(key, value), List.find?_eq_some_iff_append.mpr ⟨?_, back.reverse, front.reverse, ?_, ?_⟩,
      rfl⟩
    · exact decide_eq_true (OptionField.ofKey?_eq_some_iff.mpr hkey)
    · simp [hentries]
    · intro entry hentry
      have hother := hback entry (List.mem_reverse.mp hentry)
      simp [OptionField.ofKey?_eq_some_iff, hother]

theorem value?_eq_none_iff : map.value? field = none ↔ map.Skips field := by
  rw [value?, Option.map_eq_none_iff, List.find?_eq_none]
  simp [Skips, OptionField.ofKey?_eq_some_iff]

/-- An entry whose key names no option says nothing. -/
theorem value?_of_entries_eq {map' : OptionMap} {front back : List (Text × Value)}
    {entry : Text × Value} (h : map.entries = front ++ entry :: back)
    (h' : map'.entries = front ++ back) (hentry : ∀ field : OptionField, ¬ field.IsNamedBy entry.1)
    (field : OptionField) : map.value? field = map'.value? field := by
  have hkey : OptionField.ofKey? entry.1 ≠ some field :=
    fun hsome => hentry field (OptionField.ofKey?_eq_some_iff.mp hsome)
  simp [value?, h, h', List.find?_append, hkey]

end OptionMap

/-! ### Drafts -/

theorem exists_of_bind_eq_ok {ε α β : Type} {x : Except ε α} {f : α → Except ε β} {b : β}
    (h : x >>= f = .ok b) : ∃ a, x = .ok a ∧ f a = .ok b := by
  cases x with
  | error e => cases h
  | ok a => exact ⟨a, rfl, h⟩

namespace OptionDraft

variable {draft : OptionDraft}

theorem foldl_applyEntry (draft : OptionDraft) (entries : List (Text × Value))
    (field : OptionField) :
    entries.foldl applyEntry draft field =
      ((entries.reverse.find? fun entry => OptionField.ofKey? entry.1 = some field).map (·.2)).getD
        (draft field) := by
  induction entries using List.reverseRecOn with
  | nil => rfl
  | append_singleton front entry ih =>
    rw [List.foldl_append, List.foldl_cons, List.foldl_nil, applyEntry, List.reverse_concat, List.find?_cons]
    cases hkey : OptionField.ofKey? entry.1 with
    | none => simpa using ih
    | some named =>
      by_cases hfield : field = named
      · subst hfield
        simp [set]
      · have hne : ¬ named = field := fun h => hfield h.symm
        simpa [set, hfield, hne] using ih

/-- **Entry by entry and option by option** a map does the same to a draft. -/
theorem apply_eq_value? (draft : OptionDraft) (map : OptionMap) :
    draft.apply map = fun field => (map.value? field).getD (draft field) :=
  funext fun field => foldl_applyEntry draft map.entries field

theorem apply_eq_iff {map : OptionMap} {field : OptionField} {value : Value} :
    draft.apply map field = value ↔
      map.Gives field value ∨ (map.Skips field ∧ draft field = value) := by
  rw [apply_eq_value?, ← OptionMap.value?_eq_some_iff, ← OptionMap.value?_eq_none_iff]
  cases hvalue : map.value? field <;> simp [hvalue]

/-! ### Records of drafts -/

theorem highlight?_eq_ok_iff {highlight : Option Callback} :
    draft.highlight? = .ok highlight ↔
      draft .highlight = highlight.elim .null Value.callback := by
  unfold highlight?
  cases draft .highlight <;> cases highlight <;> simp

theorem text?_eq_ok_iff {field : OptionField} {text : Text} :
    draft.text? field = .ok text ↔ draft field = .text text := by
  unfold text?
  cases draft field <;> simp

/-- **A draft becomes the record whose draft it is.** -/
theorem build_eq_ok_iff {p : RenderOptions} : draft.build = .ok p ↔ draft = p.toDraft := by
  constructor
  · intro h
    obtain ⟨highlight, hhighlight, h⟩ := exists_of_bind_eq_ok h
    obtain ⟨langPrefix, hlang, h⟩ := exists_of_bind_eq_ok h
    obtain ⟨headerPrefix, hheader, h⟩ := exists_of_bind_eq_ok h
    cases h
    funext field
    cases field with
    | langPrefix => exact text?_eq_ok_iff.mp hlang
    | headerPrefix => exact text?_eq_ok_iff.mp hheader
    | highlight =>
      rw [highlight?_eq_ok_iff.mp hhighlight]
      cases highlight <;> rfl
    | _ => rfl
  · rintro rfl
    exact RenderOptions.build_toDraft p

theorem highlight?_cases (draft : OptionDraft) :
    (OptionField.highlight.accepts (draft .highlight) ∧ ∃ highlight, draft.highlight? = .ok highlight) ∨
      (¬ OptionField.highlight.accepts (draft .highlight) ∧
        draft.highlight? = .error (OptionField.highlight.refusal (draft .highlight))) := by
  rw [OptionField.refusal_highlight, highlight?]
  cases draft .highlight with
  | null => exact Or.inl ⟨rfl, _, rfl⟩
  | callback c => exact Or.inl ⟨rfl, _, rfl⟩
  | _ => exact Or.inr ⟨Bool.false_ne_true, rfl⟩

theorem text?_cases (draft : OptionDraft) {field : OptionField}
    (h : field = .langPrefix ∨ field = .headerPrefix) :
    (field.accepts (draft field) ∧ ∃ text, draft.text? field = .ok text) ∨
      (¬ field.accepts (draft field) ∧
        draft.text? field = .error (field.refusal (draft field))) := by
  rw [OptionField.refusal_text h, text?]
  rcases h with rfl | rfl
  · cases draft .langPrefix with
    | text t => exact Or.inl ⟨rfl, t, rfl⟩
    | _ => exact Or.inr ⟨Bool.false_ne_true, rfl⟩
  · cases draft .headerPrefix with
    | text t => exact Or.inl ⟨rfl, t, rfl⟩
    | _ => exact Or.inr ⟨Bool.false_ne_true, rfl⟩

/-- **A draft is refused for the first option that has a value it cannot have.** -/
theorem build_eq_error_iff {e : ConfigError} :
    draft.build = .error e ↔
      ∃ field, OptionField.checked.find? (fun field => !field.accepts (draft field)) = some field ∧
        e = field.refusal (draft field) := by
  unfold build OptionField.checked
  rcases draft.highlight?_cases with ⟨hok, highlight, hhighlight⟩ | ⟨hno, hhighlight⟩
  · rcases draft.text?_cases (Or.inl rfl) with ⟨hok', langPrefix, hlang⟩ | ⟨hno', hlang⟩
    · rcases draft.text?_cases (Or.inr rfl) with ⟨hok'', headerPrefix, hheader⟩ | ⟨hno'', hheader⟩
      · simp [bind, Except.bind, pure, Except.pure, hhighlight, hlang, hheader, hok, hok', hok'']
      · simp [bind, Except.bind, hhighlight, hlang, hheader, hok, hok', hno'', eq_comm]
    · simp [bind, Except.bind, hhighlight, hlang, hok, hno', eq_comm]
  · simp [bind, Except.bind, hhighlight, hno, eq_comm]

end OptionDraft

/-! ### Chains of maps -/

namespace RenderOptions

variable {o p : RenderOptions} {maps : List OptionMap} {map : OptionMap} {field : OptionField}
  {value : Value}

/-- The value that an option has where maps lie on a record, the last map on top. -/
def Resolves (o : RenderOptions) (maps : List OptionMap) (field : OptionField) (value : Value) :
    Prop :=
  (∃ lower map upper, maps = lower ++ map :: upper ∧ map.Gives field value ∧
      ∀ m ∈ upper, m.Skips field) ∨
    ((∀ m ∈ maps, m.Skips field) ∧ value = o.toDraft field)

/-- The error of the first option that is looked at and would have a value it cannot have. -/
def Refuses (o : RenderOptions) (map : OptionMap) (e : ConfigError) : Prop :=
  ∃ earlier field later value, OptionField.checked = earlier ++ field :: later ∧
    Resolves o [map] field value ∧ ¬ field.accepts value ∧ e = field.refusal value ∧
    ∀ f ∈ earlier, ∀ v, Resolves o [map] f v → f.accepts v

theorem resolves_nil : Resolves o [] field value ↔ o.toDraft field = value := by
  simp [Resolves, eq_comm]

/-- One more map on top. -/
theorem resolves_concat :
    Resolves o (maps ++ [map]) field value ↔
      map.Gives field value ∨ (map.Skips field ∧ Resolves o maps field value) := by
  constructor
  · rintro (⟨lower, m, upper, hmaps, hgives, hupper⟩ | ⟨hskips, hvalue⟩)
    · rcases List.eq_nil_or_concat upper with rfl | ⟨upper, last, rfl⟩
      · obtain ⟨-, hlast⟩ := List.append_inj' hmaps rfl
        obtain rfl : map = m := (List.cons.inj hlast).1
        exact Or.inl hgives
      · rw [List.concat_eq_append, ← List.cons_append, ← List.append_assoc] at hmaps
        obtain ⟨hrest, hlast⟩ := List.append_inj' hmaps rfl
        obtain rfl : map = last := (List.cons.inj hlast).1
        refine Or.inr ⟨hupper map (by simp), Or.inl ⟨lower, m, upper, hrest, hgives, ?_⟩⟩
        exact fun m hm => hupper m (by simp [hm])
    · exact Or.inr ⟨hskips map (by simp), Or.inr ⟨fun m hm => hskips m (by simp [hm]), hvalue⟩⟩
  · rintro (hgives | ⟨hskips, ⟨lower, m, upper, rfl, hgives, hupper⟩ | ⟨hall, hvalue⟩⟩)
    · exact Or.inl ⟨maps, map, [], rfl, hgives, by simp⟩
    · refine Or.inl ⟨lower, m, upper ++ [map], by simp, hgives, ?_⟩
      exact List.forall_mem_append.mpr ⟨hupper, by simpa using hskips⟩
    · refine Or.inr ⟨?_, hvalue⟩
      exact List.forall_mem_append.mpr ⟨hall, by simpa using hskips⟩

/-- A single map does to the draft of a record what it resolves to. -/
theorem resolves_singleton :
    Resolves o [map] field value ↔ o.toDraft.apply map field = value := by
  rw [← List.nil_append [map], resolves_concat, resolves_nil, OptionDraft.apply_eq_iff]

/-- **What a chain of merges resolves to**, by induction on its maps. -/
theorem toDraft_foldlM_merge (h : maps.foldlM merge o = .ok p) :
    p.toDraft field = value ↔ Resolves o maps field value := by
  induction maps using List.reverseRecOn generalizing p value with
  | nil =>
    obtain rfl : o = p := Except.ok.inj h
    exact resolves_nil.symm
  | append_singleton front map ih =>
    rw [List.foldlM_append] at h
    obtain ⟨q, hfront, hlast⟩ := exists_of_bind_eq_ok h
    have hmerge : q.merge map = .ok p := by simpa using hlast
    have hdraft : q.toDraft.apply map = p.toDraft := OptionDraft.build_eq_ok_iff.mp hmerge
    rw [← hdraft, OptionDraft.apply_eq_iff, resolves_concat, ih hfront]

theorem merge_eq_error_iff {e : ConfigError} : o.merge map = .error e ↔ Refuses o map e := by
  rw [merge, OptionDraft.build_eq_error_iff]
  constructor
  · rintro ⟨field, hfind, rfl⟩
    obtain ⟨hfield, earlier, later, hchecked, hearlier⟩ := List.find?_eq_some_iff_append.mp hfind
    refine ⟨earlier, field, later, _, hchecked, resolves_singleton.mpr rfl, ?_, rfl, ?_⟩
    · simpa using hfield
    · intro f hf v hv
      rw [← resolves_singleton.mp hv]
      simpa using hearlier f hf
  · rintro ⟨earlier, field, later, value, hchecked, hvalue, hfield, rfl, hearlier⟩
    rw [← resolves_singleton.mp hvalue] at hfield ⊢
    refine ⟨field, List.find?_eq_some_iff_append.mpr ⟨?_, earlier, later, hchecked, ?_⟩, rfl⟩
    · simpa using hfield
    · intro f hf
      simpa using hearlier f hf _ (resolves_singleton.mpr rfl)

theorem ofMap_eq_merge (map : OptionMap) : ofMap map = merge {} map := by
  rw [ofMap, merge, OptionDraft.apply_eq_value?]

end RenderOptions

/-! ### Records of a session -/

/-- Merging into a record changes nothing that a session holds. -/
theorem Session.State.merge_frame {s s' : State} {r r' : Record} {map : OptionMap}
    (h : (s.merge r map).Yields (r', s')) :
    s'.current = s.current ∧ s'.records = s.records ∧ s'.holders = s.holders := by
  unfold merge at h
  split at h
  · cases h
    exact ⟨rfl, rfl, rfl⟩
  · obtain ⟨options, -, hmake⟩ := h.exists_of_bind
    cases hmake
    exact ⟨rfl, rfl, rfl⟩

namespace RenderOptions

/-- **Layered options resolve option by option.** After a chain of merges that succeed, an option
has the value of the last entry that names it in the last map that does, or else that of the record
below. An entry that names no option has no effect, and nothing that a session holds is changed. A
merge fails if and only if an option would have a value that it cannot have, with the error of the
first one that is looked at. A record made from a map is one merged into the defaults. -/
theorem merge_layers (o : RenderOptions) :
    (∀ maps p, maps.foldlM merge o = .ok p →
      ∀ field value, p.toDraft field = value ↔ Resolves o maps field value) ∧
    (∀ (map map' : OptionMap) (front back : List (Text × Value)) (entry : Text × Value),
      map.entries = front ++ entry :: back → map'.entries = front ++ back →
      (∀ field : OptionField, ¬ field.IsNamedBy entry.1) → o.merge map = o.merge map') ∧
    (∀ (s s' : Session.State) (r r' : Session.Record) (map : OptionMap),
      (s.merge r map).Yields (r', s') →
      s'.current = s.current ∧ s'.records = s.records ∧ s'.holders = s.holders) ∧
    (∀ map e, o.merge map = .error e ↔ Refuses o map e) ∧
    (∀ map, ofMap map = merge {} map) := by
  refine ⟨fun maps p h field value => toDraft_foldlM_merge h, ?_, ?_,
    fun map e => merge_eq_error_iff, ofMap_eq_merge⟩
  · intro map map' front back entry h h' hentry
    rw [merge, merge, OptionDraft.apply_eq_value?, OptionDraft.apply_eq_value?]
    simp only [OptionMap.value?_of_entries_eq h h' hentry]
  · intro s s' r r' map h
    exact Session.State.merge_frame h

/-- Both spellings in one map, an entry that names no option, and two values that their
options cannot have. -/
theorem merge_layers_both_spellings :
    let below := OptionMap.ofList [("langPrefix", .text "a-"), ("lang_prefix", .text "b-")]
    let above := OptionMap.ofList [("gfm", .bool true), ("xhtml", .bool true)]
    let wrong := OptionMap.ofList [("headerPrefix", .null), ("highlight", .bool true)]
    Resolves {} [below, above] .langPrefix (.text "b-") ∧
      merge {} above = merge {} (OptionMap.ofList [("xhtml", .bool true)]) ∧
      Session.State.current { nextId := 2 } = Session.State.current {} ∧
      Refuses {} wrong ⟨"highlight", "expected a callable, got bool"⟩ := by
  intro below above wrong
  obtain ⟨hchain, hother, hsession, hfault, -⟩ := merge_layers {}
  refine ⟨(hchain [below, above] _ rfl .langPrefix _).mp rfl, ?_, ?_, ?_⟩
  · refine hother _ _ [] [("xhtml", .bool true)] ("gfm", .bool true) rfl rfl ?_
    intro field
    cases field <;> decide
  · exact (hsession {} { nextId := 2 } .initial ⟨1, { xhtml := .bool true }⟩ above rfl).1
  · exact (hfault wrong _).mp rfl

end RenderOptions

end MarkdownRender
