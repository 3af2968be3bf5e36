import MarkdownRender.Proofs.Html.Escaping
import MarkdownRender.Proofs.Html.Spelling

/-!
# Lenient escaping

Lenient escaping looks at what stands behind an ampersand before anything is escaped. So it takes
the text for a sequence of references, which it keeps, and of code points that begin none, which
become what strict escaping makes of them. What it writes is such a sequence again, because every
entity is a reference and no code point that is kept belongs to one by chance. `reference_induction`
is the induction over this sequence. By it the texts that escaping leaves alone are exactly those
that it writes (`escapeLenient_normal_form`), and a reader of references reads the same before and
after, whatever it takes other references for (`escapeLenient_keeps_meaning`).
-/

namespace MarkdownRender.Html

open CodePoint (ofChar)

/-! ### References that are kept -/

/-- One or more ASCII word characters. -/
def isWordText (text : Text) : Bool := !text.isEmpty && text.all CodePoint.isWord

/-- The name of a reference that is kept: one or more ASCII word characters, behind `#` or not. -/
def isReferenceName (name : Text) : Bool :=
  isWordText name || (name.head? = some (ofChar '#') && isWordText name.tail)

/-- A text that begins with a reference. -/
def BeginsReference (text : Text) : Prop :=
  ∃ name rest, isReferenceName name ∧ text = reference name ++ rest

theorem isWordText_iff {word : Text} :
    isWordText word ↔ word ≠ [] ∧ ∀ c ∈ word, c.isWord := by
  simp [isWordText]

theorem isReferenceChar_of_mem_word {word : Text} (h : isWordText word) {c : CodePoint}
    (hc : c ∈ word) : isReferenceChar c :=
  isReferenceChar_of_isWord ((isWordText_iff.mp h).2 c hc)

theorem isReferenceName_iff {name : Text} :
    isReferenceName name ↔
      ∃ word, isWordText word ∧ (name = word ∨ name = ofChar '#' :: word) := by
  constructor
  · intro h
    simp only [isReferenceName, Bool.or_eq_true, Bool.and_eq_true, decide_eq_true_eq] at h
    rcases h with hword | ⟨hsign, hword⟩
    · exact ⟨name, hword, Or.inl rfl⟩
    · exact ⟨name.tail, hword, Or.inr (List.eq_cons_of_mem_head? hsign)⟩
  · rintro ⟨word, hword, rfl | rfl⟩ <;> simp [isReferenceName, hword]

theorem isReferenceChar_of_mem_name {name : Text} (h : isReferenceName name) {c : CodePoint}
    (hc : c ∈ name) : isReferenceChar c := by
  obtain ⟨word, hword, rfl | rfl⟩ := isReferenceName_iff.mp h
  · exact isReferenceChar_of_mem_word hword hc
  · rcases List.mem_cons.mp hc with rfl | hc
    · decide
    · exact isReferenceChar_of_mem_word hword hc

/-- What follows the ampersand of a reference is left alone by escaping. -/
theorem notMem_special_of_mem_name {name : Text} (h : isReferenceName name) {c : CodePoint}
    (hc : c ∈ name ++ [ofChar ';']) : c ∉ special := by
  have hspecial : ∀ c ∈ special, ¬ isReferenceChar c ∧ c ≠ ofChar ';' := by decide
  intro hmem
  obtain ⟨hname, hsemi⟩ := hspecial c hmem
  rcases List.mem_append.mp hc with hc | hc
  · exact hname (isReferenceChar_of_mem_name h hc)
  · exact hsemi (List.mem_singleton.mp hc)

/-- The name in the entity of a special code point. -/
def entityName (c : CodePoint) : Text := (entity c).tail.dropLast

/-- Every entity is a reference. -/
theorem entity_eq_reference {c : CodePoint} (h : c ∈ special) :
    entity c = reference (entityName c) := by
  have hspecial : ∀ c ∈ special, entity c = reference (entityName c) := by decide
  exact hspecial c h

theorem isReferenceName_entityName {c : CodePoint} (h : c ∈ special) :
    isReferenceName (entityName c) := by
  have hspecial : ∀ c ∈ special, isReferenceName (entityName c) := by decide
  exact hspecial c h

theorem beginsReference_of_name {name : Text} (h : isReferenceName name) (rest : Text) :
    BeginsReference (ofChar '&' :: (name ++ [ofChar ';'] ++ rest)) :=
  ⟨name, rest, h, rfl⟩

theorem eq_ampersand_of_beginsReference {c : CodePoint} {rest : Text}
    (h : BeginsReference (c :: rest)) : c = ofChar '&' := by
  obtain ⟨name, others, -, heq⟩ := h
  exact (List.cons.inj heq).1

/-! ### The lookahead -/

/-- A `#` that the lookahead skips is no part of the word behind it. -/
theorem head?_append_of_isWordText {word : Text} (h : isWordText word) (rest : Text) :
    (word ++ rest).head? ≠ some (ofChar '#') := by
  obtain ⟨hne, hall⟩ := isWordText_iff.mp h
  obtain ⟨c, others, rfl⟩ := List.exists_cons_of_ne_nil hne
  intro hsign
  obtain rfl := Option.some.inj hsign
  exact absurd (hall _ List.mem_cons_self) (by decide)

/-- The word characters in front of a text, and a semicolon behind them. -/
theorem takeWhile_isWord_iff {body : Text} :
    (body.takeWhile CodePoint.isWord ≠ [] ∧
        (body.drop (body.takeWhile CodePoint.isWord).length).head? = some (ofChar ';')) ↔
      ∃ word rest, isWordText word ∧ body = word ++ ofChar ';' :: rest := by
  constructor
  · rintro ⟨hne, hsemi⟩
    obtain ⟨rest, hrest⟩ := Text.exists_takeWhile_append_cons hsemi
    exact ⟨_, rest, isWordText_iff.mpr ⟨hne, fun c hc => List.mem_takeWhile_imp hc⟩, hrest⟩
  · rintro ⟨word, rest, hword, rfl⟩
    obtain ⟨hne, hall⟩ := isWordText_iff.mp hword
    rw [Text.takeWhile_append_cons hall (by decide), List.drop_left]
    exact ⟨hne, rfl⟩

/-- The lookahead accepts the rest of a reference, and nothing else. -/
theorem continuesReference_iff {rest : Text} :
    continuesReference rest ↔ BeginsReference (ofChar '&' :: rest) := by
  have hbegins : BeginsReference (ofChar '&' :: rest) ↔
      ∃ name others, isReferenceName name ∧ rest = name ++ ofChar ';' :: others := by
    simp [BeginsReference, reference_append]
  rw [hbegins]
  simp only [continuesReference, Bool.and_eq_true, Bool.not_eq_true', List.isEmpty_eq_false_iff,
    decide_eq_true_eq, takeWhile_isWord_iff, isReferenceName_iff]
  constructor
  · rintro ⟨word, others, hword, heq⟩
    split at heq
    next hsign =>
      refine ⟨ofChar '#' :: word, others, ⟨word, hword, Or.inr rfl⟩, ?_⟩
      rw [List.eq_cons_of_mem_head? hsign, heq, List.cons_append]
    next => exact ⟨word, others, ⟨word, hword, Or.inl rfl⟩, heq⟩
  · rintro ⟨name, others, ⟨word, hword, rfl | rfl⟩, rfl⟩
    · refine ⟨name, others, hword, ?_⟩
      rw [if_neg (head?_append_of_isWordText hword _)]
    · exact ⟨word, others, hword, rfl⟩

/-- Induction over the references of a text and the code points that begin none. -/
theorem reference_induction {P : Text → Prop} (nil : P [])
    (reference : ∀ name rest, isReferenceName name → P rest → P (reference name ++ rest))
    (literal : ∀ c rest, ¬ BeginsReference (c :: rest) → P rest → P (c :: rest))
    (text : Text) : P text := by
  induction hlen : text.length using Nat.strongRecOn generalizing text with
  | ind n ih =>
    subst hlen
    by_cases hbegins : BeginsReference text
    · obtain ⟨name, rest, hname, rfl⟩ := hbegins
      refine reference name rest hname (ih rest.length ?_ rest rfl)
      simp [reference_append]
      omega
    · cases text with
      | nil => exact nil
      | cons c rest => exact literal c rest hbegins (ih rest.length (by simp) rest rfl)

/-! ### One step of lenient escaping -/

theorem escapeMarkup_append (s t : Text) :
    escapeMarkup (s ++ t) = escapeMarkup s ++ escapeMarkup t := by
  simp [escapeMarkup, Text.replace]

theorem escapeMarkup_singleton {c : CodePoint} (h : c ≠ ofChar '&') :
    escapeMarkup [c] = entity c := by
  rw [← escape_singleton]
  simp [escape, Text.replace, h]

/-- An ampersand that begins a reference is kept. -/
theorem escapeLenient_ampersand {rest : Text} (h : BeginsReference (ofChar '&' :: rest)) :
    escapeLenient (ofChar '&' :: rest) = ofChar '&' :: escapeLenient rest := by
  have hbare : escapeBareAmpersands (ofChar '&' :: rest) =
      [ofChar '&'] ++ escapeBareAmpersands rest := by
    simp [escapeBareAmpersands, continuesReference_iff.mpr h]
  rw [escapeLenient, hbare, escapeMarkup_append]
  rfl

/-- A code point that begins no reference becomes what strict escaping makes of it. -/
theorem escapeLenient_cons {c : CodePoint} {rest : Text} (h : ¬ BeginsReference (c :: rest)) :
    escapeLenient (c :: rest) = entity c ++ escapeLenient rest := by
  by_cases hc : c = ofChar '&'
  · subst hc
    have hbare : escapeBareAmpersands (ofChar '&' :: rest) =
        Text.ofString "&amp;" ++ escapeBareAmpersands rest := by
      simp [escapeBareAmpersands, mt continuesReference_iff.mp h]
    rw [escapeLenient, hbare, escapeMarkup_append]
    rfl
  · have hbare : escapeBareAmpersands (c :: rest) = [c] ++ escapeBareAmpersands rest := by
      simp [escapeBareAmpersands, hc]
    rw [escapeLenient, hbare, escapeMarkup_append, escapeMarkup_singleton hc]
    rfl

theorem not_beginsReference_of_notMem {c : CodePoint} (h : c ∉ special) (rest : Text) :
    ¬ BeginsReference (c :: rest) := by
  intro hbegins
  rw [eq_ampersand_of_beginsReference hbegins] at h
  exact h (by decide)

theorem escapeLenient_append_of_notMem {front : Text} (h : ∀ c ∈ front, c ∉ special)
    (rest : Text) : escapeLenient (front ++ rest) = front ++ escapeLenient rest := by
  induction front with
  | nil => rfl
  | cons c front ih =>
    have hc : c ∉ special := h c List.mem_cons_self
    rw [List.cons_append, escapeLenient_cons (not_beginsReference_of_notMem hc _),
      entity_of_notMem hc, ih fun d hd => h d (List.mem_cons_of_mem c hd)]
    rfl

/-- A reference is kept. -/
theorem escapeLenient_reference_append {name : Text} (h : isReferenceName name) (rest : Text) :
    escapeLenient (reference name ++ rest) = reference name ++ escapeLenient rest := by
  have hkept := escapeLenient_append_of_notMem (fun c hc => notMem_special_of_mem_name h hc) rest
  rw [reference, List.cons_append, escapeLenient_ampersand (beginsReference_of_name h rest), hkept]
  rfl

/-! ### Texts that need no escaping -/

/-- A text without angle brackets and quotation marks, in which each ampersand begins a
reference. -/
structure IsNormal (text : Text) : Prop where
  no_markup : ∀ c ∈ Text.ofString "<>\"'", c ∉ text
  begins_of_ampersand : ∀ rest, ofChar '&' :: rest <:+ text → BeginsReference (ofChar '&' :: rest)

theorem isNormal_nil : IsNormal [] :=
  ⟨fun _ _ => List.not_mem_nil, fun _ h => absurd (List.suffix_nil.mp h) (List.cons_ne_nil _ _)⟩

theorem isNormal_cons_iff {c : CodePoint} {rest : Text} :
    IsNormal (c :: rest) ↔
      (c ∈ special → BeginsReference (c :: rest)) ∧ IsNormal rest := by
  constructor
  · rintro ⟨hmarkup, hbegins⟩
    refine ⟨fun hc => ?_, fun d hd hmem => hmarkup d hd (List.mem_cons_of_mem c hmem),
      fun others h => hbegins others (h.trans (List.suffix_cons c rest))⟩
    rcases List.mem_cons.mp hc with rfl | hc
    · exact hbegins rest List.suffix_rfl
    · exact absurd List.mem_cons_self (hmarkup c hc)
  · rintro ⟨hspecial, hmarkup, hbegins⟩
    refine ⟨fun d hd hmem => ?_, fun others h => ?_⟩
    · rcases List.mem_cons.mp hmem with rfl | hmem
      · -- of the special code points only the ampersand begins a reference
        obtain rfl := eq_ampersand_of_beginsReference (hspecial (List.mem_cons_of_mem _ hd))
        exact absurd hd (by decide)
      · exact hmarkup d hd hmem
    · rcases List.suffix_cons_iff.mp h with heq | h
      · obtain ⟨rfl, rfl⟩ := List.cons.inj heq
        exact hspecial (by decide)
      · exact hbegins others h

theorem isNormal_append_iff_of_notMem {front : Text} (h : ∀ c ∈ front, c ∉ special) {rest : Text} :
    IsNormal (front ++ rest) ↔ IsNormal rest := by
  induction front with
  | nil => rfl
  | cons c front ih =>
    have hc : c ∉ special := h c List.mem_cons_self
    rw [List.cons_append, isNormal_cons_iff, ih fun d hd => h d (List.mem_cons_of_mem c hd)]
    exact and_iff_right fun hmem => absurd hmem hc

theorem isNormal_reference_append_iff {name : Text} (h : isReferenceName name) {rest : Text} :
    IsNormal (reference name ++ rest) ↔ IsNormal rest := by
  rw [reference, List.cons_append, isNormal_cons_iff,
    isNormal_append_iff_of_notMem fun c hc => notMem_special_of_mem_name h hc]
  exact and_iff_right fun _ => beginsReference_of_name h rest

theorem IsNormal.entity_append (c : CodePoint) {rest : Text} (h : IsNormal rest) :
    IsNormal (entity c ++ rest) := by
  by_cases hc : c ∈ special
  · rw [entity_eq_reference hc]
    exact (isNormal_reference_append_iff (isReferenceName_entityName hc)).mpr h
  · rw [entity_of_notMem hc]
    exact isNormal_cons_iff.mpr ⟨fun hmem => absurd hmem hc, h⟩

theorem isNormal_escape (text : Text) : IsNormal (escape text) := by
  rw [escape_eq_flatMap]
  induction text with
  | nil => exact isNormal_nil
  | cons c rest ih => exact ih.entity_append c

theorem isNormal_escapeLenient (text : Text) : IsNormal (escapeLenient text) := by
  induction text using reference_induction with
  | nil => exact isNormal_nil
  | reference name rest hname ih =>
    rw [escapeLenient_reference_append hname]
    exact (isNormal_reference_append_iff hname).mpr ih
  | literal c rest hbegins ih =>
    rw [escapeLenient_cons hbegins]
    exact ih.entity_append c

theorem escapeLenient_of_isNormal {text : Text} (h : IsNormal text) : escapeLenient text = text := by
  induction text using reference_induction with
  | nil => rfl
  | reference name rest hname ih =>
    rw [escapeLenient_reference_append hname, ih ((isNormal_reference_append_iff hname).mp h)]
  | literal c rest hbegins ih =>
    obtain ⟨hspecial, hrest⟩ := isNormal_cons_iff.mp h
    rw [escapeLenient_cons hbegins, entity_of_notMem fun hc => hbegins (hspecial hc), ih hrest]
    rfl

/-- **Lenient escaping is a normal form.** It changes neither what it has written itself nor what
strict escaping has written, and the texts that it leaves alone are those without angle brackets and
quotation marks in which each ampersand begins a reference. -/
theorem escapeLenient_normal_form (text : Text) :
    escapeLenient (escapeLenient text) = escapeLenient text ∧
      escapeLenient (escape text) = escape text ∧
      (escapeLenient text = text ↔ IsNormal text) := by
  refine ⟨escapeLenient_of_isNormal (isNormal_escapeLenient text),
    escapeLenient_of_isNormal (isNormal_escape text), fun h => ?_, escapeLenient_of_isNormal⟩
  rw [← h]
  exact isNormal_escapeLenient text

/-- What is taken for a reference is kept, and a semicolon may make the difference. -/
example : escapeLenient "&lt; &lt <" = "&lt; &amp;lt &lt;" := by decide

/-! ### Reading -/

/-- Where a reference stands: what `f` says of it, and how much of it follows. -/
def readingRule (f : Text → Text) : Text.Rule := fun c rest =>
  let name := rest.takeWhile (· ≠ ofChar ';')
  if c = '&' && isReferenceName name && (rest.drop name.length).head? = some (ofChar ';') then
    some (f (reference name), name.length + 1)
  else none

/-- Reads a text from left to right: each reference as what `f` says of it, and every other code
point as itself. -/
def readReferences (f : Text → Text) (text : Text) : Text := text.substitute (readingRule f)

section Reading

variable {f : Text → Text}

theorem readReferences_reference_append {name : Text} (h : isReferenceName name) (rest : Text) :
    readReferences f (reference name ++ rest) = f (reference name) ++ readReferences f rest := by
  have hsemi : ∀ c ∈ name, decide (c ≠ ofChar ';') := fun c hc => decide_eq_true fun heq =>
    not_isReferenceChar_semicolon (heq ▸ isReferenceChar_of_mem_name h hc)
  have htake : (name ++ ofChar ';' :: rest).takeWhile (· ≠ ofChar ';') = name :=
    Text.takeWhile_append_cons hsemi (by decide) rest
  have hrule : readingRule f (ofChar '&') (name ++ ofChar ';' :: rest) =
      some (f (reference name), name.length + 1) := by
    simp only [readingRule, htake]
    simp [h]
  rw [reference_append, readReferences, Text.substitute_cons_of_some hrule, Text.drop_append_cons]
  rfl

theorem readReferences_cons {c : CodePoint} {rest : Text} (h : ¬ BeginsReference (c :: rest)) :
    readReferences f (c :: rest) = c :: readReferences f rest := by
  refine Text.substitute_cons_of_none (if_neg fun hrule => h ?_)
  simp only [Bool.and_eq_true, decide_eq_true_eq] at hrule
  obtain ⟨⟨rfl, hname⟩, hsemi⟩ := hrule
  obtain ⟨others, hothers⟩ := Text.exists_takeWhile_append_cons hsemi
  refine ⟨_, others, hname, ?_⟩
  rw [reference_append]
  exact congrArg _ hothers

/-- What is written for a code point is read as that code point. -/
theorem readReferences_entity_append (hf : ∀ c ∈ special, f (entity c) = [c]) (c : CodePoint)
    (rest : Text) : readReferences f (entity c ++ rest) = c :: readReferences f rest := by
  by_cases hc : c ∈ special
  · rw [entity_eq_reference hc, readReferences_reference_append (isReferenceName_entityName hc),
      ← entity_eq_reference hc, hf c hc]
    rfl
  · rw [entity_of_notMem hc]
    exact readReferences_cons (not_beginsReference_of_notMem hc rest)

theorem readReferences_escapeLenient (hf : ∀ c ∈ special, f (entity c) = [c]) (text : Text) :
    readReferences f (escapeLenient text) = readReferences f text := by
  induction text using reference_induction with
  | nil => rfl
  | reference name rest hname ih =>
    rw [escapeLenient_reference_append hname, readReferences_reference_append hname,
      readReferences_reference_append hname, ih]
  | literal c rest hbegins ih =>
    rw [escapeLenient_cons hbegins, readReferences_entity_append hf, readReferences_cons hbegins, ih]

/-- **Lenient escaping keeps what a text denotes** while it leaves nothing to be escaped. Whatever
references by other names are read as, a reader that knows the entities reads the escaped text as it
reads the text itself. -/
theorem escapeLenient_keeps_meaning (hf : ∀ c ∈ special, f (entity c) = [c]) (text : Text) :
    IsNormal (escapeLenient text) ∧
      readReferences f (escapeLenient text) = readReferences f text :=
  ⟨isNormal_escapeLenient text, readReferences_escapeLenient hf text⟩

/-- A reader that knows `&copy;` besides the entities. Of the two references of the text one means
nothing to it, and the third ampersand begins none. -/
theorem escapeLenient_keeps_copyright :
    let f : Text → Text := fun r => if r = Text.ofString "&copy;" then "©" else readEntities r
    let text : Text := "&copy;<'&#60;&lt"
    (∀ c ∈ special, f (entity c) = [c]) ∧ IsNormal (escapeLenient text) ∧
      readReferences f (escapeLenient text) = readReferences f text ∧
      readReferences f text = "©<'&#60;&lt" := by
  intro f text
  have hf : ∀ c ∈ special, f (entity c) = [c] := by decide
  obtain ⟨hnormal, hread⟩ := escapeLenient_keeps_meaning hf text
  exact ⟨hf, hnormal, hread, by decide⟩

end Reading

end MarkdownRender.Html
