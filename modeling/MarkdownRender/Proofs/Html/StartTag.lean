import MarkdownRender.Proofs.Html.Elements
import MarkdownRender.Proofs.Html.ReferenceScan

/-!
# Start tags read by their quoted values

A start tag holds a name and attributes with values between quotation marks. A value may hold any
code point but a quotation mark, brackets included: it is read up to the next quotation mark, and
nothing in it ends the tag. So a start tag is known from what is written, and so is the place where
it ends. This is `StartTag.written_append_inj`, which comes down to two cuts: the name ends where a
blank or a bracket stands (`startTag_append_inj`), and the name of an attribute ends at the equals
sign (`attr_append_inj`).

A text that is put between the quotation marks as it is need not be a value. What is written is
then a tag with that one attribute if and only if the text holds no quotation mark:
`isSingleTag_startTag_attr_iff`.
-/

namespace MarkdownRender

open CodePoint (ofChar)

/-- A text is cut in one way where the code points that satisfy `p` end. -/
theorem Text.append_cons_inj {p : CodePoint → Bool} {front front' rest rest' : Text}
    {d d' : CodePoint} (h : ∀ c ∈ front, p c) (hd : ¬ p d) (h' : ∀ c ∈ front', p c) (hd' : ¬ p d')
    (heq : front ++ d :: rest = front' ++ d' :: rest') :
    front = front' ∧ d :: rest = d' :: rest' := by
  have hfront : front = front' := by
    rw [← takeWhile_append_cons h hd rest, heq, takeWhile_append_cons h' hd' rest']
  subst hfront
  exact ⟨rfl, List.append_cancel_left heq⟩

namespace Html

/-! ### Where names end -/

/-- The code points of attribute names. -/
def isAttributeNameChar (c : CodePoint) : Bool :=
  isNameChar c && c ≠ '=' && c ≠ '"' && c ≠ '\''

/-- A name that an attribute can be written with. -/
def IsAttributeName (name : Text) : Prop := name ≠ [] ∧ ∀ c ∈ name, isAttributeNameChar c

instance (name : Text) : Decidable (IsAttributeName name) := inferInstanceAs (Decidable (_ ∧ _))

section Cuts

variable {name name' value value' attributes attributes' rest rest' : Text}

/-- The name of an attribute ends at the equals sign, whatever its value. -/
theorem attr_append_inj (hname : IsAttributeName name) (hname' : IsAttributeName name')
    (h : attr name value ++ rest = attr name' value' ++ rest') :
    name = name' ∧ value ++ ofChar '"' :: rest = value' ++ ofChar '"' :: rest' := by
  have hattr (name value rest : Text) : attr name value ++ rest =
      ofChar ' ' :: (name ++ ofChar '=' :: ofChar '"' :: (value ++ ofChar '"' :: rest)) := by
    simp [attr, Text.ofString]
  rw [hattr, hattr] at h
  obtain ⟨hnames, htail⟩ := Text.append_cons_inj hname.2 (by decide) hname'.2 (by decide)
    (List.cons.inj h).2
  exact ⟨hnames, (List.cons.inj (List.cons.inj htail).2).2⟩

/-- What stands behind the name of a start tag does not belong to the name. -/
theorem exists_cons_of_blank (h : ∀ c ∈ attributes.head?, c.isBlank) (rest : Text) :
    ∃ d tail, ¬ isNameChar d ∧ attributes ++ ofChar '>' :: rest = d :: tail := by
  cases attributes with
  | nil => exact ⟨ofChar '>', rest, by decide, rfl⟩
  | cons c tail =>
    have hc : c.isBlank := h c rfl
    exact ⟨c, tail ++ ofChar '>' :: rest, by simp [isNameChar, hc], rfl⟩

/-- The name of a start tag ends where its attributes or the tag itself end it. -/
theorem startTag_append_inj (hname : IsName name) (hname' : IsName name')
    (hblank : ∀ c ∈ attributes.head?, c.isBlank) (hblank' : ∀ c ∈ attributes'.head?, c.isBlank)
    (h : startTag name attributes ++ rest = startTag name' attributes' ++ rest') :
    name = name' ∧ attributes ++ ofChar '>' :: rest = attributes' ++ ofChar '>' :: rest' := by
  have htag (name attributes rest : Text) : startTag name attributes ++ rest =
      ofChar '<' :: (name ++ (attributes ++ ofChar '>' :: rest)) := by
    simp [startTag, Text.ofString]
  obtain ⟨d, tail, hd, hbehind⟩ := exists_cons_of_blank hblank rest
  obtain ⟨d', tail', hd', hbehind'⟩ := exists_cons_of_blank hblank' rest'
  rw [htag, htag, hbehind, hbehind'] at h
  rw [hbehind, hbehind']
  exact Text.append_cons_inj hname.2 hd hname'.2 hd' (List.cons.inj h).2

end Cuts

/-! ### Attributes -/

/-- An attribute. Its value is written between quotation marks, so it holds none. -/
structure Attribute where
  name : Text
  value : Text
  isName : IsAttributeName name
  isQuotable : ofChar '"' ∉ value

namespace Attribute

/-- The attribute as it stands in a tag, with a blank before it. -/
def written (a : Attribute) : Text := attr a.name a.value

/-- **An attribute ends at the quotation mark behind its value**, whatever comes then. -/
theorem written_append_inj {a b : Attribute} {rest rest' : Text}
    (h : a.written ++ rest = b.written ++ rest') : a = b ∧ rest = rest' := by
  have hquotable (c : Attribute) : ∀ d ∈ c.value, d ≠ ofChar '"' := by
    rintro d hd rfl
    exact c.isQuotable hd
  obtain ⟨hname, htail⟩ := attr_append_inj a.isName b.isName h
  obtain ⟨hvalue, hrest⟩ := Text.append_cons_inj (p := (· ≠ ofChar '"'))
    (by simpa using hquotable a) (by simp) (by simpa using hquotable b) (by simp) htail
  refine ⟨?_, (List.cons.inj hrest).2⟩
  cases a
  cases b
  cases hname
  cases hvalue
  rfl

end Attribute

/-! ### Start tags -/

/-- A start tag, with its attributes in the order in which they are written. -/
structure StartTag where
  name : Text
  attributes : List Attribute
  isName : IsName name

namespace StartTag

/-- The attributes as they stand in a tag. -/
def writtenAttributes (attributes : List Attribute) : Text := attributes.flatMap Attribute.written

/-- The start tag as it stands in markup. -/
def written (t : StartTag) : Text := startTag t.name (writtenAttributes t.attributes)

theorem isBlank_of_mem_head? (attributes : List Attribute) :
    ∀ c ∈ (writtenAttributes attributes).head?, c.isBlank := by
  cases attributes with
  | nil => simp [writtenAttributes]
  | cons a attributes =>
    intro c hc
    cases hc
    decide

theorem writtenAttributes_append_inj {attributes attributes' : List Attribute} {rest rest' : Text}
    (h : writtenAttributes attributes ++ ofChar '>' :: rest =
      writtenAttributes attributes' ++ ofChar '>' :: rest') :
    attributes = attributes' ∧ rest = rest' := by
  -- a bracket ends the tag where a blank would begin another attribute
  have hne : ofChar '>' ≠ ofChar ' ' := by decide
  induction attributes generalizing attributes' with
  | nil =>
    cases attributes' with
    | nil => exact ⟨rfl, (List.cons.inj h).2⟩
    | cons b attributes' => exact absurd (List.cons.inj h).1 hne
  | cons a attributes ih =>
    cases attributes' with
    | nil => exact absurd (List.cons.inj h).1.symm hne
    | cons b attributes' =>
      simp only [writtenAttributes, List.flatMap_cons, List.append_assoc] at h
      obtain ⟨rfl, htail⟩ := Attribute.written_append_inj h
      obtain ⟨rfl, hrest⟩ := ih htail
      exact ⟨rfl, hrest⟩

/-- **A start tag is known from what is written**, and so is where it ends. -/
theorem written_append_inj {t t' : StartTag} {rest rest' : Text}
    (h : t.written ++ rest = t'.written ++ rest') : t = t' ∧ rest = rest' := by
  obtain ⟨hname, htail⟩ := startTag_append_inj t.isName t'.isName
    (isBlank_of_mem_head? t.attributes) (isBlank_of_mem_head? t'.attributes) h
  obtain ⟨hattributes, hrest⟩ := writtenAttributes_append_inj htail
  refine ⟨?_, hrest⟩
  cases t
  cases t'
  cases hname
  cases hattributes
  rfl

theorem written_injective : Function.Injective written := by
  intro t t' h
  have happend : t.written ++ [] = t'.written ++ [] := by rw [h]
  exact (written_append_inj happend).1

end StartTag

/-! ### Tags with one attribute at most -/

/-- A text that is read as one start tag with one attribute at most. -/
def IsSingleTag (tag : Text) : Prop :=
  ∃ t : StartTag, t.written = tag ∧ t.attributes.length ≤ 1

theorem isSingleTag_startTag {name : Text} (hname : IsName name) :
    IsSingleTag (startTag name []) :=
  ⟨⟨name, [], hname⟩, rfl, Nat.zero_le _⟩

/-- **A text between quotation marks is the value of a single attribute** if and only if it holds
no quotation mark itself. -/
theorem isSingleTag_startTag_attr_iff {name key value : Text} (hname : IsName name)
    (hkey : IsAttributeName key) :
    IsSingleTag (startTag name (attr key value)) ↔ ofChar '"' ∉ value := by
  constructor
  · rintro ⟨⟨name', attributes, hname'⟩, hwritten, hlength⟩
    have hblank : ∀ c ∈ (attr key value).head?, c.isBlank := by
      intro c hc
      cases hc
      decide
    have htag : startTag name' (StartTag.writtenAttributes attributes) ++ [] =
        startTag name (attr key value) ++ [] := congrArg (· ++ []) hwritten
    obtain ⟨-, hattributes⟩ := startTag_append_inj hname' hname
      (StartTag.isBlank_of_mem_head? attributes) hblank htag
    have hwrittens : StartTag.writtenAttributes attributes = attr key value :=
      List.append_cancel_right hattributes
    cases attributes with
    | nil => cases hwrittens
    | cons a attributes =>
      obtain rfl : attributes = [] := by simpa using hlength
      have hattr : attr a.name a.value ++ [] = attr key value ++ [] := by
        simpa [StartTag.writtenAttributes, Attribute.written] using hwrittens
      obtain ⟨-, hvalue⟩ := attr_append_inj a.isName hkey hattr
      rw [← List.append_cancel_right hvalue]
      exact a.isQuotable
  · intro hvalue
    refine ⟨⟨name, [⟨key, value, hkey, hvalue⟩], hname⟩, ?_, le_rfl⟩
    simp [StartTag.written, StartTag.writtenAttributes, Attribute.written]

end Html

end MarkdownRender
