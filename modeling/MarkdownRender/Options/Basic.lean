import MarkdownRender.Options.Map

/-!
# Render options

The options of a renderer are a record that never changes. A record is made from a draft, which
gives every option some value; a draft becomes a record if the values that are not mere switches
have the right kind. Option maps act on drafts: an entry sets the option that its key names, by
either of two spellings, and entries with other keys do nothing.
-/

namespace MarkdownRender

/-- The options of a renderer. Switches keep the value they were given. -/
structure RenderOptions where
  /-- What the class of a code block begins with, before the language. -/
  langPrefix : Text := "lang-"
  /-- Accepted and ignored: typography is done before rendering. -/
  smartypants : Value := .bool false
  /-- Accepted and ignored: ids have no common beginning. -/
  headerPrefix : Text := ""
  /-- Whether a heading without a marker gets an id derived from its source. -/
  headerAutoId : Value := .bool true
  /-- Whether void elements are closed by themselves. -/
  xhtml : Value := .bool false
  /-- Whether links and images with an unsafe URL are dropped. -/
  sanitize : Value := .bool false
  highlight : Option Callback := none

/-- The options by name. -/
inductive OptionField where
  | langPrefix
  | smartypants
  | headerPrefix
  | headerAutoId
  | xhtml
  | sanitize
  | highlight
deriving DecidableEq

namespace OptionField

/-- The options in the order of the record. -/
def all : List OptionField :=
  [langPrefix, smartypants, headerPrefix, headerAutoId, xhtml, sanitize, highlight]

/-- The name of an option, in small letters with low lines. -/
def name : OptionField → Text
  | langPrefix => "lang_prefix"
  | smartypants => "smartypants"
  | headerPrefix => "header_prefix"
  | headerAutoId => "header_auto_id"
  | xhtml => "xhtml"
  | sanitize => "sanitize"
  | highlight => "highlight"

/-- The other spelling of an option, with inner capitals. It is the name again if the name is a
single word. -/
def altName : OptionField → Text
  | langPrefix => "langPrefix"
  | headerPrefix => "headerPrefix"
  | headerAutoId => "headerAutoId"
  | field => field.name

/-- Whether a field of the record has this name. -/
def isName (name : Text) : Bool := all.any fun field => field.name = name

/-- The option that a key names, in either spelling. -/
def ofKey? (key : Text) : Option OptionField :=
  all.find? fun field => key = field.name || key = field.altName

end OptionField

/-- The value that a map has for an option: that of the last entry whose key names it. -/
def OptionMap.value? (map : OptionMap) (field : OptionField) : Option Value :=
  (map.entries.reverse.find? fun entry => OptionField.ofKey? entry.1 = some field).map (·.2)

/-- A value for every option, of whatever kind. -/
abbrev OptionDraft := OptionField → Value

namespace OptionDraft

/-- Sets one option. -/
def set (draft : OptionDraft) (field : OptionField) (value : Value) : OptionDraft :=
  fun other => if other = field then value else draft other

/-- Sets the option that the key of an entry names, if it names one. -/
def applyEntry (draft : OptionDraft) (entry : Text × Value) : OptionDraft :=
  match OptionField.ofKey? entry.1 with
  | some field => draft.set field entry.2
  | none => draft

/-- Sets the options that a map names, in the order of its entries. -/
def apply (draft : OptionDraft) (map : OptionMap) : OptionDraft :=
  map.entries.foldl applyEntry draft

/-- The callback that a draft gives, if it gives one or nothing. -/
def highlight? (draft : OptionDraft) : Except ConfigError (Option Callback) :=
  match draft .highlight with
  | .null => .ok none
  | .callback c => .ok (some c)
  | value => .error ⟨OptionField.highlight.name, "expected a callable, got " ++ value.kind⟩

/-- The text that a draft gives for an option. -/
def text? (draft : OptionDraft) (field : OptionField) : Except ConfigError Text :=
  match draft field with
  | .text t => .ok t
  | value => .error ⟨field.name, "expected a string, got " ++ value.kind⟩

/-- The record of a draft. The highlighter is looked at first, then the two texts. -/
def build (draft : OptionDraft) : Except ConfigError RenderOptions := do
  let highlight ← draft.highlight?
  let langPrefix ← draft.text? .langPrefix
  let headerPrefix ← draft.text? .headerPrefix
  return {
    langPrefix, headerPrefix, highlight
    smartypants := draft .smartypants
    headerAutoId := draft .headerAutoId
    xhtml := draft .xhtml
    sanitize := draft .sanitize }

end OptionDraft

namespace RenderOptions

/-- The options as a draft. -/
def toDraft (o : RenderOptions) : OptionDraft
  | .langPrefix => .text o.langPrefix
  | .smartypants => o.smartypants
  | .headerPrefix => .text o.headerPrefix
  | .headerAutoId => o.headerAutoId
  | .xhtml => o.xhtml
  | .sanitize => o.sanitize
  | .highlight =>
    match o.highlight with
    | none => .null
    | some c => .callback c

theorem build_toDraft (o : RenderOptions) : o.toDraft.build = .ok o := by
  obtain ⟨_, _, _, _, _, _, highlight⟩ := o
  cases highlight <;> rfl

/-- The options with those of a map on top. -/
def merge (o : RenderOptions) (map : OptionMap) : Except ConfigError RenderOptions :=
  (o.toDraft.apply map).build

/-- The options that a map names, with the defaults for all others. -/
def ofMap (map : OptionMap) : Except ConfigError RenderOptions :=
  OptionDraft.build fun field => (map.value? field).getD (toDraft {} field)

/-- The options as a map, under the spelling with inner capitals, without the highlighter. -/
def toMap (o : RenderOptions) : OptionMap where
  entries :=
    (OptionField.all.filter (· ≠ .highlight)).map fun field => (field.altName, o.toDraft field)
  nodup := by simp only [List.map_map]; exact of_decide_eq_true rfl

/-- Whether two records have equal values for every option. -/
def same (o p : RenderOptions) : Bool :=
  OptionField.all.all fun field => (o.toDraft field).same (p.toDraft field)

end RenderOptions

end MarkdownRender
