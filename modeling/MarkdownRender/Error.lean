import MarkdownRender.Text.Quoted

/-!
# Errors

What can go wrong, and how it is told. The library has two errors of its own: an option with a
value that no renderer can use, and a URL that cannot be decoded.
-/

namespace MarkdownRender

/-- An option has a value that no renderer can use. -/
structure ConfigError where
  /-- The name of the option. -/
  option : Text
  problem : Text
deriving DecidableEq

def ConfigError.message (e : ConfigError) : Text :=
  "Option '" ++ e.option ++ "': " ++ e.problem

/-- The percent-encoding of a URL is malformed. -/
structure MalformedUrl where
  url : Text
  reason : Text
deriving DecidableEq

namespace MalformedUrl

/-- A `%` is not followed by two hexadecimal digits. -/
def strayPercent (url : Text) : MalformedUrl := ⟨url, "'%' not followed by two hex digits"⟩

/-- The escaped octets are not UTF-8. -/
def notUtf8 (url : Text) : MalformedUrl := ⟨url, "invalid UTF-8 sequence"⟩

def message (e : MalformedUrl) : Text := "Malformed URL " ++ e.url.quoted ++ ": " ++ e.reason

end MalformedUrl

/-- A failure inside a highlighter, known by the name of its kind. -/
structure Failure where
  kind : Text
deriving DecidableEq

/-- Everything that can stop an operation. -/
inductive Fault where
  | config (e : ConfigError)
  | malformedUrl (e : MalformedUrl)
  /-- A field of an option record was assigned to; records never change. -/
  | frozenField (field : Text)
  /-- Something was assigned to under a name that no field of an option record has. -/
  | noSuchField
  /-- The flags of a table cell are neither flags nor a mapping. -/
  | flagsNotMapping
  /-- The renderer has no such operation. -/
  | noSuchOperation
  /-- A number that says how often something is repeated does not fit in 64 bits. -/
  | countOutOfRange
  /-- No record or renderer of that name is kept. -/
  | unknownName (name : Text)
  | highlighter (cause : Failure)
deriving DecidableEq

namespace Fault

/-- The text of a fault that has one. -/
def message? : Fault → Option Text
  | config e => some e.message
  | malformedUrl e => some e.message
  | frozenField field => some ("cannot assign to field " ++ field.quoted)
  | _ => none

/-- Whether the fault is one of the library's own errors. -/
def isOwnError : Fault → Bool
  | config _ | malformedUrl _ => true
  | _ => false

/-- Whether the fault blames the value that was given, and not the way it was used. -/
def blamesValue : Fault → Bool
  | malformedUrl _ => true
  | _ => false

end Fault

end MarkdownRender
