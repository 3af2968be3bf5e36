import MarkdownRender.Error
import MarkdownRender.Url.Utf8

/-!
# Percent-encoding

A percent-encoded text is a sequence of pieces: code points that stand for themselves, and octets
written as `%` and two hexadecimal digits. Decoding is strict. Every `%` has to begin an escape,
which is checked first and for the whole text, and each run of neighbouring escapes has to be
UTF-8 on its own.
-/

namespace MarkdownRender.Percent

/-- A piece of a percent-encoded text. -/
inductive Piece where
  | literal (c : CodePoint)
  | octet (b : UInt8)
deriving DecidableEq

/-- The octet that two hexadecimal digits stand for. -/
def octet? (high low : CodePoint) : Option UInt8 := do
  UInt8.ofNat (16 * (← high.hexValue?) + (← low.hexValue?))

/-- The pieces of a text; there are none if some `%` begins no escape. -/
def pieces? : Text → Option (List Piece)
  | [] => some []
  | c :: rest =>
    if c = '%' then
      match rest with
      | high :: low :: rest =>
        match octet? high low with
        | some b => (pieces? rest).map (.octet b :: ·)
        | none => none
      | _ => none
    else (pieces? rest).map (.literal c :: ·)

/-- The text that the pieces stand for, after a run of octets that is still open. -/
def decodeRuns? (run : List UInt8) : List Piece → Option Text
  | [] => Utf8.decode? run
  | .octet b :: rest => decodeRuns? (run ++ [b]) rest
  | .literal c :: rest => do return (← Utf8.decode? run) ++ c :: (← decodeRuns? [] rest)

/-- Decodes a percent-encoded text. -/
def decode (text : Text) : Except MalformedUrl Text :=
  match pieces? text with
  | none => .error (.strayPercent text)
  | some pieces =>
    match decodeRuns? [] pieces with
    | none => .error (.notUtf8 text)
    | some decoded => .ok decoded

end MarkdownRender.Percent
