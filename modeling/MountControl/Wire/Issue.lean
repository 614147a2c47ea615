/-
  MountControl — what was wrong with a line of a message.

  Decoding is lax: a record that cannot be used is skipped, and an issue
  says where it stood, what was wrong and how it began.
-/
import MountControl.Log.Event
import MountControl.Text.Quoted

namespace MountControl.Wire

/-- Why a record was skipped. -/
inductive IssueKind
  /-- The key is unknown. -/
  | unknownField
  /-- The length of a counted value is missing, is no number, or does not fit the message. -/
  | badLength
  /-- Bytes follow a counted value on its last line; the value is kept. -/
  | trailingBytes
  /-- A number cannot be read. -/
  | badNumber
  /-- A value cannot be read. -/
  | badValue
  /-- The line is empty. -/
  | emptyLine
  /-- The field has no meaning in this message. -/
  | unexpectedField
  /-- The field was given before; the first value counts. -/
  | duplicateField
  deriving DecidableEq, Repr

/-- The text of an issue kind. -/
def IssueKind.message : IssueKind → String
  | .unknownField => "unknown field"
  | .badLength => "malformed length prefix"
  | .trailingBytes => "bytes beyond the declared length"
  | .badNumber => "malformed number"
  | .badValue => "malformed value"
  | .emptyLine => "empty line"
  | .unexpectedField => "field not valid in this message"
  | .duplicateField => "duplicate field"

/-- A record that was skipped. -/
structure Issue where
  /-- Its line within the message; the header is line 0. -/
  line : Nat
  /-- What is wrong with it. -/
  kind : IssueKind
  /-- How it begins. -/
  excerpt : String
  deriving DecidableEq, Repr

/-- The longest excerpt, in characters. -/
def excerptLimit : Nat := 80

/-- The issue with a text of any length. -/
def Issue.about (line : Nat) (kind : IssueKind) (text : List Char) : Issue :=
  ⟨line, kind, String.ofList (text.take excerptLimit)⟩

/-- The issue as it is displayed. -/
def Issue.display (issue : Issue) : String :=
  "line " ++ Text.Numeral.decimalString issue.line ++ ": " ++ issue.kind.message ++ " ("
    ++ Text.Quoted.quoteString issue.excerpt ++ ")"

/-- The log event of an issue. -/
def Issue.event (issue : Issue) : Log.Event where
  level := .debug
  target := "btrmount-protocol"
  message := "skipping unintelligible record"
  fields := [("line", .number issue.line), ("kind", .shown issue.kind.message),
    ("excerpt", .shown issue.excerpt)]

/-- A message read from its records, and the issues met on the way, in the order of lines. -/
structure Decoded (α : Type) where
  /-- The message, as far as it could be understood. -/
  message : α
  /-- The records that were skipped. -/
  issues : List Issue
  deriving DecidableEq, Repr

end MountControl.Wire
