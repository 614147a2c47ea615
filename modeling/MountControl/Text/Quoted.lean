/-
  MountControl — quoted text.

  Diagnostics show a text in double quotes, so that its end and its odd
  characters can be seen: quotes, backslashes and the usual control
  characters have two-character escapes, and any other character without a
  visible form of its own is written by its code point.
-/
import MountControl.Text.Numeral
import MountControl.Text.Printable

namespace MountControl.Text.Quoted

/-- A character written by its code point. -/
def byCodePoint (c : Char) : List Char :=
  ['\\', 'u', '\x7b'] ++ Numeral.digits 16 c.toNat ++ ['\x7d']

/-- A character inside double quotes. -/
def escape (c : Char) : List Char :=
  match c with
  | '\x00' => ['\\', '0']
  | '\t' => ['\\', 't']
  | '\r' => ['\\', 'r']
  | '\n' => ['\\', 'n']
  | '"' => ['\\', '"']
  | '\\' => ['\\', '\\']
  | _ => if isPlain c then [c] else byCodePoint c

/-- A text in double quotes. -/
def quote (text : List Char) : List Char :=
  '"' :: text.flatMap escape ++ ['"']

/-- A string in double quotes. -/
def quoteString (text : String) : String :=
  String.ofList (quote text.toList)

/-- A character in a place where control characters must not appear: line breaks, tabs,
    carriage returns and quotes by a backslash, plain ASCII as itself, all else by its code
    point. -/
def escapeAscii (c : Char) : List Char :=
  match c with
  | '\t' => ['\\', 't']
  | '\r' => ['\\', 'r']
  | '\n' => ['\\', 'n']
  | '\'' => ['\\', '\'']
  | '"' => ['\\', '"']
  | '\\' => ['\\', '\\']
  | _ => if 0x20 ≤ c.toNat ∧ c.toNat < 0x7F then [c] else byCodePoint c

end MountControl.Text.Quoted
