/-
  MountControl — texts as bytes.

  A text is a list of characters; on a connection it is its UTF-8 bytes.

  * `encode` is the bytes of a text and `byteLength` their number;
  * `splitBytes n` cuts a text after exactly `n` bytes, and fails where the
    cut falls past the end or inside a character;
  * `decodeLossy` reads any bytes as a text: each longest run of bytes that
    starts a character but does not finish it becomes one replacement
    character.
-/

namespace MountControl.Text

/-- The UTF-8 bytes of a text. -/
def encode (text : List Char) : List UInt8 :=
  text.flatMap String.utf8EncodeChar

/-- The number of UTF-8 bytes of a text. -/
def byteLength (text : List Char) : Nat :=
  text.foldl (fun total c => total + c.utf8Size) 0

/-- Cuts a text after exactly `bytes` bytes; `front` holds the characters already cut off, the
    last one first. -/
def splitBytes.loop : (bytes : Nat) → (text front : List Char) → Option (List Char × List Char)
  | 0, text, front => some (front.reverse, text)
  | _ + 1, [], _ => none
  | bytes + 1, c :: text, front =>
    if c.utf8Size ≤ bytes + 1 then loop (bytes + 1 - c.utf8Size) text (c :: front) else none

/-- Cuts a text after exactly `bytes` bytes.  There is no such cut past the end of the text or
    inside a character. -/
def splitBytes (bytes : Nat) (text : List Char) : Option (List Char × List Char) :=
  splitBytes.loop bytes text []

/-! ## Reading bytes -/

/-- The character that stands for bytes that are no character. -/
def replacement : Char := '\uFFFD'

/-- The ranges in which the bytes after a first byte have to lie; none for a byte that starts no
    character.  Overlong forms, surrogates and values past the last code point are excluded by
    the range of the second byte. -/
def continuations (first : UInt8) : Option (List (UInt8 × UInt8)) :=
  if first < 0x80 then some []
  else if first < 0xC2 then none
  else if first < 0xE0 then some [(0x80, 0xBF)]
  else if first = 0xE0 then some [(0xA0, 0xBF), (0x80, 0xBF)]
  else if first = 0xED then some [(0x80, 0x9F), (0x80, 0xBF)]
  else if first < 0xF0 then some [(0x80, 0xBF), (0x80, 0xBF)]
  else if first = 0xF0 then some [(0x90, 0xBF), (0x80, 0xBF), (0x80, 0xBF)]
  else if first < 0xF4 then some [(0x80, 0xBF), (0x80, 0xBF), (0x80, 0xBF)]
  else if first = 0xF4 then some [(0x80, 0x8F), (0x80, 0xBF), (0x80, 0xBF)]
  else none

/-- The leading bytes that lie in the given ranges, one after the other. -/
def matchRanges : List (UInt8 × UInt8) → List UInt8 → List UInt8
  | (low, high) :: ranges, b :: bytes =>
    if low ≤ b ∧ b ≤ high then b :: matchRanges ranges bytes else []
  | _, _ => []

/-- The character spelled by a first byte and its continuation bytes. -/
def assemble (first : UInt8) (rest : List UInt8) : Char :=
  let payload := match rest.length with
    | 0 => first.toNat
    | 1 => first.toNat % 0x20
    | 2 => first.toNat % 0x10
    | _ => first.toNat % 0x08
  Char.ofNat (rest.foldl (fun value b => value * 0x40 + b.toNat % 0x40) payload)

/-- The character at the front of `first :: bytes`, and how many of `bytes` it takes up. -/
def decodeFirst (first : UInt8) (bytes : List UInt8) : Char × Nat :=
  match continuations first with
  | none => (replacement, 0)
  | some ranges =>
    let matched := matchRanges ranges bytes
    if matched.length = ranges.length then (assemble first matched, matched.length)
    else (replacement, matched.length)

/-- Reads bytes into a text; `front` holds the characters already read, the last one first. -/
def decodeLossy.loop (bytes : List UInt8) (front : List Char) : List Char :=
  match bytes with
  | [] => front.reverse
  | first :: rest =>
    let (c, taken) := decodeFirst first rest
    loop (rest.drop taken) (c :: front)
termination_by bytes.length
decreasing_by
  simp only [List.length_drop, List.length_cons]
  omega

/-- Reads any bytes as a text.  Where they are not UTF-8, each longest start of a character (or
    a byte that starts none) becomes one replacement character. -/
def decodeLossy (bytes : List UInt8) : List Char :=
  decodeLossy.loop bytes []

/-- Are the bytes exactly the UTF-8 form of a text?  That text, if so. -/
def decode? (bytes : List UInt8) : Option (List Char) :=
  let text := decodeLossy bytes
  if encode text = bytes then some text else none

end MountControl.Text
