/-
  MountControl — how many columns a text takes on a terminal.

  Most characters take one column, wide ones two, combining ones none.  A
  few sequences are drawn as one glyph: a character and a picture selector,
  a picture and its skin tone, pictures chained by joiners, and the Arabic
  lam-alef pair.  So a text is measured from its end: `Following` is what
  the characters after the current one make of it.
-/
import MountControl.Text.Columns.Table

namespace MountControl.Text.Columns

/-- What follows a character, as far as its width depends on it. -/
inductive Following
  /-- Nothing that matters. -/
  | plain
  /-- A picture. -/
  | picture
  /-- A skin tone. -/
  | tone
  /-- A joiner and a picture. -/
  | joinedPicture
  /-- The selector of the picture form. -/
  | pictureForm
  /-- The selector of the picture form, a joiner and a picture. -/
  | joinedPictureForm
  /-- The selector of the text form. -/
  | textForm
  /-- An alef that may join with a lam. -/
  | alef
  deriving DecidableEq, Repr

/-- The letters that spell flags in pairs. -/
def isFlagLetter (c : Char) : Bool := 0x1F1E6 ≤ c.toNat && c.toNat ≤ 0x1F1FF

/-- The skin tones. -/
def isTone (c : Char) : Bool := 0x1F3FB ≤ c.toNat && c.toNat ≤ 0x1F3FF

/-- Does a selector turn the character into a picture? -/
def hasPictureForm (c : Char) : Bool := emoji.has c && !isFlagLetter c

/-- The columns of a character on its own, and what it is to the character before it. -/
def alone (c : Char) : Nat × Following :=
  if c.toNat ≤ 0xA0 then (1, .plain)
  else if c = '\uFE0F' then (0, .pictureForm)
  else if c = '\uFE0E' then (0, .textForm)
  else if isTone c then (2, .tone)
  else if emojiByDefault.has c && !isFlagLetter c then (2, .picture)
  else if alefs.has c then (1, .alef)
  else if c.toNat = 0x17D8 then (3, .plain)
  else if weightless.has c then (0, .plain)
  else if doubleWidth.has c then (2, .plain)
  else (1, .plain)

/-- The columns of a character before the given text, and what the two together are to the
    character before them. -/
def beside (c : Char) (next : Following) : Nat × Following :=
  match next with
  | .plain => alone c
  | .picture => if c = '\u200D' then (0, .joinedPicture) else alone c
  | .tone =>
    if c = '\u200D' then (0, .joinedPicture)
    else if emojiModifierBase.has c then (0, .picture)
    else alone c
  | .joinedPicture =>
    if c = '\uFE0F' then (0, .joinedPictureForm)
    else if isTone c then (0, .tone)
    else if (alone c).2 = .picture then (0, .picture)
    else alone c
  | .pictureForm => if hasPictureForm c then (2, .picture) else alone c
  | .joinedPictureForm =>
    if hasPictureForm c then (0, .picture)
    else if (alone c).2 = .picture then (0, .picture)
    else alone c
  | .textForm => if hasPictureForm c && 0xA0 < c.toNat then (1, .plain) else alone c
  | .alef =>
    if lams.has c then (0, .plain)
    else if weightless.has c then (0, .alef)
    else alone c

/-- The columns a text takes. -/
def width (text : List Char) : Nat :=
  (text.foldr (fun c (total, next) =>
    let (columns, following) := beside c next
    (total + columns, following)) (0, Following.plain)).1

end MountControl.Text.Columns
