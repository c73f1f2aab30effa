import Lookout.Text.WidthTable

/-!
# Display width

How many columns of a terminal a text takes. A character takes none, one or two columns; a picture
with a selector, a skin tone or joined partners takes two together.
-/

namespace Lookout.Text

/-- The columns of a character that stands alone. -/
def charWidth (c : Char) : Nat :=
  let n := c.toNat
  if n < 0xa0 then 1
  else if zeroWidthRanges.has n then 0
  else if wideRanges.has n then 2
  else 1

/-- The character may start a picture. -/
def isEmoji (c : Char) : Bool := emojiRanges.has c.toNat

/-- The character is a skin tone. -/
def isSkinTone (c : Char) : Bool := 0x1f3fb ≤ c.toNat && c.toNat ≤ 0x1f3ff

/-- The picture at the start of a text and the rest of the text: a character shown as a picture,
with its selector or skin tone. -/
def takePicture? : List Char → Option (List Char)
  | c :: '\ufe0f' :: rest => if isEmoji c then some rest else none
  | c :: d :: rest =>
    if d = '\ufe0e' then none
    else if modifierBaseRanges.has c.toNat && isSkinTone d then some rest
    else if emojiByDefaultRanges.has c.toNat then some (d :: rest)
    else none
  | [c] => if emojiByDefaultRanges.has c.toNat then some [] else none
  | [] => none

/-- The columns of a text, reading `fuel` parts at most; `joined` holds after a picture whose
partners take no column of their own. -/
def widthUpTo : Nat → Bool → List Char → Nat
  | 0, _, _ => 0
  | _ + 1, _, [] => 0
  | fuel + 1, joined, '\u200d' :: rest =>
    match joined, takePicture? rest with
    | true, some rest' => widthUpTo fuel true rest'
    | _, _ => widthUpTo fuel false rest
  | fuel + 1, _, c :: rest =>
    if c = '\x0d' && rest.head? == some '\n' then 1 + widthUpTo fuel false rest.tail
    else if c.toNat < 0x300 && rest.head? != some '\ufe0f' then
      charWidth c + widthUpTo fuel false rest
    else
      match takePicture? (c :: rest) with
      | some rest' =>
        if 0x1f1e6 ≤ c.toNat && c.toNat ≤ 0x1f1ff then charWidth c + widthUpTo fuel false rest
        else 2 + widthUpTo fuel true rest'
      | none =>
        if rest.head? == some '\ufe0e' && emojiByDefaultRanges.has c.toNat then
          1 + widthUpTo fuel false rest
        else charWidth c + widthUpTo fuel false rest

/-- The columns of a text. -/
def width (cs : List Char) : Nat := widthUpTo cs.length false cs

end Lookout.Text
