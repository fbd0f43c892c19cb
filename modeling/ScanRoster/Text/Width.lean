import ScanRoster.Text.Lowercase
import ScanRoster.Text.Width.Table

/-!
# Widths of texts

How many columns a text takes on a line of a terminal. Most characters count on their own; the
characters of an emoji, and letters that are drawn as one, count together.
-/

namespace ScanRoster.Text

namespace Width

/-- The columns of a character on its own. Controls count as one. -/
def single (c : Char) : Nat :=
  if c.toNat ≤ 0xA0 then 1
  else if inRuns zeroRuns c then 0
  else if inRuns wideRuns c then 2
  else 1

/-- The mark after a character that is to be shown as an emoji. -/
def emojiMark : Char := '\ufe0f'

/-- The mark after a character that is to be shown as text. -/
def textMark : Char := '\ufe0e'

/-- The character that joins emoji, and letters. -/
def joiner : Char := '\u200d'

/-- Whether a character is a letter of a flag. -/
def isFlagLetter (c : Char) : Bool :=
  0x1F1E6 ≤ c.toNat && c.toNat ≤ 0x1F1FF

/-- Whether a character is a skin tone. -/
def isSkinTone (c : Char) : Bool :=
  0x1F3FB ≤ c.toNat && c.toNat ≤ 0x1F3FF

/-- Whether a character spells out the region of a flag. -/
def isTag (c : Char) : Bool :=
  0xE0020 ≤ c.toNat && c.toNat ≤ 0xE007F

/-- The number of characters of the emoji at the start of a text, or zero: a character marked as
emoji, perhaps on a key, a character with a skin tone, the two letters of a flag, or a character
that is shown as emoji, perhaps with tags. -/
def emojiSpan : List Char → Nat
  | [] => 0
  | [c] => if inRuns emojiRuns c then 1 else 0
  | c :: d :: rest =>
    if d == emojiMark && (inRuns textEmojiRuns c || inRuns emojiRuns c) then
      if rest.head? == some '\u20e3' then 3 else 2
    else if isSkinTone d && inRuns baseRuns c then 2
    else if isFlagLetter c && isFlagLetter d then 2
    else if inRuns emojiRuns c then 1 + ((d :: rest).takeWhile isTag).length
    else 0

/-- The number of characters with which further emoji are joined to one. -/
def joinedSpan : Nat → List Char → Nat
  | 0, _ => 0
  | fuel + 1, text =>
    match text with
    | [] => 0
    | c :: rest =>
      let span := emojiSpan rest
      if c == joiner && span != 0 then 1 + span + joinedSpan fuel (rest.drop span) else 0

/-- The number of characters of a lam with its marks and an alef, or zero. -/
def lamAlefSpan : List Char → Nat
  | [] => 0
  | c :: rest =>
    let marks := rest.takeWhile fun m => single m == 0 && m != joiner && m != '\u200c'
    match rest.drop marks.length with
    | a :: _ => if inRuns lamRuns c && inRuns alefRuns a then marks.length + 2 else 0
    | [] => 0

/-- Letters at the start of a text that are drawn as one: their number and their columns. -/
def ligature? (text : List Char) : Option (Nat × Nat) :=
  let fused := fusedSequences.find? fun s => s.isPrefixOf ((text.take 4).map Char.toNat)
  match fused, lamAlefSpan text, text with
  | some s, _, _ => some (s.length, 1)
  | none, n + 1, _ => some (n + 1, 1)
  | none, 0, '\u17d2' :: c :: _ => if inRuns coengRuns c then some (2, 0) else none
  | none, 0, a :: b :: rest =>
    if 0xA4F8 ≤ a.toNat && a.toNat ≤ 0xA4FB && (b == '\ua4fc' || b == '\ua4fd') then some (2, 1)
    else if inRuns tifinaghRuns a && (b == '\u2d7f' || b == joiner) &&
        rest.head?.any (inRuns tifinaghRuns) then
      some (3, 1)
    else none
  | _, _, _ => none

/-- What counts together at the start of a text: the number of its characters and its columns. -/
def cluster : List Char → Nat × Nat
  | [] => (0, 0)
  | c :: rest =>
    if c.toNat < 0x80 && rest.head? != some emojiMark then (1, 1)
    else if rest.head? == some textMark && inRuns markableRuns c then (2, 1)
    else
      let span := emojiSpan (c :: rest)
      if span != 0 then (span + joinedSpan rest.length ((c :: rest).drop span), 2)
      else (ligature? (c :: rest)).getD (1, single c)

/-- The columns of a text whose first characters, so many, have been counted. -/
def counted : Nat → List Char → Nat
  | _, [] => 0
  | skip + 1, _ :: rest => counted skip rest
  | 0, c :: rest =>
    let (span, columns) := cluster (c :: rest)
    columns + counted (span - 1) rest

end Width

/-- The columns that a text without line breaks takes. -/
def width (text : List Char) : Nat :=
  Width.counted 0 text

end ScanRoster.Text
