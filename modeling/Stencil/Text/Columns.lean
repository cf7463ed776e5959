import Stencil.Text.Property.Emoji
import Stencil.Text.Width

set_option autoImplicit false

/-!
Display columns of texts. Characters that are drawn as one take the columns of what is drawn: an emoji
with its selectors, its tone and all that is joined to it takes two, and a few pairs of letters take one.
A control character has no width of its own, but takes one column inside a text; a line break of two
characters takes one.

Texts are read from their end, since it is what follows that decides how a character is drawn.
-/

namespace Stencil.Text

open Property

/-- Letters that may be drawn as one with the letter before them. Some of the pairs need a joiner. -/
inductive Partner where
  | lamed
  | ya
  /-- The joined letter `ya` behind its vowel. -/
  | yaBehindVowel
  | tifinagh
  /-- A Tifinagh letter behind the joiner of that script. -/
  | tifinaghBehindJoiner
  | lisuTone
  | orkhonI
  | khmer
  deriving DecidableEq

/-- What a text begins with, as far as it matters to the character before. -/
inductive Onset where
  | other
  | lineFeed
  /-- A tone of skin. -/
  | tone
  /-- One regional sign. -/
  | region
  /-- Two regional signs or more. -/
  | regions
  | emoji
  /-- A joiner and an emoji. -/
  | joined
  /-- The frame of a key before a joiner and an emoji. -/
  | joinedKey
  /-- A regional sign before a joiner and an emoji. -/
  | joinedRegion
  /-- Several regional signs before a joiner and an emoji: pairs of them, or one more. -/
  | joinedRegions (paired : Bool)
  /-- The letters at the end of a tag before a joiner and an emoji. -/
  | joinedLetters (count : Nat)
  /-- The digits at the end of such a tag. -/
  | joinedDigits (count : Nat)
  | alef
  | partner (letter : Partner) (tied : Bool)
  /-- The vowel sign that makes others longer, once or twice. -/
  | lengthener (twice : Bool)
  deriving DecidableEq

/-- How a selector asks for the character before it to be shown. -/
inductive Style where
  | emoji
  | text
  deriving DecidableEq

/-- The beginning of a text: a selector, if there is one, and what stands behind it. -/
structure Beginning where
  style : Option Style
  onset : Onset
  deriving DecidableEq

/-! ### Single characters -/

/-- The joiner without a width of its own. -/
def joiner : Nat := 0x200D

/-- The selector that asks for an emoji. -/
def emojiSelector : Nat := 0xFE0F

/-- The selector that asks for a plain character. -/
def textSelector : Nat := 0xFE0E

def isRegional (code : Nat) : Bool := 0x1F1E6 ≤ code && code ≤ 0x1F1FF

def isTone (code : Nat) : Bool := 0x1F3FB ≤ code && code ≤ 0x1F3FF

def isTifinagh (code : Nat) : Bool := (0x2D31 ≤ code && code ≤ 0x2D65) || code == 0x2D6F

/-- The letters that an alef is drawn onto. -/
def lamLetters : List Nat := [0x644, 0x6B5, 0x6B6, 0x6B7, 0x6B8, 0x76A, 0x8A6, 0x8C7]

/-- The letters that are drawn onto those. -/
def alefLetters : List Stride := [
  ⟨0x622, 0x623, 1⟩, ⟨0x625, 0x627, 2⟩, ⟨0x671, 0x673, 1⟩, ⟨0x675, 0x675, 1⟩, ⟨0x773, 0x774, 1⟩,
  ⟨0x870, 0x882, 1⟩]

/-- The letters that have a form below another letter. -/
def khmerLetters : List Stride := [
  ⟨0x1780, 0x1782, 1⟩, ⟨0x1784, 0x1787, 1⟩, ⟨0x1789, 0x178C, 1⟩, ⟨0x178E, 0x1793, 1⟩,
  ⟨0x1795, 0x1798, 1⟩, ⟨0x179B, 0x179D, 1⟩, ⟨0x17A0, 0x17A2, 2⟩, ⟨0x17A7, 0x17A7, 1⟩,
  ⟨0x17AB, 0x17AC, 1⟩, ⟨0x17AF, 0x17AF, 1⟩]

/-- Marks that displays leave out. -/
def hiddenMarks : List Stride := [
  ⟨0x34F, 0x34F, 1⟩, ⟨0x17B4, 0x17B5, 1⟩, ⟨0x180B, 0x180D, 1⟩, ⟨0x180F, 0x180F, 1⟩,
  ⟨0xFE00, 0xFE0F, 1⟩, ⟨0xE0100, 0xE01EF, 1⟩]

/-- True if an emoji selector behind the character makes it an emoji. -/
def acceptsEmojiStyle (code : Nat) : Bool :=
  listed emojiOnRequest code || listed textOnRequest code

/-- True if a text selector behind the character makes it narrow; enclosed ideographs stay wide. -/
def acceptsTextStyle (code : Nat) : Bool :=
  listed textOnRequest code && !(0x1F200 ≤ code && code ≤ 0x1F2FF)

/-- True for what may stand between a lam and an alef that are drawn as one. -/
def isPassedOver (code : Nat) : Bool :=
  codeColumns code == 0 && code != joiner && code != 0x200C

/-- What a character is to the one before it, if nothing joins it with what follows. -/
def onsetOf (code : Nat) : Onset :=
  if code < 0x5DC then .other
  else if isTone code then .tone
  else if isRegional code then .region
  else if listed emoji code then .emoji
  else if listed alefLetters code then .alef
  else if code = 0x5DC then .partner .lamed false
  else if code = 0x1A10 then .partner .ya false
  else if isTifinagh code then .partner .tifinagh false
  else if code = 0xA4FC ∨ code = 0xA4FD then .partner .lisuTone false
  else if code = 0x10C03 then .partner .orkhonI false
  else if listed khmerLetters code then .partner .khmer false
  else if code = 0x16D67 then .lengthener false
  else if code = 0x16D68 then .lengthener true
  else .other

/-! ### Joined characters

The columns that a character adds may be fewer than none: they then take back what was counted for the
characters behind it. -/

namespace Onset

/-- A character before an emoji, or before a part of one. -/
def joinEmoji? (code : Nat) : Onset → Option (Int × Onset)
  | tone =>
    if listed toneable code then some (0, emoji) else if code = joiner then some (0, joined) else none
  | region => if isRegional code then some (1, regions) else none
  | regions =>
    if isRegional code then some (1, regions) else if code = joiner then some (0, joined) else none
  | emoji => if code = joiner then some (0, joined) else none
  | joined =>
    if code = 0x20E3 then some (0, joinedKey)
    else if isRegional code then some (1, joinedRegion)
    else if isTone code then some (0, tone)
    else if code = 0xE007F then some (0, joinedLetters 0)
    else if listed Property.emoji code then some (0, emoji)
    else none
  | joinedRegion => if isRegional code then some (-1, joinedRegions true) else none
  | joinedRegions paired =>
    if isRegional code then some (if paired then 3 else -1, joinedRegions !paired)
    else if code = joiner then some (0, joined)
    else none
  | joinedLetters count =>
    if 0xE0061 ≤ code ∧ code ≤ 0xE007A ∧ count < 6 then some (0, joinedLetters (count + 1))
    else if 0xE0030 ≤ code ∧ code ≤ 0xE0039 ∧ count < 5 then some (0, joinedDigits 1)
    else if code = 0x1F3F4 ∧ 3 ≤ count then some (0, emoji)
    else none
  | joinedDigits count =>
    if 0xE0030 ≤ code ∧ code ≤ 0xE0039 ∧ count < 3 then some (0, joinedDigits (count + 1))
    else if code = 0x1F3F4 ∧ count = 3 then some (0, emoji)
    else none
  | _ => none

/-- A letter before one that it is drawn as one with. -/
def joinLetter? (code : Nat) : Onset → Option (Int × Onset)
  | alef =>
    if lamLetters.contains code then some (0, other)
    else if isPassedOver code then some (0, alef)
    else none
  | lengthener twice =>
    if code = 0x16D63 then some (0, other)
    else if twice then none
    else if code = 0x16D67 then some (0, lengthener true)
    else if code = 0x16D68 then some (1, lengthener false)
    else if code = 0x16D69 then some (0, other)
    else none
  | partner letter tied =>
    if code = joiner then some (0, partner letter true)
    else if listed hiddenMarks code then some (0, partner letter tied)
    else
      match letter, tied with
      | .lamed, true => if code = 0x5D0 then some (0, other) else none
      | .ya, true => if code = 0x1A17 then some (0, partner .yaBehindVowel tied) else none
      | .yaBehindVowel, _ => if code = 0x1A15 then some (0, other) else none
      | .tifinagh, tied =>
        if code = 0x2D7F then some (1, partner .tifinaghBehindJoiner tied)
        else if tied && isTifinagh code then some (0, other)
        else none
      | .tifinaghBehindJoiner, _ => if isTifinagh code then some (-1, other) else none
      | .lisuTone, _ => if 0xA4F8 ≤ code ∧ code ≤ 0xA4FB then some (0, other) else none
      | .orkhonI, true => if code = 0x10C32 then some (0, other) else none
      | .khmer, _ => if code = 0x17D2 then some (-1, other) else none
      | _, _ => none
  | _ => none

/-- True if selectors before this do not keep it from joining with what stands before them. -/
def passesSelectors : Onset → Bool
  | alef => true
  | partner _ _ => true
  | _ => false

/-- True for a joiner before an emoji, with or without the frame of a key. -/
def isJoined (onset : Onset) : Bool := onset == joined || onset == joinedKey

end Onset

namespace Beginning

def plain : Beginning := ⟨none, .other⟩

def ofOnset (onset : Onset) : Beginning := ⟨none, onset⟩

/-- Puts a selector in front; another one there gives way to it. -/
def select (style : Style) (beginning : Beginning) : Beginning :=
  if beginning.onset.passesSelectors || (style == .emoji && beginning.onset.isJoined) then
    ⟨some style, beginning.onset⟩
  else ⟨some style, .other⟩

/-- Takes a selector away that nothing before it accepts. -/
def unselected (beginning : Beginning) : Beginning :=
  match beginning.style with
  | none => beginning
  | some _ => if beginning.onset.passesSelectors then ofOnset beginning.onset else plain

end Beginning

/-- The columns of a character before a text, and what it is to the one before it. -/
def extend (code : Nat) (beginning : Beginning) : Int × Beginning :=
  if beginning.style = some .emoji ∧ acceptsEmojiStyle code then
    (if beginning.onset.isJoined then 0 else 2, .ofOnset .emoji)
  else
    let beginning := if beginning.style = some .emoji then beginning.unselected else beginning
    if code ≤ 0xA0 then
      if code = 0x0A then (1, .ofOnset .lineFeed)
      else if code = 0x0D ∧ beginning.onset = .lineFeed then (0, .plain)
      else (1, .plain)
    else if code = emojiSelector then (0, beginning.select .emoji)
    else if code = textSelector then (0, beginning.select .text)
    else if beginning.style = some .text ∧ acceptsTextStyle code then (1, .plain)
    else
      let onset := beginning.unselected.onset
      match (onset.joinEmoji? code).or (onset.joinLetter? code) with
      | some (columns, onset) => (columns, .ofOnset onset)
      | none => (codeColumns code, .ofOnset (onsetOf code))

/-- The columns of a text, and what it begins with. -/
def measure (text : List Char) : Int × Beginning :=
  text.foldr (fun c (total, beginning) =>
    let (columns, beginning) := extend c.toNat beginning
    (total + columns, beginning)) (0, .plain)

/-- The columns of a whole text. -/
def columns (text : List Char) : Nat := (measure text).1.toNat

end Stencil.Text
