import Stencil.Text.Property.Spelling.Row

set_option autoImplicit false

/-! Spellings that follow from where a character stands: the scripts of India have one layout, the
syllables of Korean are numbered by their sounds, and alphabets for formulas repeat the Latin one. -/

namespace Stencil.Text.Property

/-- Letters of the scripts of India by their place in the layout that those scripts share. -/
def indianLetters : List Row := [
  ⟨0x1, ["N", "N", "H"]⟩,
  ⟨0x5, [
      "a", "aa", "i", "ii", "u", "uu", "R", "L", "eN", "e", "e", "ai", "oN", "o", "o", "au", "k",
      "kh", "g", "gh", "ng", "c", "ch", "j", "jh", "ny", "tt", "tth", "dd", "ddh", "nn", "t",
      "th", "d", "dh", "n", "nnn", "p", "ph", "b", "bh", "m", "y", "r", "rr", "l", "l", "lll",
      "v", "sh", "ss", "s", "h"]⟩,
  ⟨0x3C, [
      "'", "'", "aa", "i", "ii", "u", "uu", "R", "RR", "eN", "e", "e", "ai", "oN", "o", "o", "au",
      ""]⟩,
  ⟨0x50, ["AUM", "'", "'", "`", "'"]⟩,
  ⟨0x58, [
      "q", "khh", "ghh", "z", "dddh", "rh", "f", "yy", "RR", "LL", "L", "LL", " / ", " // ", "0",
      "1", "2", "3", "4", "5", "6", "7", "8", "9", "."]⟩]

/-- How many characters each script of India has room for. -/
def indianRoom : Nat := 0x80

def indian? (code : Nat) : Option String :=
  if 0x900 ≤ code ∧ code < 0xD80 then spelledIn indianLetters (code % indianRoom) else none

/-- The first sounds of Korean syllables. -/
def initials : List String := [
  "g", "gg", "n", "d", "dd", "r", "m", "b", "bb", "s", "ss", "", "j", "jj", "c", "k", "t", "p", "h"]

/-- The vowels of Korean syllables. -/
def medials : List String := [
  "a", "ae", "ya", "yae", "eo", "e", "yeo", "ye", "o", "wa", "wae", "oe", "yo", "u", "weo", "we", "wi",
  "yu", "eu", "yi", "i"]

/-- The last sounds of Korean syllables. -/
def finals : List String := [
  "", "g", "gg", "gs", "n", "nj", "nh", "d", "l", "lg", "lm", "lb", "ls", "lt", "lp", "lh", "m", "b",
  "bs", "s", "ss", "ng", "j", "c", "k", "t", "p", "h"]

/-- Korean syllables are numbered by their first sound, then by their vowel, then by their last sound. -/
def korean? (code : Nat) : Option String :=
  if 0xAC00 ≤ code ∧ code ≤ 0xD7A3 then do
    let place := code - 0xAC00
    let initial ← initials[place / (medials.length * finals.length)]?
    let medial ← medials[place / finals.length % medials.length]?
    let final ← finals[place % finals.length]?
    return initial ++ medial ++ final
  else none

/-- The letters of the alphabets for formulas, capitals first, and their digits. -/
def formula? (code : Nat) : Option String :=
  if 0x1D400 ≤ code ∧ code < 0x1D6A4 then
    let place := (code - 0x1D400) % 52
    some (String.singleton (Char.ofNat (if place < 26 then 65 + place else 97 + (place - 26))))
  else if 0x1D7CE ≤ code ∧ code ≤ 0x1D7FF then
    some (toString ((code - 0x1D7CE) % 10))
  else none

end Stencil.Text.Property
