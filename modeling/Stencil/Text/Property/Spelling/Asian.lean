import Stencil.Text.Property.Spelling.Row

set_option autoImplicit false

/-! Spellings of Hebrew, Arabic, Thai and Japanese letters. -/

namespace Stencil.Text.Property

/-- Hebrew and Arabic letters. -/
def semiticLetters : List Row := [
  ⟨0x5B0, ["@", "e", "a", "o", "i", "e", "e", "a", "a", "o"]⟩, ⟨0x5BB, ["u", "'"]⟩, ⟨0x5C0, [":"]⟩,
  ⟨0x5C3, [":"]⟩,
  ⟨0x5D1, [
      "b", "g", "d", "h", "v", "z", "kh", "t", "y", "k", "k", "l", "m", "m", "n", "n", "s", "`",
      "p", "p", "ts", "ts", "q", "r", "sh", "t"]⟩,
  ⟨0x5F0, ["V", "oy", "i", "'", "\""]⟩, ⟨0x60C, [","]⟩, ⟨0x61B, [";"]⟩, ⟨0x61F, ["?"]⟩,
  ⟨0x622, ["a", "'", "w'"]⟩, ⟨0x626, ["y'"]⟩,
  ⟨0x628, [
      "b", "@", "t", "th", "j", "H", "kh", "d", "dh", "r", "z", "s", "sh", "S", "D", "T", "Z",
      "`", "G"]⟩,
  ⟨0x641, [
      "f", "q", "k", "l", "m", "n", "h", "w", "~", "y", "an", "un", "in", "a", "u", "i", "W"]⟩,
  ⟨0x654, ["'", "'"]⟩,
  ⟨0x660, ["0", "1", "2", "3", "4", "5", "6", "7", "8", "9", "%", ".", ",", "*"]⟩, ⟨0x670, ["a"]⟩,
  ⟨0x679, ["tt"]⟩, ⟨0x67E, ["p"]⟩, ⟨0x686, ["ch"]⟩, ⟨0x688, ["dd"]⟩, ⟨0x691, ["rr"]⟩,
  ⟨0x698, ["zh"]⟩, ⟨0x6A4, ["v"]⟩, ⟨0x6A9, ["k"]⟩, ⟨0x6AF, ["g"]⟩, ⟨0x6BA, ["n"]⟩, ⟨0x6BE, ["h"]⟩,
  ⟨0x6C1, ["h"]⟩, ⟨0x6CC, ["y"]⟩, ⟨0x6D2, ["ay"]⟩,
  ⟨0x6F0, ["0", "1", "2", "3", "4", "5", "6", "7", "8", "9"]⟩]

/-- Thai letters. -/
def thaiLetters : List Row := [
  ⟨0xE01, [
      "k", "kh", "kh", "kh", "kh", "kh", "ng", "cch", "ch", "ch", "ch", "ch", "y", "d", "t", "th",
      "th", "th", "n", "d", "t", "th", "th", "th", "n", "b", "p", "ph", "f", "ph", "f", "ph", "m",
      "y", "r", "R", "l", "L", "w", "s", "s", "s", "h", "l", "`", "h", "~", "a", "a", "aa", "am",
      "i", "ii", "ue", "uue", "u", "uu", "'"]⟩,
  ⟨0xE3F, ["Bh.", "e", "ae", "o", "ai", "ai", "ao", "+"]⟩, ⟨0xE4D, ["M"]⟩,
  ⟨0xE4F, [" * ", "0", "1", "2", "3", "4", "5", "6", "7", "8", "9", " // ", " /// "]⟩]

/-- Japanese syllables and the signs between them. -/
def kana : List Row := [
  ⟨0x3000, [
      " ", ", ", ". ", "\"", "[JIS]", "\"", "/", "0", "<", "> ", "<<", ">> ", "[", "] ", "\x7b",
      "\x7d ", "[(", ")] ", "@", "X ", "[", "] ", "[[", "]] ", "((", ")) ", "[[", "]] ", "~ ",
      "''", "''", ",,", "@", "1", "2", "3", "4", "5", "6", "7", "8", "9"]⟩,
  ⟨0x3041, [
      "a", "a", "i", "i", "u", "u", "e", "e", "o", "o", "ka", "ga", "ki", "gi", "ku", "gu", "ke",
      "ge", "ko", "go", "sa", "za", "shi", "zi", "su", "zu", "se", "ze", "so", "zo", "ta", "da",
      "chi", "di", "tsu", "tsu", "du", "te", "de", "to", "do", "na", "ni", "nu", "ne", "no", "ha",
      "ba", "pa", "hi", "bi", "pi", "hu", "bu", "pu", "he", "be", "pe", "ho", "bo", "po", "ma",
      "mi", "mu", "me", "mo", "ya", "ya", "yu", "yu", "yo", "yo", "ra", "ri", "ru", "re", "ro",
      "wa", "wa", "wi", "we", "wo", "n", "vu", "ka", "ke"]⟩,
  ⟨0x309B, ["\"", "\"", "\"", "\""]⟩,
  ⟨0x30A0, [
      "=", "a", "a", "i", "i", "u", "u", "e", "e", "o", "o", "ka", "ga", "ki", "gi", "ku", "gu",
      "ke", "ge", "ko", "go", "sa", "za", "shi", "zi", "su", "zu", "se", "ze", "so", "zo", "ta",
      "da", "chi", "di", "tsu", "tsu", "du", "te", "de", "to", "do", "na", "ni", "nu", "ne", "no",
      "ha", "ba", "pa", "hi", "bi", "pi", "hu", "bu", "pu", "he", "be", "pe", "ho", "bo", "po",
      "ma", "mi", "mu", "me", "mo", "ya", "ya", "yu", "yu", "yo", "yo", "ra", "ri", "ru", "re",
      "ro", "wa", "wa", "wi", "we", "wo", "n", "vu", "ka", "ke", "va", "vi", "ve", "vo", "*", "-",
      "\"", "\""]⟩]

/-- Joined letters, and letters in full and half width. -/
def formLetters : List Row := [
  ⟨0xFB00, ["ff", "fi", "fl", "ffi", "ffl", "st", "st"]⟩,
  ⟨0xFF01, [
      "!", "\"", "#", "$", "%", "&", "'", "(", ")", "*", "+", ",", "-", ".", "/", "0", "1", "2",
      "3", "4", "5", "6", "7", "8", "9", ":", ";", "<", "=", ">", "?", "@", "A", "B", "C", "D",
      "E", "F", "G", "H", "I", "J", "K", "L", "M", "N", "O", "P", "Q", "R", "S", "T", "U", "V",
      "W", "X", "Y", "Z", "[", "\\", "]", "^", "_", "`", "a", "b", "c", "d", "e", "f", "g", "h",
      "i", "j", "k", "l", "m", "n", "o", "p", "q", "r", "s", "t", "u", "v", "w", "x", "y", "z",
      "\x7b", "|", "\x7d", "~"]⟩,
  ⟨0xFF61, [
      ". ", "[", "] ", ", ", "*", "wo", "a", "i", "u", "e", "o", "ya", "yu", "yo", "tsu", "+",
      "a", "i", "u", "e", "o", "ka", "ki", "ku", "ke", "ko", "sa", "shi", "su", "se", "so", "ta",
      "chi", "tsu", "te", "to", "na", "ni", "nu", "ne", "no", "ha", "hi", "hu", "he", "ho", "ma",
      "mi", "mu", "me", "mo", "ya", "yu", "yo", "ra", "ri", "ru", "re", "ro", "wa", "n", ":", ";"]⟩,
  ⟨0xFFE0, ["C/", "PS", "!", "-", "|", "Y=", "W="]⟩]

end Stencil.Text.Property
