import Stencil.Text.Property.Spelling.Row

set_option autoImplicit false

/-! Spellings of Greek, Cyrillic, Armenian, Georgian and Cherokee letters. -/

namespace Stencil.Text.Property

/-- Greek letters, and letters written above others. -/
def greekLetters : List Row := [
  ⟨0x363, ["a", "e", "i", "o", "u", "c", "d", "h", "m", "r", "t", "v", "x"]⟩, ⟨0x374, ["'", ","]⟩,
  ⟨0x37E, ["?"]⟩, ⟨0x386, ["A", ";", "E", "E", "I"]⟩, ⟨0x38C, ["O"]⟩,
  ⟨0x38E, [
      "U", "O", "i", "A", "B", "G", "D", "E", "Z", "E", "Th", "I", "K", "L", "M", "N", "Ks", "O",
      "P", "R"]⟩,
  ⟨0x3A3, [
      "S", "T", "U", "Ph", "Kh", "Ps", "O", "I", "U", "a", "e", "e", "i", "u", "a", "b", "g", "d",
      "e", "z", "e", "th", "i", "k", "l", "m", "n", "x", "o", "p", "r", "s", "s", "t", "u", "ph",
      "kh", "ps", "o", "i", "u", "o", "u", "o"]⟩,
  ⟨0x3D0, ["b", "th", "U", "U", "U", "ph", "p", "&"]⟩,
  ⟨0x3DA, [
      "St", "st", "W", "w", "Q", "q", "Sp", "sp", "Sh", "sh", "F", "f", "Kh", "kh", "H", "h", "G",
      "g", "CH", "ch", "Ti", "ti", "k", "r", "c", "j"]⟩]

/-- Cyrillic letters. -/
def cyrillicLetters : List Row := [
  ⟨0x400, [
      "Ie", "Io", "Dj", "Gj", "E", "Dz", "I", "Yi", "J", "Lj", "Nj", "Tsh", "Kj", "I", "U", "Dzh",
      "A", "B", "V", "G", "D", "E", "Zh", "Z", "I", "I", "K", "L", "M", "N", "O", "P", "R", "S",
      "T", "U", "F", "Kh", "Ts", "Ch", "Sh", "Shch", "\"", "Y", "'", "E", "Iu", "Ia", "a", "b",
      "v", "g", "d", "e", "zh", "z", "i", "i", "k", "l", "m", "n", "o", "p", "r", "s", "t", "u",
      "f", "kh", "ts", "ch", "sh", "shch", "\"", "y", "'", "e", "iu", "ia", "ie", "io", "dj",
      "gj", "ie", "dz", "i", "yi", "j", "lj", "nj", "tsh", "kj", "i", "u", "dzh"]⟩,
  ⟨0x460, [
      "O", "o", "E", "e", "Ie", "ie", "E", "e", "Ie", "ie", "O", "o", "Io", "io", "Ks", "ks",
      "Ps", "ps", "F", "f", "Y", "y", "Y", "y", "u", "u", "O", "o", "O", "o", "Ot", "ot", "Q",
      "q", "*1000*"]⟩,
  ⟨0x488, ["*100.000*", "*1.000.000*"]⟩,
  ⟨0x48C, [
      "\"", "\"", "R'", "r'", "G'", "g'", "G'", "g'", "G'", "g'", "Zh'", "zh'", "Z'", "z'", "K'",
      "k'", "K'", "k'", "K'", "k'", "K'", "k'", "N'", "n'", "Ng", "ng", "P'", "p'", "Kh", "kh",
      "S'", "s'", "T'", "t'", "U", "u", "U'", "u'", "Kh'", "kh'", "Tts", "tts", "Ch'", "ch'",
      "Ch'", "ch'", "H", "h", "Ch", "ch", "Ch'", "ch'", "`", "Zh", "zh", "K'", "k'"]⟩,
  ⟨0x4C7, ["N'", "n'"]⟩, ⟨0x4CB, ["Ch", "ch"]⟩,
  ⟨0x4D0, [
      "A", "a", "A", "a", "Ae", "ae", "Ie", "ie", "@", "@", "@", "@", "Zh", "zh", "Z", "z", "Dz",
      "dz", "I", "i", "I", "i", "O", "o", "O", "o", "O", "o", "E", "e", "U", "u", "U", "u", "U",
      "u", "Ch", "ch"]⟩,
  ⟨0x4F8, ["Y", "y"]⟩]

/-- Armenian letters. -/
def armenianLetters : List Row := [
  ⟨0x531, [
      "A", "B", "G", "D", "E", "Z", "E", "E", "T`", "Zh", "I", "L", "Kh", "Ts", "K", "H", "Dz",
      "Gh", "Ch", "M", "Y", "N", "Sh", "O", "Ch`", "P", "J", "Rh", "S", "V", "T", "R", "Ts`", "W",
      "P`", "K`", "O", "F"]⟩,
  ⟨0x559, ["<", "'", "/", "!", ",", "?", "."]⟩,
  ⟨0x561, [
      "a", "b", "g", "d", "e", "z", "e", "e", "t`", "zh", "i", "l", "kh", "ts", "k", "h", "dz",
      "gh", "ch", "m", "y", "n", "sh", "o", "ch`", "p", "j", "rh", "s", "v", "t", "r", "ts`", "w",
      "p`", "k`", "o", "f", "ew"]⟩,
  ⟨0x589, [":", "-"]⟩]

/-- Georgian and Cherokee letters. -/
def georgianLetters : List Row := [
  ⟨0x10A0, [
      "A", "B", "G", "D", "E", "V", "Z", "T`", "I", "K", "L", "M", "N", "O", "P", "Zh", "R", "S",
      "T", "U", "P`", "K`", "G", "Q", "Sh", "Ch`", "C`", "Z'", "C", "Ch", "X", "J", "H", "E", "Y",
      "W", "Xh", "OE"]⟩,
  ⟨0x10D0, [
      "a", "b", "g", "d", "e", "v", "z", "t`", "i", "k", "l", "m", "n", "o", "p", "zh", "r", "s",
      "t", "u", "p`", "k`", "g", "q", "sh", "ch`", "c`", "z'", "c", "ch", "x", "j", "h", "e", "y",
      "w", "xh", "oe", "f"]⟩,
  ⟨0x13A0, [
      "a", "e", "i", "o", "u", "v", "ga", "ka", "ge", "gi", "go", "gu", "gv", "ha", "he", "hi",
      "ho", "hu", "hv", "la", "le", "li", "lo", "lu", "lv", "ma", "me", "mi", "mo", "mu", "na",
      "hna", "nah", "ne", "ni", "no", "nu", "nv", "qua", "que", "qui", "quo", "quu", "quv", "sa",
      "s", "se", "si", "so", "su", "sv", "da", "ta", "de", "te", "di", "ti", "do", "du", "dv",
      "dla", "tla", "tle", "tli", "tlo", "tlu", "tlv", "tsa", "tse", "tsi", "tso", "tsu", "tsv",
      "wa", "we", "wi", "wo", "wu", "wv", "ya", "ye", "yi", "yo", "yu", "yv"]⟩]

/-- Greek letters with breathings. -/
def ancientGreekLetters : List Row := [
  ⟨0x1F59, ["U"]⟩, ⟨0x1F5B, ["U"]⟩, ⟨0x1F5D, ["U"]⟩, ⟨0x1F5F, ["U"]⟩,
  ⟨0x1F70, ["a", "a", "e", "e", "e", "e", "i", "i", "o", "o", "u", "u", "o", "o"]⟩,
  ⟨0x1FB0, ["a", "a", "a", "a", "a"]⟩,
  ⟨0x1FB6, ["a", "a", "A", "A", "A", "A", "A", "'", "i", "'"]⟩, ⟨0x1FC2, ["e", "e", "e"]⟩,
  ⟨0x1FC6, ["e", "e", "E", "E", "E", "E", "E"]⟩, ⟨0x1FD0, ["i", "i", "i", "i"]⟩,
  ⟨0x1FD6, ["i", "i", "I", "I", "I", "I"]⟩,
  ⟨0x1FE0, ["u", "u", "u", "u", "r", "r", "u", "u", "U", "U", "U", "U", "R"]⟩, ⟨0x1FEF, ["`"]⟩,
  ⟨0x1FF2, ["o", "o", "o"]⟩, ⟨0x1FF6, ["o", "o", "O", "O", "O", "O", "O", "'", "'"]⟩]

end Stencil.Text.Property
