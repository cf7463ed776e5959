import Stencil.Text.Property.Spelling.Row

set_option autoImplicit false

/-! Spellings of punctuation, currencies, numbers and other symbols. -/

namespace Stencil.Text.Property

/-- Signs that have a spelling. -/
def symbols : List Row := [
  ⟨0x2010, [
      "-", "-", "-", "-", "--", "--", "||", "_", "'", "'", ",", "'", "\"", "\"", ",,", "\"", "+",
      "++", "*", "*>", ".", "..", "...", ".", "\n", "\n\n"]⟩,
  ⟨0x202F, [
      " ", "%0", "%00", "'", "''", "'''", "`", "``", "```", "^", "<", ">", "*", "!!", "!?", "-",
      "_", "-", "^", "***", "--", "/", "-[", "]-", "??", "?!", "!?", "7", "PP", "(]", "[)", "*"]⟩,
  ⟨0x205F, [" "]⟩, ⟨0x2070, ["0", "i"]⟩,
  ⟨0x2074, [
      "4", "5", "6", "7", "8", "9", "+", "-", "=", "(", ")", "n", "0", "1", "2", "3", "4", "5",
      "6", "7", "8", "9", "+", "-", "=", "(", ")"]⟩,
  ⟨0x2090, ["a", "e", "o", "x", "@", "h", "k", "l", "m", "n", "p", "s", "t"]⟩,
  ⟨0x20A0, [
      "ECU", "CL", "Cr", "FF", "L", "mil", "N", "Pts", "Rs", "W", "NS", "D", "EUR", "K", "T",
      "Dr", "Pf", "P", "G", "A", "UAH", "C|", "L", "Sm", "T", "Rs", "L", "M", "m", "R", "l", "BTC"]⟩,
  ⟨0x2100, ["a/c", "a/s", "C", "C"]⟩, ⟨0x2105, ["c/o", "c/u"]⟩,
  ⟨0x2109, ["F", "g", "H", "H", "H", "h"]⟩, ⟨0x2110, ["I", "I", "L", "l"]⟩,
  ⟨0x2115, ["N", "No", "(p)"]⟩, ⟨0x2119, ["P", "Q", "R", "R", "R", "Rx"]⟩,
  ⟨0x2120, ["SM", "TEL", "tm"]⟩, ⟨0x2124, ["Z"]⟩, ⟨0x2126, ["ohm"]⟩, ⟨0x2128, ["Z"]⟩,
  ⟨0x212A, ["K", "A", "B", "C"]⟩, ⟨0x212F, ["e", "E", "F", "F", "M", "o"]⟩, ⟨0x2139, ["i"]⟩,
  ⟨0x213B, ["FAX"]⟩, ⟨0x2145, ["D", "d", "e", "i", "j"]⟩,
  ⟨0x2150, [
      "1/7", "1/9", "1/10", "1/3", "2/3", "1/5", "2/5", "3/5", "4/5", "1/6", "5/6", "1/8", "3/8",
      "5/8", "7/8", "1/", "I", "II", "III", "IV", "V", "VI", "VII", "VIII", "IX", "X", "XI",
      "XII", "L", "C", "D", "M", "i", "ii", "iii", "iv", "v", "vi", "vii", "viii", "ix", "x",
      "xi", "xii", "l", "c", "d", "m", "(D", "D)", "((|))", ")"]⟩,
  ⟨0x2190, [
      "-", "|", "-", "|", "-", "|", "\\", "/", "\\", "/", "-", "-", "~", "~", "-", "|", "-", "|",
      "-", "-", "-", "|", "-", "|", "|"]⟩,
  ⟨0x2212, ["-", "-+", "+", "/", "\\", "*", "*", "*"]⟩, ⟨0x2223, ["|"]⟩, ⟨0x2236, [":"]⟩,
  ⟨0x223C, ["~"]⟩, ⟨0x2248, ["~="]⟩, ⟨0x2260, ["!="]⟩, ⟨0x2264, ["<=", ">="]⟩,
  ⟨0x226A, ["<<", ">>"]⟩,
  ⟨0x2460, [
      "1", "2", "3", "4", "5", "6", "7", "8", "9", "10", "11", "12", "13", "14", "15", "16", "17",
      "18", "19", "20", "(1)", "(2)", "(3)", "(4)", "(5)", "(6)", "(7)", "(8)", "(9)", "(10)",
      "(11)", "(12)", "(13)", "(14)", "(15)", "(16)", "(17)", "(18)", "(19)", "(20)", "1.", "2.",
      "3.", "4.", "5.", "6.", "7.", "8.", "9.", "10.", "11.", "12.", "13.", "14.", "15.", "16.",
      "17.", "18.", "19.", "20.", "(a)", "(b)", "(c)", "(d)", "(e)", "(f)", "(g)", "(h)", "(i)",
      "(j)", "(k)", "(l)", "(m)", "(n)", "(o)", "(p)", "(q)", "(r)", "(s)", "(t)", "(u)", "(v)",
      "(w)", "(x)", "(y)", "(z)", "A", "B", "C", "D", "E", "F", "G", "H", "I", "J"]⟩,
  ⟨0x24C0, [
      "K", "L", "M", "N", "O", "P", "Q", "R", "S", "T", "U", "V", "W", "X", "Y", "Z", "a", "b",
      "c", "d", "e", "f", "g", "h", "i", "j", "k", "l", "m", "n", "o", "p", "q", "r", "s", "t",
      "u", "v", "w", "x", "y", "z", "0", "11", "12", "13", "14", "15", "16", "17", "18", "19",
      "20", "1", "2", "3", "4", "5", "6", "7", "8", "9", "10", "0", "-", "-", "|", "|", "-", "-",
      "|", "|", "-", "-", "|", "|"]⟩,
  ⟨0x252C, [
      "-", "+", "+", "-", "-", "+", "+", "-", "-", "+", "+", "-", "-", "+", "+", "-", "+", "+",
      "+", "+", "-", "-", "+", "+", "+", "+", "+", "-", "-", "+", "+", "+", "-", "-", "|", "|",
      "-", "|"]⟩,
  ⟨0x25B2, ["^", "^", "^", "^"]⟩, ⟨0x2605, ["*", "*"]⟩]

/-- Runs of signs that are all spelled alike. -/
def alike : List (Stride × String) := [
  (⟨0xC0, 0xC5, 1⟩, "A"), (⟨0xE0, 0xE5, 1⟩, "a"), (⟨0x279, 0x27F, 1⟩, "r"),
  (⟨0x1F00, 0x1F07, 1⟩, "a"), (⟨0x1F08, 0x1F0F, 1⟩, "A"), (⟨0x1F10, 0x1F15, 1⟩, "e"),
  (⟨0x1F18, 0x1F1D, 1⟩, "E"), (⟨0x1F20, 0x1F27, 1⟩, "e"), (⟨0x1F28, 0x1F2F, 1⟩, "E"),
  (⟨0x1F30, 0x1F37, 1⟩, "i"), (⟨0x1F38, 0x1F3F, 1⟩, "I"), (⟨0x1F40, 0x1F45, 1⟩, "o"),
  (⟨0x1F48, 0x1F4D, 1⟩, "O"), (⟨0x1F50, 0x1F57, 1⟩, "u"), (⟨0x1F60, 0x1F67, 1⟩, "o"),
  (⟨0x1F68, 0x1F6F, 1⟩, "O"), (⟨0x1F80, 0x1F87, 1⟩, "a"), (⟨0x1F88, 0x1F8F, 1⟩, "A"),
  (⟨0x1F90, 0x1F97, 1⟩, "e"), (⟨0x1F98, 0x1F9F, 1⟩, "E"), (⟨0x1FA0, 0x1FA7, 1⟩, "o"),
  (⟨0x1FA8, 0x1FAF, 1⟩, "O"), (⟨0x2000, 0x200A, 1⟩, " "), (⟨0x21A9, 0x21AE, 1⟩, "-"),
  (⟨0x21B0, 0x21FF, 1⟩, "-"), (⟨0x250C, 0x252B, 1⟩, "+"), (⟨0x2552, 0x2563, 1⟩, "+"),
  (⟨0x2564, 0x2569, 1⟩, "-"), (⟨0x256A, 0x257F, 1⟩, "+"), (⟨0x2580, 0x25B1, 1⟩, "#"),
  (⟨0x25B6, 0x25FF, 1⟩, "*")]

/-- Marks, controls and ornaments that are left out. -/
def unspoken : List Stride := [
  ⟨0x7F, 0x9F, 1⟩, ⟨0xAD, 0xAD, 1⟩, ⟨0x2CD, 0x2CD, 1⟩, ⟨0x2E5, 0x2EB, 1⟩, ⟨0x300, 0x362, 1⟩,
  ⟨0x37A, 0x37A, 1⟩, ⟨0x384, 0x385, 1⟩, ⟨0x3D8, 0x3D9, 1⟩, ⟨0x483, 0x486, 1⟩, ⟨0x591, 0x5AF, 1⟩,
  ⟨0x5BD, 0x5BF, 1⟩, ⟨0x5C1, 0x5C2, 1⟩, ⟨0x5D0, 0x5D0, 1⟩, ⟨0x621, 0x621, 1⟩, ⟨0x625, 0x625, 1⟩,
  ⟨0x627, 0x627, 1⟩, ⟨0x640, 0x640, 1⟩, ⟨0x652, 0x653, 1⟩, ⟨0xE47, 0xE4C, 1⟩, ⟨0xE4E, 0xE4E, 1⟩,
  ⟨0x200B, 0x200F, 1⟩, ⟨0x202A, 0x202E, 1⟩, ⟨0x2060, 0x206F, 1⟩, ⟨0x20D0, 0x20F0, 1⟩,
  ⟨0x2135, 0x2135, 1⟩, ⟨0x2600, 0x2604, 1⟩, ⟨0x2607, 0x27BF, 1⟩, ⟨0x3099, 0x309A, 1⟩,
  ⟨0xFE00, 0xFE0F, 1⟩, ⟨0xFE20, 0xFE23, 1⟩, ⟨0xFEFF, 0xFEFF, 1⟩, ⟨0xFFFC, 0xFFFC, 1⟩]

end Stencil.Text.Property
