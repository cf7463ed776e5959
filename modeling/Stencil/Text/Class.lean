import Stencil.Text.Property.Alphabetic
import Stencil.Text.Property.Letter
import Stencil.Text.Property.Mark
import Stencil.Text.Property.Numeric

set_option autoImplicit false

/-!
Character classes. Each is decided by a short rule on ASCII and by a property table beyond it.
-/

namespace Stencil.Text

open Property

/-- A property of characters that is checked on a text holds for each character of the text. -/
theorem forall_mem_of_all {p : Char → Prop} [DecidablePred p] {text : List Char}
    (all : text.all (fun c => decide (p c)) = true) : ∀ c ∈ text, p c :=
  fun c member => of_decide_eq_true (List.all_eq_true.mp all c member)

/-- A character with a property that no mark has is none of the marks. -/
theorem contains_eq_false (p : Char → Prop) {marks : List Char} {c : Char} (holds : p c)
    (none : ∀ d ∈ marks, ¬ p d) : marks.contains c = false := by
  rw [← Bool.not_eq_true, List.contains_iff_mem]
  exact fun member => none c member holds

/-- White space: what trimming removes and what separates words. -/
def isBlank (c : Char) : Bool :=
  let code := c.toNat
  (9 ≤ code && code ≤ 13) || code == 32 || code == 0x85 || code == 0xA0 || code == 0x1680 ||
    (0x2000 ≤ code && code ≤ 0x200A) || code == 0x2028 || code == 0x2029 || code == 0x202F ||
    code == 0x205F || code == 0x3000

/-- Blank by the core library's rule is blank by this one. -/
theorem isBlank_of_isWhitespace (c : Char) (blank : c.isWhitespace = true) : isBlank c = true := by
  simp only [Char.isWhitespace, Bool.or_eq_true, decide_eq_true_eq] at blank
  rcases blank with ((h | h) | h) | h <;> subst h <;> decide

theorem digit_bounds {c : Char} (digit : c.isDigit = true) : 48 ≤ c.toNat ∧ c.toNat ≤ 57 := by
  simp only [Char.isDigit, Bool.and_eq_true, decide_eq_true_eq, UInt32.le_iff_toNat_le] at digit
  exact digit

theorem not_isBlank_of_isDigit {c : Char} (digit : c.isDigit = true) : isBlank c = false := by
  obtain ⟨low, high⟩ := digit_bounds digit
  simp only [isBlank, Bool.or_eq_false_iff, Bool.and_eq_false_iff, beq_eq_false_iff_ne,
    decide_eq_false_iff_not]
  omega

/-- True below the first code point that needs a table. -/
def isAscii (c : Char) : Bool := decide (c.toNat < 128)

/-- Picks the ASCII rule or the table. -/
def classify (ascii : Char → Bool) (table : List Stride) (c : Char) : Bool :=
  if isAscii c then ascii c else listed table c.toNat

def isLetter (c : Char) : Bool := classify Char.isAlpha alphabetic c

def isNumeric (c : Char) : Bool := classify Char.isDigit numeric c

def isUpper (c : Char) : Bool := classify Char.isUpper upper c

def isLower (c : Char) : Bool := classify Char.isLower lower c

/-- A digit of any script that counts from zero to nine. -/
def isDecimal (c : Char) : Bool := classify Char.isDigit decimalDigit c

def isAlphanumeric (c : Char) : Bool := isLetter c || isNumeric c

/-- Zero-width joiners, which belong to words. -/
def isJoiner (c : Char) : Bool := c.toNat == 0x200C || c.toNat == 0x200D

/-- A character of a word: letters, marks, digits, connectors and joiners. -/
def isWord (c : Char) : Bool :=
  isLetter c || isDecimal c || c == '_' || isJoiner c || classify (fun _ => false) mark c ||
    classify (fun _ => false) connector c

/-- An ASCII letter or digit. -/
def isPlainAlphanumeric (c : Char) : Bool := c.isAlpha || c.isDigit

theorem classify_of_ascii {c : Char} (ascii : Char → Bool) (table : List Stride)
    (h : isAscii c = true) : classify ascii table c = ascii c := by
  simp [classify, h]

/-- What holds of every code below 128 holds of every ASCII character. -/
theorem forall_of_ascii {p : Char → Prop} (codes : ∀ code < 128, p (Char.ofNat code)) {c : Char}
    (ascii : isAscii c = true) : p c := by
  have holds := codes c.toNat (of_decide_eq_true ascii)
  rwa [Char.ofNat_toNat] at holds

end Stencil.Text
