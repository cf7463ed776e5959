import Mathlib
import Stencil.Proofs.DiagnosedLines
import Stencil.Proofs.NamedPlaces

set_option autoImplicit false

/-!
Sums of 64 bits in a diagnosis. The last line of the window around a line is counted by a sum, and so is the
number of each line of the source; a sum that does not fit stops the diagnosis, or wraps around. The numbers
of the lines always fit, since a text in memory has fewer than `2 ^ 63` bytes. The last line fits unless the
text names one of the two greatest numbers as the line (`diagnose_overflows_iff`); if it wraps around, it
comes before the first one, and no line is shown (`window?_wraps`).
-/

namespace Stencil

/-! ### Sums -/

/-- What becomes of a sum that does not fit in 64 bits. -/
inductive Overflow where
  | stops
  | wraps

def Overflow.add? (overflow : Overflow) (first second : Nat) : Option Nat :=
  if first + second < Nat.pow 2 64 then some (first + second)
  else match overflow with
    | stops => none
    | wraps => some ((first + second) % Nat.pow 2 64)

theorem Overflow.add?_of_fits (overflow : Overflow) {first second : Nat}
    (fits : first + second < Nat.pow 2 64) : overflow.add? first second = some (first + second) :=
  if_pos fits

theorem Overflow.add?_stops {first second : Nat} (large : Nat.pow 2 64 ≤ first + second) :
    stops.add? first second = none :=
  if_neg (Nat.not_lt.mpr large)

theorem Overflow.add?_wraps {first second : Nat} (large : Nat.pow 2 64 ≤ first + second) :
    wraps.add? first second = some ((first + second) % Nat.pow 2 64) :=
  if_neg (Nat.not_lt.mpr large)

/-! ### Lines in memory -/

namespace Text

theorem length_linesFrom_le (line text : List Char) :
    (linesFrom line text).length ≤ line.length + text.length := by
  fun_induction linesFrom line text with
  | case1 => exact Nat.le_refl _
  | case2 line given =>
    cases line with
    | nil => exact absurd rfl given
    | cons c line => simp
  | case3 line text ih => simp at ih ⊢; omega
  | case4 line text bare ih => simp at ih ⊢; omega
  | case5 line c text _ other ih => simp at ih ⊢; omega

theorem length_le_utf8Len (text : List Char) : text.length ≤ String.utf8Len text := by
  induction text with
  | nil => exact Nat.le_refl _
  | cons c text ih =>
    have positive := c.utf8Size_pos
    rw [List.length_cons, String.utf8Len]
    omega

/-- Each line takes a byte at least. -/
theorem length_lines_le (source : String) : (lines source).length ≤ source.utf8ByteSize := by
  calc (lines source).length = (linesFrom [] source.toList).length := List.length_map _
    _ ≤ source.toList.length := by simpa using length_linesFrom_le [] source.toList
    _ ≤ String.utf8Len source.toList := length_le_utf8Len _
    _ = source.utf8ByteSize := String.utf8Len_toList source

end Text

namespace SyntaxError

/-! ### Windows -/

/-- The first and the last number of the lines around a line. -/
def window? (overflow : Overflow) (line : Nat) : Option (Nat × Nat) := do
  let last ← overflow.add? line radius
  return (max (line - radius) 1, last)

/-- Lines with their numbers, the first of which stands behind `index` others. -/
def numberedFrom? (overflow : Overflow) (index : Nat) (lines : List String) : Option (List (Nat × String)) :=
  (lines.zipIdx index).mapM fun (text, index) => do
    let number ← overflow.add? index 1
    return (number, text)

/-- The numbered lines of a source around a line. -/
def excerptBy? (overflow : Overflow) (source : String) (line : Nat) : Option (List (Nat × String)) := do
  let (first, last) ← window? overflow line
  let lines ← numberedFrom? overflow 0 (Text.lines source)
  return lines.filter fun (number, _) => first ≤ number ∧ number ≤ last

/-- The diagnostic of an error text, if its sums fit or wrap around. -/
def diagnoseBy? (overflow : Overflow) (message source : String) (template : Option String) :
    Option SyntaxError := do
  let place := Diagnostic.locate message.toList
  let context ← (place.line.map (excerptBy? overflow source)).getD (some [])
  return ⟨String.ofList (Text.trim message.toList), template, place.line, place.column, context,
    suggest message⟩

theorem numberedFrom?_of_fits (overflow : Overflow) (index : Nat) (lines : List String)
    (fits : index + lines.length < Nat.pow 2 64) :
    numberedFrom? overflow index lines = some ((lines.zipIdx (index + 1)).map Prod.swap) := by
  induction lines generalizing index with
  | nil => rfl
  | cons text lines ih =>
    rw [List.length_cons] at fits
    have further := ih (index + 1) (by omega)
    rw [numberedFrom?] at further
    rw [numberedFrom?, List.zipIdx_cons, List.mapM_cons, further]
    simp [overflow.add?_of_fits (show index + 1 < Nat.pow 2 64 by omega)]

theorem filter_swap (first last : Nat) (lines : List (String × Nat)) :
    (lines.map Prod.swap).filter (fun (number, _) => first ≤ number ∧ number ≤ last) =
      lines.filterMap fun (text, number) =>
        if first ≤ number ∧ number ≤ last then some (number, text) else none := by
  induction lines with
  | nil => rfl
  | cons entry lines ih =>
    obtain ⟨text, number⟩ := entry
    by_cases within : first ≤ number ∧ number ≤ last <;> simp [within, ← ih]

variable {overflow : Overflow} {source : String} {line : Nat}

theorem excerptBy?_of_window (held : source.utf8ByteSize < Nat.pow 2 63) {first last : Nat}
    (window : window? overflow line = some (first, last)) :
    excerptBy? overflow source line = some (((Text.lines source).zipIdx 1).filterMap fun (text, number) =>
      if first ≤ number ∧ number ≤ last then some (number, text) else none) := by
  have few : 0 + (Text.lines source).length < Nat.pow 2 64 := by
    have bound := Text.length_lines_le source
    rw [Nat.zero_add]
    exact Nat.lt_trans (Nat.lt_of_le_of_lt bound held) (by decide)
  rw [← filter_swap]
  simp only [excerptBy?, window, numberedFrom?_of_fits overflow 0 _ few]
  rfl

theorem lastShown?_eq (line : Nat) : lastShown? line = Overflow.stops.add? line radius := rfl

theorem window?_of_fits (overflow : Overflow) (fits : line + 2 < Nat.pow 2 64) :
    window? overflow line = some (max (line - 2) 1, line + 2) := by
  rw [window?, radius, overflow.add?_of_fits fits]
  rfl

theorem excerptBy?_of_fits (overflow : Overflow) (held : source.utf8ByteSize < Nat.pow 2 63)
    (fits : line + 2 < Nat.pow 2 64) : excerptBy? overflow source line = some (excerpt source line) := by
  rw [excerptBy?_of_window held (window?_of_fits overflow fits), excerpt_of_fits source fits]

theorem excerptBy?_stops (source : String) (large : Nat.pow 2 64 ≤ line + 2) :
    excerptBy? .stops source line = none := by
  have stopped : window? .stops line = none := by
    rw [window?, radius, Overflow.add?_stops large]
    rfl
  simp only [excerptBy?, stopped]
  rfl

/-- A last line that wraps around comes before the first one. -/
theorem window?_wraps (large : Nat.pow 2 64 ≤ line + 2) (word : line < Nat.pow 2 64) :
    ∃ first last, window? .wraps line = some (first, last) ∧ last < first := by
  have big : 4 < Nat.pow 2 64 := by decide
  have wrapped : (line + 2) % Nat.pow 2 64 = line + 2 - Nat.pow 2 64 := by
    rw [Nat.mod_eq_sub_mod large, Nat.mod_eq_of_lt (by omega)]
  refine ⟨max (line - 2) 1, line + 2 - Nat.pow 2 64, ?_, by omega⟩
  rw [window?, radius, Overflow.add?_wraps large, wrapped]
  rfl

theorem excerptBy?_wraps (held : source.utf8ByteSize < Nat.pow 2 63) (word : line < Nat.pow 2 64) :
    excerptBy? .wraps source line = some (excerpt source line) := by
  by_cases fits : line + 2 < Nat.pow 2 64
  · exact excerptBy?_of_fits .wraps held fits
  · obtain ⟨first, last, window, before⟩ := window?_wraps (Nat.not_lt.mp fits) word
    rw [excerptBy?_of_window held window, excerpt, lastShown?_eq, radius,
      Overflow.add?_stops (Nat.not_lt.mp fits)]
    congr 1
    rw [List.filterMap_eq_nil_iff]
    intro entry _
    exact if_neg (by omega)

/-! ### Diagnoses -/

variable {message : String} {template : Option String}

theorem diagnoseBy?_of_excerpts (excerpts : ∀ line, (Diagnostic.locate message.toList).line = some line →
      excerptBy? overflow source line = some (excerpt source line)) :
    diagnoseBy? overflow message source template = some (diagnose message source template) := by
  rw [diagnoseBy?, diagnose]
  cases known : (Diagnostic.locate message.toList).line with
  | none => rfl
  | some line =>
    simp only [Option.map_some, Option.getD_some, excerpts line known]
    rfl

theorem diagnoseBy?_of_none (known : (Diagnostic.locate message.toList).line = some line)
    (stopped : excerptBy? overflow source line = none) :
    diagnoseBy? overflow message source template = none := by
  rw [diagnoseBy?, known]
  simp only [Option.map_some, Option.getD_some, stopped]
  rfl

theorem diagnoseBy?_of_fits (overflow : Overflow) (held : source.utf8ByteSize < Nat.pow 2 63)
    (fits : ∀ number, (Diagnostic.locate message.toList).line = some number → number + 2 < Nat.pow 2 64) :
    diagnoseBy? overflow message source template = some (diagnose message source template) :=
  diagnoseBy?_of_excerpts fun line known => excerptBy?_of_fits overflow held (fits line known)

theorem diagnoseBy?_stops_eq_none_iff (held : source.utf8ByteSize < Nat.pow 2 63) :
    diagnoseBy? .stops message source template = none ↔
      ∃ number, (Diagnostic.locate message.toList).line = some number ∧ Nat.pow 2 64 ≤ number + 2 := by
  constructor
  · intro stopped
    by_contra small
    have given : diagnoseBy? .stops message source template = some (diagnose message source template) :=
      diagnoseBy?_of_fits .stops held fun number known =>
        Nat.not_le.mp fun large => small ⟨number, known, large⟩
    rw [stopped] at given
    cases given
  · rintro ⟨number, known, large⟩
    exact diagnoseBy?_of_none known (excerptBy?_stops source large)

/-- The diagnosis of a source that memory can hold stops at a sum exactly if the text names one of the two
greatest numbers of 64 bits as the line. Otherwise every sum fits, and if sums wrap around, nothing shows. -/
theorem diagnose_overflows_iff (message source : String) (template : Option String)
    (held : source.utf8ByteSize < Nat.pow 2 63) :
    (∀ number, (diagnose message source template).line = some number ↔
      ∃ line column, Diagnostic.Names message.toList line column ∧ Diagnostic.Counts line number) ∧
    (diagnoseBy? .stops message source template = none ↔
      ∃ line column number, Diagnostic.Names message.toList line column ∧ Diagnostic.Counts line number ∧
        Nat.pow 2 64 ≤ number + 2) ∧
    (∀ error, diagnoseBy? .stops message source template = some error →
      error = diagnose message source template ∧
        ∀ number, error.line = some number → window? .stops number = some (max (number - 2) 1, number + 2)) ∧
    diagnoseBy? .wraps message source template = some (diagnose message source template) := by
  have known : ∀ number, (Diagnostic.locate message.toList).line = some number ↔
      ∃ line column, Diagnostic.Names message.toList line column ∧ Diagnostic.Counts line number :=
    fun number => Diagnostic.line_locate_eq_some_iff
  refine ⟨known, ?_, fun error given => ?_, ?_⟩
  · rw [diagnoseBy?_stops_eq_none_iff held]
    constructor
    · rintro ⟨number, located, large⟩
      obtain ⟨line, column, names, counts⟩ := (known number).mp located
      exact ⟨line, column, number, names, counts, large⟩
    · rintro ⟨line, column, number, names, counts, large⟩
      exact ⟨number, (known number).mpr ⟨line, column, names, counts⟩, large⟩
  · have fits : ∀ number, (Diagnostic.locate message.toList).line = some number →
        number + 2 < Nat.pow 2 64 := by
      intro number located
      by_contra small
      rw [(diagnoseBy?_stops_eq_none_iff held).mpr ⟨number, located, Nat.not_lt.mp small⟩] at given
      cases given
    rw [diagnoseBy?_of_fits .stops held fits] at given
    cases given
    exact ⟨rfl, fun number located => window?_of_fits .stops (fits number located)⟩
  · apply diagnoseBy?_of_excerpts
    intro line located
    obtain ⟨_, _, _, counts⟩ := (known line).mp located
    exact excerptBy?_wraps held counts.fits

/-- The greatest number of 64 bits as the line of two lines. -/
theorem diagnose_overflows_iff_greatest :
    "one\ntwo".utf8ByteSize < Nat.pow 2 63 ∧
      diagnoseBy? .stops "line 18446744073709551615, column 1" "one\ntwo" none = none ∧
      diagnoseBy? .wraps "line 18446744073709551615, column 1" "one\ntwo" none =
        some ⟨"line 18446744073709551615, column 1", none, some 18446744073709551615, some 1, [], []⟩ := by
  have held : "one\ntwo".utf8ByteSize < Nat.pow 2 63 := by decide
  obtain ⟨_, stops, _, wraps⟩ :=
    diagnose_overflows_iff "line 18446744073709551615, column 1" "one\ntwo" none held
  refine ⟨held, stops.mpr ⟨Nat.toDigits 10 18446744073709551615, ['1'], 18446744073709551615,
    Diagnostic.names_number 18446744073709551615, ?_, by decide⟩, wraps.trans ?_⟩
  · exact ⟨fun c member => Nat.isDigit_of_mem_toDigits (by decide) (by decide) member,
      Nat.ofDigitChars_toDigits (by decide) (by decide), by decide⟩
  · decide +kernel

end SyntaxError

end Stencil
