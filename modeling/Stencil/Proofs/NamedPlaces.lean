import Mathlib
import Stencil.Diagnostic.Location
import Stencil.Proofs.Mentions

set_option autoImplicit false

/-!
Places that a text names. A place in words is `line`, a number, perhaps a mark, `col` or `column` and a
number; a place in numbers is two numbers behind a colon each. A text names its first place in words, or its
first one in numbers if there is none in words (`Names`), and that is the place which is located
(`locate_of_names`, `locate_of_nameless`). The line is known if its digits are those from 0 to 9 and their
number has 64 bits (`line_locate_eq_some_iff`).
-/

namespace Stencil.Diagnostic

open Extraction (Blanks)

/-! ### Words and digits -/

/-- Digits of any script, at least one. -/
structure Digits (text : List Char) : Prop where
  nonempty : text ≠ []
  decimal : ∀ c ∈ text, Text.isDecimal c = true

/-- A text that does not begin with a digit. -/
def Stops (text : List Char) : Prop := ∀ c, text.head? = some c → Text.isDecimal c = false

/-- A text that is a word if the case of its letters does not count. -/
def Spells (word written : List Char) : Prop := written.map Char.toLower = word

/-- The word before a column, short or long. -/
def Heading (written : List Char) : Prop :=
  Spells "col".toList written ∨ Spells "column".toList written

/-- The mark between a line and a column, if there is any. -/
def Mark (text : List Char) : Prop := text = [] ∨ text = [','] ∨ text = [':']

section

variable {word written text rest digits gap : List Char} {c : Char}

theorem not_isBlank_of_isDecimal (decimal : Text.isDecimal c = true) : Text.isBlank c = false :=
  Extraction.not_isBlank_of_test (by decide) decimal

theorem not_isBlank_of_isAlpha (letter : c.isAlpha = true) : Text.isBlank c = false :=
  Extraction.not_isBlank_of_test (by decide) letter

theorem not_isDecimal_of_isAlpha (letter : c.isAlpha = true) : Text.isDecimal c = false := by
  have ascii := Extraction.isAscii_of_isAlpha letter
  rw [Text.isDecimal, Text.classify_of_ascii _ _ ascii]
  revert letter
  exact Text.forall_of_ascii (p := fun c => c.isAlpha = true → c.isDigit = false) (by decide) ascii

/-- Of two classes that exclude each other, what is in one is not in the other. -/
theorem eq_false_of_excludes {first second : Char → Bool}
    (excludes : ∀ d, first d = true → second d = false) (holds : second c = true) : first c = false := by
  rw [← Bool.not_eq_true]
  intro other
  rw [excludes c other] at holds
  cases holds

theorem blanks_nil : Blanks [] := fun _ member => nomatch member

theorem stops_nil : Stops [] := fun _ first => nomatch first

theorem stops_cons (other : Text.isDecimal c = false) (text : List Char) : Stops (c :: text) := by
  rintro d ⟨⟩
  exact other

theorem Stops.behind_blanks (stops : Stops rest) (blank : Blanks gap) : Stops (gap ++ rest) := by
  cases gap with
  | nil => exact stops
  | cons c gap =>
    apply stops_cons
    exact eq_false_of_excludes (fun _ => not_isBlank_of_isDecimal) (blank c List.mem_cons_self)

theorem Stops.behind_mark {mark : List Char} (stops : Stops rest) (marked : Mark mark) :
    Stops (mark ++ rest) := by
  rcases marked with rfl | rfl | rfl
  · exact stops
  · exact stops_cons (by decide) rest
  · exact stops_cons (by decide) rest

theorem Digits.begins (filled : Digits digits) :
    ∃ c others, digits = c :: others ∧ Text.isDecimal c = true := by
  obtain ⟨c, others, rfl⟩ := List.exists_cons_of_ne_nil filled.nonempty
  exact ⟨c, others, rfl, filled.decimal c List.mem_cons_self⟩

theorem isAlpha_of_toLower {d : Char} (letter : d.isLower = true) (lower : c.toLower = d) :
    c.isAlpha = true := by
  rw [← Char.isLower_toLower_eq_isAlpha, lower, letter]

theorem Heading.begins (heading : Heading written) : ∃ c others, written = c :: others ∧ c.isAlpha = true := by
  obtain ⟨others, lower⟩ : ∃ others, written.map Char.toLower = 'c' :: others := by
    rcases heading with short | long
    · exact ⟨_, short⟩
    · exact ⟨_, long⟩
  obtain ⟨c, others, rfl, first, -⟩ := List.map_eq_cons_iff.mp lower
  exact ⟨c, others, rfl, isAlpha_of_toLower (by decide) first⟩

/-! ### Readers -/

theorem word?_append (spells : Spells word written) (rest : List Char) :
    word? word (written ++ rest) = some rest := by
  subst spells
  simp [word?]

theorem word?_eq_some_iff :
    word? word text = some rest ↔ ∃ written, Spells word written ∧ text = written ++ rest := by
  constructor
  · intro found
    simp only [word?] at found
    split at found
    · rename_i same
      cases found
      exact ⟨text.take word.length, same, (List.take_append_drop _ _).symm⟩
    · cases found
  · rintro ⟨written, spells, rfl⟩
    exact word?_append spells rest

/-- No word is read where no letter stands. -/
theorem word?_cons_eq_none {d : Char} (letter : d.isLower = true) (others : List Char)
    (other : c.isAlpha = false) (text : List Char) : word? (d :: others) (c :: text) = none := by
  rw [Option.eq_none_iff_forall_ne_some]
  intro rest found
  obtain ⟨written, spells, same⟩ := word?_eq_some_iff.mp found
  obtain ⟨e, tail, rfl, lower, -⟩ := List.map_eq_cons_iff.mp spells
  obtain ⟨rfl, -⟩ := List.cons.inj same
  rw [isAlpha_of_toLower letter lower] at other
  cases other

theorem digits?_eq_some_iff :
    digits? text = some (digits, rest) ↔ Digits digits ∧ Stops rest ∧ text = digits ++ rest := by
  constructor
  · intro found
    simp only [digits?] at found
    split at found
    · cases found
    · rename_i filled
      cases found
      exact ⟨⟨by simpa using filled, fun c member => List.mem_takeWhile_imp member⟩,
        fun c first => Template.not_of_head?_dropWhile first, List.takeWhile_append_dropWhile.symm⟩
  · rintro ⟨⟨nonempty, decimal⟩, stops, rfl⟩
    have taken := Template.Path.takeWhile_append_stop decimal stops
    have left : (digits ++ rest).dropWhile Text.isDecimal = rest := by
      rw [List.dropWhile_append_of_pos decimal, Text.dropWhile_of_head stops]
    simp [digits?, taken, left, nonempty]

theorem trimStart_blanks_cons (blank : Blanks gap) (solid : Text.isBlank c = false) (text : List Char) :
    Text.trimStart (gap ++ c :: text) = c :: text := by
  rw [Extraction.trimStart_blanks blank, Text.trimStart, List.dropWhile_cons_of_neg (by simp [solid])]

/-- Digits behind blanks. -/
theorem digits?_trimStart_eq_some_iff : digits? (Text.trimStart text) = some (digits, rest) ↔
    ∃ gap, Blanks gap ∧ Digits digits ∧ Stops rest ∧ text = gap ++ (digits ++ rest) := by
  rw [digits?_eq_some_iff]
  constructor
  · rintro ⟨filled, stops, left⟩
    obtain ⟨gap, blank, whole⟩ := Extraction.blanks_trimStart text
    exact ⟨gap, blank, filled, stops, by rw [← left, ← whole]⟩
  · rintro ⟨gap, blank, filled, stops, rfl⟩
    obtain ⟨c, others, rfl, decimal⟩ := filled.begins
    exact ⟨filled, stops, trimStart_blanks_cons blank (not_isBlank_of_isDecimal decimal) _⟩

/-- Blanks and digits are not taken for the rest of the long word. -/
theorem word?_umn_eq_none (blank : Blanks gap) (filled : Digits digits) (rest : List Char) :
    word? "umn".toList (gap ++ (digits ++ rest)) = none := by
  cases gap with
  | nil =>
    obtain ⟨c, others, rfl, decimal⟩ := filled.begins
    have other : c.isAlpha = false := eq_false_of_excludes (fun _ => not_isDecimal_of_isAlpha) decimal
    exact word?_cons_eq_none (by decide) _ other _
  | cons c gap =>
    have other : c.isAlpha = false :=
      eq_false_of_excludes (fun _ => not_isBlank_of_isAlpha) (blank c List.mem_cons_self)
    exact word?_cons_eq_none (by decide) _ other _

theorem column?_eq_some_iff {column : List Char} : column? text = some (column, rest) ↔
    ∃ heading gap, Heading heading ∧ Blanks gap ∧ Digits column ∧ Stops rest ∧
      text = heading ++ (gap ++ (column ++ rest)) := by
  constructor
  · intro found
    simp only [column?, Option.bind_eq_bind, Option.bind_eq_some_iff, Option.or_eq_some_iff] at found
    obtain ⟨short, named, ⟨long, more, read⟩ | ⟨-, read⟩⟩ := found
    all_goals
      obtain ⟨first, lower, rfl⟩ := word?_eq_some_iff.mp named
      obtain ⟨gap, blank, filled, stops, left⟩ := digits?_trimStart_eq_some_iff.mp read
    · obtain ⟨second, further, rfl⟩ := word?_eq_some_iff.mp more
      have whole : Spells "column".toList (first ++ second) := by
        rw [Spells, List.map_append, lower, further]
        rfl
      exact ⟨first ++ second, gap, Or.inr whole, blank, filled, stops, by rw [left, List.append_assoc]⟩
    · exact ⟨first, gap, Or.inl lower, blank, filled, stops, by rw [left]⟩
  · rintro ⟨heading, gap, short | long, blank, filled, stops, rfl⟩
    all_goals
      have read := digits?_trimStart_eq_some_iff.mpr ⟨gap, blank, filled, stops, rfl⟩
    · simp only [column?, word?_append short, word?_umn_eq_none blank filled, Option.bind_eq_bind,
        Option.bind_some, Option.bind_none, Option.none_or, read]
    · have split : heading.map Char.toLower = "col".toList ++ "umn".toList := long
      obtain ⟨first, second, rfl, lower, further⟩ := List.map_eq_append_iff.mp split
      have short : Spells "col".toList first := lower
      have umn : Spells "umn".toList second := further
      simp only [column?, List.append_assoc, word?_append short, word?_append umn, Option.bind_eq_bind,
        Option.bind_some, read, Option.some_or]

/-- What stands behind the mark between a line and a column. -/
def behindMark (text : List Char) : List Char :=
  let rest := Text.trimStart text
  match rest with
  | c :: after => if c = ',' ∨ c = ':' then Text.trimStart after else rest
  | [] => rest

theorem behindMark_append {mark space : List Char} (apart : Blanks gap) (marked : Mark mark)
    (spaced : Blanks space) (letter : c.isAlpha = true) (text : List Char) :
    behindMark (gap ++ (mark ++ (space ++ c :: text))) = c :: text := by
  have solid := not_isBlank_of_isAlpha letter
  rw [behindMark]
  rcases marked with rfl | rfl | rfl
  · have other : ¬ (c = ',' ∨ c = ':') := by
      rintro (rfl | rfl) <;> revert letter <;> decide
    rw [List.nil_append, ← List.append_assoc, trimStart_blanks_cons (apart.append spaced) solid]
    exact if_neg other
  all_goals
    rw [List.singleton_append, trimStart_blanks_cons apart (by decide)]
    exact trimStart_blanks_cons spaced solid text

theorem exists_behindMark (text : List Char) : ∃ gap mark space, Blanks gap ∧ Mark mark ∧ Blanks space ∧
    text = gap ++ (mark ++ (space ++ behindMark text)) := by
  obtain ⟨gap, apart, whole⟩ := Extraction.blanks_trimStart text
  rw [behindMark]
  generalize Text.trimStart text = rest at whole
  subst whole
  match rest with
  | [] => exact ⟨gap, [], [], apart, Or.inl rfl, blanks_nil, rfl⟩
  | c :: after =>
    dsimp only
    split
    · rename_i marked
      obtain ⟨space, spaced, same⟩ := Extraction.blanks_trimStart after
      have mark : Mark [c] := Or.inr (marked.imp (fun comma => by rw [comma]) (fun colon => by rw [colon]))
      exact ⟨gap, [c], space, apart, mark, spaced, by rw [List.singleton_append, ← same]⟩
    · exact ⟨gap, [], [], apart, Or.inl rfl, blanks_nil, rfl⟩

end

/-! ### Forms of places -/

/-- A text that begins with a place in words, and the digits of its line and its column. -/
inductive Worded : List Char → List Char → List Char → Prop where
  | place {word indent line gap mark space heading shift column rest : List Char}
      (named : Spells "line".toList word) (indented : Blanks indent) (numbered : Digits line)
      (apart : Blanks gap) (marked : Mark mark) (spaced : Blanks space) (headed : Heading heading)
      (shifted : Blanks shift) (counted : Digits column) (stops : Stops rest) :
      Worded (word ++ (indent ++ (line ++ (gap ++ (mark ++ (space ++
        (heading ++ (shift ++ (column ++ rest))))))))) line column

/-- A text that begins with a place in numbers, and their digits. -/
inductive Numbered : List Char → List Char → List Char → Prop where
  | place {line column rest : List Char} (numbered : Digits line) (counted : Digits column)
      (stops : Stops rest) : Numbered (':' :: (line ++ ':' :: (column ++ rest))) line column

/-- The place that the digits of a line and a column give. -/
def placeOf (line column : List Char) : Place := ⟨Text.natural? line, Text.natural? column⟩

/-- A reader that reads just what has a form. -/
def Reads (reader : List Char → Option Place) (form : List Char → List Char → List Char → Prop) : Prop :=
  ∀ text place, reader text = some place ↔ ∃ line column, form text line column ∧ placeOf line column = place

section

variable {text line column : List Char} {reader : List Char → Option Place}
  {form : List Char → List Char → List Char → Prop}

theorem Reads.of_form (reads : Reads reader form) (found : form text line column) :
    reader text = some (placeOf line column) :=
  (reads text _).mpr ⟨line, column, found, rfl⟩

theorem Reads.eq_none_iff (reads : Reads reader form) :
    reader text = none ↔ ∀ line column, ¬ form text line column := by
  constructor
  · intro nothing line column found
    rw [reads.of_form found] at nothing
    cases nothing
  · intro absent
    rw [Option.eq_none_iff_forall_ne_some]
    intro place read
    obtain ⟨line, column, found, -⟩ := (reads text place).mp read
    exact absent line column found

theorem wordedPlace?_steps (text : List Char) (place : Place) :
    wordedPlace? text = some place ↔ ∃ rest line behind column left,
      word? "line".toList text = some rest ∧ digits? (Text.trimStart rest) = some (line, behind) ∧
        column? (behindMark behind) = some (column, left) ∧ placeOf line column = place := by
  have steps : wordedPlace? text = (word? "line".toList text).bind fun rest =>
      (digits? (Text.trimStart rest)).bind fun line =>
        (column? (behindMark line.2)).bind fun column => some (placeOf line.1 column.1) := rfl
  simp only [steps, Option.bind_eq_some_iff, Option.some.injEq, Prod.exists]
  constructor
  · rintro ⟨rest, named, line, behind, numbered, column, left, headed, same⟩
    exact ⟨rest, line, behind, column, left, named, numbered, headed, same⟩
  · rintro ⟨rest, line, behind, column, left, named, numbered, headed, same⟩
    exact ⟨rest, named, line, behind, numbered, column, left, headed, same⟩

theorem reads_worded : Reads wordedPlace? Worded := by
  intro text place
  rw [wordedPlace?_steps]
  constructor
  · rintro ⟨rest, line, behind, column, left, named, numbered, headed, rfl⟩
    obtain ⟨word, spells, rfl⟩ := word?_eq_some_iff.mp named
    obtain ⟨indent, indented, digits, -, rfl⟩ := digits?_trimStart_eq_some_iff.mp numbered
    obtain ⟨gap, mark, space, apart, marked, spaced, whole⟩ := exists_behindMark behind
    obtain ⟨heading, shift, headed, shifted, counted, stops, same⟩ := column?_eq_some_iff.mp headed
    refine ⟨line, column, ?_, rfl⟩
    rw [whole, same]
    exact .place spells indented digits apart marked spaced headed shifted counted stops
  · rintro ⟨line, column, worded, rfl⟩
    cases worded with
    | @place word indent _ gap mark space heading shift _ rest named indented numbered apart marked spaced
        headed shifted counted stops =>
      obtain ⟨c, others, rfl, letter⟩ := headed.begins
      -- The digits of the line end, since a blank, a mark or a letter comes next.
      have stop : Stops (gap ++ (mark ++ (space ++ (c :: others ++ (shift ++ (column ++ rest)))))) :=
        (((stops_cons (not_isDecimal_of_isAlpha letter) _).behind_blanks spaced).behind_mark
          marked).behind_blanks apart
      refine ⟨_, line, _, column, rest, word?_append named _,
        digits?_trimStart_eq_some_iff.mpr ⟨indent, indented, numbered, stop, rfl⟩, ?_, rfl⟩
      rw [List.cons_append, behindMark_append apart marked spaced letter]
      exact column?_eq_some_iff.mpr ⟨c :: others, shift, headed, shifted, counted, stops, rfl⟩

theorem reads_numbered : Reads numberedPlace? Numbered := by
  intro text place
  have steps : numberedPlace? text = (Text.after? [':'] text).bind fun behind =>
      (digits? behind).bind fun line => (Text.after? [':'] line.2).bind fun behind =>
        (digits? behind).bind fun column => some (placeOf line.1 column.1) := rfl
  simp only [steps, Option.bind_eq_some_iff, Option.some.injEq, Prod.exists, Text.after?_eq_some_iff,
    digits?_eq_some_iff]
  constructor
  · rintro ⟨_, rfl, line, _, ⟨numbered, -, rfl⟩, _, rfl, column, rest, ⟨counted, stops, rfl⟩, rfl⟩
    exact ⟨line, column, .place numbered counted stops, rfl⟩
  · rintro ⟨line, column, ⟨numbered, counted, stops⟩, rfl⟩
    exact ⟨_, rfl, line, _, ⟨numbered, stops_cons (by decide) _, rfl⟩, _, rfl, column, _,
      ⟨counted, stops, rfl⟩, rfl⟩

/-! ### The first place -/

/-- A text, and the digits of the first place of a form in it. -/
inductive First (form : List Char → List Char → List Char → Prop) :
    List Char → List Char → List Char → Prop where
  | here {text line column : List Char} (found : form text line column) : First form text line column
  | later {c : Char} {text line column : List Char} (absent : ∀ line column, ¬ form (c :: text) line column)
      (found : First form text line column) : First form (c :: text) line column

/-- The digits of the place that a text names; a place in words counts before one in numbers. -/
inductive Names (message : List Char) : List Char → List Char → Prop where
  | worded {line column : List Char} (found : First Worded message line column) : Names message line column
  | numbered {line column : List Char} (absent : ∀ line column, ¬ First Worded message line column)
      (found : First Numbered message line column) : Names message line column

theorem Reads.first (reads : Reads reader form) (empty : reader [] = none) :
    Reads (firstPlace? reader) (First form) := by
  intro text place
  induction text with
  | nil =>
    simp only [firstPlace?, reduceCtorEq, false_iff]
    rintro ⟨line, column, ⟨found⟩, -⟩
    exact reads.eq_none_iff.mp empty line column found
  | cons c text ih =>
    rw [firstPlace?, Option.or_eq_some_iff, reads.eq_none_iff, reads, ih]
    constructor
    · rintro (⟨line, column, found, same⟩ | ⟨absent, line, column, found, same⟩)
      · exact ⟨line, column, .here found, same⟩
      · exact ⟨line, column, .later absent found, same⟩
    · rintro ⟨line, column, found | ⟨absent, found⟩, same⟩
      · exact Or.inl ⟨line, column, found, same⟩
      · exact Or.inr ⟨absent, line, column, found, same⟩

theorem reads_first_worded : Reads (firstPlace? wordedPlace?) (First Worded) :=
  reads_worded.first (by decide)

theorem reads_first_numbered : Reads (firstPlace? numberedPlace?) (First Numbered) :=
  reads_numbered.first (by decide)

variable {message : List Char}

theorem locate_of_names (names : Names message line column) : locate message = placeOf line column := by
  cases names with
  | worded found =>
    rw [locate, reads_first_worded.of_form found, Option.some_or, Option.getD_some]
  | numbered absent found =>
    rw [locate, reads_first_worded.eq_none_iff.mpr absent, Option.none_or,
      reads_first_numbered.of_form found, Option.getD_some]

theorem locate_of_nameless (nameless : ∀ line column, ¬ Names message line column) :
    locate message = ⟨none, none⟩ := by
  have unworded : ∀ line column, ¬ First Worded message line column :=
    fun line column found => nameless line column (.worded found)
  have unnumbered : ∀ line column, ¬ First Numbered message line column :=
    fun line column found => nameless line column (.numbered unworded found)
  rw [locate, reads_first_worded.eq_none_iff.mpr unworded, reads_first_numbered.eq_none_iff.mpr unnumbered]
  rfl

/-! ### The line -/

theorem First.digits (digits : ∀ text line column, form text line column → Digits line)
    (first : First form text line column) : Digits line := by
  induction first with
  | here found => exact digits _ _ _ found
  | later _ _ ih => exact ih

theorem Names.digits (names : Names message line column) : Digits line := by
  cases names with
  | worded found =>
    apply found.digits
    rintro _ _ _ ⟨-, -, numbered⟩
    exact numbered
  | numbered _ found =>
    apply found.digits
    rintro _ _ _ ⟨numbered⟩
    exact numbered

/-- Digits from 0 to 9 that write a number of 64 bits. -/
structure Counts (digits : List Char) (number : Nat) : Prop where
  plain : ∀ c ∈ digits, c.isDigit = true
  value : Nat.ofDigitChars 10 digits 0 = number
  fits : number < Nat.pow 2 64

theorem natural?_eq_some_iff {digits : List Char} {number : Nat} (filled : Digits digits) :
    Text.natural? digits = some number ↔ Counts digits number := by
  have unsigned : ∀ others, digits ≠ '+' :: others := by
    rintro others rfl
    exact absurd (filled.decimal '+' List.mem_cons_self) (by decide)
  have value : Number.Decimal.ofDigits digits = Nat.ofDigitChars 10 digits 0 :=
    Nat.ofDigitChars_eq_foldl.symm
  rw [Text.natural?.eq_2 _ unsigned, value]
  constructor
  · intro found
    split at found
    · rename_i holds
      cases found
      simp only [Bool.and_eq_true, List.all_eq_true, decide_eq_true_eq] at holds
      exact ⟨holds.1.2, rfl, holds.2⟩
    · cases found
  · rintro ⟨plain, rfl, fits⟩
    have given : digits.isEmpty = false := by simpa using filled.nonempty
    have all : digits.all Char.isDigit = true := List.all_eq_true.mpr plain
    rw [if_pos (by simp [given, all, fits])]

/-- The line is known if the text names one whose digits count it. -/
theorem line_locate_eq_some_iff {number : Nat} : (locate message).line = some number ↔
    ∃ line column, Names message line column ∧ Counts line number := by
  constructor
  · intro known
    by_cases named : ∃ line column, Names message line column
    · obtain ⟨line, column, names⟩ := named
      rw [locate_of_names names] at known
      exact ⟨line, column, names, (natural?_eq_some_iff names.digits).mp known⟩
    · rw [locate_of_nameless fun line column names => named ⟨line, column, names⟩] at known
      cases known
  · rintro ⟨line, column, names, counts⟩
    rw [locate_of_names names]
    exact (natural?_eq_some_iff names.digits).mpr counts

/-- A digit of another script names a line, but none that is known. -/
example : locate "line ٣, column 1".toList = ⟨none, some 1⟩ := by decide +kernel

theorem digits_toDigits (number : Nat) : Digits (Nat.toDigits 10 number) := by
  refine ⟨List.ne_nil_of_length_pos Nat.length_toDigits_pos, fun c member => ?_⟩
  have digit := Nat.isDigit_of_mem_toDigits (by decide) (by decide) member
  have low : c.toNat < 128 := Nat.lt_of_le_of_lt (Text.digit_bounds digit).2 (by decide)
  rw [Text.isDecimal, Text.classify_of_ascii _ _ (decide_eq_true low), digit]

/-- Every number can be named as a line. -/
theorem names_number (number : Nat) :
    Names ("line ".toList ++ (Nat.toDigits 10 number ++ ", column 1".toList)) (Nat.toDigits 10 number)
      ['1'] := by
  have line : Spells "line".toList "line".toList := by simp [Spells]
  have heading : Heading "column".toList := Or.inr (by simp [Spells])
  have space : Blanks [' '] := by simp [Blanks, Text.isBlank]
  have one : Digits ['1'] := ⟨by simp, by simp; decide⟩
  have comma : Mark [','] := Or.inr (Or.inl rfl)
  have worded := Worded.place line space (digits_toDigits number) blanks_nil comma space heading space one
    stops_nil
  exact .worded (.here worded)

end

end Stencil.Diagnostic
