import Mathlib.Data.List.TakeWhile
import Stencil.Extraction.Region
import Stencil.Proofs.BaseVariable

set_option autoImplicit false

/-!
The scan of a source for regions and their words. Regions are found one behind the other
(`regionsFrom_region`), cleaning takes off what stands around a value (`valuePart?_of_cleaned`), and a
word goes on up to a space that is not in quotes (`wordsFrom_whole`).
-/

namespace Stencil.Extraction

variable {text more : List Char}

/-! ### Regions -/

/-- The search for an ending passes a text without the ending's first character. -/
theorem beforeEnding?_append {c : Char} (free : c ∉ text) (ending more : List Char) :
    beforeEnding? (c :: ending) (text ++ more) =
      (beforeEnding? (c :: ending) more).map fun found => (text ++ found.1, found.2) := by
  induction text with
  | nil => simp
  | cons d text ih =>
    obtain ⟨differs, free⟩ : c ≠ d ∧ c ∉ text := by simpa using free
    rw [List.cons_append, beforeEnding?, Text.after?, if_neg differs, ih free]
    cases beforeEnding? (c :: ending) more <;> rfl

theorem regionsFrom_nil (fuel : Nat) : regionsFrom fuel [] = [] := by
  cases fuel <;> rfl

/-- A text without braces has no regions. -/
theorem regionsFrom_append (free : '\x7b' ∉ text) (fuel : Nat) (more : List Char) :
    regionsFrom fuel (text ++ more) = regionsFrom fuel more := by
  cases fuel with
  | zero => rfl
  | succ fuel =>
    have start : beforeEnding? "\x7b\x7b".toList (text ++ more) =
        (beforeEnding? "\x7b\x7b".toList more).map fun found => (text ++ found.1, found.2) :=
      beforeEnding?_append free _ more
    rw [regionsFrom, regionsFrom, start]
    cases beforeEnding? "\x7b\x7b".toList more <;> rfl

/-- A region goes up to the first two braces that close. -/
theorem regionsFrom_region {content : List Char} (free : '\x7d' ∉ content) (fuel : Nat)
    (more : List Char) :
    regionsFrom (fuel + 1) ('\x7b' :: '\x7b' :: (content ++ '\x7d' :: '\x7d' :: more)) =
      content :: regionsFrom fuel more := by
  have start : beforeEnding? "\x7b\x7b".toList
      ('\x7b' :: '\x7b' :: (content ++ '\x7d' :: '\x7d' :: more)) =
        some ([], content ++ '\x7d' :: '\x7d' :: more) := rfl
  have closed : beforeEnding? "\x7d\x7d".toList ('\x7d' :: '\x7d' :: more) = some ([], more) := rfl
  have ends : beforeEnding? "\x7d\x7d".toList (content ++ '\x7d' :: '\x7d' :: more) =
      some (content, more) := by
    rw [show "\x7d\x7d".toList = '\x7d' :: ['\x7d'] from rfl, beforeEnding?_append free] at *
    rw [closed]
    simp
  simp only [regionsFrom, start, Option.bind_some, ends]

/-! ### Cleaning -/

theorem dropEndWhile_append {test : Char → Bool} {tail : List Char}
    (passes : ∀ c ∈ tail, test c = true) (text : List Char) :
    Text.dropEndWhile test (text ++ tail) = Text.dropEndWhile test text := by
  rw [Text.dropEndWhile, Text.dropEndWhile, List.reverse_append,
    List.dropWhile_append_of_pos fun c member => passes c (List.mem_reverse.mp member)]

/-- Nothing is dropped up to a character that fails the test. -/
theorem dropEndWhile_behind {test : Char → Bool} {c : Char} (fails : test c = false)
    (front text : List Char) :
    Text.dropEndWhile test (front ++ c :: text) = front ++ c :: Text.dropEndWhile test text := by
  rw [Text.dropEndWhile, Text.dropEndWhile, List.reverse_append, List.reverse_cons, List.append_assoc,
    List.dropWhile_append]
  split
  · rename_i empty
    rw [List.isEmpty_iff] at empty
    simp [empty, List.dropWhile_cons_of_neg, fails]
  · simp

theorem dropEndWhile_of_last {test : Char → Bool} {front : List Char} {c : Char}
    (fails : test c = false) : Text.dropEndWhile test (front ++ [c]) = front ++ [c] :=
  dropEndWhile_behind fails front []

/-- A text that begins and ends as a value does. -/
structure Bare (text : List Char) : Prop where
  head : ∃ c others, text = c :: others ∧ Text.isBlank c = false ∧ c ∉ "\x7b~&#/^>!".toList
  last : ∃ front c, text = front ++ [c] ∧ Text.isBlank c = false ∧ c ≠ '~'

namespace Bare

variable (bare : Bare text)

include bare

theorem trim_eq : Text.trim text = text := by
  obtain ⟨c, others, same, solid, _⟩ := bare.head
  obtain ⟨front, d, ends, closed, _⟩ := bare.last
  rw [ends]
  refine Text.trim_of_solid closed fun e found => ?_
  rw [← ends, same] at found
  cases found
  exact solid

theorem dropWhile_eq {d : Char} (mark : d ∈ "\x7b~&#/^>!".toList) :
    text.dropWhile (· == d) = text := by
  obtain ⟨c, others, rfl, _, plain⟩ := bare.head
  refine Text.dropWhile_of_head fun e found => ?_
  cases found
  rw [beq_eq_false_iff_ne]
  rintro rfl
  exact plain mark

theorem dropEndWhile_eq : Text.dropEndWhile (· == '~') text = text := by
  obtain ⟨front, c, rfl, _, other⟩ := bare.last
  exact dropEndWhile_of_last (beq_eq_false_iff_ne.mpr other)

theorem cleaned_eq : cleaned text = text := by
  simp only [cleaned, bare.trim_eq, bare.dropWhile_eq (show '\x7b' ∈ _ by decide),
    bare.dropWhile_eq (show '~' ∈ _ by decide), bare.dropEndWhile_eq,
    bare.dropWhile_eq (show '&' ∈ _ by decide)]

theorem cleaned_tildes : cleaned ('~' :: (text ++ ['~'])) = text := by
  have trimmed : Text.trim ('~' :: (text ++ ['~'])) = '~' :: (text ++ ['~']) :=
    @Text.trim_of_solid ('~' :: text) [] '~' (by decide) (by
      intro d found
      cases found
      decide)
  have opened : ('~' :: (text ++ ['~'])).dropWhile (· == '~') = text ++ ['~'] := by
    obtain ⟨c, others, rfl, _, plain⟩ := bare.head
    rw [List.dropWhile_cons_of_pos (by decide)]
    refine Text.dropWhile_of_head fun e found => ?_
    cases found
    rw [beq_eq_false_iff_ne]
    rintro rfl
    exact plain (by decide)
  have closed : Text.dropEndWhile (· == '~') (text ++ ['~']) = text := by
    rw [dropEndWhile_append (by simp), bare.dropEndWhile_eq]
  simp only [cleaned, trimmed]
  rw [List.dropWhile_cons_of_neg (by decide), opened, closed,
    bare.dropWhile_eq (show '&' ∈ _ by decide), bare.trim_eq]

theorem cleaned_brace : cleaned ('\x7b' :: text) = text := by
  have trimmed : Text.trim ('\x7b' :: text) = '\x7b' :: text := by
    obtain ⟨front, c, rfl, solid, _⟩ := bare.last
    refine @Text.trim_of_solid ('\x7b' :: front) [] c solid ?_
    intro d found
    cases found
    decide
  simp only [cleaned, trimmed]
  rw [List.dropWhile_cons_of_pos (by decide), bare.dropWhile_eq (show '\x7b' ∈ _ by decide),
    bare.dropWhile_eq (show '~' ∈ _ by decide), bare.dropEndWhile_eq,
    bare.dropWhile_eq (show '&' ∈ _ by decide), bare.trim_eq]

/-- What is left by cleaning is a value, unless it begins with `else`. -/
theorem valuePart?_eq {content : List Char} (same : cleaned content = text)
    (free : Text.after? "else".toList text = none) : valuePart? content = some text := by
  have condition : Text.after? "else ".toList text = none := by
    cases found : Text.after? "else ".toList text with
    | none => rfl
    | some rest =>
      have whole : text = "else".toList ++ ' ' :: rest := by
        rw [Text.after?_eq_some_iff.mp found]
        rfl
      rw [Text.after?_eq_some_iff.mpr whole] at free
      cases free
  have other : (text == "else".toList) = false := by
    rw [beq_eq_false_iff_ne]
    rintro rfl
    cases free
  have unmarked : (text.head?.map fun c => "#/^>!".toList.contains c).getD true = false := by
    obtain ⟨c, others, rfl, _, plain⟩ := bare.head
    exact Text.contains_eq_false (· ∉ "\x7b~&#/^>!".toList) plain
      (Text.forall_mem_of_all (by decide))
  simp only [valuePart?, same, unmarked, other, condition, Option.getD_none, bare.trim_eq,
    Bool.or_self, Bool.false_eq_true, if_false]

end Bare

/-! ### Words -/

/-- A text that the reader of words passes without a break, coming out of the quotes in it. -/
def Whole (word : List Char) : Prop :=
  ∀ before more, wordsFrom before none (word ++ more) = wordsFrom (word.reverse ++ before) none more

/-- Where a word ends. -/
def Breaks (more : List Char) : Prop := more = [] ∨ ∃ rest, more = ' ' :: rest

theorem Whole.append {first second : List Char} (whole : Whole first) (further : Whole second) :
    Whole (first ++ second) := by
  intro before more
  rw [List.append_assoc, whole, further, List.reverse_append, List.append_assoc]

theorem whole_of_chars (chars : ∀ c ∈ text, Text.isBlank c = false ∧ c ≠ '"' ∧ c ≠ '\'') :
    Whole text := by
  induction text with
  | nil => exact fun before more => rfl
  | cons c text ih =>
    intro before more
    obtain ⟨solid, double, single⟩ := chars c List.mem_cons_self
    rw [List.cons_append, wordsFrom, if_neg (by simp [solid]), if_neg (by simp [double, single]),
      ih fun d member => chars d (List.mem_cons_of_mem _ member)]
    simp

/-- Blanks in quotes do not separate. -/
theorem whole_quoted {quote : Char} {body : List Char} (mark : quote = '"' ∨ quote = '\'')
    (free : quote ∉ body) : Whole (quote :: (body ++ [quote])) := by
  have inner : ∀ before more, wordsFrom before (some quote) (body ++ quote :: more) =
      wordsFrom (quote :: (body.reverse ++ before)) none more := by
    induction body with
    | nil =>
      intro before more
      rw [List.nil_append, wordsFrom, if_pos rfl]
      rfl
    | cons c body ih =>
      obtain ⟨differs, free⟩ : quote ≠ c ∧ quote ∉ body := by simpa using free
      intro before more
      rw [List.cons_append, wordsFrom, if_neg (Ne.symm differs), ih free]
      simp
  have solid : Text.isBlank quote = false := by rcases mark with rfl | rfl <;> decide
  intro before more
  rw [List.cons_append, wordsFrom, if_neg (by simp [solid]), if_pos mark, List.append_assoc,
    List.singleton_append, inner]
  simp

/-- A word up to its end. -/
theorem wordsFrom_whole {word : List Char} (whole : Whole word) (nonempty : word ≠ [])
    (breaks : Breaks more) : wordsFrom [] none (word ++ more) = word :: wordsFrom [] none more := by
  have filled : word.reverse.isEmpty = false := by simpa using nonempty
  rw [whole, List.append_nil]
  rcases breaks with rfl | ⟨rest, rfl⟩
  · simp [wordsFrom, nonempty]
  · have blank : Text.isBlank ' ' = true := by decide
    simp only [wordsFrom, blank, filled, if_true, List.reverse_reverse, List.isEmpty_nil,
      Bool.false_eq_true, if_false]

/-- A space before words does not count. -/
theorem wordsFrom_space (more : List Char) :
    wordsFrom [] none (' ' :: more) = wordsFrom [] none more := by
  have blank : Text.isBlank ' ' = true := by decide
  simp only [wordsFrom, blank, if_true, List.isEmpty_nil]

/-! ### Variables of words -/

theorem wordVariable?_eq {word value : List Char} (closed : word.head? ≠ some '(')
    (same : optionValue (Text.dropEndWhile (· == ')') word) = value) :
    wordVariable? word = if value.isEmpty || isLiteral value then none
      else baseVariable? (String.ofList ((indexedName? value).getD value)) := by
  rw [wordVariable?, if_neg closed]
  simp only [same]

/-- A word in parentheses names a helper. -/
theorem wordVariable?_call (name : List Char) : wordVariable? ('(' :: name) = none := by
  rw [wordVariable?, List.head?_cons, if_pos rfl]

theorem optionValue_of_quoted {c : Char} (mark : c = '"' ∨ c = '\'') (others : List Char) :
    optionValue (c :: others) = c :: others := by
  have quoted : ((c :: others).head? == some '"' || (c :: others).head? == some '\'') = true := by
    rcases mark with rfl | rfl <;> rfl
  simp only [optionValue, quoted, if_true]
  split <;> rfl

theorem optionValue_of_free (free : '=' ∉ text) : optionValue text = text := by
  have none : text.dropWhile (· != '=') = [] := by
    rw [List.dropWhile_eq_nil_iff]
    intro c member
    rw [bne_iff_ne]
    rintro rfl
    exact free member
  simp only [optionValue, none]

/-- What stands behind the equals sign of an option. -/
theorem optionValue_of_key {key : List Char} (plain : ∀ c ∈ key, c ≠ '=' ∧ c ≠ '"' ∧ c ≠ '\'')
    (nonempty : key ≠ []) (value : List Char) : optionValue (key ++ '=' :: value) = value := by
  have behind : (key ++ '=' :: value).dropWhile (· != '=') = '=' :: value := by
    rw [List.dropWhile_append_of_pos fun c member => bne_iff_ne.mpr (plain c member).1,
      List.dropWhile_cons_of_neg (by decide)]
  obtain ⟨c, others, rfl⟩ := List.exists_cons_of_ne_nil nonempty
  obtain ⟨_, double, single⟩ := plain c List.mem_cons_self
  have unquoted : ((c :: others ++ '=' :: value).head? == some '"' ||
      (c :: others ++ '=' :: value).head? == some '\'') = false := by
    simp [double, single]
  simp only [optionValue, behind, unquoted, Bool.false_eq_true, if_false]

theorem indexedName?_of_free (free : '[' ∉ text) : indexedName? text = none := by
  cases text with
  | nil => rfl
  | cons c text =>
    have inner : ∀ test : Char → Bool, ((text.dropWhile test).head? == some '[') = false := by
      intro test
      rw [beq_eq_false_iff_ne]
      intro found
      have member := (List.dropWhile_suffix test).subset (List.mem_of_mem_head? found)
      exact free (List.mem_cons_of_mem _ member)
    simp only [indexedName?, inner, Bool.and_false, Bool.false_eq_true, if_false]

end Stencil.Extraction
