import Stencil.Proofs.Runs
import Stencil.Proofs.SplitTexts

set_option autoImplicit false

/-!
Names in the different cases. The words of a text have its letters and digits and nothing else
(`flatten_words`), and runs of small letters and digits are the words of the text that joins them
(`words_intercalate`), so all cases of an ASCII text have the same letters and digits, and its small words come
back from where they are joined (`cases_agree`).
-/

namespace Stencil

namespace Text

section

variable {c : Char} {text : List Char} {items : List (List Char)}

/-! ### Words -/

/-- The word that ends where a text ends or something else than a letter or a digit follows. -/
def endedWord (word : List Char) : List (List Char) := if word.isEmpty then [] else [word.reverse]

theorem flatten_endedWord (word : List Char) : (endedWord word).flatten = word.reverse := by
  cases word <;> simp [endedWord]

theorem ne_nil_of_mem_endedWord (word : List Char) : ∀ found ∈ endedWord word, found ≠ [] := by
  cases word <;> simp [endedWord]

theorem wordsFrom_nil (word : List Char) (low : Bool) : wordsFrom word low [] = endedWord word := by
  rw [wordsFrom]
  rfl

theorem wordsFrom_other (word : List Char) (low : Bool) (other : isAlphanumeric c = false) (text : List Char) :
    wordsFrom word low (c :: text) = endedWord word ++ words text := by
  cases word <;> simp [wordsFrom, other, endedWord, words]

/-- A letter or a digit goes on with a word, or begins the next one. -/
theorem wordsFrom_char (word : List Char) (low : Bool) (char : isAlphanumeric c = true) (text : List Char) :
    wordsFrom word low (c :: text) =
      if (isUpper c && low && !word.isEmpty) = true then
        word.reverse :: wordsFrom [c] (isLower c || isNumeric c) text
      else wordsFrom (c :: word) (isLower c || isNumeric c) text := by
  rw [wordsFrom, char]
  rfl

theorem flatten_wordsFrom (word : List Char) (low : Bool) (text : List Char) :
    (wordsFrom word low text).flatten = word.reverse ++ text.filter isAlphanumeric := by
  -- For every word that is open, since a capital closes it and opens another one.
  induction text generalizing word low with
  | nil => rw [wordsFrom_nil, flatten_endedWord, List.filter_nil, List.append_nil]
  | cons c text ih =>
    by_cases char : isAlphanumeric c = true
    · rw [wordsFrom_char word low char, List.filter_cons_of_pos char]
      split
      · rw [List.flatten_cons, ih]
        simp
      · rw [ih]
        simp
    · rw [wordsFrom_other word low (Bool.eq_false_iff.mpr char), List.filter_cons_of_neg char,
        List.flatten_append, flatten_endedWord, words, ih]
      rfl

theorem flatten_words (text : List Char) : (words text).flatten = text.filter isAlphanumeric :=
  flatten_wordsFrom [] false text

theorem ne_nil_of_mem_wordsFrom (word : List Char) (low : Bool) (text : List Char) :
    ∀ found ∈ wordsFrom word low text, found ≠ [] := by
  induction text generalizing word low with
  | nil =>
    rw [wordsFrom_nil]
    exact ne_nil_of_mem_endedWord word
  | cons c text ih =>
    by_cases char : isAlphanumeric c = true
    · rw [wordsFrom_char word low char]
      split
      · rename_i capital
        have some : word.reverse ≠ [] := by
          rintro none
          simp [List.reverse_eq_nil_iff.mp none] at capital
        exact List.forall_mem_cons.mpr ⟨some, ih _ _⟩
      · exact ih _ _
    · rw [wordsFrom_other word low (Bool.eq_false_iff.mpr char)]
      intro found listed
      rcases List.mem_append.mp listed with ended | later
      · exact ne_nil_of_mem_endedWord word found ended
      · exact ih _ _ found later

/-- Letters and digits that are no capitals go on with a word. -/
theorem wordsFrom_append (word : List Char) (low : Bool) {run : List Char}
    (chars : ∀ c ∈ run, isAlphanumeric c = true) (plain : ∀ c ∈ run, isUpper c = false) (text : List Char) :
    ∃ low', wordsFrom word low (run ++ text) = wordsFrom (run.reverse ++ word) low' text := by
  induction run generalizing word low with
  | nil => exact ⟨low, rfl⟩
  | cons c run ih =>
    obtain ⟨char, chars⟩ := List.forall_mem_cons.mp chars
    obtain ⟨first, plain⟩ := List.forall_mem_cons.mp plain
    obtain ⟨low', same⟩ := ih (c :: word) (isLower c || isNumeric c) chars plain
    refine ⟨low', ?_⟩
    rw [List.cons_append, wordsFrom_char word low char, first, Bool.false_and, Bool.false_and,
      if_neg Bool.false_ne_true, same]
    simp

/-- Runs without capitals are the words of the text that joins them. -/
theorem words_intercalate (other : isAlphanumeric c = false)
    (runs : ∀ run ∈ items, run ≠ [] ∧ ∀ d ∈ run, isAlphanumeric d = true ∧ isUpper d = false) :
    words ([c].intercalate items) = items := by
  induction items with
  | nil => rfl
  | cons item items ih =>
    obtain ⟨⟨some, chars⟩, later⟩ := List.forall_mem_cons.mp runs
    have ended : endedWord (item.reverse ++ []) = [item] := by
      rw [endedWord, List.append_nil, if_neg (by simpa using some), List.reverse_reverse]
    have passes := wordsFrom_append [] false (fun d member => (chars d member).1)
      (fun d member => (chars d member).2)
    cases items with
    | nil =>
      obtain ⟨low, same⟩ := passes []
      rw [List.append_nil] at same
      rw [List.intercalate_singleton, words, same, wordsFrom_nil, ended]
    | cons next items =>
      obtain ⟨low, same⟩ := passes (c :: [c].intercalate (next :: items))
      rw [List.intercalate_cons_cons, words, List.append_assoc, List.singleton_append, same,
        wordsFrom_other _ _ other, ended, ih later]
      rfl

/-! ### The cases of an ASCII text -/

theorem isAscii_of_mem_words (ascii : ∀ c ∈ text, isAscii c = true) {word : List Char}
    (listed : word ∈ words text) : ∀ c ∈ word, isAscii c = true ∧ isPlainAlphanumeric c = true := by
  intro c member
  have inside := List.mem_flatten.mpr ⟨word, listed, member⟩
  rw [flatten_words, List.mem_filter] at inside
  have plain := ascii c inside.1
  exact ⟨plain, isAlphanumeric_of_ascii plain ▸ inside.2⟩

theorem isSmall_toLower (ascii : isAscii c = true) (char : isPlainAlphanumeric c = true) :
    isSmall c.toLower = true := by
  have codes : ∀ code < 128, isPlainAlphanumeric (Char.ofNat code) = true →
      isSmall (Char.ofNat code).toLower = true := by decide +kernel
  exact forall_of_ascii (p := fun c => isPlainAlphanumeric c = true → isSmall c.toLower = true) codes ascii char

/-- The words of an ASCII text, lowered, are runs. -/
theorem areRuns_words (ascii : ∀ c ∈ text, isAscii c = true) : AreRuns ((words text).map lowerChars) := by
  intro run listed
  obtain ⟨word, found, rfl⟩ := List.mem_map.mp listed
  have chars := isAscii_of_mem_words ascii found
  rw [lowerChars_of_ascii fun c member => (chars c member).1]
  constructor
  · simpa using ne_nil_of_mem_wordsFrom [] false text word found
  · intro c member
    obtain ⟨d, inside, rfl⟩ := List.mem_map.mp member
    exact isSmall_toLower (chars d inside).1 (chars d inside).2

/-- ASCII texts are lowered one by one. -/
theorem lowerChars_flatten (ascii : ∀ item ∈ items, ∀ c ∈ item, isAscii c = true) :
    lowerChars items.flatten = (items.map lowerChars).flatten := by
  have all : ∀ c ∈ items.flatten, isAscii c = true := by
    intro c member
    obtain ⟨item, listed, inside⟩ := List.mem_flatten.mp member
    exact ascii item listed c inside
  rw [lowerChars_of_ascii all, List.map_flatten]
  congr 1
  exact List.map_congr_left fun item listed => (lowerChars_of_ascii (ascii item listed)).symm

theorem flatten_words_lowered (ascii : ∀ c ∈ text, isAscii c = true) :
    ((words text).map lowerChars).flatten = lowerChars (text.filter isPlainAlphanumeric) := by
  rw [← lowerChars_flatten fun word listed c member => (isAscii_of_mem_words ascii listed c member).1,
    flatten_words]
  congr 1
  exact List.filter_congr fun c member => isAlphanumeric_of_ascii (ascii c member)

theorem isAscii_capitalize (small : ∀ c ∈ text, isSmall c = true) :
    ∀ c ∈ capitalize text, isAscii c = true := by
  have codes : ∀ code < 128, isAscii (Char.ofNat code).toUpper = true := by decide +kernel
  cases text with
  | nil => exact nofun
  | cons c text =>
    obtain ⟨first, others⟩ := List.forall_mem_cons.mp small
    have ascii := isAscii_of_small first
    rw [capitalize, upperChar_of_ascii ascii, List.singleton_append]
    refine List.forall_mem_cons.mpr ⟨?_, fun d member => isAscii_of_small (others d member)⟩
    exact forall_of_ascii (p := fun c => isAscii c.toUpper = true) codes ascii

/-- Lowering takes back a capital at the beginning. -/
theorem lowerChars_capitalize (small : ∀ c ∈ text, isSmall c = true) : lowerChars (capitalize text) = text := by
  rw [lowerChars_of_ascii (isAscii_capitalize small)]
  cases text with
  | nil => rfl
  | cons c text =>
    obtain ⟨first, others⟩ := List.forall_mem_cons.mp small
    have back : c.toUpper.toLower = c :=
      @forall_of_small c (fun c => c.toUpper.toLower = c) (by decide +kernel) first
    have kept : text.map Char.toLower = text := map_of_kept fun d member => toLower_of_small (others d member)
    rw [capitalize, upperChar_of_ascii (isAscii_of_small first), List.singleton_append, List.map_cons, back,
      kept]

theorem isAscii_of_capitalized (runs : AreRuns items) :
    ∀ item ∈ items.map capitalize, ∀ c ∈ item, isAscii c = true := by
  intro item listed
  obtain ⟨run, member, rfl⟩ := List.mem_map.mp listed
  exact isAscii_capitalize (runs run member).2

theorem map_lowerChars_capitalize (runs : AreRuns items) : (items.map capitalize).map lowerChars = items := by
  rw [List.map_map]
  exact map_of_kept fun run member => lowerChars_capitalize (runs run member).2

theorem lowerChars_pascalCase (ascii : ∀ c ∈ text, isAscii c = true) :
    lowerChars (pascalCase text) = ((words text).map lowerChars).flatten := by
  have runs := areRuns_words ascii
  rw [pascalCase, lowerChars_flatten (isAscii_of_capitalized runs), map_lowerChars_capitalize runs]

theorem lowerChars_camelCase (ascii : ∀ c ∈ text, isAscii c = true) :
    lowerChars (camelCase text) = ((words text).map lowerChars).flatten := by
  have runs := areRuns_words ascii
  unfold camelCase
  generalize (words text).map lowerChars = items at runs
  cases items with
  | nil => rfl
  | cons word others =>
    obtain ⟨⟨-, small⟩, later⟩ := List.forall_mem_cons.mp runs
    have first : ∀ c ∈ word, isAscii c = true := fun c member => isAscii_of_small (small c member)
    have plain := List.forall_mem_cons.mpr ⟨first, isAscii_of_capitalized later⟩
    show lowerChars (word :: others.map capitalize).flatten = _
    rw [lowerChars_flatten plain, List.map_cons, lowerChars_of_small small, map_lowerChars_capitalize later]

/-- The words that are joined in small letters are the words of the joined text. -/
theorem joinedLower_joinedLower (ascii : ∀ c ∈ text, isAscii c = true) (outer : String)
    (other : isAlphanumeric c = false) :
    joinedLower outer ([c].intercalate ((words text).map lowerChars)) = joinedLower outer text := by
  have runs := areRuns_words ascii
  have back : words ([c].intercalate ((words text).map lowerChars)) = (words text).map lowerChars :=
    words_intercalate other fun run listed => ⟨(runs run listed).1, fun d member =>
      ⟨isAlphanumeric_of_small ((runs run listed).2 d member), isUpper_of_small ((runs run listed).2 d member)⟩⟩
  rw [joinedLower, back, joinedLower, map_lowerChars runs]

/-- Without the separator, the joined words are the letters and digits. -/
theorem without_joined (runs : AreRuns items) (other : isAlphanumeric c = false) :
    without [c] ([c].intercalate items) = items.flatten := by
  cases items with
  | nil => rfl
  | cons item items =>
    have apart : ∀ d ∈ [c], d ∉ ([] : List Char) ∧ (∀ run ∈ item :: items, d ∉ run) ∧ d ∉ ([] : List Char) := by
      intro d same
      obtain rfl := List.mem_singleton.mp same
      refine ⟨List.not_mem_nil, fun run listed member => ?_, List.not_mem_nil⟩
      rw [isAlphanumeric_of_small ((runs run listed).2 d member)] at other
      cases other
    have left := without_intercalate (List.cons_ne_nil item items) apart
    rwa [List.nil_append, List.append_nil, List.nil_append, List.append_nil] at left

end

end Text

namespace Texts

open Catalog (answer)
open Text (AreRuns isAscii isAlphanumeric isPlainAlphanumeric lowerChars words)

/-- The cases that keep words apart, and what they put between them. -/
def joinedCases : List (String × String) := [("snakeCase", "_"), ("kebabCase", "-")]

theorem serves_joined : ∀ joined ∈ joinedCases,
    Catalog.helper? joined.1 = some (onText (Text.joinedLower joined.2)) ∧
      ∃ c, joined.2.toList = [c] ∧ isAlphanumeric c = false := by
  intro joined listed
  rcases List.mem_pair.mp listed with rfl | rfl
  · exact ⟨rfl, '_', rfl, by decide⟩
  · exact ⟨rfl, '-', rfl, by decide⟩

section

variable (options : List (String × Json)) (now : Calendar.Instant) {text : String}

theorem answer_joined (text : String) {joined : String × String} (listed : joined ∈ joinedCases) :
    answer options now joined.1 [.string text] = .ok (.string (String.ofList
      (joined.2.toList.intercalate ((words text.toList).map lowerChars)))) :=
  answer_onText options now (serves_joined joined listed).1 text

/-- The cases of an ASCII text have the same words: runs of small letters and digits, with the letters and
digits of the text in their order. They stand between single separators, from which they are split again; and
all cases have the same letters and digits, apart from capitals. -/
theorem cases_agree (ascii : ∀ c ∈ text.toList, isAscii c = true) : ∃ runs, AreRuns runs ∧
    runs.flatten = lowerChars (text.toList.filter isPlainAlphanumeric) ∧
    (∀ joined ∈ joinedCases,
      answer options now joined.1 [.string text] =
        .ok (.string (String.ofList (joined.2.toList.intercalate runs))) ∧
      (do answer options now "replace"
            [← answer options now joined.1 [.string text], .string joined.2, .string ""]) =
        .ok (.string (String.ofList runs.flatten))) ∧
    (∀ outer ∈ joinedCases, ∀ inner ∈ joinedCases,
      (do answer options now outer.1 [← answer options now inner.1 [.string text]]) =
        answer options now outer.1 [.string text]) ∧
    ∀ name ∈ ["camelCase", "pascalCase"],
      (do answer options now "lowercase" [← answer options now name [.string text]]) =
        .ok (.string (String.ofList runs.flatten)) := by
  have runs := Text.areRuns_words ascii
  refine ⟨_, runs, Text.flatten_words_lowered ascii, ?_, ?_, ?_⟩
  · intro joined listed
    obtain ⟨-, c, single, other⟩ := serves_joined joined listed
    refine ⟨answer_joined options now text listed, ?_⟩
    rw [answer_joined options now text listed, Answer.ok_bind, answer_without, String.toList_ofList, single,
      Text.without_joined runs other]
  · intro outer listed inner inside
    obtain ⟨-, c, single, other⟩ := serves_joined inner inside
    have serves := (serves_joined outer listed).1
    rw [answer_joined options now text inside, Answer.ok_bind, answer_onText options now serves,
      answer_onText options now serves, String.toList_ofList, single,
      Text.joinedLower_joinedLower ascii outer.2 other]
  · have lowers : Catalog.helper? "lowercase" = some (onText lowerChars) := rfl
    intro name listed
    rcases List.mem_pair.mp listed with rfl | rfl
    · have serves : Catalog.helper? "camelCase" = some (onText Text.camelCase) := rfl
      rw [answer_onText options now serves, Answer.ok_bind, answer_onText options now lowers,
        String.toList_ofList, Text.lowerChars_camelCase ascii]
    · have serves : Catalog.helper? "pascalCase" = some (onText Text.pascalCase) := rfl
      rw [answer_onText options now serves, Answer.ok_bind, answer_onText options now lowers,
        String.toList_ofList, Text.lowerChars_pascalCase ascii]

end

/-- A text with a row of capitals, a digit, and more than one mark between words and at the end. -/
def marked : String := "HTTPServer_v2 --fooBar!"

/-- The row of capitals is one word with what follows it, and all cases have its letters. -/
theorem cases_agree_marked : (∀ c ∈ marked.toList, isAscii c = true) ∧
    answer [] ⟨0, 0, 0⟩ "kebabCase" [.string marked] = .ok (.string "httpserver-v2-foo-bar") ∧
    (do answer [] ⟨0, 0, 0⟩ "snakeCase" [← answer [] ⟨0, 0, 0⟩ "kebabCase" [.string marked]]) =
      answer [] ⟨0, 0, 0⟩ "snakeCase" [.string marked] ∧
    (do answer [] ⟨0, 0, 0⟩ "lowercase" [← answer [] ⟨0, 0, 0⟩ "camelCase" [.string marked]]) =
      .ok (.string "httpserverv2foobar") := by
  have ascii : ∀ c ∈ marked.toList, isAscii c = true := List.all_eq_true.mp (by decide +kernel)
  obtain ⟨runs, -, letters, -, split, lowered⟩ := cases_agree [] ⟨0, 0, 0⟩ ascii
  have chars : lowerChars (marked.toList.filter isPlainAlphanumeric) = "httpserverv2foobar".toList := by
    decide +kernel
  have joined : "-".toList.intercalate ((words marked.toList).map lowerChars) =
      "httpserver-v2-foo-bar".toList := by decide +kernel
  have snake : ("snakeCase", "_") ∈ joinedCases := List.mem_cons_self
  have kebab : ("kebabCase", "-") ∈ joinedCases := List.mem_cons_of_mem _ List.mem_cons_self
  refine ⟨ascii, ?_, split _ snake _ kebab, ?_⟩
  · rw [answer_joined [] ⟨0, 0, 0⟩ marked kebab, joined]
    rfl
  · rw [lowered "camelCase" List.mem_cons_self, letters, chars]
    rfl

end Texts

end Stencil
