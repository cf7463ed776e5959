import Stencil.Proofs.InlineData
import Stencil.Proofs.RegionScan

set_option autoImplicit false

/-!
The words of inline tags. The reader of words splits arguments into a word for each leaf and for each
helper of a call (`wordsFrom_arguments`), and a word with a leaf names the variable of the leaf, whatever
stands around it: a key, or parentheses (`variables_arguments`).
-/

namespace Stencil.Inline

open Extraction (Breaks Whole baseVariable? wordsFrom wordVariable?)
open Template (isNameChar)

/-! ### Characters -/

/-- A character of a path or of a number. -/
def isLeafChar (c : Char) : Bool := (isNameChar c && Text.isAscii c) || "./+".toList.contains c

theorem ne_of_isLeafChar {c d : Char} (char : isLeafChar c = true) (other : isLeafChar d = false) :
    c ≠ d := by
  rintro rfl
  rw [other] at char
  cases char

theorem isLeafChar_of_isDigit {c : Char} (digit : c.isDigit = true) : isLeafChar c = true := by
  have digits : ∀ c ∈ "0123456789".toList, isLeafChar c = true := Text.forall_mem_of_all (by decide)
  exact digits c (mem_of_isDigit digit)

theorem isAscii_of_isLeafChar {c : Char} (char : isLeafChar c = true) : Text.isAscii c = true := by
  rcases Bool.or_eq_true_iff.mp char with named | mark
  · exact (Bool.and_eq_true_iff.mp named).2
  · have marks : ∀ c ∈ "./+".toList, Text.isAscii c = true := Text.forall_mem_of_all (by decide)
    exact marks c (List.contains_iff_mem.mp mark)

theorem not_isBlank_of_isLeafChar {c : Char} (char : isLeafChar c = true) :
    Text.isBlank c = false := by
  have solid := @Text.forall_of_ascii (fun c => isLeafChar c = true → Text.isBlank c = false)
    (by decide +kernel) c (isAscii_of_isLeafChar char)
  exact solid char

theorem Name.leafChars (name : Name) : ∀ c ∈ name.text, isLeafChar c = true := by
  intro c member
  obtain ⟨char, ascii⟩ := name.chars c member
  simp [isLeafChar, char, ascii]

theorem pointed_leafChars (names : List Name) : ∀ c ∈ pointed names, isLeafChar c = true := by
  intro c member
  obtain ⟨name, _, inside⟩ := List.mem_flatMap.mp member
  rcases List.mem_cons.mp inside with rfl | inside
  · decide
  · exact name.leafChars c inside

theorem Path.leafChars (path : Path) : ∀ c ∈ path.text, isLeafChar c = true := by
  obtain ⟨lead, first, others⟩ := path
  have leads : ∀ c ∈ lead.text, isLeafChar c = true :=
    Text.forall_mem_of_all (by cases lead <;> decide)
  simp only [Path.text, List.mem_append, or_imp, forall_and]
  exact ⟨leads, first.leafChars, pointed_leafChars others⟩

theorem Digits.leafChars (digits : Digits) : ∀ c ∈ digits.text, isLeafChar c = true :=
  fun c member => isLeafChar_of_isDigit (digits.chars c member)

theorem Power.leafChars (power : Power) : ∀ c ∈ power.text, isLeafChar c = true := by
  obtain ⟨capital, sign, digits⟩ := power
  have mark : isLeafChar (if capital then 'E' else 'e') = true := by cases capital <;> decide
  have signs : ∀ c ∈ (sign.map fun minus => if minus then '-' else '+').toList,
      isLeafChar c = true := by
    refine Text.forall_mem_of_all ?_
    rcases sign with _ | _ | _ <;> decide
  simp only [Power.text, List.mem_cons, List.mem_append, or_imp, forall_and, forall_eq]
  exact ⟨mark, signs, digits.leafChars⟩

theorem Number.leafChars (number : Number) : ∀ c ∈ number.text, isLeafChar c = true := by
  obtain ⟨minus, whole, fraction, power⟩ := number
  have signs : ∀ c ∈ (if minus then ['-'] else []), isLeafChar c = true :=
    Text.forall_mem_of_all (by cases minus <;> decide)
  have fractions : ∀ c ∈ (fraction.elim [] fun digits => '.' :: digits.text), isLeafChar c = true := by
    cases fraction with
    | none => simp
    | some digits =>
      intro c member
      rcases List.mem_cons.mp member with rfl | inside
      · decide
      · exact digits.leafChars c inside
  have powers : ∀ c ∈ power.elim [] Power.text, isLeafChar c = true := by
    cases power with
    | none => simp
    | some power => exact power.leafChars
  simp only [Number.text, Number.behind, List.mem_append, or_imp, forall_and]
  exact ⟨signs, whole.leafChars, fractions, powers⟩

/-! ### Leaves -/

theorem Path.begins (path : Path) : ∃ c others, path.text = c :: others ∧
    (isNameChar c = true ∨ c = '.') ∧ c.isDigit = false ∧ c ≠ '-' := by
  obtain ⟨lead, first, others⟩ := path
  cases lead with
  | none =>
    obtain ⟨c, letters, same, char, digit, minus⟩ := first.begins_eq
    exact ⟨c, letters ++ pointed others, by simp [text, Lead.text, same], Or.inl char, digit, minus⟩
  | outer => exact ⟨'.', _, rfl, by decide⟩
  | this => exact ⟨'t', _, rfl, by decide⟩

/-- What is neither a point nor a character of a name begins no path. -/
theorem ne_of_beginsPath {c d : Char} (begins : isNameChar c = true ∨ c = '.')
    (other : isNameChar d = false ∧ d ≠ '.') : c ≠ d := by
  rintro rfl
  rcases begins with char | point
  · rw [other.1] at char
    cases char
  · exact other.2 point

/-- A path is no word that stands for a value. -/
theorem Path.ne_word (path : Path) {word : List Char} (fixed : word ∈ reserved)
    (chars : word.all isNameChar = true) : path.text ≠ word := by
  intro same
  obtain ⟨lead, first, others⟩ := path
  cases lead with
  | none =>
    have stop := head?_pointed others endsPath_nil
    rw [List.append_nil] at stop
    have whole : Text.after? word (first.text ++ pointed others) = some [] := by
      rw [Text.after?_eq_some_iff, List.append_nil]
      exact same
    obtain ⟨_, _, empty, _⟩ :=
      first.behind_word stop chars (fun equal => first.free (equal ▸ fixed)) whole
    cases empty
  | outer =>
    rw [← same] at chars
    cases chars
  | this =>
    have words : ∀ word ∈ reserved, Text.after? "this.".toList word = none := by decide
    exact absurd ((words word fixed).symm.trans (Text.after?_eq_some_iff.mpr same.symm)) nofun

theorem Path.not_isLiteral (path : Path) : Extraction.isLiteral path.text = false := by
  obtain ⟨c, others, same, begins, digit, minus⟩ := path.begins
  have double : c ≠ '"' := ne_of_beginsPath begins (by decide)
  have single : c ≠ '\'' := ne_of_beginsPath begins (by decide)
  have plus : c ≠ '+' := ne_of_beginsPath begins (by decide)
  have words : ["true", "false", "null", "undefined"].contains (String.ofList path.text) = false := by
    cases found : ["true", "false", "null", "undefined"].contains (String.ofList path.text) with
    | false => rfl
    | true =>
      have fixed : ∀ word ∈ ["true", "false", "null", "undefined"],
          word.toList ∈ reserved ∧ word.toList.all isNameChar = true := by decide
      obtain ⟨word, chars⟩ := fixed _ (List.contains_iff_mem.mp found)
      rw [String.toList_ofList] at word chars
      exact absurd rfl (path.ne_word word chars)
  rw [Extraction.isLiteral, words, same]
  simp [double, single, digit, minus, plus]

theorem Number.isLiteral_eq (number : Number) : Extraction.isLiteral number.text = true := by
  obtain ⟨c, others, same, begins⟩ := number.begins
  have head : (number.text.head?.map fun c => c.isDigit || c == '-' || c == '+').getD false = true := by
    rw [same]
    rcases begins with digit | rfl
    · simp [digit]
    · rfl
  rw [Extraction.isLiteral, head, number.decimal_isSome]
  simp

namespace Leaf

variable (leaf : Leaf)

/-- A leaf without quotes has the characters of paths and numbers. -/
theorem quoted_or_chars : (∃ quoted, leaf = .quoted quoted) ∨
    leaf.text ≠ [] ∧ ∀ c ∈ leaf.text, isLeafChar c = true := by
  cases leaf with
  | path target =>
    obtain ⟨c, others, same, _⟩ := target.begins
    exact Or.inr ⟨by simp [text, same], target.leafChars⟩
  | number value =>
    obtain ⟨c, others, same, _⟩ := value.begins
    exact Or.inr ⟨by simp [text, same], value.leafChars⟩
  | truth value =>
    cases value <;> exact Or.inr ⟨by decide, Text.forall_mem_of_all (by decide)⟩
  | null => exact Or.inr ⟨by decide, Text.forall_mem_of_all (by decide)⟩
  | quoted value => exact Or.inl ⟨value, rfl⟩

theorem whole : Whole leaf.text := by
  rcases leaf.quoted_or_chars with ⟨quoted, rfl⟩ | ⟨_, chars⟩
  · refine Extraction.whole_quoted quoted.quote_cases fun member => ?_
    obtain ⟨double, single, _⟩ := quoted.plain_body _ member
    rcases quoted.quote_cases with same | same
    · exact double same
    · exact single same
  · refine Extraction.whole_of_chars fun c member => ?_
    have char := chars c member
    exact ⟨not_isBlank_of_isLeafChar char, ne_of_isLeafChar char (by decide),
      ne_of_isLeafChar char (by decide)⟩

theorem last : ∃ front c, leaf.text = front ++ [c] ∧ Text.isBlank c = false ∧ c ≠ '~' ∧ c ≠ ')' := by
  rcases leaf.quoted_or_chars with ⟨quoted, rfl⟩ | ⟨nonempty, chars⟩
  · refine ⟨quoted.quote :: quoted.body, quoted.quote, rfl, ?_⟩
    rcases quoted.quote_cases with same | same <;> rw [same] <;> decide
  · refine ⟨leaf.text.dropLast, leaf.text.getLast nonempty,
      (List.dropLast_concat_getLast nonempty).symm, ?_⟩
    have char := chars _ (List.getLast_mem nonempty)
    exact ⟨not_isBlank_of_isLeafChar char, ne_of_isLeafChar char (by decide),
      ne_of_isLeafChar char (by decide)⟩

/-- No tag ends in a leaf. -/
theorem unclosed : '\x7d' ∉ leaf.text := by
  intro member
  rcases leaf.quoted_or_chars with ⟨quoted, rfl⟩ | ⟨_, chars⟩
  · have quote : '\x7d' ≠ quoted.quote := by
      rcases quoted.quote_cases with same | same <;> rw [same] <;> decide
    have inside : '\x7d' ∈ quoted.body := by
      simpa [text, Quoted.text, quote] using member
    exact (quoted.plain_body _ inside).2.2.2.1 rfl
  · exact ne_of_isLeafChar (chars _ member) (by decide) rfl

theorem opens : leaf.text.head? ≠ some '(' := by
  intro found
  have member := List.mem_of_mem_head? found
  rcases leaf.quoted_or_chars with ⟨quoted, rfl⟩ | ⟨_, chars⟩
  · have quote := Option.some.inj found
    rcases quoted.quote_cases with same | same
    · rw [same] at quote
      cases quote
    · rw [same] at quote
      cases quote
  · exact ne_of_isLeafChar (chars _ member) (by decide) rfl

theorem optionValue_eq : Extraction.optionValue leaf.text = leaf.text := by
  rcases leaf.quoted_or_chars with ⟨quoted, rfl⟩ | ⟨_, chars⟩
  · exact Extraction.optionValue_of_quoted quoted.quote_cases _
  · exact Extraction.optionValue_of_free fun member =>
      ne_of_isLeafChar (chars _ member) (by decide) rfl

/-- Data is a literal, and a path is none and names its variable. -/
theorem base?_eq : (if leaf.text.isEmpty || Extraction.isLiteral leaf.text then none
    else baseVariable? (String.ofList ((Extraction.indexedName? leaf.text).getD leaf.text))) =
      leaf.base? := by
  have literal : Extraction.isLiteral leaf.text = true →
      (if leaf.text.isEmpty || Extraction.isLiteral leaf.text then none
        else baseVariable? (String.ofList ((Extraction.indexedName? leaf.text).getD leaf.text))) =
          none := by
    intro literal
    rw [literal, Bool.or_true, if_pos rfl]
  cases leaf with
  | path target =>
    obtain ⟨c, others, same, _⟩ := target.begins
    have filled : target.text.isEmpty = false := by simp [same]
    have plain := Extraction.indexedName?_of_free fun member =>
      ne_of_isLeafChar (target.leafChars _ member) (by decide) rfl
    simp only [text, filled, target.not_isLiteral, plain, Option.getD_none, Bool.or_self,
      Bool.false_eq_true, if_false]
    rfl
  | number value => exact literal value.isLiteral_eq
  | truth value => cases value <;> exact literal (by decide)
  | null => exact literal (by decide)
  | quoted value =>
    refine literal ?_
    rcases value.quote_cases with same | same <;> simp [text, Quoted.text, same, Extraction.isLiteral]

end Leaf

/-! ### Words -/

/-- Closing parentheses behind the last word of an argument. -/
def Closers (closers : List Char) : Prop := ∀ c ∈ closers, c = ')'

theorem closers_nil : Closers [] := List.forall_mem_nil _

mutual

/-- The words of an argument, the last with closing parentheses behind it. -/
def Argument.words : Argument → List Char → List (List Char)
  | .leaf leaf, closers => [leaf.text ++ closers]
  | .option key leaf, closers => [key.text ++ '=' :: leaf.text ++ closers]
  | .call helper arguments, closers => ('(' :: helper.text) :: arguments.words (')' :: closers)

def Arguments.words : Arguments → List Char → List (List Char)
  | .last argument, closers => argument.words closers
  | .next argument arguments, closers => argument.words [] ++ arguments.words closers

end

mutual

/-- The variables of all paths in an argument. -/
def Argument.variables : Argument → List String
  | .leaf leaf => leaf.base?.toList
  | .option _ leaf => leaf.base?.toList
  | .call _ arguments => arguments.variables

def Arguments.variables : Arguments → List String
  | .last argument => argument.variables
  | .next argument arguments => argument.variables ++ arguments.variables

end

theorem Arguments.begins (arguments : Arguments) : ∃ rest, arguments.text = ' ' :: rest := by
  cases arguments <;> exact ⟨_, rfl⟩

theorem Arguments.breaks (arguments : Arguments) (more : List Char) :
    Breaks (arguments.text ++ more) := by
  obtain ⟨rest, same⟩ := arguments.begins
  exact Or.inr ⟨rest ++ more, by simp [same]⟩

theorem Name.whole (name : Name) : Whole name.text :=
  Extraction.whole_of_chars fun c member =>
    ⟨not_isBlank_of_isLeafChar (name.leafChars c member),
      ne_of_isLeafChar (name.leafChars c member) (by decide),
      ne_of_isLeafChar (name.leafChars c member) (by decide)⟩

section

variable {closers more : List Char}

theorem Closers.whole (closed : Closers closers) : Whole closers :=
  Extraction.whole_of_chars fun c member => by
    obtain rfl := closed c member
    decide

theorem Closers.cons (closed : Closers closers) : Closers (')' :: closers) := by
  simpa [Closers] using closed

theorem wordsFrom_leaf (leaf : Leaf) (closed : Closers closers) (breaks : Breaks more) :
    wordsFrom [] none (leaf.text ++ closers ++ more) =
      (leaf.text ++ closers) :: wordsFrom [] none more := by
  obtain ⟨front, c, same, _⟩ := leaf.last
  exact Extraction.wordsFrom_whole (leaf.whole.append closed.whole) (by simp [same]) breaks

theorem wordsFrom_option (key : Name) (leaf : Leaf) (closed : Closers closers)
    (breaks : Breaks more) : wordsFrom [] none (key.text ++ '=' :: leaf.text ++ closers ++ more) =
      (key.text ++ '=' :: leaf.text ++ closers) :: wordsFrom [] none more := by
  have equals : Whole ['='] := Extraction.whole_of_chars (by simp; decide)
  have whole := (key.whole.append (equals.append leaf.whole)).append closed.whole
  exact Extraction.wordsFrom_whole whole (by simp) breaks

theorem wordsFrom_opening (helper : Name) (breaks : Breaks more) :
    wordsFrom [] none ('(' :: helper.text ++ more) =
      ('(' :: helper.text) :: wordsFrom [] none more := by
  have opening : Whole ['('] := Extraction.whole_of_chars (by simp; decide)
  exact Extraction.wordsFrom_whole (opening.append helper.whole) (by simp) breaks

end

mutual

theorem wordsFrom_argument : ∀ (argument : Argument) {closers more : List Char}, Closers closers →
    Breaks more → wordsFrom [] none (argument.text ++ closers ++ more) =
      argument.words closers ++ wordsFrom [] none more
  | .leaf leaf, _, _, closed, breaks => wordsFrom_leaf leaf closed breaks
  | .option key leaf, _, _, closed, breaks => wordsFrom_option key leaf closed breaks
  | .call helper arguments, closers, more, closed, breaks => by
    have further := wordsFrom_arguments arguments closed.cons breaks
    have whole : (Argument.call helper arguments).text ++ closers ++ more =
        '(' :: helper.text ++ (arguments.text ++ (')' :: closers ++ more)) := by
      simp [Argument.text]
    rw [whole, wordsFrom_opening helper (arguments.breaks _), ← List.append_assoc, further]
    rfl

/-- The words of arguments are read in order. -/
theorem wordsFrom_arguments : ∀ (arguments : Arguments) {closers more : List Char}, Closers closers →
    Breaks more → wordsFrom [] none (arguments.text ++ closers ++ more) =
      arguments.words closers ++ wordsFrom [] none more
  | .last argument, _, _, closed, breaks => by
    rw [Arguments.text, List.cons_append, List.cons_append, Extraction.wordsFrom_space]
    exact wordsFrom_argument argument closed breaks
  | .next argument arguments, closers, more, closed, breaks => by
    have first := wordsFrom_argument argument closers_nil
      (arguments.breaks (closers ++ more))
    have whole : (Arguments.next argument arguments).text ++ closers ++ more =
        ' ' :: (argument.text ++ [] ++ (arguments.text ++ (closers ++ more))) := by
      simp [Arguments.text]
    rw [whole, Extraction.wordsFrom_space, first, ← List.append_assoc arguments.text,
      wordsFrom_arguments arguments closed breaks, Arguments.words, List.append_assoc]

end

section

variable {closers : List Char}

theorem dropEndWhile_leaf (before : List Char) (leaf : Leaf) (closed : Closers closers) :
    Text.dropEndWhile (· == ')') (before ++ leaf.text ++ closers) = before ++ leaf.text := by
  obtain ⟨front, c, same, _, _, other⟩ := leaf.last
  rw [Extraction.dropEndWhile_append fun d member => beq_iff_eq.mpr (closed d member), same,
    ← List.append_assoc]
  exact Extraction.dropEndWhile_of_last (beq_eq_false_iff_ne.mpr other)

/-- A leaf names its variable, whatever parentheses are closed behind it. -/
theorem wordVariable?_leaf (leaf : Leaf) (closed : Closers closers) :
    wordVariable? (leaf.text ++ closers) = leaf.base? := by
  have word := dropEndWhile_leaf [] leaf closed
  rw [List.nil_append] at word
  have opens : (leaf.text ++ closers).head? ≠ some '(' := by
    obtain ⟨front, c, same, _⟩ := leaf.last
    have first := leaf.opens
    cases begins : leaf.text with
    | nil => simp [begins] at same
    | cons d others =>
      rw [begins] at first
      exact first
  rw [Extraction.wordVariable?_eq opens (by rw [word, leaf.optionValue_eq]), leaf.base?_eq]

/-- An option names the variable of its value. -/
theorem wordVariable?_option (key : Name) (leaf : Leaf) (closed : Closers closers) :
    wordVariable? (key.text ++ '=' :: leaf.text ++ closers) = leaf.base? := by
  have word : Text.dropEndWhile (· == ')') (key.text ++ '=' :: leaf.text ++ closers) =
      key.text ++ '=' :: leaf.text := by
    simpa using dropEndWhile_leaf (key.text ++ ['=']) leaf closed
  have plain : ∀ c ∈ key.text, c ≠ '=' ∧ c ≠ '"' ∧ c ≠ '\'' := fun c member =>
    ⟨ne_of_isLeafChar (key.leafChars c member) (by decide),
      ne_of_isLeafChar (key.leafChars c member) (by decide),
      ne_of_isLeafChar (key.leafChars c member) (by decide)⟩
  have value := Extraction.optionValue_of_key plain key.nonempty leaf.text
  have opens : (key.text ++ '=' :: leaf.text ++ closers).head? ≠ some '(' := by
    obtain ⟨c, others, same, char, _⟩ := key.begins_eq
    rw [same]
    intro found
    exact Template.Path.ne_of_isNameChar char (by decide) (Option.some.inj found)
  rw [Extraction.wordVariable?_eq opens (by rw [word, value]), leaf.base?_eq]

end

mutual

theorem variables_argument : ∀ (argument : Argument) {closers : List Char}, Closers closers →
    (argument.words closers).filterMap wordVariable? = argument.variables
  | .leaf leaf, _, closed => by
    rw [Argument.words, List.filterMap_cons, wordVariable?_leaf leaf closed]
    cases same : leaf.base? <;> simp [Argument.variables, same]
  | .option key leaf, _, closed => by
    rw [Argument.words, List.filterMap_cons, wordVariable?_option key leaf closed]
    cases same : leaf.base? <;> simp [Argument.variables, same]
  | .call helper arguments, _, closed => by
    rw [Argument.words, List.filterMap_cons_none (Extraction.wordVariable?_call helper.text),
      variables_arguments arguments closed.cons, Argument.variables]

theorem variables_arguments : ∀ (arguments : Arguments) {closers : List Char}, Closers closers →
    (arguments.words closers).filterMap wordVariable? = arguments.variables
  | .last argument, _, closed => variables_argument argument closed
  | .next argument arguments, _, closed => by
    rw [Arguments.words, List.filterMap_append, variables_argument argument closers_nil,
      variables_arguments arguments closed, Arguments.variables]

end

end Stencil.Inline
