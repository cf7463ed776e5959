import Stencil.Proofs.LeafWords
import Stencil.Proofs.TagForms

set_option autoImplicit false

/-!
The words of written forms. A form is tight if the scan can tell its parts apart: every argument stands
behind a space, no space stands behind an opening parenthesis or before the sign of an option, no call is
the value right behind such a sign, and blanks stand in quotes only. The words of tight arguments name at
most the paths among them, in order (`Forms.scans`).
-/

namespace Stencil.Extraction

open Inline (Closers)

variable {more tail : List Char}

/-! ### Blanks and closing parentheses -/

/-- The word that was being read, if there was one. -/
def flushed (word : List Char) : List (List Char) := if word.isEmpty then [] else [word.reverse]

theorem wordsFrom_blank {c : Char} (blank : Text.isBlank c = true) (word text : List Char) :
    wordsFrom word none (c :: text) = flushed word ++ wordsFrom [] none text := by
  rw [wordsFrom, if_pos blank, flushed]
  cases word <;> simp

theorem wordsFrom_blanks {gap : List Char} (blank : ∀ c ∈ gap, Text.isBlank c = true)
    (more : List Char) : wordsFrom [] none (gap ++ more) = wordsFrom [] none more := by
  induction gap with
  | nil => rfl
  | cons c gap ih =>
    obtain ⟨first, others⟩ := List.forall_mem_cons.mp blank
    rw [List.cons_append, wordsFrom_blank first, ih others]
    rfl

/-- A text before which a word ends. -/
def EndsWord (more : List Char) : Prop := ∀ c, more.head? = some c → Text.isBlank c = true

theorem wordsFrom_ends (ends : EndsWord more) (word : List Char) :
    wordsFrom word none more = flushed word ++ wordsFrom [] none more := by
  cases more with
  | nil =>
    rw [wordsFrom, wordsFrom, flushed]
    simp
  | cons c more =>
    rw [wordsFrom_blank (ends c rfl), wordsFrom_blank (ends c rfl)]
    rfl

/-- Parentheses that close calls, with blanks between them. -/
def Closing (tail : List Char) : Prop := ∀ c ∈ tail, c = ')' ∨ Text.isBlank c = true

theorem closing_nil : Closing [] := List.forall_mem_nil _

/-- Behind a word stand parentheses that belong to it, and words of parentheses. -/
theorem wordsFrom_closing (closing : Closing tail) (ends : EndsWord more) : ∀ word : List Char,
    ∃ closers others, Closers closers ∧ (∀ other ∈ others, Closers other) ∧
      wordsFrom word none (tail ++ more) = flushed (closers ++ word) ++ others ++ wordsFrom [] none more := by
  induction tail with
  | nil =>
    intro word
    exact ⟨[], [], Inline.closers_nil, List.forall_mem_nil _, by simpa using wordsFrom_ends ends word⟩
  | cons c tail ih =>
    obtain ⟨first, closing⟩ := List.forall_mem_cons.mp closing
    intro word
    by_cases blank : Text.isBlank c = true
    · obtain ⟨closers, others, closed, all, same⟩ := ih closing []
      refine ⟨[], flushed closers ++ others, Inline.closers_nil, ?_, ?_⟩
      · intro other member
        rcases List.mem_append.mp member with member | member
        · unfold flushed at member
          split at member
          · cases member
          · rw [List.mem_singleton.mp member]
            exact fun c inside => closed c (List.mem_reverse.mp inside)
        · exact all other member
      · rw [List.cons_append, wordsFrom_blank blank, same]
        simp
    · obtain ⟨closers, others, closed, all, same⟩ := ih closing (c :: word)
      have parenthesis : c = ')' := first.resolve_right blank
      refine ⟨closers ++ [c], others, ?_, all, ?_⟩
      · intro d member
        rcases List.mem_append.mp member with member | member
        · exact closed d member
        · rw [List.mem_singleton.mp member, parenthesis]
      · rw [List.cons_append, wordsFrom, if_neg blank, if_neg (by rw [parenthesis]; decide), same]
        simp

/-- A word of closing parentheses names nothing. -/
theorem wordVariable?_closers {closers : List Char} (closed : Closers closers) :
    wordVariable? closers = none := by
  have opens : closers.head? ≠ some '(' := by
    intro found
    cases closed '(' (List.mem_of_mem_head? found)
  have dropped : Text.dropEndWhile (· == ')') ([] ++ closers) = [] :=
    dropEndWhile_append (fun c member => beq_iff_eq.mpr (closed c member)) []
  rw [wordVariable?_eq opens (congrArg optionValue dropped)]
  rfl

/-! ### Words and paths -/

/-- The words of a text, before a further text, name at most the given paths, in order. -/
def Scans (text more : List Char) (raws : List String) : Prop :=
  ∃ words, words ≠ [] ∧ wordsFrom [] none (text ++ more) = words ++ wordsFrom [] none more ∧
    (words.filterMap wordVariable?).Sublist (raws.filterMap baseVariable?)

namespace Scans

variable {text : List Char} {raws others : List String}

theorem append {first second : List Char} (here : Scans first (second ++ more) raws)
    (there : Scans second more others) : Scans (first ++ second) more (raws ++ others) := by
  obtain ⟨words, filled, same, names⟩ := here
  obtain ⟨further, _, behind, namesBehind⟩ := there
  refine ⟨words ++ further, by simp [filled], ?_, ?_⟩
  · rw [List.append_assoc, same, behind, List.append_assoc]
  · rw [List.filterMap_append, List.filterMap_append]
    exact names.append namesBehind

theorem blanks {gap : List Char} (blank : ∀ c ∈ gap, Text.isBlank c = true)
    (scans : Scans text more raws) : Scans (gap ++ text) more raws := by
  obtain ⟨words, filled, same, names⟩ := scans
  exact ⟨words, filled, by rw [List.append_assoc, wordsFrom_blanks blank, same], names⟩

/-- A word with closing parentheses behind it. -/
theorem of_word {word : List Char} (whole : Whole word) (filled : word ≠ []) (closing : Closing tail)
    (ends : EndsWord more) (names : ∀ closers, Closers closers →
      ([word ++ closers].filterMap wordVariable?).Sublist (raws.filterMap baseVariable?)) :
    Scans (word ++ tail) more raws := by
  obtain ⟨closers, others, closed, all, same⟩ := wordsFrom_closing closing ends word.reverse
  have reversed : Closers closers.reverse := fun c member => closed c (List.mem_reverse.mp member)
  have silent : others.filterMap wordVariable? = [] :=
    List.filterMap_eq_nil_iff.mpr fun other member => wordVariable?_closers (all other member)
  have read : flushed (closers ++ word.reverse) = [word ++ closers.reverse] := by
    simp [flushed, filled]
  refine ⟨[word ++ closers.reverse] ++ others, by simp, ?_, ?_⟩
  · rw [List.append_assoc, whole, List.append_nil, same, read]
  · rw [List.filterMap_append, silent, List.append_nil]
    exact names _ reversed

end Scans

end Stencil.Extraction

namespace Stencil.Template

open Extraction (Closing EndsWord Scans Whole baseVariable? unbroken whole_of_unbroken wordVariable?)
open Inline (Closers)

/-! ### Paths of forms -/

mutual

/-- The paths that stand as arguments in an operand. -/
def Form.paths : Form → List String
  | .literal _ => []
  | .path written => [written.path.raw]
  | .call _ phrase _ => phrase.paths

def Phrase.paths : Phrase → List String
  | .path _ => []
  | .named _ arguments => arguments.paths

def Forms.paths : Forms → List String
  | .nil => []
  | .cons _ _ form others => form.paths ++ others.paths

end

/-! ### Tight forms -/

/-- True for an option whose value stands right behind its sign. -/
def isKeyed (key : Option KeyForm) : Bool := key.elim false fun key => key.after.text.isEmpty

/-- A key with its sign right behind it. -/
structure KeyForm.Tight (written : KeyForm) : Prop where
  before : written.before.text = []
  solid : unbroken none written.key.name.toList = true

mutual

/-- An operand whose parts the scan can tell apart; whether it stands right behind the sign of an option
is given. An equals sign is misread otherwise. -/
def Form.Tight (keyed : Bool) : Form → Prop
  | .literal literal => unbroken none literal.text = true ∧ literal.text.head? ≠ some '\x7b' ∧
      (keyed = false →
        (∃ c others, literal.text = c :: others ∧ (c = '"' ∨ c = '\'')) ∨ '=' ∉ literal.text)
  | .path written => unbroken none written.path.raw.toList = true ∧
      (keyed = false → '=' ∉ written.path.raw.toList)
  | .call before phrase _ => keyed = false ∧ before.text = [] ∧ phrase.Tight

def Phrase.Tight : Phrase → Prop
  | .path written => unbroken none written.path.raw.toList = true
  | .named name arguments => unbroken none name.name.toList = true ∧ arguments.Tight

def Forms.Tight : Forms → Prop
  | .nil => True
  | .cons gap key form others => gap.text ≠ [] ∧ (∀ written ∈ key, written.Tight) ∧
      form.Tight (isKeyed key) ∧ others.Tight

end

/-! ### Words of forms -/

section

variable {more tail : List Char}

theorem isBlank_of_isSpace {c : Char} (space : isSpace c = true) : Text.isBlank c = true := by
  simp only [isSpace, Bool.or_eq_true, beq_iff_eq] at space
  rcases space with ((rfl | rfl) | rfl) | rfl
  all_goals decide

theorem Gap.blank (gap : Gap) : ∀ c ∈ gap.text, Text.isBlank c = true :=
  fun c member => isBlank_of_isSpace (gap.spaces c member)

theorem Gap.endsWord (gap : Gap) (filled : gap.text ≠ []) (more : List Char) :
    EndsWord (gap.text ++ more) := by
  intro c found
  obtain ⟨d, others, same⟩ := List.exists_cons_of_ne_nil filled
  rw [same] at found
  cases found
  exact gap.blank c (by simp [same])

theorem closing_call (closing : Closing tail) (gap : Gap) : Closing (gap.text ++ ')' :: tail) := by
  intro c member
  rcases List.mem_append.mp member with member | member
  · exact Or.inr (gap.blank c member)
  · rcases List.mem_cons.mp member with rfl | member
    · exact Or.inl rfl
    · exact closing c member

/-- A word behind an opening parenthesis names nothing. -/
theorem scans_opening {word : List Char} (solid : unbroken none word = true) (closing : Closing tail)
    (ends : EndsWord more) (raws : List String) : Scans ('(' :: word ++ tail) more raws := by
  have opening : Whole ['('] := Extraction.whole_of_chars (by simp; decide)
  refine Scans.of_word (opening.append (whole_of_unbroken solid)) (by simp) closing ends ?_
  intro closers _
  have silent : wordVariable? ('(' :: (word ++ closers)) = none := Extraction.wordVariable?_call _
  simp [silent]

theorem whole_keyText {key : Option OptionName}
    (solid : ∀ name ∈ key, unbroken none name.name.toList = true) : Whole (keyText key) := by
  cases key with
  | none => exact fun _ _ => rfl
  | some name =>
    have sign : Whole ['='] := Extraction.whole_of_chars (by simp; decide)
    exact (whole_of_unbroken (solid name rfl)).append sign

/-- A key whose value stands behind a space names nothing. -/
theorem scans_key (name : OptionName) (solid : unbroken none name.name.toList = true)
    (ends : EndsWord more) : Scans (keyText (some name)) more [] := by
  have whole : Whole (keyText (some name)) := whole_keyText fun other same => by
    cases same
    exact solid
  have silent : ∀ closers, Closers closers → wordVariable? (keyText (some name) ++ closers) = none := by
    intro closers closed
    have dropped : Text.dropEndWhile (· == ')') ([] ++ closers) = [] :=
      Extraction.dropEndWhile_append (fun c member => beq_iff_eq.mpr (closed c member)) []
    rw [List.nil_append] at dropped
    rw [Extraction.wordVariable?_behind_key, dropped]
    rfl
  have scans : Scans (keyText (some name) ++ []) more [] :=
    Scans.of_word whole (by simp [keyText]) Extraction.closing_nil ends fun closers closed => by
      simp [silent closers closed]
  rwa [List.append_nil] at scans

/-- A word that names at most the base variable of a path. -/
theorem sublist_of_names {word : List Char} {raw : String}
    (names : ∀ name ∈ wordVariable? word, baseVariable? raw = some name) :
    ([word].filterMap wordVariable?).Sublist ([raw].filterMap baseVariable?) := by
  cases found : wordVariable? word with
  | none => simp [found]
  | some name => simp [found, names name found]

theorem Forms.endsWord {forms : Forms} (tight : forms.Tight) (filled : forms.text ≠ [])
    (more : List Char) : EndsWord (forms.text ++ more) := by
  cases forms with
  | nil => exact absurd rfl filled
  | cons gap key form others =>
    rw [Forms.text, List.append_assoc]
    exact gap.endsWord tight.1 _

mutual

/-- An operand, behind the key of an option or not, and before closing parentheses. -/
theorem Form.scans : ∀ (form : Form) {key : Option OptionName} {tail more : List Char},
    form.Tight key.isSome → (∀ name ∈ key, unbroken none name.name.toList = true) → Closing tail →
      EndsWord more → Scans (keyText key ++ form.text ++ tail) more form.paths
  | .literal literal, key, tail, more, tight, solid, closing, ends => by
    obtain ⟨inside, plain, free⟩ := tight
    refine Scans.of_word ((whole_keyText solid).append (whole_of_unbroken inside))
      (by simp [Form.text, literal.nonempty]) closing ends fun closers closed => ?_
    have silent := Extraction.wordVariable?_literal literal closed plain fun keyless : key = none =>
      free (by rw [keyless]; rfl)
    simp only [Form.text, List.filterMap_cons_none silent, List.filterMap_nil, List.nil_sublist]
  | .path written, key, tail, more, tight, solid, closing, ends => by
    obtain ⟨inside, free⟩ := tight
    obtain ⟨c, others, begins, _⟩ := written.begins
    refine Scans.of_word ((whole_keyText solid).append (whole_of_unbroken inside))
      (by simp [Form.text, begins]) closing ends fun closers closed => ?_
    exact sublist_of_names (Extraction.wordVariable?_path written closed fun keyless : key = none =>
      free (by rw [keyless]; rfl))
  | .call before phrase after, key, tail, more, tight, solid, closing, ends => by
    obtain ⟨keyless, joined, tight⟩ := tight
    have keyless : key = none := by simpa using keyless
    have scans := phrase.scans tight (closing_call closing after) ends
    have text : keyText key ++ (Form.call before phrase after).text ++ tail =
        '(' :: phrase.text ++ (after.text ++ ')' :: tail) := by
      simp [keyless, keyText, Form.text, joined]
    rw [text]
    exact scans

theorem Phrase.scans : ∀ (phrase : Phrase) {tail more : List Char}, phrase.Tight → Closing tail →
    EndsWord more → Scans ('(' :: phrase.text ++ tail) more phrase.paths
  | .path written, tail, more, tight, closing, ends => scans_opening tight closing ends _
  | .named name arguments, tail, more, tight, closing, ends => by
    by_cases alone : arguments.text = []
    · rw [Phrase.text, alone, List.append_nil]
      exact scans_opening tight.1 closing ends _
    · have further := arguments.scans tight.2 alone closing ends
      have behind := arguments.endsWord tight.2 alone (tail ++ more)
      rw [← List.append_assoc] at behind
      have scans := (scans_opening tight.1 Extraction.closing_nil behind []).append further
      simpa [Phrase.text, Phrase.paths] using scans

/-- Arguments before closing parentheses. -/
theorem Forms.scans : ∀ (forms : Forms) {tail more : List Char}, forms.Tight → forms.text ≠ [] →
    Closing tail → EndsWord more → Scans (forms.text ++ tail) more forms.paths
  | .nil, _, _, _, filled, _, _ => absurd rfl filled
  | .cons gap key form others, tail, more, tight, _, closing, ends => by
    obtain ⟨_, keys, tight, further⟩ := tight
    have argument : ∀ {tail more : List Char}, Closing tail → EndsWord more →
        Scans (keyOf key ++ form.text ++ tail) more form.paths := by
      intro tail more closing ends
      cases key with
      | none =>
        have scans : Scans (keyText none ++ form.text ++ tail) more form.paths :=
          form.scans tight nofun closing ends
        exact scans
      | some written =>
        obtain ⟨before, solid⟩ := keys written rfl
        by_cases joined : written.after.text = []
        · have keyed : isKeyed (some written) = true := by simp [isKeyed, joined]
          rw [keyed] at tight
          have scans : Scans (keyText (some written.key) ++ form.text ++ tail) more form.paths :=
            form.scans tight (fun name same => by cases same; exact solid) closing ends
          simpa [keyOf, KeyForm.text, keyText, before, joined] using scans
        · have keyed : isKeyed (some written) = false := by simp [isKeyed, joined]
          rw [keyed] at tight
          have scans : Scans (keyText none ++ form.text ++ tail) more form.paths :=
            form.scans tight nofun closing ends
          have behind := scans.blanks written.after.blank
          have key := scans_key written.key solid (written.after.endsWord joined
            (keyText none ++ form.text ++ tail ++ more))
          rw [← List.append_assoc] at key
          have whole := key.append behind
          simpa [keyOf, KeyForm.text, keyText, before] using whole
    by_cases alone : others.text = []
    · have last : (Forms.cons gap key form others).paths = form.paths := by
        cases others with
        | nil => simp [Forms.paths]
        | cons inner key form others =>
          exact absurd (List.append_eq_nil_iff.mp alone).1 further.1
      have scans := (argument closing ends).blanks gap.blank
      rw [last]
      simpa [Forms.text, alone] using scans
    · have next := others.scans further alone closing ends
      have behind := others.endsWord further alone (tail ++ more)
      rw [← List.append_assoc] at behind
      have scans := ((argument Extraction.closing_nil behind).append next).blanks gap.blank
      simpa [Forms.text, Forms.paths] using scans

end

end

end Stencil.Template
