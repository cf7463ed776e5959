import Mathlib
import Stencil.Proofs.CoveredTemplates
import Stencil.Proofs.FormWords
import Stencil.Extraction.Summary

set_option autoImplicit false

/-!
The scan of tags. Cleaning takes the marks and blanks off a value that stands between them
(`cleaned_marked`), so the scan of a region that is a tight tag finds at most the base variables of the
paths in value or argument position (`scan_finds_paths`).
-/

namespace Stencil.Extraction

/-! ### Cleaning -/

section

/-- A mark that may be there. -/
def Optionally (mark : Char) (text : List Char) : Prop := text = [] ∨ text = [mark]

/-- What cleaning does at the end of a text. -/
def cleanedEnd (text : List Char) : List Char :=
  Text.trimEnd (Text.dropEndWhile (· == '~') (Text.trimEnd text))

variable {brace tilde amp before gap : List Char} {c : Char}

theorem dropWhile_optionally {mark : Char} {marks more : List Char} (marked : Optionally mark marks)
    (next : more.head? ≠ some mark) : (marks ++ more).dropWhile (· == mark) = more := by
  have plain : more.dropWhile (· == mark) = more := by
    apply Text.dropWhile_of_head
    intro d found
    rw [beq_eq_false_iff_ne]
    rintro rfl
    exact next found
  rcases marked with rfl | rfl
  · exact plain
  · rw [List.singleton_append, List.dropWhile_cons_of_pos (by simp), plain]

theorem head?_blanks_ne (blank : Blanks gap) {mark : Char} (solid : Text.isBlank mark = false)
    (other : c ≠ mark) (rest : List Char) : (gap ++ c :: rest).head? ≠ some mark := by
  cases gap with
  | nil => simpa using other
  | cons d gap =>
    rw [List.cons_append, List.head?_cons, Ne, Option.some.injEq]
    rintro rfl
    rw [blank d List.mem_cons_self] at solid
    cases solid

theorem head?_optionally_ne {mark other : Char} {marks more : List Char}
    (marked : Optionally other marks) (differs : other ≠ mark) (next : more.head? ≠ some mark) :
    (marks ++ more).head? ≠ some mark := by
  rcases marked with rfl | rfl
  · exact next
  · simpa using differs

/-- Cleaning takes blanks and marks off the beginning of a text, up to its first other character. -/
theorem cleaned_begins (braces : Optionally '\x7b' brace) (tildes : Optionally '~' tilde)
    (amps : Optionally '&' amp) (blank : Blanks before) (spaces : Blanks gap)
    (solid : Text.isBlank c = false) (plain : c ≠ '\x7b' ∧ c ≠ '~' ∧ c ≠ '&') (rest : List Char) :
    cleaned (before ++ (brace ++ (tilde ++ (amp ++ (gap ++ c :: rest))))) = c :: cleanedEnd rest := by
  -- Without marks the blanks before the first character are all taken off at once.
  obtain ⟨inner, inside, trimmed⟩ : ∃ inner, Blanks inner ∧
      Text.trimStart (before ++ (brace ++ (tilde ++ (amp ++ (gap ++ c :: rest))))) =
        brace ++ (tilde ++ (amp ++ (inner ++ c :: rest))) := by
    have stops : ∀ (d : Char) (more : List Char), Text.isBlank d = false →
        Text.trimStart (d :: more) = d :: more :=
      fun d more solid => List.dropWhile_cons_of_neg (by simp [solid])
    rw [trimStart_blanks blank]
    rcases braces with rfl | rfl
    · rcases tildes with rfl | rfl
      · rcases amps with rfl | rfl
        · refine ⟨[], List.forall_mem_nil _, ?_⟩
          rw [List.nil_append, List.nil_append, List.nil_append, trimStart_blanks spaces]
          exact stops c rest solid
        · exact ⟨gap, spaces, stops _ _ (by decide)⟩
      · exact ⟨gap, spaces, stops _ _ (by decide)⟩
    · exact ⟨gap, spaces, stops _ _ (by decide)⟩
  have opened : Text.trim (before ++ (brace ++ (tilde ++ (amp ++ (gap ++ c :: rest))))) =
      brace ++ (tilde ++ (amp ++ (inner ++ c :: Text.trimEnd rest))) := by
    have behind := dropEndWhile_behind solid (brace ++ (tilde ++ (amp ++ inner))) rest
    rw [Text.trim, trimmed]
    simpa [Text.trimEnd] using behind
  have third : ∀ more, (amp ++ (inner ++ c :: more)).dropWhile (· == '&') = inner ++ c :: more :=
    fun more => dropWhile_optionally amps (head?_blanks_ne inside (by decide) plain.2.2 more)
  have second : ∀ more, (tilde ++ (amp ++ (inner ++ c :: more))).dropWhile (· == '~') =
      amp ++ (inner ++ c :: more) := fun more =>
    dropWhile_optionally tildes (head?_optionally_ne amps (by decide)
      (head?_blanks_ne inside (by decide) plain.2.1 more))
  have first : ∀ more, (brace ++ (tilde ++ (amp ++ (inner ++ c :: more)))).dropWhile (· == '\x7b') =
      tilde ++ (amp ++ (inner ++ c :: more)) := fun more =>
    dropWhile_optionally braces (head?_optionally_ne tildes (by decide)
      (head?_optionally_ne amps (by decide) (head?_blanks_ne inside (by decide) plain.1 more)))
  have closed : ∀ more, Text.dropEndWhile (· == '~') (amp ++ (inner ++ c :: more)) =
      amp ++ (inner ++ c :: Text.dropEndWhile (· == '~') more) := by
    intro more
    have behind := @dropEndWhile_behind (· == '~') c (by simp [plain.2.1]) (amp ++ inner) more
    simpa using behind
  have last : ∀ more, Text.trim (inner ++ c :: more) = c :: Text.trimEnd more := by
    intro more
    rw [Text.trim, trimStart_blanks inside, Text.trimStart, List.dropWhile_cons_of_neg (by simp [solid])]
    exact dropEndWhile_behind solid [] more
  rw [cleaned, opened, first, second, closed, third, last]
  rfl

/-- Nothing is left of the end of a tag. -/
theorem cleanedEnd_ends {first last : List Char} (tildes : Optionally '~' tilde) (blank : Blanks first)
    (spaces : Blanks last) : cleanedEnd (first ++ (tilde ++ last)) = [] := by
  have blanks : ∀ {text : List Char}, Blanks text → Text.trimEnd text = [] := by
    intro text blank
    exact dropEndWhile_append blank []
  rcases tildes with rfl | rfl
  · have all : Blanks (first ++ ([] ++ last)) := by
      intro d member
      rcases List.mem_append.mp member with member | member
      · exact blank d member
      · exact spaces d member
    rw [cleanedEnd, blanks all]
    rfl
  · have trimmed : Text.trimEnd (first ++ (['~'] ++ last)) = first ++ ['~'] := by
      have behind := @dropEndWhile_behind Text.isBlank '~' (by decide) first last
      have empty : Text.dropEndWhile Text.isBlank last = [] := blanks spaces
      rw [empty] at behind
      exact behind
    have dropped := @dropEndWhile_append (· == '~') ['~'] (by simp) first
    have kept : Text.trimEnd (Text.dropEndWhile (· == '~') first) = [] := by
      apply blanks
      intro d member
      rw [Text.dropEndWhile, List.mem_reverse] at member
      exact blank d (List.mem_reverse.mp ((List.dropWhile_suffix _).subset member))
    rw [cleanedEnd, trimmed, dropped, kept]

/-- What stands behind the last character of a value is taken off. -/
theorem cleanedEnd_behind (solid : Text.isBlank c = false) (plain : c ≠ '~') (front rest : List Char) :
    cleanedEnd (front ++ c :: rest) = front ++ c :: cleanedEnd rest := by
  have closed := @dropEndWhile_behind (· == '~') c (by simp [plain])
  have trimmed := fun front more => dropEndWhile_behind solid front more
  simp only [cleanedEnd, Text.trimEnd] at trimmed ⊢
  rw [trimmed, closed, trimmed]

/-- Cleaning leaves a value that stands between marks and blanks. -/
theorem cleaned_marked {text first last ends : List Char} (bare : Bare text)
    (braces : Optionally '\x7b' brace) (tildes : Optionally '~' tilde) (amps : Optionally '&' amp)
    (blank : Blanks before) (spaces : Blanks gap) (ended : Optionally '~' ends) (blankFirst : Blanks first)
    (blankLast : Blanks last) :
    cleaned (before ++ (brace ++ (tilde ++ (amp ++ (gap ++ (text ++ (first ++ (ends ++ last)))))))) =
      text := by
  obtain ⟨c, others, same, solid, unmarked⟩ := bare.head
  obtain ⟨front, d, finish, closed, tildeless⟩ := bare.last
  have plain : c ≠ '\x7b' ∧ c ≠ '~' ∧ c ≠ '&' := by
    refine ⟨?_, ?_, ?_⟩
    all_goals
      rintro rfl
      exact unmarked (by decide)
  have tail := cleanedEnd_ends ended blankFirst blankLast
  rw [same, List.cons_append, cleaned_begins braces tildes amps blank spaces solid plain]
  cases front with
  | nil =>
    rw [finish] at same
    obtain ⟨rfl, rfl⟩ := List.cons.inj same
    rw [List.nil_append, tail]
  | cons e front =>
    rw [finish] at same
    obtain ⟨rfl, behind⟩ := List.cons.inj same
    rw [← behind]
    show e :: cleanedEnd (front ++ [d] ++ (first ++ (ends ++ last))) = e :: (front ++ [d])
    rw [List.append_assoc, List.singleton_append, cleanedEnd_behind closed tildeless, tail]

end

/-! ### Regions -/

theorem beforeEnding?_split {ending : List Char} : ∀ {text body rest : List Char},
    beforeEnding? ending text = some (body, rest) → text = body ++ (ending ++ rest)
  | c :: text, body, rest, found => by
    rw [beforeEnding?] at found
    split at found
    · rename_i left ended
      cases found
      rw [List.nil_append]
      exact Text.after?_eq_some_iff.mp ended
    · obtain ⟨⟨inner, left⟩, further, same⟩ := Option.map_eq_some_iff.mp found
      cases same
      rw [beforeEnding?_split further, List.cons_append]

/-- The first two braces that close are not preceded by a third one. -/
theorem beforeEnding?_closing : ∀ {text body rest : List Char},
    beforeEnding? "\x7d\x7d".toList text = some (body, rest) → body.getLast? ≠ some '\x7d'
  | c :: text, body, rest, found => by
    rw [beforeEnding?] at found
    split at found
    · cases found
      simp
    · rename_i passed
      obtain ⟨⟨inner, left⟩, further, same⟩ := Option.map_eq_some_iff.mp found
      cases same
      cases inner with
      | nil =>
        rw [beforeEnding?_split further] at passed
        rw [List.getLast?_singleton, Ne, Option.some.injEq]
        rintro rfl
        cases passed
      | cons d inner =>
        rw [List.getLast?_cons_cons]
        exact beforeEnding?_closing further

theorem getLast?_of_mem_regions {source : String} {content : List Char}
    (member : content ∈ regions source) : content.getLast? ≠ some '\x7d' := by
  suffices ∀ fuel text, content ∈ regionsFrom fuel text → content.getLast? ≠ some '\x7d' from
    this _ _ member
  intro fuel
  induction fuel with
  | zero => exact fun _ member => absurd member List.not_mem_nil
  | succ fuel ih =>
    intro text member
    rw [regionsFrom] at member
    split at member
    · rename_i inner rest found
      obtain ⟨⟨_, opened⟩, _, closed⟩ := Option.bind_eq_some_iff.mp found
      rcases List.mem_cons.mp member with rfl | member
      · exact beforeEnding?_closing closed
      · exact ih rest member
    · cases member

/-! ### Words of values -/

theorem candidates_sublist (words : List (List Char)) : (candidates words).Sublist words := by
  unfold candidates
  split
  · exact List.Sublist.refl _
  · exact List.Sublist.refl _
  · rename_i first words _
    split
    · exact (List.nil_sublist words).cons_cons first
    · exact List.sublist_cons_self first words

/-- The words of a text that ends in no blank are those of its trimmed text. -/
theorem wordsFrom_trim {front : List Char} {c : Char} (solid : Text.isBlank c = false) :
    wordsFrom [] none (Text.trim (front ++ [c])) = wordsFrom [] none (front ++ [c]) := by
  have split := @List.takeWhile_append_dropWhile Char Text.isBlank front
  have blank : ∀ d ∈ front.takeWhile Text.isBlank, Text.isBlank d = true :=
    fun d member => List.mem_takeWhile_imp member
  have started : Text.trimStart (front ++ [c]) = front.dropWhile Text.isBlank ++ [c] := by
    rw [Text.trimStart, List.dropWhile_append]
    split
    · rename_i empty
      rw [List.isEmpty_iff.mp empty]
      simp [solid]
    · rfl
  have trimmed : Text.trim (front ++ [c]) = front.dropWhile Text.isBlank ++ [c] := by
    rw [Text.trim, started]
    exact dropEndWhile_of_last solid
  rw [trimmed]
  conv_rhs => rw [← split, List.append_assoc, wordsFrom_blanks blank]

end Stencil.Extraction

namespace Stencil.Template

open Extraction (Bare Blanks EndsWord Optionally Scans baseVariable? candidates unbroken wordVariable? wordsFrom)

/-! ### Tight tags -/

/-- The paths in value or argument position: the path or name of a value without arguments, or the
arguments, and those of the calls among them. -/
def Saying.paths : Saying → List String
  | .call _ phrase _ => phrase.paths
  | .plain (.path written) => [written.path.raw]
  | .plain (.named name .nil) => [name.name]
  | .plain (.named _ arguments) => arguments.paths

/-- The paths in value or argument position of a tag. -/
def Said.paths : Said → List String
  | .value _ saying => saying.paths
  | .line _ _ arguments _ => arguments.paths
  | _ => []

def Saying.Tight : Saying → Prop
  | .call before phrase after => (Form.call before phrase after).Tight false
  | .plain (.path written) => (Form.path written).Tight false
  | .plain (.named name arguments) => (Phrase.named name arguments).Tight

namespace TagForm

/-- Marks and spaces that cleaning takes off: no space between a third brace and a tilde or between a tilde
and an ampersand, and no space or tilde around braces of their own. -/
def MarksTight (form : TagForm) : ValueMark → Prop
  | .plain => True
  | .triple => ∀ gap ∈ form.tilde, gap.text = []
  | .brace => form.tilde = none ∧ form.ends.text = []
  | .ampersand => form.tilde ≠ none → form.before.text = []

/-- A tag whose parts the scan can tell apart. An alternative with a block has a space right behind its
word, arguments, and no names for values. -/
def Tight (form : TagForm) : Prop :=
  match form.said with
  | .value mark saying => form.MarksTight mark ∧ saying.Tight
  | .line (.chain false) name arguments params => form.gap.text.head? = some ' ' ∧
      (Phrase.named name arguments).Tight ∧ arguments.text ≠ [] ∧ params = []
  | _ => True

end TagForm

/-! ### Ends of values -/

/-- A text whose last character is no blank, tilde or brace. -/
def EndsValue (text : List Char) : Prop :=
  ∃ front c, text = front ++ [c] ∧ Text.isBlank c = false ∧ c ≠ '~' ∧ c ≠ '\x7d'

theorem EndsValue.behind {text : List Char} (ends : EndsValue text) (front : List Char) :
    EndsValue (front ++ text) := by
  obtain ⟨inner, c, rfl, last⟩ := ends
  exact ⟨front ++ inner, c, by simp, last⟩

theorem endsValue_of_nameChar {front : List Char} {c : Char} (char : isNameChar c = true)
    (solid : unbroken none (front ++ [c]) = true) : EndsValue (front ++ [c]) :=
  ⟨front, c, rfl, Extraction.solid_of_unbroken solid, Path.ne_of_isNameChar char (by decide),
    Path.ne_of_isNameChar char (by decide)⟩

theorem PathForm.endsValue (written : PathForm)
    (solid : unbroken none written.path.raw.toList = true) : EndsValue written.path.raw.toList := by
  obtain ⟨front, c, same, char | rfl⟩ := written.last
  · rw [same] at solid ⊢
    exact endsValue_of_nameChar char solid
  · exact ⟨front, ']', same, by decide, by decide, by decide⟩

theorem endsValue_name {name : OptionName} (solid : unbroken none name.name.toList = true) :
    EndsValue name.name.toList := by
  have ends := List.dropLast_concat_getLast name.nonempty
  rw [← ends] at solid ⊢
  exact endsValue_of_nameChar (name.chars _ (List.getLast_mem name.nonempty)) solid

theorem LiteralForm.endsValue (literal : LiteralForm) (plain : literal.text.head? ≠ some '\x7b') :
    EndsValue literal.text := by
  obtain ⟨fuel, more, read⟩ := literal.read
  rcases literal_cases read with ⟨c, body, last, same, closes⟩ | ⟨nonempty, chars, _⟩
  · rw [same] at plain
    refine ⟨c :: body, last, same, ?_⟩
    cases closes with
    | quote mark => rcases mark with rfl | rfl <;> decide
    | array => decide
    | object => exact absurd rfl plain
  · have char := chars _ (List.getLast_mem nonempty)
    exact ⟨_, _, (List.dropLast_concat_getLast nonempty).symm, Inline.not_isBlank_of_isLeafChar char,
      Inline.ne_of_isLeafChar char (by decide), Inline.ne_of_isLeafChar char (by decide)⟩

theorem Form.endsValue {keyed : Bool} (form : Form) (tight : form.Tight keyed) : EndsValue form.text := by
  cases form with
  | literal literal => exact literal.endsValue tight.2.1
  | path written => exact written.endsValue tight.1
  | call before phrase after =>
    exact ⟨'(' :: (before.text ++ (phrase.text ++ after.text)), ')', by simp [Form.text], by decide⟩

theorem Forms.endsValue : ∀ forms : Forms, forms.Tight → forms.text ≠ [] → EndsValue forms.text
  | .nil, _, filled => absurd rfl filled
  | .cons gap key form others, tight, _ => by
    by_cases alone : others.text = []
    · rw [Forms.text, alone, List.append_nil, ← List.append_assoc]
      exact (form.endsValue tight.2.2.1).behind _
    · rw [Forms.text, ← List.append_assoc, ← List.append_assoc]
      exact (others.endsValue tight.2.2.2 alone).behind _

theorem Phrase.endsValue (phrase : Phrase) (tight : phrase.Tight) : EndsValue phrase.text := by
  cases phrase with
  | path written => exact written.endsValue tight
  | named name arguments =>
    by_cases alone : arguments.text = []
    · rw [Phrase.text, alone, List.append_nil]
      exact endsValue_name tight.1
    · exact (arguments.endsValue tight.2 alone).behind _

theorem Saying.endsValue (saying : Saying) (tight : saying.Tight) : EndsValue saying.text := by
  cases saying with
  | call before phrase after => exact Form.endsValue _ tight
  | plain phrase =>
    cases phrase with
    | path written => exact Form.endsValue (.path written) tight
    | named name arguments => exact Phrase.endsValue _ tight

/-! ### Values in regions -/

theorem bare_of_ends {text others : List Char} {c : Char} (begins : text = c :: others)
    (char : isNameChar c = true ∨ c = '.' ∨ c = '@' ∨ c = '[') (solid : Text.isBlank c = false)
    (ends : EndsValue text) : Bare text := by
  obtain ⟨front, d, same, closed, tildeless, _⟩ := ends
  refine ⟨⟨c, others, begins, solid, fun mark => ?_⟩, ⟨front, d, same, closed, tildeless⟩⟩
  have marks : ∀ d ∈ "\x7b~&#/^>!".toList, isNameChar d = false ∧ d ≠ '.' ∧ d ≠ '@' ∧ d ≠ '[' :=
    Text.forall_mem_of_all (by decide)
  obtain ⟨named, dot, sign, bracket⟩ := marks c mark
  rcases char with char | same | same | same
  · rw [named] at char
    cases char
  · exact dot same
  · exact sign same
  · exact bracket same

theorem solid_of_head {text others : List Char} {c : Char} (begins : text = c :: others)
    (solid : unbroken none text = true) : Text.isBlank c = false := by
  rw [begins, unbroken, Bool.and_eq_true, Bool.not_eq_true'] at solid
  exact solid.1

theorem Phrase.isBare {name : OptionName} {arguments : Forms}
    (tight : (Phrase.named name arguments).Tight) : Bare (Phrase.named name arguments).text := by
  obtain ⟨c, others, same⟩ := List.exists_cons_of_ne_nil name.nonempty
  have begins : (Phrase.named name arguments).text = c :: (others ++ arguments.text) := by
    simp [Phrase.text, same]
  exact bare_of_ends begins (Or.inl (name.chars c (by simp [same]))) (solid_of_head same tight.1)
    (Phrase.endsValue _ tight)

theorem Saying.isBare (saying : Saying) (tight : saying.Tight) : Bare saying.text := by
  have ends := saying.endsValue tight
  cases saying with
  | call before phrase after =>
    obtain ⟨front, d, same, closed, tildeless, _⟩ := ends
    exact ⟨⟨'(', _, rfl, by decide, by decide⟩, ⟨front, d, same, closed, tildeless⟩⟩
  | plain phrase =>
    cases phrase with
    | path written =>
      obtain ⟨c, others, same, char⟩ := written.begins
      exact bare_of_ends same char (solid_of_head same tight.1) ends
    | named name arguments => exact Phrase.isBare tight

theorem words_of_scans {text : List Char} {raws : List String} (scans : Scans text [] raws) :
    ∃ first others, wordsFrom [] none text = first :: others ∧
      ((first :: others).filterMap wordVariable?).Sublist (raws.filterMap baseVariable?) := by
  obtain ⟨words, filled, same, names⟩ := scans
  obtain ⟨first, others, rfl⟩ := List.exists_cons_of_ne_nil filled
  have none : wordsFrom [] none [] = [] := rfl
  rw [List.append_nil, none, List.append_nil] at same
  exact ⟨first, others, same, names⟩

theorem endsWord_nil : EndsWord [] := nofun

/-- Behind the name of a call are the words of its arguments, and they are what may be paths. -/
theorem Phrase.words_call {name : OptionName} {arguments : Forms}
    (tight : (Phrase.named name arguments).Tight) (filled : arguments.text ≠ []) :
    ∃ words, wordsFrom [] none (Phrase.named name arguments).text = name.name.toList :: words ∧
      candidates (name.name.toList :: words) = words ∧
      (words.filterMap wordVariable?).Sublist (arguments.paths.filterMap baseVariable?) := by
  have scans := arguments.scans tight.2 filled Extraction.closing_nil endsWord_nil
  rw [List.append_nil] at scans
  obtain ⟨first, others, same, names⟩ := words_of_scans scans
  refine ⟨first :: others, ?_, ?_, names⟩
  · have ends := arguments.endsWord tight.2 filled []
    rw [List.append_nil] at ends
    have whole := Extraction.whole_of_unbroken tight.1 [] arguments.text
    rw [List.append_nil] at whole
    rw [Phrase.text, whole, Extraction.wordsFrom_ends ends, same]
    simp [Extraction.flushed, String.toList_eq_nil_iff.not.mp (by exact name.nonempty)]
  · have plain : (name.name.toList.any fun c => c == '.' || c == '[') = false := by
      rw [List.any_eq_false]
      intro c member
      have char := name.chars c member
      simp [Path.ne_of_isNameChar char (show isNameChar '.' = false by decide),
        Path.ne_of_isNameChar char (show isNameChar '[' = false by decide)]
    simp only [candidates, plain, Bool.false_eq_true, if_false]

/-- The words of a value, and those behind the first, name at most its paths. -/
theorem Saying.words (saying : Saying) (tight : saying.Tight) :
    ∃ first others, wordsFrom [] none saying.text = first :: others ∧
      ((candidates (first :: others)).filterMap wordVariable?).Sublist
        (saying.paths.filterMap baseVariable?) ∧
      (others.filterMap wordVariable?).Sublist (saying.paths.filterMap baseVariable?) := by
  have all : ∀ {raws : List String}, Scans saying.text [] raws → ∃ first others,
      wordsFrom [] none saying.text = first :: others ∧
        ((candidates (first :: others)).filterMap wordVariable?).Sublist (raws.filterMap baseVariable?) ∧
        (others.filterMap wordVariable?).Sublist (raws.filterMap baseVariable?) := by
    intro raws scans
    obtain ⟨first, others, same, names⟩ := words_of_scans scans
    refine ⟨first, others, same, ?_, ?_⟩
    · exact ((Extraction.candidates_sublist _).filterMap _).trans names
    · exact ((List.sublist_cons_self first others).filterMap _).trans names
  cases saying with
  | call before phrase after =>
    have scans : Scans (keyText none ++ (Form.call before phrase after).text ++ []) []
        (Form.call before phrase after).paths :=
      Form.scans _ tight (by rintro _ ⟨⟩) Extraction.closing_nil endsWord_nil
    rw [List.append_nil] at scans
    exact all scans
  | plain phrase =>
    cases phrase with
    | path written =>
      have scans : Scans (keyText none ++ (Form.path written).text ++ []) [] (Form.path written).paths :=
        Form.scans _ tight (by rintro _ ⟨⟩) Extraction.closing_nil endsWord_nil
      rw [List.append_nil] at scans
      exact all scans
    | named name arguments =>
      cases arguments with
      | nil =>
        have text : (Saying.plain (.named name .nil)).text = name.name.toList := List.append_nil _
        refine all (text ▸ ?_)
        have scans := Scans.of_word (Extraction.whole_of_unbroken tight.1) name.nonempty
          Extraction.closing_nil endsWord_nil fun closers closed =>
            sublist_of_names (Extraction.wordVariable?_name name closed)
        rwa [List.append_nil] at scans
      | cons gap key form others =>
        have filled : (Forms.cons gap key form others).text ≠ [] :=
          fun empty => tight.2.1 (List.append_eq_nil_iff.mp empty).1
        obtain ⟨words, same, picked, names⟩ := Phrase.words_call tight filled
        exact ⟨_, words, same, by rw [picked]; exact names, names⟩

/-- What the scan takes for paths in a region that is a value between marks. -/
theorem regionVariables_of_cleaned {content text : List Char} (same : Extraction.cleaned content = text)
    (bare : Bare text) : Extraction.regionVariables content = if text = "else".toList then []
      else (candidates (wordsFrom [] none
        (Text.trim ((Text.after? "else ".toList text).getD text)))).filterMap wordVariable? := by
  have unmarked : (text.head?.map fun c => "#/^>!".toList.contains c).getD true = false := by
    obtain ⟨c, others, rfl, _, plain⟩ := bare.head
    exact Text.contains_eq_false (· ∉ "\x7b~&#/^>!".toList) plain (Text.forall_mem_of_all (by decide))
  simp only [Extraction.regionVariables, Extraction.valuePart?, same, unmarked, Bool.false_or, beq_iff_eq]
  by_cases word : text = "else".toList
  · simp [word]
  · simp only [word, if_false]

/-- A value names at most its paths, also if it begins with the word of an alternative. -/
theorem Saying.regionVariables_sublist {content : List Char} {saying : Saying} (tight : saying.Tight)
    (same : Extraction.cleaned content = saying.text) :
    (Extraction.regionVariables content).Sublist (saying.paths.filterMap baseVariable?) := by
  have bare := saying.isBare tight
  obtain ⟨first, others, words, names, behind⟩ := saying.words tight
  rw [regionVariables_of_cleaned same bare]
  split
  · exact List.nil_sublist _
  · cases found : Text.after? "else ".toList saying.text with
    | none =>
      rw [Option.getD_none, bare.trim_eq, words]
      exact names
    | some rest =>
      have text : saying.text = "else".toList ++ ' ' :: rest :=
        (Text.after?_eq_some_iff.mp found).trans rfl
      obtain ⟨front, c, ends, solid, _⟩ := bare.last
      obtain ⟨inner, last⟩ : ∃ inner, rest = inner ++ [c] := by
        rcases List.eq_nil_or_concat rest with rfl | ⟨inner, d, rfl⟩
        · rw [text, show "else".toList ++ [' '] = "else".toList ++ [' '] from rfl] at ends
          have same := (List.append_inj' ends rfl).2
          cases same
          cases solid
        · rw [text, List.concat_eq_append, ← List.cons_append, ← List.append_assoc] at ends
          have same := (List.append_inj' ends rfl).2
          cases same
          exact ⟨inner, List.concat_eq_append⟩
      have read : wordsFrom [] none saying.text = "else".toList :: wordsFrom [] none rest := by
        rw [text]
        rfl
      rw [words] at read
      rw [Option.getD_some, last, Extraction.wordsFrom_trim solid, ← last, ← (List.cons.inj read).2]
      exact ((Extraction.candidates_sublist others).filterMap _).trans behind

/-- An alternative with a block names at most the paths among its arguments. -/
theorem Phrase.regionVariables_sublist {content : List Char} {name : OptionName} {arguments : Forms}
    (tight : (Phrase.named name arguments).Tight) (filled : arguments.text ≠ []) {gap : Gap}
    (spaced : gap.text.head? = some ' ') (same : Extraction.cleaned content =
      "else".toList ++ (gap.text ++ (Phrase.named name arguments).text)) :
    (Extraction.regionVariables content).Sublist (arguments.paths.filterMap baseVariable?) := by
  obtain ⟨words, read, picked, names⟩ := Phrase.words_call tight filled
  obtain ⟨front, c, ends, closed, tildeless, _⟩ := Phrase.endsValue _ tight
  obtain ⟨spaces, gapped⟩ := List.head?_eq_some_iff.mp spaced
  have bare : Bare ("else".toList ++ (gap.text ++ (Phrase.named name arguments).text)) := by
    refine ⟨⟨'e', _, rfl, by decide, by decide⟩, ?_⟩
    exact ⟨"else".toList ++ (gap.text ++ front), c, by simp [ends], closed, tildeless⟩
  have apart : "else".toList ++ (gap.text ++ (Phrase.named name arguments).text) ≠ "else".toList := by
    rw [gapped]
    intro same
    cases same
  have found : Text.after? "else ".toList ("else".toList ++ (gap.text ++
      (Phrase.named name arguments).text)) = some (spaces ++ (Phrase.named name arguments).text) := by
    rw [Text.after?_eq_some_iff, gapped]
    rfl
  have blank : ∀ d ∈ spaces, Text.isBlank d = true :=
    fun d member => gap.blank d (by simp [gapped, member])
  have trimmed : wordsFrom [] none (Text.trim (spaces ++ (Phrase.named name arguments).text)) =
      name.name.toList :: words := by
    rw [ends, ← List.append_assoc, Extraction.wordsFrom_trim closed, List.append_assoc,
      Extraction.wordsFrom_blanks blank, ← ends, read]
  rw [regionVariables_of_cleaned same bare, if_neg apart, found, Option.getD_some, trimmed, picked]
  exact names

/-! ### Contents of regions -/

/-- No brace that closes ends the text. -/
def Unclosed (text : List Char) : Prop := text.getLast? ≠ some '\x7d'

theorem Unclosed.append {first second : List Char} (here : Unclosed first) (there : Unclosed second) :
    Unclosed (first ++ second) := by
  unfold Unclosed
  rw [List.getLast?_append, Ne, Option.or_eq_some_iff]
  rintro (last | ⟨_, last⟩)
  · exact there last
  · exact here last

theorem unclosed_of_not_mem {text : List Char} (free : '\x7d' ∉ text) : Unclosed text :=
  fun last => free (List.mem_of_getLast? last)

theorem unclosed_blanks {text : List Char} (blank : Blanks text) : Unclosed text :=
  unclosed_of_not_mem fun member => by
    have closes := blank _ member
    revert closes
    decide

theorem EndsValue.unclosed {text : List Char} (ends : EndsValue text) : Unclosed text := by
  obtain ⟨front, c, rfl, _, _, other⟩ := ends
  simpa [Unclosed] using other

theorem unclosed_nil : Unclosed [] := nofun

theorem unclosed_optionally {text : List Char} (tilde : Optionally '~' text) : Unclosed text := by
  rcases tilde with rfl | rfl
  · exact unclosed_nil
  · exact unclosed_of_not_mem (by decide)

/-- A region is known by the tag: it goes up to the braces at the end. -/
theorem eq_of_closings {content body closing ending : List Char}
    (same : body ++ ending = content ++ closing) (closes : ∀ c ∈ closing, c = '\x7d')
    (ends : ∀ c ∈ ending, c = '\x7d') (left : Unclosed content) (unclosed : Unclosed body) :
    content = body := by
  have kept : ∀ {text : List Char}, Unclosed text → Text.dropEndWhile (· == '\x7d') text = text := by
    intro text unclosed
    rcases List.eq_nil_or_concat text with rfl | ⟨front, c, rfl⟩
    · rfl
    · rw [List.concat_eq_append] at unclosed ⊢
      refine Extraction.dropEndWhile_of_last (beq_eq_false_iff_ne.mpr fun same => unclosed ?_)
      simp [same]
  have dropped : ∀ {text braces : List Char}, (∀ c ∈ braces, c = '\x7d') → Unclosed text →
      Text.dropEndWhile (· == '\x7d') (text ++ braces) = text := by
    intro text braces all unclosed
    rw [Extraction.dropEndWhile_append fun c member => beq_iff_eq.mpr (all c member), kept unclosed]
  rw [← dropped closes left, ← same, dropped ends unclosed]

/-- A tilde behind blanks, if there is one. -/
theorem tildeText_parts (tilde : Option Gap) : ∃ before mark, tildeText tilde = before ++ mark ∧
    Blanks before ∧ Optionally '~' mark := by
  cases tilde with
  | none => exact ⟨[], [], rfl, List.forall_mem_nil _, Or.inl rfl⟩
  | some gap => exact ⟨gap.text, ['~'], rfl, gap.blank, Or.inr rfl⟩

/-- What a region with a value between marks is cleaned to. -/
structure Cleans (body text : List Char) : Prop where
  cleaned : Extraction.cleaned body = text
  unclosed : Unclosed body

theorem cleans_of_parts {brace tilde amp before gap text : List Char} (ends : EndForm) (bare : Bare text)
    (finish : EndsValue text) (braces : Optionally '\x7b' brace) (tildes : Optionally '~' tilde)
    (amps : Optionally '&' amp) (blank : Blanks before) (spaces : Blanks gap) {first : List Char}
    (behind : Blanks first) :
    Cleans (before ++ (brace ++ (tilde ++ (amp ++ (gap ++ (text ++ (first ++ ends.text))))))) text := by
  obtain ⟨inner, mark, same, blanks, marked⟩ := tildeText_parts ends.tilde
  have parts : first ++ ends.text = (first ++ inner) ++ (mark ++ ends.gap.text) := by
    rw [EndForm.text, same]
    simp
  rw [parts]
  constructor
  · exact Extraction.cleaned_marked bare braces tildes amps blank spaces marked
      (behind.append blanks) ends.gap.blank
  · have tail : Unclosed (text ++ ((first ++ inner) ++ (mark ++ ends.gap.text))) :=
      finish.unclosed.append ((unclosed_blanks (behind.append blanks)).append
        ((unclosed_optionally marked).append (unclosed_blanks ends.gap.blank)))
    have front : ∀ {d : Char} {marks : List Char}, Optionally d marks → d ≠ '\x7d' → Unclosed marks := by
      rintro d marks (rfl | rfl) other
      · exact unclosed_nil
      · simpa [Unclosed] using other
    exact (unclosed_blanks blank).append ((front braces (by decide)).append
      ((front tildes (by decide)).append ((front amps (by decide)).append
        ((unclosed_blanks spaces).append tail))))

/-- The region of a tight value between its marks. -/
theorem TagForm.cleans_value {form : TagForm} {mark : ValueMark} {saying : Saying}
    (said : form.said = .value mark saying) (marks : form.MarksTight mark) (tight : saying.Tight) :
    ∃ body ending, form.text = body ++ ending ∧ (∀ c ∈ ending, c = '\x7d') ∧
      Cleans body saying.text := by
  have bare := saying.isBare tight
  have finish := saying.endsValue tight
  obtain ⟨tilde, before, _, gap, closed, ends⟩ := form
  subst said
  cases mark with
  | plain =>
    obtain ⟨blanks, sign, same, blank, tildes⟩ := tildeText_parts tilde
    have cleans := cleans_of_parts ends bare finish (Or.inl rfl) tildes (Or.inl rfl) blank
      (Blanks.append before.blank gap.blank) (List.forall_mem_nil _)
    refine ⟨_, "\x7d\x7d".toList, ?_, Text.forall_mem_of_all (by decide), cleans⟩
    simp [TagForm.text, TagForm.body, TagForm.lead, TagForm.tail, Said.outer, Said.sign, Said.text,
      Said.closer, Said.ending, same]
  | triple =>
    have tildes : Optionally '~' (tildeText tilde) := by
      cases tilde with
      | none => exact Or.inl rfl
      | some inner => exact Or.inr (by simp [tildeText, show inner.text = [] from marks inner rfl])
    have cleans := cleans_of_parts ends bare finish (Or.inr rfl) tildes (Or.inl rfl)
      (List.forall_mem_nil _) (Blanks.append before.blank gap.blank) (List.forall_mem_nil _)
    refine ⟨_, "\x7d\x7d\x7d".toList, ?_, Text.forall_mem_of_all (by decide), cleans⟩
    simp [TagForm.text, TagForm.body, TagForm.lead, TagForm.tail, Said.outer, Said.sign, Said.text,
      Said.closer, Said.ending]
  | brace =>
    obtain ⟨rfl, empty⟩ : tilde = none ∧ ends.text = [] := marks
    have cleans := cleans_of_parts ends bare finish (Or.inr rfl) (Or.inl rfl) (Or.inl rfl)
      before.blank gap.blank closed.blank
    refine ⟨_, "\x7d\x7d\x7d".toList, ?_, Text.forall_mem_of_all (by decide), cleans⟩
    simp [TagForm.text, TagForm.body, TagForm.lead, TagForm.tail, Said.outer, Said.sign, Said.text,
      Said.closer, Said.ending, tildeText, empty]
  | ampersand =>
    cases tilde with
    | none =>
      have cleans := cleans_of_parts ends bare finish (Or.inl rfl) (Or.inl rfl) (Or.inr rfl)
        before.blank gap.blank (List.forall_mem_nil _)
      refine ⟨_, "\x7d\x7d".toList, ?_, Text.forall_mem_of_all (by decide), cleans⟩
      simp [TagForm.text, TagForm.body, TagForm.lead, TagForm.tail, Said.outer, Said.sign, Said.text,
        Said.closer, Said.ending, tildeText]
    | some inner =>
      have joined : before.text = [] := marks (Option.some_ne_none _)
      have cleans := cleans_of_parts ends bare finish (Or.inl rfl) (Or.inr rfl) (Or.inr rfl)
        inner.blank gap.blank (List.forall_mem_nil _)
      refine ⟨_, "\x7d\x7d".toList, ?_, Text.forall_mem_of_all (by decide), cleans⟩
      simp [TagForm.text, TagForm.body, TagForm.lead, TagForm.tail, Said.outer, Said.sign, Said.text,
        Said.closer, Said.ending, tildeText, joined]

/-- The region of an alternative without a block. -/
theorem TagForm.cleans_otherwise {form : TagForm} (said : form.said = .otherwise false) :
    ∃ body ending, form.text = body ++ ending ∧ (∀ c ∈ ending, c = '\x7d') ∧
      Cleans body "else".toList := by
  obtain ⟨tilde, before, _, gap, closed, ends⟩ := form
  subst said
  obtain ⟨blanks, sign, same, blank, tildes⟩ := tildeText_parts tilde
  have bare : Bare "else".toList :=
    ⟨⟨'e', _, rfl, by decide, by decide⟩, ⟨['e', 'l', 's'], 'e', rfl, by decide, by decide⟩⟩
  have finish : EndsValue "else".toList := ⟨['e', 'l', 's'], 'e', rfl, by decide, by decide⟩
  have cleans := cleans_of_parts ends bare finish (Or.inl rfl) tildes (Or.inl rfl) blank
    before.blank gap.blank
  refine ⟨_, "\x7d\x7d".toList, ?_, Text.forall_mem_of_all (by decide), cleans⟩
  simp [TagForm.text, TagForm.body, TagForm.lead, TagForm.tail, Said.outer, Said.sign, Said.text,
    Said.closer, Said.ending, alternativeSign, same]

/-- The region of an alternative with a block. -/
theorem TagForm.cleans_chain {form : TagForm} {name : OptionName} {arguments : Forms}
    (said : form.said = .line (.chain false) name arguments [])
    (tight : (Phrase.named name arguments).Tight) :
    ∃ body ending, form.text = body ++ ending ∧ (∀ c ∈ ending, c = '\x7d') ∧
      Cleans body ("else".toList ++ (form.gap.text ++ (Phrase.named name arguments).text)) := by
  obtain ⟨tilde, before, _, gap, closed, ends⟩ := form
  subst said
  obtain ⟨blanks, sign, same, blank, tildes⟩ := tildeText_parts tilde
  have finish : EndsValue ("else".toList ++ (gap.text ++ (Phrase.named name arguments).text)) :=
    ((Phrase.endsValue _ tight).behind gap.text).behind _
  have bare : Bare ("else".toList ++ (gap.text ++ (Phrase.named name arguments).text)) := by
    obtain ⟨front, c, last, solid, tildeless, _⟩ := finish
    exact ⟨⟨'e', _, rfl, by decide, by decide⟩, ⟨front, c, last, solid, tildeless⟩⟩
  have cleans := cleans_of_parts ends bare finish (Or.inl rfl) tildes (Or.inl rfl) blank
    before.blank (List.forall_mem_nil _)
  refine ⟨_, "\x7d\x7d".toList, ?_, Text.forall_mem_of_all (by decide), cleans⟩
  simp [TagForm.text, TagForm.body, TagForm.lead, TagForm.tail, Said.outer, Said.sign, Said.text,
    Said.closer, Said.ending, alternativeSign, same]

/-- A region that begins with a caret is not scanned. -/
theorem regionVariables_caret {before sign gap content more closing : List Char} (blank : Blanks before)
    (tildes : Optionally '~' sign) (spaces : Blanks gap) (closes : ∀ c ∈ closing, c = '\x7d')
    (same : before ++ (sign ++ (gap ++ '^' :: more)) = content ++ closing) :
    Extraction.regionVariables content = [] := by
  obtain ⟨behind, rfl⟩ : ∃ behind, content = before ++ (sign ++ (gap ++ '^' :: behind)) := by
    have parts : (before ++ (sign ++ gap)) ++ '^' :: more = content ++ closing := by
      rw [← same]
      simp
    rcases List.append_eq_append_iff.mp parts with ⟨inner, rfl, caret⟩ | ⟨inner, _, rfl⟩
    · cases inner with
      | nil =>
        have first := closes '^' (by rw [List.nil_append] at caret; simp [← caret])
        cases first
      | cons c inner =>
        obtain ⟨rfl, _⟩ := List.cons.inj caret
        exact ⟨inner, by simp⟩
    · cases closes '^' (by simp)
  have cleaned := Extraction.cleaned_begins (Or.inl rfl) tildes (Or.inl rfl) blank spaces
    (show Text.isBlank '^' = false by decide) (by decide) behind
  rw [List.nil_append, List.nil_append] at cleaned
  simp [Extraction.regionVariables, Extraction.valuePart?, cleaned]

/-- True for tags that show a value or begin an alternative. -/
def TagKind.isInline : TagKind → Bool
  | value _ => true
  | otherwise => true
  | chain _ _ => true
  | _ => false

theorem TagKind.isSpoken_of_isInline {kind : TagKind} (inline : kind.isInline = true) :
    kind.isSpoken = true := by
  cases kind <;> first | rfl | cases inline

/-- The scan of a region that is a tight tag finds at most base variables of the paths in it. -/
theorem TagForm.regionVariables_sublist {form : TagForm} {kind : TagKind} {content closing : List Char}
    (fits : form.said.Kind kind) (inline : kind.isInline = true) (tight : form.Tight)
    (whole : form.text = content ++ closing) (closes : ∀ c ∈ closing, c = '\x7d')
    (unclosed : Unclosed content) :
    (Extraction.regionVariables content).Sublist (form.said.paths.filterMap baseVariable?) := by
  have content_eq : ∀ {body ending text : List Char}, form.text = body ++ ending →
      (∀ c ∈ ending, c = '\x7d') → Cleans body text → Extraction.cleaned content = text := by
    intro body ending text same ends cleans
    rw [eq_of_closings (same.symm.trans whole) closes ends unclosed cleans.unclosed]
    exact cleans.cleaned
  have caret : form.said.sign = ['^'] → form.said.outer = [] →
      Extraction.regionVariables content = [] := by
    intro sign outer
    obtain ⟨blanks, mark, same, blank, tildes⟩ := tildeText_parts form.tilde
    refine @regionVariables_caret blanks mark form.before.text content
      (form.gap.text ++ (form.said.text ++ (form.tail ++ form.said.ending.toList))) closing blank tildes
      form.before.blank closes ?_
    rw [← whole]
    simp [TagForm.text, TagForm.body, TagForm.lead, sign, outer, same]
  unfold Tight at tight
  cases said : form.said with
  | value mark saying =>
    rw [said] at tight
    obtain ⟨body, ending, same, ends, cleans⟩ := TagForm.cleans_value said tight.1 tight.2
    exact saying.regionVariables_sublist tight.2 (content_eq same ends cleans)
  | otherwise mark =>
    suffices Extraction.regionVariables content = [] by
      rw [this]
      exact List.nil_sublist _
    cases mark with
    | true => exact caret (by rw [said]; rfl) (by rw [said]; rfl)
    | false =>
      obtain ⟨body, ending, same, ends, cleans⟩ := TagForm.cleans_otherwise said
      have bare : Bare "else".toList :=
        ⟨⟨'e', _, rfl, by decide, by decide⟩, ⟨['e', 'l', 's'], 'e', rfl, by decide, by decide⟩⟩
      rw [regionVariables_of_cleaned (content_eq same ends cleans) bare, if_pos rfl]
  | line mark name arguments params =>
    rw [said] at tight fits
    cases fits with
    | line mark name arguments params expression names =>
      cases mark with
      | opening => cases inline
      | raw => cases inline
      | chain mark =>
        cases mark with
        | true =>
          rw [caret (by rw [said]; rfl) (by rw [said]; rfl)]
          exact List.nil_sublist _
        | false =>
          obtain ⟨spaced, tight, filled, rfl⟩ := tight
          obtain ⟨body, ending, same, ends, cleans⟩ := TagForm.cleans_chain said tight
          exact Phrase.regionVariables_sublist tight filled spaced (content_eq same ends cleans)
  | inclusion line =>
    rw [said] at fits
    cases fits
    cases inline
  | inclusionOpening between line =>
    rw [said] at fits
    cases fits
    cases inline

end Stencil.Template

namespace Stencil.Extraction

open Template (TagForm tag?)

/-- The scan of a source that is not read makes no names up: in every region that is by itself a value or an
alternative as the grammar of tags has it, and that is tight, it finds at most the base variables of the
paths in value or argument position, in their order. -/
theorem scan_finds_paths {source : String} {error : Template.SourceError}
    (fails : Template.read source = .error error) :
    (extract source).names = distinctNames ((regions source).flatMap regionVariables) ∧
    ∀ content ∈ regions source, ∀ closing ∈ ["\x7d\x7d", "\x7d\x7d\x7d"], ∀ tag,
      tag? [] (content ++ closing.toList) = some (tag, []) → tag.kind.isInline = true →
      (∃ form : TagForm, form.text = content ++ closing.toList ∧ form.said.Kind tag.kind) ∧
      ∀ form : TagForm, form.text = content ++ closing.toList → form.said.Kind tag.kind → form.Tight →
        (regionVariables content).Sublist (form.said.paths.filterMap baseVariable?) := by
  refine ⟨by rw [extract, fails]; rfl, fun content member closing listed tag read inline => ⟨?_, ?_⟩⟩
  · obtain ⟨form, whole, kind, _⟩ := Template.tag?_form read (Template.TagKind.isSpoken_of_isInline inline)
    rw [List.append_nil] at whole
    exact ⟨form, whole.symm, kind⟩
  · intro form whole fits tight
    have closes : ∀ closing ∈ ["\x7d\x7d", "\x7d\x7d\x7d"], ∀ c ∈ closing.toList, c = '\x7d' := by
      intro closing listed
      rcases List.mem_pair.mp listed with rfl | rfl
      all_goals exact Text.forall_mem_of_all (by decide)
    exact TagForm.regionVariables_sublist fits inline tight whole (closes closing listed)
      (getLast?_of_mem_regions member)

/-! ### A call in an open block -/

section

open Template (Form Forms KeyForm PathForm Phrase noGap oneSpace)

def pathX : PathForm := ⟨⟨"x.y", [.named "x", .named "y"]⟩, "x.y".toList, [], by decide +kernel⟩

def pathZ : PathForm := ⟨⟨"z", [.named "z"]⟩, "z".toList, [], by decide +kernel⟩

def callPhrase : Phrase :=
  .named (.ofString "f" (by decide) (by decide))
    (.cons oneSpace none
      (.call noGap
        (.named (.ofString "g" (by decide) (by decide)) (.cons oneSpace none (.path pathX) .nil)) noGap)
      (.cons oneSpace (some ⟨.ofString "k" (by decide) (by decide), noGap, noGap⟩) (.path pathZ) .nil))

def callTag : TagForm :=
  ⟨some noGap, oneSpace, .value .plain (.plain callPhrase), noGap, noGap, some oneSpace, noGap⟩

theorem callTag_tight : callTag.Tight := by
  refine ⟨trivial, by decide, ?_⟩
  have unkeyed : ∀ key : KeyForm, key ∈ (none : Option KeyForm) → key.Tight := by
    rintro _ ⟨⟩
  refine ⟨by decide, unkeyed, ⟨rfl, rfl, by decide, by decide, unkeyed, ⟨by decide, by decide⟩, trivial⟩, ?_⟩
  refine ⟨by decide, fun written same => ?_, ⟨by decide, by decide⟩, trivial⟩
  cases same
  exact ⟨rfl, by decide⟩

/-- True for a value tag that is the whole of a text. -/
def isValueTag (text : List Char) : Bool :=
  match tag? [] text with
  | some (⟨.value _, _, _, _, _, _⟩, []) => true
  | _ => false

theorem exists_of_isValueTag {text : List Char} (whole : isValueTag text = true) :
    ∃ tag expression, tag? [] text = some (tag, []) ∧ tag.kind = .value expression := by
  unfold isValueTag at whole
  split at whole
  · rename_i read
    exact ⟨_, _, read, rfl⟩
  · cases whole

/-- The block is not closed, and the scan of the call in it finds its paths. -/
theorem scan_finds_paths_call :
    (regionVariables "~ f (g x.y) k=z ~".toList).Sublist (["x.y", "z"].filterMap baseVariable?) := by
  have fails : Template.read "\x7b\x7b#if a\x7d\x7d\x7b\x7b~ f (g x.y) k=z ~\x7d\x7d" =
      .error .unreadable := by cbv
  obtain ⟨tag, expression, read, kind⟩ := exists_of_isValueTag
    (show isValueTag ("~ f (g x.y) k=z ~".toList ++ "\x7d\x7d".toList) = true by decide +kernel)
  obtain ⟨_, scanned⟩ := scan_finds_paths fails
  refine (scanned _ (by decide +kernel) _ List.mem_cons_self tag read (by rw [kind]; rfl)).2 callTag rfl
    ?_ callTag_tight
  rw [kind]
  exact Template.Said.Kind.value _ _ _

/-- A call right behind the sign of an option is misread. -/
example : regionVariables "f x k=(g y)".toList = ["x", "(g", "y"] := by
  decide +kernel

end

end Stencil.Extraction
