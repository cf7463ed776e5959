import Stencil.Extraction.Mention
import Stencil.Proofs.LeafWords

set_option autoImplicit false

/-!
Mentions of helpers and partials. What the patterns match is the beginning of a call with an argument, or
the beginning of an inclusion (`exists_start_of_helperMention?`, `exists_start_of_partialMention?`), and
they match every such beginning. The search finds every beginning that no earlier match reaches into
(`mem_findAll`); an inclusion is always found, and so is a call that does not stand right behind the
beginning of another one (`mem_mentions_call`, `mem_mentions_inclusion`).
-/

namespace Stencil.Extraction

/-! ### Search -/

section

variable {pattern : List Char → Option (List Char × List Char)} {text name rest : List Char}

/-- Behind what is found a shorter text is left. -/
def Shrinks (pattern : List Char → Option (List Char × List Char)) : Prop :=
  ∀ text name rest, pattern text = some (name, rest) → ∃ found, found ≠ [] ∧ text = found ++ rest

/-- A match that no earlier match reaches into is found. -/
theorem mem_findAll (shrinks : Shrinks pattern) (found : pattern text = some (name, rest)) (fuel : Nat) :
    ∀ whole : List Char, text <:+ whole → whole.length ≤ fuel →
      (∀ early other last, early <:+ whole → text.length < early.length →
        pattern early = some (other, last) → text <:+ last) →
      String.ofList name ∈ findAll pattern fuel whole := by
  have filled : text ≠ [] := by
    obtain ⟨part, nonempty, same⟩ := shrinks text name rest found
    simp [same, nonempty]
  induction fuel with
  | zero =>
    intro whole inside bound
    have short := inside.length_le
    exact absurd (List.length_eq_zero_iff.mp (by omega)) filled
  | succ fuel ih =>
    intro whole inside bound apart
    cases whole with
    | nil => exact absurd (List.suffix_nil.mp inside) filled
    | cons c others =>
      rw [List.length_cons] at bound
      rcases List.suffix_cons_iff.mp inside with rfl | further
      · rw [findAll, found]
        exact List.mem_cons_self
      have later : text.length < (c :: others).length := Nat.lt_succ_of_le further.length_le
      rw [findAll]
      split
      · rename_i other last early
        have left := apart _ other last List.suffix_rfl later early
        obtain ⟨part, nonempty, same⟩ := shrinks _ _ _ early
        have shorter : last.length < (c :: others).length := by
          have positive := List.length_pos_iff.mpr nonempty
          rw [same, List.length_append]
          omega
        have suffix : last <:+ c :: others := ⟨part, same.symm⟩
        rw [List.length_cons] at shorter
        exact List.mem_cons_of_mem _ (ih last left (by omega)
          fun early other last within => apart early other last (within.trans suffix))
      · exact ih others further (by omega)
          fun early other last within => apart early other last (within.trans (List.suffix_cons c others))

end

/-! ### Beginnings of tags -/

/-- A tilde and a hash behind the braces of a tag, each of them there or not. -/
structure Marks where
  tilde : Bool
  hash : Bool

def Marks.text (marks : Marks) : List Char :=
  (if marks.tilde then ['~'] else []) ++ (if marks.hash then ['#'] else [])

section

variable {text rest : List Char}

theorem dropOne_split (c : Char) (text : List Char) :
    ∃ mark : Bool, text = (if mark then [c] else []) ++ dropOne c text := by
  unfold dropOne
  cases found : Text.after? [c] text with
  | none => exact ⟨false, rfl⟩
  | some rest => exact ⟨true, Text.after?_eq_some_iff.mp found⟩

theorem dropOne_mark (c : Char) (text : List Char) : dropOne c (c :: text) = text := by
  simp [dropOne, Text.after?]

theorem dropOne_of_head {c : Char} (other : ∀ d ∈ text.head?, d ≠ c) : dropOne c text = text := by
  cases text with
  | nil => rfl
  | cons d text =>
    have differs : c ≠ d := fun same => other d rfl same.symm
    simp [dropOne, Text.after?, differs]

theorem tagStart?_split (found : tagStart? text = some rest) :
    ∃ marks : Marks, text = '\x7b' :: '\x7b' :: (marks.text ++ rest) := by
  obtain ⟨behind, braces, same⟩ := Option.map_eq_some_iff.mp found
  obtain ⟨tilde, first⟩ := dropOne_split '~' behind
  obtain ⟨hash, second⟩ := dropOne_split '#' (dropOne '~' behind)
  refine ⟨⟨tilde, hash⟩, ?_⟩
  rw [same] at second
  rw [Text.after?_eq_some_iff.mp braces, Marks.text, List.append_assoc, ← second, ← first]
  rfl

theorem tagStart?_marks (marks : Marks) (next : ∀ c ∈ text.head?, c ≠ '~' ∧ c ≠ '#') :
    tagStart? ('\x7b' :: '\x7b' :: (marks.text ++ text)) = some text := by
  have opened : Text.after? "\x7b\x7b".toList ('\x7b' :: '\x7b' :: (marks.text ++ text)) =
      some (marks.text ++ text) := Text.after?_eq_some_iff.mpr rfl
  have tildeless := dropOne_of_head fun c member => (next c member).1
  have hashless := dropOne_of_head fun c member => (next c member).2
  obtain ⟨tilde, hash⟩ := marks
  rw [tagStart?, opened, Option.map_some]
  cases tilde <;> cases hash
  · simp [Marks.text, tildeless, hashless]
  · have kept : dropOne '~' ('#' :: text) = '#' :: text := dropOne_of_head (by simp)
    simp [Marks.text, kept, dropOne_mark]
  · simp [Marks.text, dropOne_mark, hashless]
  · simp [Marks.text, dropOne_mark]

theorem Marks.plain (marks : Marks) : ∀ c ∈ marks.text, c ≠ '\x7b' := by
  obtain ⟨tilde, hash⟩ := marks
  refine Text.forall_mem_of_all ?_
  cases tilde <;> cases hash <;> decide

/-- A brace is no blank. -/
theorem Blanks.plain (blank : Blanks text) : ∀ c ∈ text, c ≠ '\x7b' := by
  rintro c member rfl
  cases blank _ member

end

/-! ### Names -/

def isHelperPart (c : Char) : Bool := Text.isWord c || c == '-'

def isPartialPart (c : Char) : Bool := Text.isWord c || c == '.' || c == '/' || c == '-'

/-- True for the names of helpers that can be told from other text. -/
def isHelperName : List Char → Bool
  | [] => false
  | first :: others => (first.isAlpha || first == '_') && others.all isHelperPart

theorem not_isBlank_of_isPartialPart {c : Char} (part : isPartialPart c = true) : Text.isBlank c = false :=
  not_isBlank_of_test (by decide +kernel) part

theorem isPartialPart_of_isHelperPart {c : Char} (part : isHelperPart c = true) :
    isPartialPart c = true := by
  simp only [isHelperPart, isPartialPart, Bool.or_eq_true] at part ⊢
  rcases part with word | hyphen
  · exact Or.inl (Or.inl (Or.inl word))
  · exact Or.inr hyphen

theorem isAscii_of_isAlpha {c : Char} (letter : c.isAlpha = true) : Text.isAscii c = true := by
  have bounds : c.val ≤ 'Z'.val ∨ c.val ≤ 'z'.val := by
    rcases Bool.or_eq_true_iff.mp letter with upper | lower
    · exact Or.inl (of_decide_eq_true upper).2
    · exact Or.inr (of_decide_eq_true (Bool.and_eq_true_iff.mp lower).2)
  apply decide_eq_true
  rcases bounds with upper | lower
  · exact Nat.lt_of_le_of_lt (UInt32.le_iff_toNat_le.mp upper) (by decide)
  · exact Nat.lt_of_le_of_lt (UInt32.le_iff_toNat_le.mp lower) (by decide)

theorem isHelperPart_of_first {c : Char} (first : (c.isAlpha || c == '_') = true) :
    isHelperPart c = true := by
  rcases Bool.or_eq_true_iff.mp first with letter | score
  · have ascii := isAscii_of_isAlpha letter
    simp [isHelperPart, Text.isWord, Text.isLetter, Text.classify_of_ascii _ _ ascii, letter]
  · rw [beq_iff_eq.mp score]
    decide +kernel

theorem isHelperPart_of_isHelperName {name : List Char} (named : isHelperName name = true) :
    ∀ c ∈ name, isHelperPart c = true := by
  cases name with
  | nil => cases named
  | cons first others =>
    obtain ⟨begins, parts⟩ := Bool.and_eq_true_iff.mp named
    exact List.forall_mem_cons.mpr ⟨isHelperPart_of_first begins, List.all_eq_true.mp parts⟩

theorem ne_brace_of_isPartialPart {c : Char} (part : isPartialPart c = true) : c ≠ '\x7b' := by
  rintro rfl
  revert part
  decide +kernel

/-! ### Calls -/

/-- The beginning of a call with arguments, up to the blanks behind its name. -/
structure CallStart where
  marks : Marks
  before : List Char
  name : List Char
  behind : List Char
  blankBefore : Blanks before
  named : isHelperName name = true
  blankBehind : Blanks behind
  separated : behind ≠ []

namespace CallStart

def body (start : CallStart) : List Char := start.marks.text ++ (start.before ++ (start.name ++ start.behind))

def text (start : CallStart) : List Char := '\x7b' :: '\x7b' :: start.body

end CallStart

/-- A character that begins an argument. -/
structure BeginsArgument (c : Char) : Prop where
  solid : Text.isBlank c = false
  inner : c ≠ '\x7d' ∧ c ≠ '~'

section

variable {text name rest : List Char}

/-- The blanks at the beginning of a text. -/
theorem blanks_trimStart (text : List Char) : ∃ gap, Blanks gap ∧ text = gap ++ Text.trimStart text :=
  ⟨text.takeWhile Text.isBlank, fun _ member => List.mem_takeWhile_imp member,
    List.takeWhile_append_dropWhile.symm⟩

theorem tagStart?_name (marks : Marks) {before : List Char} {c : Char} (blank : Blanks before)
    (part : isPartialPart c = true) (more : List Char) :
    tagStart? ('\x7b' :: '\x7b' :: (marks.text ++ (before ++ c :: more))) = some (before ++ c :: more) := by
  apply tagStart?_marks
  intro d member
  cases before with
  | nil =>
    cases member
    refine ⟨?_, ?_⟩
    all_goals
      rintro rfl
      revert part
      decide +kernel
  | cons e before =>
    have space := blank e List.mem_cons_self
    cases member
    refine ⟨?_, ?_⟩
    all_goals
      rintro rfl
      cases space

/-- The name of a call and what stands behind it, once the marks and blanks before it are gone. -/
theorem helperMention?_eq {inner tail : List Char} {first : Char} (started : tagStart? text = some inner)
    (trimmed : Text.trimStart inner = first :: tail) : helperMention? text =
      match Text.trimStart (tail.dropWhile isHelperPart) with
      | c :: after =>
        if (first.isAlpha || first == '_') &&
            ((tail.dropWhile isHelperPart).head?.map Text.isBlank).getD false && c != '\x7d' && c != '~' then
          some (first :: tail.takeWhile isHelperPart, after)
        else none
      | [] => none := by
  simp only [helperMention?, started, Option.bind_eq_bind, Option.bind_some, trimmed, List.head?_cons,
    List.tail_cons]
  rfl

theorem helperMention?_start (start : CallStart) {c : Char} (next : BeginsArgument c)
    (rest : List Char) : helperMention? (start.text ++ c :: rest) = some (start.name, rest) := by
  obtain ⟨marks, before, name, behind, blankBefore, named, blankBehind, separated⟩ := start
  have parts := isHelperPart_of_isHelperName named
  cases name with
  | nil => cases named
  | cons first others =>
    obtain ⟨begins, _⟩ := Bool.and_eq_true_iff.mp named
    obtain ⟨firstPart, others_parts⟩ := List.forall_mem_cons.mp parts
    obtain ⟨blank, further, rfl⟩ := List.exists_cons_of_ne_nil separated
    have space := blankBehind blank List.mem_cons_self
    have stops : ¬ isHelperPart blank = true := by
      intro part
      have solid := not_isBlank_of_isPartialPart (isPartialPart_of_isHelperPart part)
      rw [space] at solid
      cases solid
    have wide := isPartialPart_of_isHelperPart firstPart
    have started := tagStart?_name marks blankBefore wide (others ++ (blank :: further ++ c :: rest))
    have trimmed : Text.trimStart (before ++ first :: (others ++ (blank :: further ++ c :: rest))) =
        first :: (others ++ (blank :: further ++ c :: rest)) := by
      rw [trimStart_blanks blankBefore]
      exact List.dropWhile_cons_of_neg (by simp [not_isBlank_of_isPartialPart wide])
    have taken : (others ++ (blank :: further ++ c :: rest)).takeWhile isHelperPart = others := by
      rw [List.takeWhile_append_of_pos others_parts, List.cons_append, List.takeWhile_cons_of_neg stops,
        List.append_nil]
    have dropped : (others ++ (blank :: further ++ c :: rest)).dropWhile isHelperPart =
        blank :: further ++ c :: rest := by
      rw [List.dropWhile_append_of_pos others_parts]
      exact List.dropWhile_cons_of_neg stops
    have argument : Text.trimStart (blank :: further ++ c :: rest) = c :: rest := by
      rw [trimStart_blanks blankBehind]
      exact List.dropWhile_cons_of_neg (by simp [next.solid])
    have split : CallStart.text ⟨marks, before, first :: others, blank :: further, blankBefore, named,
        blankBehind, separated⟩ ++ c :: rest =
        '\x7b' :: '\x7b' :: (marks.text ++ (before ++ first :: (others ++ (blank :: further ++ c :: rest)))) := by
      simp [CallStart.text, CallStart.body]
    rw [split, helperMention?_eq started trimmed, dropped, argument, taken]
    simp only [begins, List.cons_append, List.head?_cons, Option.map_some, Option.getD_some, space,
      Bool.true_and, Bool.and_eq_true, bne_iff_ne, next.inner, ne_eq, not_false_eq_true, and_self, ↓reduceIte]

theorem exists_start_of_helperMention? (found : helperMention? text = some (name, rest)) :
    ∃ (start : CallStart) (c : Char), text = start.text ++ c :: rest ∧ start.name = name := by
  obtain ⟨inner, started, _⟩ := Option.bind_eq_some_iff.mp found
  obtain ⟨marks, rfl⟩ := tagStart?_split started
  obtain ⟨before, blank, inner_eq⟩ := blanks_trimStart inner
  cases trimmed : Text.trimStart inner with
  | nil => simp [helperMention?, started, trimmed] at found
  | cons first tail =>
    rw [trimmed] at inner_eq
    rw [helperMention?_eq started trimmed] at found
    obtain ⟨behind, space, gap⟩ := blanks_trimStart (tail.dropWhile isHelperPart)
    split at found
    · rename_i c after argument
      rw [argument] at gap
      split at found
      · rename_i holds
        cases found
        simp only [Bool.and_eq_true] at holds
        obtain ⟨⟨⟨begins, separates⟩, solid⟩, _⟩ := holds
        have parts := @List.takeWhile_append_dropWhile _ isHelperPart tail
        refine ⟨⟨marks, before, first :: tail.takeWhile isHelperPart, behind, blank, ?_, space, ?_⟩, c, ?_, rfl⟩
        · exact Bool.and_eq_true_iff.mpr
            ⟨begins, List.all_eq_true.mpr fun _ member => List.mem_takeWhile_imp member⟩
        · rintro rfl
          have solid : Text.isBlank c = false :=
            Template.not_of_head?_dropWhile (show c ∈ (Text.trimStart _).head? by rw [argument]; rfl)
          rw [gap, List.nil_append, List.head?_cons, Option.map_some, Option.getD_some, solid] at separates
          cases separates
        · rw [gap] at parts
          simp only [CallStart.text, CallStart.body, List.append_assoc, List.cons_append, parts]
          rw [inner_eq]
      · cases found
    · cases found

end

/-! ### Inclusions -/

/-- The beginning of an inclusion, up to the name of the partial. -/
structure InclusionStart where
  marks : Marks
  before : List Char
  name : List Char
  blankBefore : Blanks before
  named : ∀ c ∈ name, isPartialPart c = true
  nonempty : name ≠ []

namespace InclusionStart

def body (start : InclusionStart) : List Char := start.marks.text ++ '>' :: (start.before ++ start.name)

def text (start : InclusionStart) : List Char := '\x7b' :: '\x7b' :: start.body

end InclusionStart

section

variable {text name rest : List Char}

theorem partialMention?_eq {inner behind : List Char} (started : tagStart? text = some inner)
    (angle : Text.after? ['>'] inner = some behind) : partialMention? text =
      if ((Text.trimStart behind).takeWhile isPartialPart).isEmpty then none
      else some ((Text.trimStart behind).takeWhile isPartialPart,
        (Text.trimStart behind).dropWhile isPartialPart) := by
  simp only [partialMention?, started, Option.bind_eq_bind, Option.bind_some, angle]
  rfl

theorem partialMention?_start (start : InclusionStart)
    (stops : ∀ c ∈ rest.head?, isPartialPart c = false) :
    partialMention? (start.text ++ rest) = some (start.name, rest) := by
  obtain ⟨marks, before, name, blankBefore, named, nonempty⟩ := start
  obtain ⟨first, others, rfl⟩ := List.exists_cons_of_ne_nil nonempty
  have solid := not_isBlank_of_isPartialPart (named first List.mem_cons_self)
  have started : tagStart? ('\x7b' :: '\x7b' :: (marks.text ++ '>' :: (before ++ (first :: others ++ rest)))) =
      some ('>' :: (before ++ (first :: others ++ rest))) := tagStart?_marks marks (by simp)
  have angle : Text.after? ['>'] ('>' :: (before ++ (first :: others ++ rest))) =
      some (before ++ (first :: others ++ rest)) := Text.after?_eq_some_iff.mpr rfl
  have trimmed : Text.trimStart (before ++ (first :: others ++ rest)) = first :: others ++ rest := by
    rw [trimStart_blanks blankBefore]
    exact List.dropWhile_cons_of_neg (by simp [solid])
  have taken := @Template.Path.takeWhile_append_stop isPartialPart (first :: others) rest named stops
  have dropped : (first :: others ++ rest).dropWhile isPartialPart = rest := by
    rw [List.dropWhile_append_of_pos named]
    exact Text.dropWhile_of_head stops
  have split : InclusionStart.text ⟨marks, before, first :: others, blankBefore, named, nonempty⟩ ++ rest =
      '\x7b' :: '\x7b' :: (marks.text ++ '>' :: (before ++ (first :: others ++ rest))) := by
    simp [InclusionStart.text, InclusionStart.body]
  rw [split, partialMention?_eq started angle, trimmed, taken, dropped]
  rfl

theorem exists_start_of_partialMention? (found : partialMention? text = some (name, rest)) :
    ∃ start : InclusionStart, text = start.text ++ rest ∧ start.name = name := by
  obtain ⟨inner, started, further⟩ := Option.bind_eq_some_iff.mp found
  obtain ⟨behind, angle, _⟩ := Option.bind_eq_some_iff.mp further
  obtain ⟨marks, rfl⟩ := tagStart?_split started
  obtain ⟨before, blank, behind_eq⟩ := blanks_trimStart behind
  have parts := @List.takeWhile_append_dropWhile _ isPartialPart (Text.trimStart behind)
  rw [partialMention?_eq started angle] at found
  split at found
  · cases found
  · rename_i filled
    cases found
    refine ⟨⟨marks, before, (Text.trimStart behind).takeWhile isPartialPart, blank,
      fun _ member => List.mem_takeWhile_imp member, by simpa using filled⟩, ?_, rfl⟩
    rw [Text.after?_eq_some_iff.mp angle]
    simp only [InclusionStart.text, InclusionStart.body, List.append_assoc, List.cons_append, parts]
    rw [← behind_eq]
    rfl

end

/-! ### Mentions in a source -/

theorem CallStart.plain (start : CallStart) : ∀ c ∈ start.body, c ≠ '\x7b' := by
  have named : ∀ c ∈ start.name, c ≠ '\x7b' := fun c member => ne_brace_of_isPartialPart
    (isPartialPart_of_isHelperPart (isHelperPart_of_isHelperName start.named c member))
  intro c member
  simp only [body, List.mem_append] at member
  rcases member with member | member | member | member
  · exact start.marks.plain c member
  · exact start.blankBefore.plain c member
  · exact named c member
  · exact start.blankBehind.plain c member

theorem CallStart.filled (start : CallStart) : start.body ≠ [] := by
  simp [body, start.separated]

theorem InclusionStart.plain (start : InclusionStart) : ∀ c ∈ start.body, c ≠ '\x7b' := by
  intro c member
  simp only [body, List.mem_append, List.mem_cons] at member
  rcases member with member | rfl | member | member
  · exact start.marks.plain c member
  · decide
  · exact start.blankBefore.plain c member
  · exact ne_brace_of_isPartialPart (start.named c member)

theorem shrinks_helperMention? : Shrinks helperMention? := by
  intro text name rest found
  obtain ⟨start, c, whole, _⟩ := exists_start_of_helperMention? found
  exact ⟨start.text ++ [c], by simp, by simp [whole]⟩

theorem shrinks_partialMention? : Shrinks partialMention? := by
  intro text name rest found
  obtain ⟨start, whole, _⟩ := exists_start_of_partialMention? found
  exact ⟨start.text, by simp [InclusionStart.text], whole⟩

section

variable {before body more rest : List Char}

/-- Two braces that stand behind a beginning without further braces are no part of it. -/
theorem suffix_of_plain (plain : ∀ c ∈ body, c ≠ '\x7b') (filled : body ≠ []) (later : before ≠ [])
    (same : '\x7b' :: '\x7b' :: (body ++ rest) = before ++ '\x7b' :: '\x7b' :: more) :
    '\x7b' :: '\x7b' :: more <:+ rest := by
  obtain ⟨first, further, rfl⟩ := List.exists_cons_of_ne_nil later
  obtain ⟨_, same⟩ := List.cons.inj same
  cases further with
  | nil =>
    obtain ⟨_, same⟩ := List.cons.inj same
    obtain ⟨c, others, rfl⟩ := List.exists_cons_of_ne_nil filled
    obtain ⟨brace, _⟩ := List.cons.inj same
    exact absurd brace (plain c List.mem_cons_self)
  | cons second further =>
    obtain ⟨_, same⟩ := List.cons.inj same
    rcases List.append_eq_append_iff.mp same with ⟨inner, _, behind⟩ | ⟨inner, split, behind⟩
    · exact ⟨inner, behind.symm⟩
    · cases inner with
      | nil => exact ⟨[], behind⟩
      | cons c inner =>
        obtain ⟨brace, _⟩ := List.cons.inj behind
        exact absurd brace.symm (plain c (by simp [split]))

end

/-- A text that ends with the beginning of a call. -/
def BehindCall (text : List Char) : Prop := ∃ start : CallStart, start.text <:+ text

theorem not_behindCall {c : Char} (solid : Text.isBlank c = false) (front : List Char) :
    ¬ BehindCall (front ++ [c]) := by
  rintro ⟨start, lead, same⟩
  rcases List.eq_nil_or_concat start.behind with empty | ⟨blanks, blank, behind⟩
  · exact start.separated empty
  · have space := start.blankBehind blank (by simp [behind])
    have parts : lead ++ start.text = (lead ++ '\x7b' :: '\x7b' :: (start.marks.text ++ (start.before ++
        (start.name ++ blanks)))) ++ [blank] := by
      simp [CallStart.text, CallStart.body, behind]
    rw [parts] at same
    obtain ⟨_, last⟩ := List.append_inj' same rfl
    cases last
    rw [solid] at space
    cases space

section

variable {source : String} {front more : List Char}

theorem exists_before {text early : List Char} (within : early <:+ front ++ text)
    (longer : text.length < early.length) :
    ∃ before, before ≠ [] ∧ early = before ++ text ∧ before <:+ front := by
  rcases List.suffix_or_suffix_of_suffix within (List.suffix_append front text) with shorter | ⟨before, rfl⟩
  · exact absurd shorter.length_le (Nat.not_le_of_lt longer)
  · refine ⟨before, ?_, rfl, ?_⟩
    · rintro rfl
      exact Nat.lt_irrefl _ longer
    · obtain ⟨lead, same⟩ := within
      rw [← List.append_assoc, List.append_left_inj] at same
      exact ⟨lead, same⟩

/-- Every inclusion under a plain name is found. -/
theorem mem_mentions_inclusion (start : InclusionStart)
    (split : source.toList = front ++ (start.text ++ more))
    (stops : ∀ c ∈ more.head?, isPartialPart c = false) :
    String.ofList start.name ∈ mentions partialMention? source := by
  refine mem_findAll shrinks_partialMention? (partialMention?_start start stops) _ _ ⟨front, split.symm⟩
    (Nat.le_of_eq String.length_toList) ?_
  intro early other last within longer found
  rw [split] at within
  obtain ⟨before, nonempty, rfl, _⟩ := exists_before within longer
  obtain ⟨earlier, whole, _⟩ := exists_start_of_partialMention? found
  exact suffix_of_plain earlier.plain (by simp [InclusionStart.body]) nonempty whole.symm

/-- Every call that does not stand right behind the beginning of another one is found. -/
theorem mem_mentions_call (start : CallStart) {c : Char} (next : BeginsArgument c)
    (split : source.toList = front ++ (start.text ++ c :: more)) (free : ¬ BehindCall front) :
    String.ofList start.name ∈ mentions helperMention? source := by
  refine mem_findAll shrinks_helperMention? (helperMention?_start start next more) _ _
    ⟨front, split.symm⟩ (Nat.le_of_eq String.length_toList) ?_
  intro early other last within longer found
  rw [split] at within
  obtain ⟨before, nonempty, rfl, inside⟩ := exists_before within longer
  obtain ⟨earlier, d, whole, _⟩ := exists_start_of_helperMention? found
  have left : start.text ++ c :: more <:+ d :: last :=
    suffix_of_plain earlier.plain earlier.filled nonempty whole.symm
  rcases List.suffix_cons_iff.mp left with same | left
  · -- The match ends with the first brace of this call.
    rw [same, List.append_left_inj] at whole
    exact absurd ⟨earlier, whole ▸ inside⟩ free
  · exact left

end

end Stencil.Extraction
