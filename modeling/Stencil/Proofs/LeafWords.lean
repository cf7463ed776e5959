import Stencil.Proofs.InlineWords
import Stencil.Proofs.WrittenForms

set_option autoImplicit false

/-!
Literals and paths as words. A literal is written as a value or begins with a mark, a path begins and ends
with a character of a name or a mark of its own (`LiteralForm.ends`, `PathForm.ends`), and a word in which
no blank stands outside of quotes is read in one piece (`whole_of_unbroken`). The variable of such a word
is that of the path in it, if there is one.
-/

namespace Stencil.Template

/-! ### Numbers -/

/-- A power in a tag has a capital letter and at most a minus sign. -/
theorem afterExponent_split (text : List Char) : ∃ power : Option Inline.Power,
    text = power.elim [] Inline.Power.text ++ afterExponent text := by
  unfold afterExponent
  split
  · rename_i rest
    obtain ⟨sign, signed⟩ : ∃ sign : Option Bool,
        rest = (sign.map fun minus => if minus then '-' else '+').toList ++
          (Text.after? ['-'] rest).getD rest := by
      cases minus : Text.after? ['-'] rest with
      | none => exact ⟨none, rfl⟩
      | some others => exact ⟨some true, Text.after?_eq_some_iff.mp minus⟩
    generalize (Text.after? ['-'] rest).getD rest = digits at signed
    dsimp only
    split
    · rename_i digit
      have nonempty : digits.takeWhile Char.isDigit ≠ [] := by
        cases digits with
        | nil => cases digit
        | cons c digits =>
          have first : c.isDigit = true := digit
          simp [first]
      refine ⟨some ⟨true, sign, digits.takeWhile Char.isDigit, nonempty, fun c member =>
        List.mem_takeWhile_imp member⟩, ?_⟩
      rw [signed, Option.elim_some, Inline.Power.text]
      simp only [if_true, List.cons_append, List.append_assoc, List.takeWhile_append_dropWhile]
    · exact ⟨none, rfl⟩
  · exact ⟨none, rfl⟩

/-- The text of a number in a tag: digits, perhaps behind a minus sign, and what stands behind them. -/
structure NumberText where
  minus : Bool
  whole : Inline.Digits
  behind : List Char
  fraction : List Char
  power : Option Inline.Power
  split : Inline.splitFraction behind = (fraction, power.elim [] Inline.Power.text)
  stop : ∀ c, behind.head? = some c → c.isDigit = false
  chars : ∀ c ∈ behind, Inline.isLeafChar c = true

namespace NumberText

def text (number : NumberText) : List Char :=
  (if number.minus then ['-'] else []) ++ (number.whole.text ++ number.behind)

/-- A number has the characters of leaves. -/
theorem leafChars (number : NumberText) : ∀ c ∈ number.text, Inline.isLeafChar c = true := by
  have sign : ∀ c ∈ (if number.minus then ['-'] else []), Inline.isLeafChar c = true :=
    Text.forall_mem_of_all (by cases number.minus <;> decide)
  simp only [text, List.mem_append, or_imp, forall_and]
  exact ⟨sign, number.whole.leafChars, number.chars⟩

theorem isLiteral_eq (number : NumberText) : Extraction.isLiteral number.text = true := by
  have decimal := Inline.decimal_isSome number.whole number.minus number.stop number.split
  have head : (number.text.head?.map fun c => c.isDigit || c == '-' || c == '+').getD false = true := by
    obtain ⟨c, others, same, digit⟩ := number.whole.head
    unfold text
    cases number.minus with
    | true => rfl
    | false => simp [same, digit]
  rw [Extraction.isLiteral, head, text, decimal]
  simp

/-- The part of a number behind its digits. -/
theorem exists_behind (text : List Char) (stop : ∀ c, text.head? = some c → c.isDigit = false) :
    ∃ (behind fraction : List Char) (power : Option Inline.Power),
      text = behind ++ afterExponent (((Text.after? ['.'] text).getD text).dropWhile Char.isDigit) ∧
      Inline.splitFraction behind = (fraction, power.elim [] Inline.Power.text) ∧
      (∀ c, behind.head? = some c → c.isDigit = false) ∧
      ∀ c ∈ behind, Inline.isLeafChar c = true := by
  have powers : ∀ power : Option Inline.Power,
      ∀ c ∈ power.elim [] Inline.Power.text, Inline.isLeafChar c = true := by
    rintro (_ | power)
    · simp
    · exact power.leafChars
  cases point : Text.after? ['.'] text with
  | none =>
    have whole : ((none : Option (List Char)).getD text).dropWhile Char.isDigit = text :=
      Text.dropWhile_of_head stop
    obtain ⟨power, same⟩ := afterExponent_split text
    rw [whole]
    have head := Inline.Number.head_power power
    refine ⟨_, [], power, same, ?_, fun c found => (head c found).1, powers power⟩
    unfold Inline.splitFraction
    split
    · rename_i others pointed
      rw [pointed] at head
      exact absurd rfl (head '.' rfl).2
    · rfl
  | some others =>
    rw [Text.after?_eq_some_iff.mp point, Option.getD_some]
    obtain ⟨power, same⟩ := afterExponent_split (others.dropWhile Char.isDigit)
    have digits : ∀ c ∈ others.takeWhile Char.isDigit, c.isDigit = true :=
      fun c member => List.mem_takeWhile_imp member
    have head := Inline.Number.head_power power
    refine ⟨'.' :: (others.takeWhile Char.isDigit ++ power.elim [] Inline.Power.text),
      others.takeWhile Char.isDigit, power, ?_, ?_, ?_, ?_⟩
    · simp only [List.cons_append, List.append_assoc, List.nil_append, ← same,
        List.takeWhile_append_dropWhile]
    · have taken := Path.takeWhile_append_stop digits fun c found => (head c found).1
      have dropped : (others.takeWhile Char.isDigit ++ power.elim [] Inline.Power.text).dropWhile
          Char.isDigit = power.elim [] Inline.Power.text := by
        rw [List.dropWhile_append_of_pos digits]
        exact Text.dropWhile_of_head fun c found => (head c found).1
      rw [Inline.splitFraction, taken, dropped]
    · intro c found
      cases found
      decide
    · intro c member
      rcases List.mem_cons.mp member with rfl | member
      · decide
      · rcases List.mem_append.mp member with digit | member
        · exact Inline.isLeafChar_of_isDigit (digits c digit)
        · exact powers power c member

end NumberText

section

variable {text rest : List Char}

/-- What is passed as a number is one. -/
theorem afterNumber?_split (read : afterNumber? text = some rest) :
    ∃ number : NumberText, text = number.text ++ rest := by
  obtain ⟨minus, signed⟩ : ∃ minus : Bool, text = (if minus then ['-'] else []) ++
      (Text.after? ['-'] text).getD text := by
    cases sign : Text.after? ['-'] text with
    | none => exact ⟨false, rfl⟩
    | some others => exact ⟨true, Text.after?_eq_some_iff.mp sign⟩
  unfold afterNumber? at read
  generalize (Text.after? ['-'] text).getD text = digits at read signed
  dsimp only at read
  split at read
  · rename_i digit
    split at read
    · have nonempty : digits.takeWhile Char.isDigit ≠ [] := by
        cases digits with
        | nil => cases digit
        | cons c digits =>
          have first : c.isDigit = true := digit
          simp [first]
      have stop : ∀ c, (digits.dropWhile Char.isDigit).head? = some c → c.isDigit = false := by
        intro c found
        have head := List.head?_dropWhile_not Char.isDigit digits
        simpa [found] using head
      obtain ⟨behind, fraction, power, same, split, stops, chars⟩ := NumberText.exists_behind _ stop
      rw [Option.some.inj read] at same
      refine ⟨⟨minus, ⟨digits.takeWhile Char.isDigit, nonempty, fun c member =>
        List.mem_takeWhile_imp member⟩, behind, fraction, power, split, stops, chars⟩, ?_⟩
      rw [signed, NumberText.text, List.append_assoc, List.append_assoc, ← same,
        List.takeWhile_append_dropWhile]
    · cases read
  · cases read

/-! ### Ends of literals -/

/-- A text in quotes ends with a quote. -/
theorem afterQuoted?_closes {quote : Char} (read : afterQuoted? quote text = some rest) :
    ∃ body, text = body ++ quote :: rest := by
  fun_induction afterQuoted? quote text with
  | case1 => cases read
  | case2 a b c d text hex ih =>
    obtain ⟨body, rfl⟩ := ih read
    exact ⟨'\\' :: 'u' :: a :: b :: c :: d :: body, rfl⟩
  | case3 => cases read
  | case4 c text plain escape ih =>
    obtain ⟨body, rfl⟩ := ih read
    exact ⟨'\\' :: c :: body, rfl⟩
  | case5 => cases read
  | case6 text long escape =>
    cases read
    exact ⟨[], rfl⟩
  | case7 => cases read
  | case8 c text long escape ends plain ih =>
    obtain ⟨body, rfl⟩ := ih read
    exact ⟨c :: body, rfl⟩

/-- Parts between brackets end with the bracket that closes them. -/
theorem ReadsFurther.closes {part further : Nat → List Char → Option (List Char)} {close : String}
    (reads : ReadsFurther part further close)
    (shrinks : ∀ fuel text rest, part fuel text = some rest → rest <:+ text) :
    ∀ (fuel : Nat) {text : List Char}, further fuel text = some rest →
      ∃ body, text = body ++ (close.toList ++ rest)
  | 0, text, read => by
    rw [reads.zero] at read
    cases read
  | fuel + 1, text, read => by
    rw [reads.succ] at read
    split at read
    · rename_i next found
      obtain ⟨behind, comma, opened⟩ := Option.bind_eq_some_iff.mp found
      obtain ⟨body, same⟩ := reads.closes shrinks fuel read
      obtain ⟨lead, whole⟩ := (shrinks fuel behind next opened).trans (remains_token (by decide) comma).1
      exact ⟨lead ++ body, by rw [← whole, same, List.append_assoc]⟩
    · obtain ⟨gap, whole⟩ := token?_split read
      exact ⟨gap.text, whole⟩

/-- The last character of a literal that begins with a mark. -/
inductive Closes : Char → Char → Prop where
  | quote {quote : Char} (mark : quote = '"' ∨ quote = '\'') : Closes quote quote
  | array : Closes '[' ']'
  | object : Closes '\x7b' '\x7d'

theorem optional_getD_suffix {read : List Char → Option (List Char)}
    (shrinks : ∀ rest, read text = some rest → rest <:+ text) : (read text).getD text <:+ text := by
  cases found : read text with
  | none => exact List.suffix_rfl
  | some rest => exact shrinks rest found

/-- A literal that begins with a mark ends with the one that closes it. -/
theorem afterLiteral?_closes {fuel : Nat} {c : Char} (mark : "\"'[\x7b".toList.contains c = true)
    (read : afterLiteral? fuel (c :: text) = some rest) :
    ∃ body last, text = body ++ last :: rest ∧ Closes c last := by
  cases fuel with
  | zero => cases read
  | succ fuel =>
    have readers := literalReaders fuel
    rcases cases_of_mark mark with rfl | rfl | rfl | rfl
    · obtain ⟨body, same⟩ := afterQuoted?_closes read
      exact ⟨body, _, same, Closes.quote (Or.inl rfl)⟩
    · obtain ⟨body, same⟩ := afterQuoted?_closes read
      exact ⟨body, _, same, Closes.quote (Or.inr rfl)⟩
    · have shrinks : ∀ fuel text rest, afterItem? fuel text = some rest → rest <:+ text :=
        fun fuel text rest read =>
          ((literalReaders fuel).literal _ _ read).suffix.trans (skip_suffix text)
      obtain ⟨body, same⟩ := readsFurther_items.closes shrinks fuel read
      obtain ⟨lead, whole⟩ := optional_getD_suffix (shrinks fuel text)
      have further : text = lead ++ (body ++ ("]".toList ++ rest)) := same ▸ whole.symm
      exact ⟨lead ++ body, ']', by simpa using further, Closes.array⟩
    · have shrinks : ∀ fuel text rest, afterField? fuel text = some rest → rest <:+ text :=
        fun fuel text rest read => ((literalReaders fuel).field _ _ read).suffix
      obtain ⟨body, same⟩ := readsFurther_fields.closes shrinks fuel read
      obtain ⟨lead, whole⟩ := optional_getD_suffix (shrinks fuel text)
      have further : text = lead ++ (body ++ ("\x7d".toList ++ rest)) := same ▸ whole.symm
      exact ⟨lead ++ body, '\x7d', by simpa using further, Closes.object⟩

end

/-! ### Leaves -/

/-- A literal without a mark is written as a value. -/
theorem literal_cases {fuel : Nat} {text more : List Char}
    (read : afterLiteral? fuel (text ++ more) = some more) :
    (∃ c body last, text = c :: (body ++ [last]) ∧ Closes c last) ∨
      text ≠ [] ∧ (∀ c ∈ text, Inline.isLeafChar c = true) ∧ Extraction.isLiteral text = true := by
  have shorter := ((literalReaders fuel).literal _ _ read).shorter
  cases text with
  | nil => exact absurd shorter (Nat.lt_irrefl _)
  | cons c others =>
    rw [List.cons_append] at read
    by_cases mark : "\"'[\x7b".toList.contains c = true
    · obtain ⟨body, last, same, closes⟩ := afterLiteral?_closes mark read
      have cut : others = body ++ [last] := by
        rw [← List.append_left_inj more, same]
        simp
      exact Or.inl ⟨c, body, last, by rw [cut], closes⟩
    · refine Or.inr ⟨List.cons_ne_nil _ _, ?_⟩
      cases fuel with
      | zero => cases read
      | succ fuel =>
        rw [afterLiteral?_plain (by simpa using mark), Option.or_eq_some_iff] at read
        rcases read with number | ⟨_, word⟩
        · obtain ⟨number, same⟩ := afterNumber?_split number
          rw [← List.cons_append, List.append_left_inj] at same
          rw [same]
          exact ⟨number.leafChars, number.isLiteral_eq⟩
        · have fixed : ∀ word : List Char, c :: (others ++ more) = word ++ more → c :: others = word :=
            fun word same => (List.append_left_inj more).mp same
          rcases afterWord?_split word with same | same | same
          all_goals
            rw [fixed _ same]
            exact ⟨Text.forall_mem_of_all (by decide), by decide⟩

theorem LiteralForm.nonempty (literal : LiteralForm) : literal.text ≠ [] := by
  obtain ⟨fuel, more, read⟩ := literal.read
  have shorter := ((literalReaders fuel).literal _ _ read).shorter
  intro empty
  simp [empty] at shorter

/-- A path ends with a character of a name or a bracket. -/
theorem PathForm.last (written : PathForm) : ∃ front c, written.path.raw.toList = front ++ [c] ∧
    (isNameChar c = true ∨ c = ']') := by
  have items : ∀ {item : List Char} {first : List Segment}, Path.Item item first →
      ∃ front c, item = front ++ [c] ∧ (isNameChar c = true ∨ c = ']') := by
    intro item first head
    cases head with
    | name nonempty chars =>
      exact ⟨item.dropLast, item.getLast nonempty, (List.dropLast_concat_getLast nonempty).symm,
        Or.inl (chars _ (List.getLast_mem nonempty))⟩
    | bracketed body => exact ⟨'[' :: body, ']', rfl, Or.inr rfl⟩
  have further : ∀ {more : List Char} {rest : List Segment}, Path.Items more rest →
      more = [] ∨ ∃ front c, more = front ++ [c] ∧ (isNameChar c = true ∨ c = ']') := by
    intro more rest tail
    induction tail with
    | nil => exact Or.inl rfl
    | @cons c item more first rest separates head tail ih =>
      rcases ih with rfl | ⟨front, last, rfl, ends⟩
      · obtain ⟨front, last, rfl, ends⟩ := items head
        exact Or.inr ⟨c :: front, last, by simp, ends⟩
      · exact Or.inr ⟨c :: (item ++ front), last, by simp, ends⟩
  obtain ⟨path, text, rest, read⟩ := written
  obtain ⟨written⟩ := Path.read?_written read
  have whole : path.raw.toList = written.current ++ (written.root ++ (written.mark ++
      (written.climb ++ (written.item ++ written.more)))) := by
    rw [written.raw_eq, String.toList_ofList]
  rcases further written.tail with none | ⟨front, c, more, ends⟩
  · obtain ⟨front, c, item, ends⟩ := items written.head
    exact ⟨written.current ++ (written.root ++ (written.mark ++ (written.climb ++ front))), c, by
      simp [whole, none, item], ends⟩
  · exact ⟨written.current ++ (written.root ++ (written.mark ++ (written.climb ++
      (written.item ++ front)))), c, by simp [whole, more], ends⟩

theorem PathForm.begins (written : PathForm) : ∃ c others, written.path.raw.toList = c :: others ∧
    (isNameChar c = true ∨ c = '.' ∨ c = '@' ∨ c = '[') := by
  obtain ⟨path, text, rest, read⟩ := written
  exact (Path.opening_of_read read).begins

end Stencil.Template

namespace Stencil.Extraction

open Inline (Closers)
open Template (Closes LiteralForm PathForm isNameChar)

/-! ### Words in one piece -/

/-- True if no blank stands outside of quotes and every quote that opens is closed. -/
def unbroken : Option Char → List Char → Bool
  | quote, [] => quote.isNone
  | some quote, c :: text => unbroken (if c = quote then none else some quote) text
  | none, c :: text =>
    !Text.isBlank c && unbroken (if c = '"' ∨ c = '\'' then some c else none) text

/-- Such a text is read as a part of one word. -/
theorem whole_of_unbroken {text : List Char} (solid : unbroken none text = true) : Whole text := by
  suffices ∀ (text : List Char) (quote : Option Char) (before more : List Char),
      unbroken quote text = true →
        wordsFrom before quote (text ++ more) = wordsFrom (text.reverse ++ before) none more from
    fun before more => this text none before more solid
  intro text
  induction text with
  | nil =>
    intro quote before more solid
    cases quote with
    | none => rfl
    | some quote => cases solid
  | cons c text ih =>
    intro quote before more solid
    rw [List.reverse_cons, List.append_assoc, List.singleton_append]
    cases quote with
    | some quote => exact ih _ (c :: before) more solid
    | none =>
      rw [unbroken, Bool.and_eq_true, Bool.not_eq_true'] at solid
      rw [List.cons_append, wordsFrom, if_neg (by simp [solid.1])]
      exact ih _ (c :: before) more solid.2

/-- It does not end with a blank. -/
theorem solid_of_unbroken {front : List Char} {c : Char} (solid : unbroken none (front ++ [c]) = true) :
    Text.isBlank c = false := by
  have quotes : ∀ c : Char, c = '"' ∨ c = '\'' → Text.isBlank c = false := by
    rintro c (rfl | rfl) <;> decide
  suffices ∀ (front : List Char) (quote : Option Char), (∀ mark ∈ quote, Text.isBlank mark = false) →
      unbroken quote (front ++ [c]) = true → Text.isBlank c = false from this front none nofun solid
  intro front
  induction front with
  | nil =>
    intro quote marks solid
    cases quote with
    | none =>
      rw [List.nil_append, unbroken, Bool.and_eq_true, Bool.not_eq_true'] at solid
      exact solid.1
    | some quote =>
      rw [List.nil_append, unbroken, unbroken] at solid
      split at solid
      · rename_i same
        exact same ▸ marks quote rfl
      · cases solid
  | cons d front ih =>
    intro quote marks solid
    cases quote with
    | none =>
      rw [List.cons_append, unbroken, Bool.and_eq_true] at solid
      refine ih _ (fun mark among => ?_) solid.2
      split at among
      · rename_i quote
        cases among
        exact quotes d quote
      · cases among
    | some quote =>
      rw [List.cons_append, unbroken] at solid
      refine ih _ (fun mark among => ?_) solid
      split at among
      · cases among
      · exact marks mark among

/-! ### Variables of words -/

/-- The codes of blanks. -/
def blankCodes : List Nat :=
  [9, 10, 11, 12, 13, 32, 0x85, 0xA0, 0x1680, 0x2000, 0x2001, 0x2002, 0x2003, 0x2004, 0x2005, 0x2006,
    0x2007, 0x2008, 0x2009, 0x200A, 0x2028, 0x2029, 0x202F, 0x205F, 0x3000]

/-- What passes a test that no blank passes is no blank. -/
theorem not_isBlank_of_test {test : Char → Bool} {c : Char}
    (fails : ∀ code ∈ blankCodes, test (Char.ofNat code) = false) (passes : test c = true) :
    Text.isBlank c = false := by
  cases blank : Text.isBlank c with
  | false => rfl
  | true =>
    simp only [Text.isBlank, Bool.or_eq_true, Bool.and_eq_true, decide_eq_true_eq, beq_iff_eq] at blank
    have listed := fails c.toNat (by
      simp only [blankCodes, List.mem_cons, List.not_mem_nil, or_false]
      omega)
    rw [Char.ofNat_toNat, passes] at listed
    cases listed

/-- All characters are blanks. -/
def Blanks (text : List Char) : Prop := ∀ c ∈ text, Text.isBlank c = true

theorem Blanks.append {first second : List Char} (here : Blanks first) (there : Blanks second) :
    Blanks (first ++ second) := by
  intro c member
  exact (List.mem_append.mp member).elim (here c) (there c)

theorem trimStart_blanks {gap : List Char} (blank : Blanks gap) (more : List Char) :
    Text.trimStart (gap ++ more) = Text.trimStart more :=
  List.dropWhile_append_of_pos fun c member => blank c member

/-- A name before the end of a text or a bracket is the base of the text, if it is not `this`. -/
theorem plainBase?_of_name {c : Char} {others tail : List Char} (begins : beginsName c = true)
    (chars : ∀ d ∈ others, isSegmentEnd d = false) (stop : ∀ d, tail.head? = some d → d = '[')
    (fuel : Nat) : plainBase? (dropThis (dropRelative fuel (c :: others ++ tail))) =
      if c :: others == "this".toList then none else some (String.ofList (c :: others)) := by
  have other : ∀ d : Char, beginsName d = false → c ≠ d := by
    rintro d not rfl
    rw [begins] at not
    cases not
  have first : isSegmentEnd c = false := by
    simp [isSegmentEnd, other '.' (by decide), other '/' (by decide), other '[' (by decide)]
  have base : (c :: others ++ tail).takeWhile (fun d => !isSegmentEnd d) = c :: others := by
    apply Template.Path.takeWhile_append_stop
    · intro d member
      rcases List.mem_cons.mp member with rfl | member
      · simp [first]
      · simp [chars d member]
    · intro d found
      rw [stop d found]
      decide
  have plain : ∀ d : Char, d ≠ '[' → isSegmentEnd d = true →
      Text.after? ("this".toList ++ [d]) (c :: others ++ tail) = none := by
    intro d bracket ends
    cases found : Text.after? ("this".toList ++ [d]) (c :: others ++ tail) with
    | none => rfl
    | some rest =>
      have whole : c :: others ++ tail = "this".toList ++ d :: rest := by
        rw [Text.after?_eq_some_iff.mp found]
        rfl
      have word : c :: others = "this".toList := by
        rw [← base, whole]
        apply Template.Path.takeWhile_append_stop (Text.forall_mem_of_all (by decide))
        intro e found
        cases found
        simp [ends]
      rw [word, List.append_cancel_left_eq] at whole
      exact absurd (stop d (by rw [whole]; rfl)) bracket
  have kept : dropThis (c :: others ++ tail) = c :: others ++ tail := by
    have point := plain '.' (by decide) (by decide)
    have slash := plain '/' (by decide) (by decide)
    unfold dropThis
    rw [show "this.".toList = "this".toList ++ ['.'] from rfl,
      show "this/".toList = "this".toList ++ ['/'] from rfl, point, slash]
    rfl
  rw [List.cons_append, dropRelative_of_head (other '.' (by decide)), ← List.cons_append, kept, plainBase?,
    base, if_neg (by simpa using other '@' (by decide))]
  rfl

theorem baseVariable?_ofList (text : List Char) : baseVariable? (String.ofList text) =
    plainBase? (dropThis (dropRelative (Text.trim text).length (Text.trim text))) := by
  simp only [baseVariable?, plainBase?, String.toList_ofList]

/-- A character of a name that may stand before a bracket. -/
def isIndexedPart (c : Char) : Bool := Text.isWord c || c == '$' || c == '-'

theorem indexedName?_split {value name : List Char} (indexed : indexedName? value = some name) :
    ∃ c others rest, name = c :: others ∧ value = name ++ '[' :: rest ∧ beginsName c = true ∧
      ∀ d ∈ others, isIndexedPart d = true := by
  unfold indexedName? at indexed
  split at indexed
  · cases indexed
  · rename_i c text
    dsimp only at indexed
    split at indexed
    · rename_i found
      cases indexed
      obtain ⟨begins, bracket⟩ := Bool.and_eq_true_iff.mp found
      rw [beq_iff_eq, List.head?_eq_some_iff] at bracket
      obtain ⟨rest, opened⟩ := bracket
      refine ⟨c, _, rest, rfl, ?_, begins, fun d member => List.mem_takeWhile_imp member⟩
      rw [← opened, List.cons_append, List.takeWhile_append_dropWhile]
    · cases indexed

theorem not_isSegmentEnd_of_isIndexedPart {c : Char} (part : isIndexedPart c = true) :
    isSegmentEnd c = false := by
  have marks : ∀ mark ∈ "./[".toList, isIndexedPart mark = false :=
    Text.forall_mem_of_all (by decide +kernel)
  have other : ∀ mark ∈ "./[".toList, c ≠ mark := by
    rintro mark among rfl
    rw [marks c among] at part
    cases part
  simp [isSegmentEnd, other '.' (by decide), other '/' (by decide), other '[' (by decide)]

/-- The name before a bracket is the base of the path. -/
theorem baseVariable?_indexed {value name : List Char} (indexed : indexedName? value = some name) :
    baseVariable? (String.ofList name) = baseVariable? (String.ofList value) := by
  obtain ⟨c, others, rest, rfl, rfl, begins, parts⟩ := indexedName?_split indexed
  have inner : ∀ d ∈ others, isSegmentEnd d = false :=
    fun d member => not_isSegmentEnd_of_isIndexedPart (parts d member)
  have head : Text.isBlank c = false := not_isBlank_of_test (by decide +kernel) begins
  have solid : ∀ d ∈ c :: others, Text.isBlank d = false := by
    intro d member
    rcases List.mem_cons.mp member with rfl | member
    · exact head
    · exact @not_isBlank_of_test isIndexedPart _ (by decide +kernel) (parts d member)
  have bare : Text.trim (c :: others) = c :: others := by
    have last := solid _ (List.getLast_mem (List.cons_ne_nil c others))
    have ends := List.dropLast_concat_getLast (List.cons_ne_nil c others)
    have trimmed := @Text.trim_of_solid (c :: others).dropLast [] _ last fun d found =>
      solid d (List.mem_of_mem_head? (ends ▸ found))
    rw [ends] at trimmed
    exact trimmed.trans ends
  have trimmed : Text.trim (c :: others ++ '[' :: rest) = c :: others ++ '[' :: Text.trimEnd rest := by
    refine Text.trim_of_solid (by decide) fun d found => ?_
    cases found
    exact head
  have alone := @plainBase?_of_name c others [] begins inner nofun (c :: others).length
  rw [List.append_nil] at alone
  rw [baseVariable?_ofList, baseVariable?_ofList, bare, trimmed, alone,
    plainBase?_of_name begins inner (by simp)]

/-! ### Words of leaves -/

section

variable {key : Option OptionName} {text closers : List Char}

/-- A key is no parenthesis and no text in quotes, and has no equals sign in it. -/
theorem plain_key (name : OptionName) : ∀ c ∈ name.name.toList, c ≠ '=' ∧ c ≠ '"' ∧ c ≠ '\'' ∧ c ≠ '(' :=
  fun c member =>
    ⟨Template.Path.ne_of_isNameChar (name.chars c member) (by decide),
      Template.Path.ne_of_isNameChar (name.chars c member) (by decide),
      Template.Path.ne_of_isNameChar (name.chars c member) (by decide),
      Template.Path.ne_of_isNameChar (name.chars c member) (by decide)⟩

/-- What stands behind a key is its value, but for closing parentheses. -/
theorem wordVariable?_behind_key (name : OptionName) (value : List Char) :
    wordVariable? (keyText (some name) ++ value) =
      if (Text.dropEndWhile (· == ')') value).isEmpty || isLiteral (Text.dropEndWhile (· == ')') value)
      then none
      else baseVariable? (String.ofList ((indexedName? (Text.dropEndWhile (· == ')') value)).getD
        (Text.dropEndWhile (· == ')') value))) := by
  obtain ⟨d, others, same⟩ := List.exists_cons_of_ne_nil name.nonempty
  have plain := plain_key name
  have opens : (keyText (some name) ++ value).head? ≠ some '(' := by
    rw [keyText, same]
    intro found
    exact (plain d (by simp [same])).2.2.2 (Option.some.inj found)
  have word : Text.dropEndWhile (· == ')') (keyText (some name) ++ value) =
      keyText (some name) ++ Text.dropEndWhile (· == ')') value := by
    have behind := @dropEndWhile_behind (· == ')') '=' (by decide) name.name.toList value
    simpa [keyText] using behind
  refine wordVariable?_eq opens ?_
  rw [word, keyText, List.append_assoc]
  exact optionValue_of_key (fun c member => ⟨(plain c member).1, (plain c member).2.1,
    (plain c member).2.2.1⟩) name.nonempty _

/-- A value in a word, behind a key or not, is taken alone, whatever parentheses are closed behind it. -/
theorem wordVariable?_of_value (closed : Closers closers)
    (last : ∃ front c, text = front ++ [c] ∧ c ≠ ')') (opens : text.head? ≠ some '(')
    (free : key = none → (∃ c others, text = c :: others ∧ (c = '"' ∨ c = '\'')) ∨ '=' ∉ text) :
    wordVariable? (keyText key ++ text ++ closers) = if text.isEmpty || isLiteral text then none
      else baseVariable? (String.ofList ((indexedName? text).getD text)) := by
  obtain ⟨front, c, ends, other⟩ := last
  have word : Text.dropEndWhile (· == ')') (text ++ closers) = text := by
    rw [dropEndWhile_append fun d member => beq_iff_eq.mpr (closed d member), ends]
    exact dropEndWhile_of_last (beq_eq_false_iff_ne.mpr other)
  cases key with
  | none =>
    have begins : (text ++ closers).head? ≠ some '(' := by
      cases text with
      | nil => simp at ends
      | cons d text => exact opens
    refine wordVariable?_eq begins ?_
    rw [keyText, List.nil_append, word]
    rcases free rfl with ⟨d, others, rfl, quote⟩ | free
    · exact optionValue_of_quoted quote others
    · exact optionValue_of_free free
  | some name => rw [List.append_assoc, wordVariable?_behind_key, word]

/-- A word names at most the base variable of the path in it. -/
theorem wordVariable?_raw {raw : String} (closed : Closers closers)
    (last : ∃ front c, raw.toList = front ++ [c] ∧ c ≠ ')') (opens : raw.toList.head? ≠ some '(')
    (free : key = none → '=' ∉ raw.toList) :
    ∀ name ∈ wordVariable? (keyText key ++ raw.toList ++ closers), baseVariable? raw = some name := by
  rw [wordVariable?_of_value closed last opens fun none => Or.inr (free none)]
  intro name found
  split at found
  · cases found
  · have base : baseVariable? (String.ofList ((indexedName? raw.toList).getD raw.toList)) =
        baseVariable? (String.ofList raw.toList) := by
      cases indexed : indexedName? raw.toList with
      | none => rfl
      | some inner => exact baseVariable?_indexed indexed
    rw [base, String.ofList_toList] at found
    exact found

theorem wordVariable?_path (written : PathForm) (closed : Closers closers)
    (free : key = none → '=' ∉ written.path.raw.toList) :
    ∀ name ∈ wordVariable? (keyText key ++ written.path.raw.toList ++ closers),
      baseVariable? written.path.raw = some name := by
  obtain ⟨front, c, ends, last⟩ := written.last
  obtain ⟨d, others, same, begins⟩ := written.begins
  have other : c ≠ ')' := by
    rintro rfl
    revert last
    decide
  have opens : written.path.raw.toList.head? ≠ some '(' := by
    rw [same, List.head?_cons, Ne, Option.some.injEq]
    rintro rfl
    revert begins
    decide
  exact wordVariable?_raw closed ⟨front, c, ends, other⟩ opens free

/-- A name alone is taken for a path. -/
theorem wordVariable?_name (name : OptionName) (closed : Closers closers) :
    ∀ found ∈ wordVariable? (name.name.toList ++ closers), baseVariable? name.name = some found := by
  have plain := plain_key name
  have nameChars := name.chars
  have last : ∃ front c, name.name.toList = front ++ [c] ∧ c ≠ ')' :=
    ⟨_, _, (List.dropLast_concat_getLast name.nonempty).symm, Template.Path.ne_of_isNameChar
      (nameChars _ (List.getLast_mem name.nonempty)) (by decide)⟩
  have opens : name.name.toList.head? ≠ some '(' := fun found =>
    (plain '(' (List.mem_of_mem_head? found)).2.2.2 rfl
  exact @wordVariable?_raw none closers name.name closed last opens fun _ member =>
    (plain '=' member).1 rfl

/-- A word with a literal names nothing, unless the literal is an object. -/
theorem wordVariable?_literal (literal : LiteralForm) (closed : Closers closers)
    (plain : literal.text.head? ≠ some '\x7b')
    (free : key = none →
      (∃ c others, literal.text = c :: others ∧ (c = '"' ∨ c = '\'')) ∨ '=' ∉ literal.text) :
    wordVariable? (keyText key ++ literal.text ++ closers) = none := by
  obtain ⟨fuel, more, read⟩ := literal.read
  rcases Template.literal_cases read with ⟨c, body, last, same, closes⟩ | ⟨nonempty, chars, value⟩
  · rw [same] at plain
    have ends : ∃ front d, literal.text = front ++ [d] ∧ d ≠ ')' := by
      refine ⟨c :: body, last, by simp [same], ?_⟩
      cases closes with
      | quote mark => rcases mark with rfl | rfl <;> decide
      | array => decide
      | object => decide
    have opens : literal.text.head? ≠ some '(' := by
      rw [same]
      cases closes with
      | quote mark => rcases mark with rfl | rfl <;> simp
      | array => simp
      | object => simp
    rw [wordVariable?_of_value closed ends opens free, same]
    cases closes with
    | quote mark => rcases mark with rfl | rfl <;> simp [isLiteral]
    | object => exact absurd rfl plain
    | array =>
      have none : indexedName? ('[' :: (body ++ [']'])) = none := by simp [indexedName?, beginsName]
      have trimmed : Text.trim ('[' :: (body ++ [']'])) = '[' :: Text.trimEnd (body ++ [']']) :=
        @Text.trim_of_solid [] (body ++ [']']) '[' (by decide) (by
          intro d found
          cases found
          decide)
      rw [none, Option.getD_none, baseVariable?_ofList, trimmed, dropRelative_of_head (by decide),
        dropThis_of_head (by decide)]
      split
      · rfl
      · simp [plainBase?, isSegmentEnd]
  · have ends : ∃ front d, literal.text = front ++ [d] ∧ d ≠ ')' := by
      refine ⟨literal.text.dropLast, literal.text.getLast nonempty,
        (List.dropLast_concat_getLast nonempty).symm, ?_⟩
      exact Inline.ne_of_isLeafChar (chars _ (List.getLast_mem nonempty)) (by decide)
    have opens : literal.text.head? ≠ some '(' := fun found =>
      Inline.ne_of_isLeafChar (chars _ (List.mem_of_mem_head? found)) (by decide) rfl
    rw [wordVariable?_of_value closed ends opens free, value, Bool.or_true, if_pos rfl]

end

end Stencil.Extraction
