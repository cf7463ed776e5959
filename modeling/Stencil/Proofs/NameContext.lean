import Mathlib.Data.List.TakeDrop
import Stencil.Proofs.Leaves

set_option autoImplicit false

/-!
Names in a tag, and places where nothing is read. Behind the first name of an argument stands what is
left of the argument, or a separator at which no further argument begins (`behind_name_of_operand?`).
-/

/-! ### Numbers with a point -/

namespace Stencil.Json

theorem takeDigits_append {digits rest : List Char} (chars : ∀ c ∈ digits, c.isDigit = true)
    (stops : ∀ c, rest.head? = some c → c.isDigit = false) :
    Reading.takeDigits (digits ++ rest) = (digits, rest) := by
  have stop : rest.takeWhile Char.isDigit = [] ∧ rest.dropWhile Char.isDigit = rest := by
    cases rest with
    | nil => simp
    | cons c rest => simp [stops c rfl]
  rw [Reading.takeDigits, List.span_eq_takeWhile_dropWhile, List.takeWhile_append_of_pos chars,
    List.dropWhile_append_of_pos chars, stop.1, stop.2, List.append_nil]

/-- There is no number where no digit follows the point. -/
theorem numeral?_point {digits rest : List Char} (nonempty : digits ≠ [])
    (chars : ∀ c ∈ digits, c.isDigit = true) (stops : ∀ c, rest.head? = some c → c.isDigit = false)
    {sign : List Char} (signed : sign = [] ∨ sign = ['-']) :
    Reading.numeral? (sign ++ (digits ++ '.' :: rest)) = none := by
  have whole : Reading.takeDigits (digits ++ '.' :: rest) = (digits, '.' :: rest) :=
    takeDigits_append chars fun c found => by cases found; decide
  have fraction : Reading.takeDigits rest = ([], rest) := by
    have none : ∀ c ∈ ([] : List Char), c.isDigit = true := by simp
    simpa using takeDigits_append none stops
  have after : ∀ negative significand, Reading.afterWhole negative significand ('.' :: rest) = none := by
    intro negative significand
    simp [Reading.afterWhole, fraction]
  obtain ⟨c, others, rfl⟩ := List.exists_cons_of_ne_nil nonempty
  rcases signed with rfl | rfl
  · have unsigned : ∀ tail, c :: others ++ '.' :: rest = '-' :: tail → False := by
      rintro tail ⟨⟩
      exact absurd (chars '-' List.mem_cons_self) (by decide)
    rw [List.nil_append, Reading.numeral?.eq_2 _ unsigned, whole]
    dsimp only
    split
    exacts [rfl, rfl, after _ _]
  · rw [List.cons_append, List.nil_append, Reading.numeral?.eq_1, whole]
    dsimp only
    split
    exacts [rfl, rfl, after _ _]

theorem read?_point {digits rest : List Char} (nonempty : digits ≠ [])
    (chars : ∀ c ∈ digits, c.isDigit = true) (stops : ∀ c, rest.head? = some c → c.isDigit = false)
    {sign : List Char} (signed : sign = [] ∨ sign = ['-']) :
    read? (sign ++ (digits ++ '.' :: rest)) = none := by
  have none := numeral?_point nonempty chars stops signed
  obtain ⟨c, others, same, begins⟩ : ∃ c others, sign ++ (digits ++ '.' :: rest) = c :: others ∧
      (c.isDigit = true ∨ c = '-') := by
    rcases signed with rfl | rfl
    · obtain ⟨c, others, rfl⟩ := List.exists_cons_of_ne_nil nonempty
      exact ⟨c, _, rfl, Or.inl (chars c List.mem_cons_self)⟩
    · exact ⟨'-', _, rfl, Or.inr rfl⟩
  rw [same] at none ⊢
  have solid : skipSpace (c :: others) = c :: others := by
    have plain : isSpace c = false := by
      cases blank : isSpace c with
      | false => rfl
      | true =>
        simp only [isSpace, Bool.or_eq_true, beq_iff_eq] at blank
        rcases blank with ((rfl | rfl) | rfl) | rfl <;> revert begins <;> decide
    simp [skipSpace, plain]
  have value : ∀ fuel depth, readValue fuel depth (c :: others) = Option.none := by
    intro fuel depth
    cases fuel with
    | zero => rfl
    | succ fuel =>
      have other : ∀ d, d.isDigit = false → d ≠ '-' → ∀ rest, c :: others = d :: rest → False := by
        rintro d letter minus rest same
        cases same
        rcases begins with digit | rfl
        · rw [letter] at digit
          cases digit
        · exact minus rfl
      rw [readValue, solid]
      split
      · exact (other '"' rfl (by decide) _ ‹_›).elim
      · exact (other '[' rfl (by decide) _ ‹_›).elim
      · exact (other '\x7b' rfl (by decide) _ ‹_›).elim
      · exact (other 'n' rfl (by decide) _ ‹_›).elim
      · exact (other 't' rfl (by decide) _ ‹_›).elim
      · exact (other 'f' rfl (by decide) _ ‹_›).elim
      · rw [none]
        rfl
  rw [read?, value]
end Stencil.Json

namespace Stencil.Template

variable {more : List Char}

/-! ### Places without operands -/

/-- A character with which a path may begin. -/
def beginsPath (c : Char) : Bool := isNameChar c || ".@[".toList.contains c

section

variable {c : Char}

theorem isReserved_eq_false (other : isNameChar c = false) (text : List Char) :
    isReserved (c :: text) = false := by
  have first : 'a' ≠ c := by
    rintro rfl
    cases other
  have second : 'e' ≠ c := by
    rintro rfl
    cases other
  simp [isReserved, Text.after?, first, second]

theorem read?_eq_none (other : beginsPath c = false) (text : List Char) :
    Path.read? (c :: text) = none := by
  obtain ⟨name, mark⟩ := Bool.or_eq_false_iff.mp other
  have word : 't' ≠ c := by
    rintro rfl
    cases name
  have apart : '.' ≠ c ∧ c ≠ '@' ∧ c ≠ '[' := by
    refine ⟨?_, ?_, ?_⟩
    all_goals
      rintro rfl
      cases mark
  have current : Path.dropCurrent (c :: text) = c :: text := by
    simp [Path.dropCurrent, Path.wordAndSeparator?, Text.after?, word, apart.1]
  exact Path.read?_eq_none_of_ups current apart.2.1
    (Path.readUps.eq_2 _ fun d others same => apart.1 (List.cons.inj same).1.symm)
    ⟨name, apart.2.2⟩

theorem operand?_eq_call? {text : List Char} (path : Path.read? (c :: text) = none)
    (name : isNameChar c = false) (literal : beginsLiteral c = false) (fuel : Nat) :
    operand? (fuel + 1) (c :: text) = call? fuel (c :: text) := by
  have free := isReserved_eq_false name text
  have other : literal? (fuel + 1) (c :: text) = none := by
    rw [literal?, afterLiteral?_eq_none literal]
    rfl
  simp only [operand?, free, other, path, Bool.false_eq_true, if_false]

theorem call?_eq_none (other : c ≠ '(') (fuel : Nat) (text : List Char) :
    call? fuel (c :: text) = none := by
  cases fuel with
  | zero => rfl
  | succ fuel => simp [call?, other]

theorem call?_begins {fuel : Nat} {text : List Char} {found : Checked Operand × List Char}
    (read : call? fuel text = some found) : ∃ others, text = '(' :: others := by
  cases text with
  | nil => cases fuel <;> cases read
  | cons c text =>
    by_cases opens : c = '('
    · subst opens
      exact ⟨text, rfl⟩
    · rw [call?_eq_none opens] at read
      cases read

theorem name?_eq_none (other : isNameChar c = false) (text : List Char) : name? (c :: text) = none := by
  simp [name?, other]

/-- There is no operand where no path begins, nor anything else. -/
theorem operand?_eq_none {text : List Char} (path : Path.read? (c :: text) = none)
    (name : isNameChar c = false) (literal : beginsLiteral c = false) (plain : c ≠ '(') (fuel : Nat) :
    operand? fuel (c :: text) = none := by
  cases fuel with
  | zero => rfl
  | succ fuel => rw [operand?_eq_call? path name literal, call?_eq_none plain]

end

/-- Reads one argument, a named option if it may be one. -/
def argument? (fuel : Nat) (text : List Char) :
    Option (Option String × Checked Operand × List Char) :=
  let named := (name? (skip text)).bind fun (key, rest) =>
    ((token? "=" rest).bind fun rest => operand? fuel (skip rest)).map fun (operand, rest) =>
      (some key, operand, rest)
  named.or ((operand? fuel (skip text)).map fun (operand, rest) => (none, operand, rest))

theorem arguments_succ (fuel : Nat) (text : List Char) : arguments (fuel + 1) text =
    match argument? fuel text with
    | none => ([], text)
    | some (key, operand, rest) =>
      ((key, operand) :: (arguments fuel rest).1, (arguments fuel rest).2) := by
  rw [arguments]
  rfl

theorem arguments_eq_nil_of_none {text : List Char} (none : ∀ fuel, argument? fuel text = none)
    (fuel : Nat) : arguments fuel text = ([], text) := by
  cases fuel with
  | zero => rfl
  | succ fuel => rw [arguments_succ, none]

/-- There are no arguments where no path begins, nor anything else. -/
theorem arguments_eq_nil {c : Char} {text rest : List Char} (skipped : skip text = c :: rest)
    (path : Path.read? (c :: rest) = none) (name : isNameChar c = false)
    (literal : beginsLiteral c = false) (plain : c ≠ '(') (fuel : Nat) :
    arguments fuel text = ([], text) := by
  refine arguments_eq_nil_of_none (fun fuel => ?_) fuel
  rw [argument?, skipped, name?_eq_none name, operand?_eq_none path name literal plain]
  rfl

theorem arguments_eq_nil_of_separator {c : Char} {rest : List Char}
    (separates : Path.isSeparator c = true) (path : Path.read? (c :: rest) = none) (fuel : Nat) :
    arguments fuel (c :: rest) = ([], c :: rest) := by
  have name := Path.not_isNameChar_of_isSeparator separates
  have skipped : skip (c :: rest) = c :: rest := by
    rcases Path.separator_cases separates with rfl | rfl <;> rfl
  refine arguments_eq_nil skipped path name ?_ ?_ fuel
  · rcases Path.separator_cases separates with rfl | rfl <;> decide
  · rcases Path.separator_cases separates with rfl | rfl <;> decide

/-! ### What is left behind a name -/

/-- A name is read up to its end. -/
theorem name?_append {name behind : List Char} (nonempty : name ≠ [])
    (chars : ∀ c ∈ name, isNameChar c = true)
    (stops : ∀ c, behind.head? = some c → isNameChar c = false) :
    name? (name ++ behind) = some (String.ofList name, behind) := by
  have taken := Path.takeWhile_append_stop chars stops
  have dropped : (name ++ behind).dropWhile isNameChar = behind := by
    rw [List.dropWhile_append_of_pos chars]
    cases behind with
    | nil => rfl
    | cons c behind => exact List.dropWhile_cons_of_neg (by simp [stops c rfl])
  simp [name?, taken, dropped, nonempty]

theorem Seam.name?_append {text : List Char} (seam : Seam text more) :
    name? (text ++ more) = (name? text).map fun found => (found.1, found.2 ++ more) := by
  simp only [name?, seam.takeWhile_append _ nameChar_fails, seam.dropWhile_append _ nameChar_fails]
  split <;> rfl

/-- The name behind blanks, or its absence, is the same in front of more. -/
theorem name?_skip_append {text : List Char} (closes : '\x7d' ∈ skip text) (more : List Char) :
    name? (skip (text ++ more)) = (name? (skip text)).map fun found => (found.1, found.2 ++ more) := by
  rw [skip_append (List.ne_nil_of_mem closes)]
  exact (Seam.closed more closes).name?_append

theorem name?_eq_some {text left : List Char} {key : String} (name : name? text = some (key, left)) :
    (∃ c others, text = c :: others ∧ isNameChar c = true) ∧ text.dropWhile isNameChar = left := by
  simp only [name?] at name
  split at name
  · cases name
  · rename_i nonempty
    cases name
    refine ⟨?_, rfl⟩
    cases text with
    | nil => exact absurd rfl nonempty
    | cons c others =>
      refine ⟨c, others, rfl, ?_⟩
      cases char : isNameChar c with
      | true => rfl
      | false => simp [char] at nonempty

namespace Path

/-- A path that begins with a name leaves nothing of the name. -/
theorem suffix_of_name {text left rest : List Char} {key : String} {path : Path}
    (name : name? text = some (key, left)) (read : read? text = some (path, rest)) :
    rest <:+ left := by
  obtain ⟨⟨c, others, rfl, char⟩, behind⟩ := name?_eq_some name
  have plain : c ≠ '@' ∧ c ≠ '.' ∧ c ≠ '[' := by
    refine ⟨?_, ?_, ?_⟩
    all_goals
      rintro rfl
      cases char
  obtain ⟨current, split, currentCases⟩ := dropCurrent_split (c :: others)
  have word : ∀ d, isSeparator d = true → c :: others = "this".toList ++ d :: dropCurrent (c :: others) →
      rest <:+ left := by
    intro d separates same
    have stop := not_isNameChar_of_isSeparator separates
    have chars : ∀ c ∈ "this".toList, isNameChar c = true := List.all_eq_true.mp rfl
    rw [same, List.dropWhile_append_of_pos chars,
      List.dropWhile_cons_of_neg (by simp [stop])] at behind
    rw [← behind]
    exact (suffix_dropCurrent read).trans (List.suffix_cons d _)
  rcases currentCases with rfl | rfl | rfl | rfl
  · have current : dropCurrent (c :: others) = c :: others := split.symm
    have root : readRoot (c :: others) = ([], c :: others) := by
      simp [readRoot, wordAndSeparator?, Text.after?, Ne.symm plain.1]
    have mark : readMark (c :: others) = ([], c :: others) := by simp [readMark, plain.1]
    have ups : readUps (c :: others) = ([], c :: others) :=
      readUps.eq_2 _ fun d tail same => plain.2.1 (List.cons.inj same).1
    obtain ⟨first, tail, item, _, suffix⟩ := read?_eq_some read
    rw [behindUps, current, root, mark, ups,
      readItem?.eq_2 _ fun tail same => plain.2.2 (List.cons.inj same).1] at item
    split at item
    · cases item
    · cases item
      rwa [behind] at suffix
  · exact word '.' rfl split
  · exact word '/' rfl split
  · exact absurd (List.cons.inj split).1 plain.2.1

/-- A path is the first name of the text, or a separator stands behind that name, where no path
begins. -/
theorem behind_name {text left rest : List Char} {key : String} {path : Path}
    (name : name? text = some (key, left)) (read : read? text = some (path, rest)) :
    rest = left ∨ ∃ c others, left = c :: others ∧ isSeparator c = true ∧
      ∀ more, read? (left ++ more) = none := by
  have suffix := suffix_of_name name read
  obtain ⟨⟨c, others, same, char⟩, behind⟩ := name?_eq_some name
  have whole := raw_append read
  have opening := opening_of_read read
  generalize path.raw.toList = raw at opening whole
  cases opening with
  | @marked d others mark =>
    rw [same] at whole
    obtain ⟨rfl, _⟩ := List.cons.inj whole
    rcases mark with rfl | rfl | rfl <;> cases char
  | @word first further nonempty chars stops =>
    rw [← whole, List.append_assoc, List.dropWhile_append_of_pos chars] at behind
    rcases stops with rfl | ⟨d, others, rfl, separates, none⟩
    · refine Or.inl (suffix.eq_of_length_le ?_)
      rw [← behind]
      exact (List.dropWhile_suffix isNameChar).length_le
    · have stop := not_isNameChar_of_isSeparator separates
      rw [List.cons_append, List.dropWhile_cons_of_neg (by simp [stop])] at behind
      refine Or.inr ⟨d, others ++ rest, behind.symm, separates, fun more => ?_⟩
      rw [← behind, ← List.cons_append, List.append_assoc]
      exact none (rest ++ more)

end Path

/-- No data has a point that no digit follows. -/
theorem Pointed.digit {text others rest : List Char} (pointed : Pointed text others)
    (suffix : rest <:+ others.dropWhile Char.isDigit) {operand : Operand}
    (valid : literalOf (text.take (text.length - rest.length)) = .ok operand) :
    ∃ d tail, others = d :: tail ∧ d.isDigit = true := by
  obtain ⟨sign, digits, rfl, signed, nonempty, chars⟩ := pointed
  obtain ⟨part, split⟩ := suffix
  have invalid : (∀ c, part.head? = some c → c.isDigit = false) → others = part ++ rest → False := by
    rintro stops rfl
    have taken : (sign ++ (digits ++ '.' :: (part ++ rest))).take
        ((sign ++ (digits ++ '.' :: (part ++ rest))).length - rest.length) =
        sign ++ (digits ++ '.' :: part) := by
      have parts : sign ++ (digits ++ '.' :: (part ++ rest)) =
          (sign ++ (digits ++ '.' :: part)) ++ rest := by simp
      rw [parts, List.length_append, Nat.add_sub_cancel, List.take_left]
    have none := Json.read?_point nonempty chars stops signed
    rw [taken] at valid
    unfold literalOf at valid
    split at valid
    · rename_i tail same
      rcases signed with rfl | rfl
      · obtain ⟨c, tail, rfl⟩ := List.exists_cons_of_ne_nil nonempty
        obtain ⟨rfl, _⟩ := List.cons.inj same
        have digit := chars '\'' List.mem_cons_self
        cases digit
      · cases same
    · rw [none] at valid
      cases valid
  cases others with
  | nil =>
    have empty := List.append_eq_nil_iff.mp (split.trans rfl)
    obtain ⟨rfl, rfl⟩ := empty
    exact (invalid (by simp) rfl).elim
  | cons d tail =>
    cases digit : d.isDigit with
    | true => exact ⟨d, tail, rfl, digit⟩
    | false =>
      rw [List.dropWhile_cons_of_neg (by simp [digit])] at split
      refine (invalid (fun c found => ?_) split.symm).elim
      cases part with
      | nil => cases found
      | cons e part =>
        cases found
        rw [← (List.cons.inj split).1] at digit
        exact digit

/-- An argument is the first name of the text, or a separator stands behind that name, where no path
begins. -/
theorem behind_name_of_operand? {fuel : Nat} {text left rest : List Char} {key : String}
    {operand : Operand} (read : operand? fuel text = some (.ok operand, rest))
    (name : name? text = some (key, left)) : rest = left ∨ ∃ c others, left = c :: others ∧
      Path.isSeparator c = true ∧ ∀ more, Path.read? (left ++ more) = none := by
  obtain ⟨⟨c, tail, rfl, char⟩, behind⟩ := name?_eq_some name
  cases fuel with
  | zero => cases read
  | succ fuel =>
    simp only [operand?] at read
    split at read
    · cases read
    · split at read
      · rename_i found literal
        cases read
        obtain ⟨rest, after, same⟩ := Option.map_eq_some_iff.mp literal
        obtain ⟨valid, rfl⟩ := Prod.mk.inj same
        have plain : "\"'[\x7b".toList.contains c = false := by
          cases mark : "\"'[\x7b".toList.contains c with
          | false => rfl
          | true =>
            have cases : c = '"' ∨ c = '\'' ∨ c = '[' ∨ c = '\x7b' := by
              simpa [List.contains_iff_mem] using mark
            rcases cases with rfl | rfl | rfl | rfl <;> cases char
        rw [afterLiteral?_plain plain] at after
        rcases Option.or_eq_some_iff.mp after with number | ⟨_, word⟩
        · rcases name_of_afterNumber? number with whole | ⟨others, ⟨pointed⟩, suffix⟩
          · exact Or.inl (whole.symm.trans behind)
          · obtain ⟨d, tail, rfl, digit⟩ := pointed.digit suffix valid
            rw [pointed.name] at behind
            refine Or.inr ⟨'.', d :: tail, behind.symm, rfl, fun more => ?_⟩
            have plain : Path.isSeparator d = false := by
              cases separates : Path.isSeparator d with
              | false => rfl
              | true => rcases Path.separator_cases separates with rfl | rfl <;> cases digit
            rw [← behind]
            exact Path.read?_behind Path.Climb.stay rfl plain (tail ++ more)
        · exact Or.inl ((name_of_afterWord? word).symm.trans behind)
      · split at read
        · rename_i path left found
          cases read
          exact Path.behind_name name found
        · have other : c ≠ '(' := by
            rintro rfl
            cases char
          rw [call?_eq_none other] at read
          cases read

end Stencil.Template
