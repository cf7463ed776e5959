import Stencil.Proofs.PathContext

set_option autoImplicit false

/-!
Literals and paths as arguments. A text that is a literal or a path by itself is read as the same where
a call goes on behind it (`Leaf.operand?_append`), and not as the name of an option (`Leaf.keyFree`).

Only a path in brackets may be read otherwise: `["a]` is one, and the beginning of a literal in
`["a] "]`. So a path has to say that it is nowhere the beginning of a literal. One that does not begin
with a bracket never is (`apart_of_unbracketed`), nor is one whose brackets begin with no item
(`apart_of_bracketed`).
-/

namespace Stencil.Template

variable {more : List Char}

/-! ### Reserved words and keys -/

theorem isReserved_append {text : List Char} (seam : Seam text more)
    (free : isReserved text = false) : isReserved (text ++ more) = false := by
  rw [isReserved] at free ⊢
  rw [seam.findWord?_append rfl]
  cases found : ["as", "else"].findSome? fun word => Text.after? word.toList text with
  | none => rfl
  | some rest =>
    have named : endsName (skip rest) = false := by
      rw [found] at free
      exact free
    show endsName (skip (rest ++ more)) = false
    cases begins : skip rest with
    | nil =>
      rw [begins] at named
      cases named
    | cons c others =>
      rw [skip_append (by simp [begins]), begins]
      rw [begins] at named
      exact named

/-- True for a text that is not read as a key: behind its first name stand neither spaces nor an equals
sign. -/
def KeyFree (text : List Char) : Prop :=
  ∀ c, (text.dropWhile isNameChar).head? = some c → isSpace c = false ∧ c ≠ '='

theorem token?_equals_of_follows (follows : Follows more) : token? "=" more = none := by
  cases follows with
  | callEnd rest => rfl
  | tagEnd rest => rfl
  | @argument c rest begins =>
    have plain : isSpace c = false ∧ c ≠ '=' := by
      simp only [beginsArgument, Bool.and_eq_true, Bool.not_eq_true', bne_iff_ne] at begins
      exact ⟨begins.1.1.1, begins.1.1.2⟩
    have skipped : skip (' ' :: c :: rest) = c :: rest := by
      simp [skip, plain.1, show isSpace ' ' = true by decide]
    rw [token?, skipped]
    simp [Text.after?, Ne.symm plain.2]

theorem KeyFree.keyless {text : List Char} (keyFree : KeyFree text) (follows : Follows more)
    {key : String} {rest : List Char} (read : name? (text ++ more) = some (key, rest)) :
    token? "=" rest = none := by
  simp only [name?, (follows.seam text).dropWhile_append _ nameChar_fails] at read
  split at read
  · cases read
  · cases read
    cases behind : text.dropWhile isNameChar with
    | nil => exact token?_equals_of_follows follows
    | cons c others =>
      obtain ⟨solid, differs⟩ := keyFree c (by rw [behind]; rfl)
      simp [token?, skip, solid, Text.after?, Ne.symm differs]

theorem dropWhile_of_imp {α : Type} {narrow wide : α → Bool}
    (imp : ∀ a, narrow a = true → wide a = true) (list : List α) :
    (list.dropWhile narrow).dropWhile wide = list.dropWhile wide := by
  induction list with
  | nil => rfl
  | cons a list ih =>
    by_cases passes : narrow a = true
    · simp [passes, imp a passes, ih]
    · simp [passes]

theorem isNameChar_of_isDigit (c : Char) (digit : c.isDigit = true) : isNameChar c = true := by
  simp [isNameChar, Text.isPlainAlphanumeric, digit]

theorem dropWhile_sign (text : List Char) :
    ((Text.after? ['-'] text).getD text).dropWhile isNameChar = text.dropWhile isNameChar := by
  cases sign : Text.after? ['-'] text with
  | none => rfl
  | some rest =>
    rw [Text.after?_eq_some_iff.mp sign]
    simp [show isNameChar '-' = true by decide]

theorem dropWhile_exponent (text : List Char) :
    (afterExponent text).dropWhile isNameChar = text.dropWhile isNameChar := by
  unfold afterExponent
  split
  · rename_i rest
    dsimp only
    split
    · rw [dropWhile_of_imp isNameChar_of_isDigit, dropWhile_sign,
        List.dropWhile_cons_of_pos (by decide)]
    · rfl
  · rfl

theorem dropWhile_of_endsName {text : List Char} (ends : endsName text = true) :
    text.dropWhile isNameChar = text := by
  cases text with
  | nil => rfl
  | cons c text =>
    have stop : isNameChar c = false := by simpa [endsName] using ends
    exact List.dropWhile_cons_of_neg (by simp [stop])

/-- A text that begins with digits, perhaps behind a minus sign, and a point before the others. -/
structure Pointed (text others : List Char) where
  sign : List Char
  digits : List Char
  same : text = sign ++ (digits ++ '.' :: others)
  signed : sign = [] ∨ sign = ['-']
  nonempty : digits ≠ []
  chars : ∀ c ∈ digits, c.isDigit = true

theorem Pointed.name {text others : List Char} (pointed : Pointed text others) :
    text.dropWhile isNameChar = '.' :: others := by
  have sign : ∀ c ∈ pointed.sign, isNameChar c = true := by
    rcases pointed.signed with none | minus
    · simp [none]
    · simp [minus, isNameChar]
  rw [pointed.same, List.dropWhile_append_of_pos sign,
    List.dropWhile_append_of_pos fun c member => isNameChar_of_isDigit c (pointed.chars c member),
    List.dropWhile_cons_of_neg (by decide)]

/-- What stands behind the first name of a number is behind the number, too, or is a point. -/
theorem name_of_afterNumber? {text rest : List Char} (read : afterNumber? text = some rest) :
    text.dropWhile isNameChar = rest ∨
      ∃ others, Nonempty (Pointed text others) ∧ rest <:+ others.dropWhile Char.isDigit := by
  obtain ⟨sign, signed, split⟩ : ∃ sign, (sign = [] ∨ sign = ['-']) ∧
      text = sign ++ (Text.after? ['-'] text).getD text := by
    cases minus : Text.after? ['-'] text with
    | none => exact ⟨[], Or.inl rfl, rfl⟩
    | some rest => exact ⟨['-'], Or.inr rfl, Text.after?_eq_some_iff.mp minus⟩
  have named := dropWhile_sign text
  unfold afterNumber? at read
  generalize (Text.after? ['-'] text).getD text = digits at read named split
  dsimp only at read
  split at read
  · rename_i digit
    split at read
    · rename_i ends
      have whole := Option.some.inj read
      rw [whole] at ends
      rw [← named, ← dropWhile_of_imp isNameChar_of_isDigit]
      cases behind : digits.dropWhile Char.isDigit with
      | nil =>
        rw [behind] at whole
        exact Or.inl whole
      | cons d others =>
        rw [behind] at whole
        by_cases point : d = '.'
        · subst point
          refine Or.inr ⟨others, ⟨sign, digits.takeWhile Char.isDigit, ?_, signed, ?_, ?_⟩, ?_⟩
          · rw [← behind, List.takeWhile_append_dropWhile]
            exact split
          · intro empty
            cases digits with
            | nil => cases behind
            | cons c digits =>
              have first : c.isDigit = true := digit
              simp [first] at empty
          · exact fun c member => List.all_eq_true.mp List.all_takeWhile c member
          · rw [← whole]
            exact afterExponent_suffix _
        · have stops : d.isDigit = false := by
            have head := List.head?_dropWhile_not Char.isDigit digits
            simpa [behind] using head
          have same : ((Text.after? ['.'] (d :: others)).getD (d :: others)).dropWhile Char.isDigit =
              d :: others := by
            simp [Text.after?, Ne.symm point, stops]
          rw [same] at whole
          rw [← dropWhile_exponent, whole, dropWhile_of_endsName ends]
          exact Or.inl rfl
    · cases read
  · cases read

/-- What stands behind the first name of a fixed word is behind the word, too. -/
theorem name_of_afterWord? {text rest : List Char} (read : afterWord? text = some rest) :
    text.dropWhile isNameChar = rest := by
  obtain ⟨_, ends⟩ := Option.filter_eq_some_iff.mp read
  have behind : ∀ word : List Char, word.all isNameChar = true →
      (word ++ rest).dropWhile isNameChar = rest := by
    intro word chars
    rw [List.dropWhile_append_of_pos (List.all_eq_true.mp chars), dropWhile_of_endsName ends]
  rcases afterWord?_split read with rfl | rfl | rfl
  · exact behind "null".toList rfl
  · exact behind "true".toList rfl
  · exact behind "false".toList rfl

theorem keyFree_of_afterNumber? {text : List Char} (read : afterNumber? text = some []) :
    KeyFree text := by
  intro c found
  rcases name_of_afterNumber? read with whole | ⟨others, ⟨pointed⟩, _⟩
  · rw [whole] at found
    cases found
  · rw [pointed.name] at found
    cases found
    decide

theorem keyFree_of_afterWord? {text : List Char} (read : afterWord? text = some []) :
    KeyFree text := by
  intro c found
  rw [name_of_afterWord? read] at found
  cases found

theorem keyFree_of_mark {c : Char} (mark : "\"'[\x7b.@".toList.contains c = true)
    (others : List Char) : KeyFree (c :: others) := by
  have cases : c = '"' ∨ c = '\'' ∨ c = '[' ∨ c = '\x7b' ∨ c = '.' ∨ c = '@' := by
    simpa [List.contains_iff_mem] using mark
  intro d found
  rcases cases with rfl | rfl | rfl | rfl | rfl | rfl
  all_goals
    cases found
    decide

theorem keyFree_of_afterLiteral? {fuel : Nat} {text : List Char}
    (read : afterLiteral? fuel text = some []) : KeyFree text := by
  cases fuel with
  | zero => cases read
  | succ fuel =>
    cases text with
    | nil => intro c found; cases found
    | cons c text =>
      cases plain : "\"'[\x7b".toList.contains c with
      | false =>
        rw [afterLiteral?_plain plain] at read
        rcases Option.or_eq_some_iff.mp read with number | ⟨_, word⟩
        · exact keyFree_of_afterNumber? number
        · exact keyFree_of_afterWord? word
      | true =>
        refine keyFree_of_mark ?_ text
        simp only [List.contains_iff_mem] at plain ⊢
        exact List.mem_append_left ['.', '@'] plain

theorem Path.Opening.keyFree {text : List Char} (opening : Path.Opening text) : KeyFree text := by
  cases opening with
  | @marked c others mark =>
    refine keyFree_of_mark ?_ others
    rcases mark with rfl | rfl | rfl <;> decide
  | @word name behind nonempty chars stops =>
    intro d found
    rw [List.dropWhile_append_of_pos chars] at found
    rcases stops with rfl | ⟨c, others, rfl, separates, _⟩
    · cases found
    · rw [List.dropWhile_cons_of_neg (by simp [Path.not_isNameChar_of_isSeparator separates])] at found
      cases found
      rcases Path.separator_cases separates with rfl | rfl <;> decide

/-! ### Leaves -/

/-- What begins no argument begins neither a literal nor a path. -/
theorem cases_of_not_beginsArgument {c : Char} (other : beginsArgument c = false) :
    c = ' ' ∨ c = '\t' ∨ c = '\n' ∨ c = '\r' ∨ c = '=' ∨ c = ',' ∨ c = ']' := by
  by_cases space : isSpace c = true
  · simp only [isSpace, Bool.or_eq_true, beq_iff_eq] at space
    rcases space with ((rfl | rfl) | rfl) | rfl <;> simp
  · simp only [beginsArgument, space, Bool.not_false, Bool.true_and, Bool.and_eq_false_iff,
      bne_eq_false_iff_eq] at other
    rcases other with (rfl | rfl) | rfl <;> simp

theorem beginsArgument_of_beginsLiteral {c : Char} (literal : beginsLiteral c = true) :
    beginsArgument c = true := by
  cases other : beginsArgument c with
  | true => rfl
  | false =>
    rcases cases_of_not_beginsArgument other with rfl | rfl | rfl | rfl | rfl | rfl | rfl <;>
      cases literal

theorem beginsArgument_of_path {c : Char}
    (path : isNameChar c = true ∨ c = '.' ∨ c = '@' ∨ c = '[') : beginsArgument c = true := by
  cases other : beginsArgument c with
  | true => rfl
  | false =>
    rcases cases_of_not_beginsArgument other with rfl | rfl | rfl | rfl | rfl | rfl | rfl <;>
      revert path <;> decide

/-- A literal as it is written. -/
structure WrittenLiteral where
  text : List Char
  value : Json
  read : ∃ fuel, literal? fuel text = some (.ok (.literal value), [])

namespace WrittenLiteral

variable (leaf : WrittenLiteral)

/-- The reader of literals passes the whole text, and the text is that of the value. -/
theorem passed : (∃ fuel, afterLiteral? fuel leaf.text = some []) ∧
    literalOf leaf.text = .ok (.literal leaf.value) := by
  obtain ⟨fuel, read⟩ := leaf.read
  obtain ⟨rest, after, same⟩ := Option.map_eq_some_iff.mp read
  obtain ⟨value, rfl⟩ := Prod.mk.inj same
  rw [List.length_nil, Nat.sub_zero, List.take_length] at value
  exact ⟨⟨fuel, after⟩, value⟩

theorem begins : ∃ c others, leaf.text = c :: others ∧ beginsLiteral c = true := by
  obtain ⟨⟨fuel, after⟩, _⟩ := leaf.passed
  exact begins_of_afterLiteral? after

theorem isReserved_append (more : List Char) : isReserved (leaf.text ++ more) = false := by
  obtain ⟨c, others, same, literal⟩ := leaf.begins
  have first : 'a' ≠ c := by
    rintro rfl
    cases literal
  have second : 'e' ≠ c := by
    rintro rfl
    cases literal
  simp [isReserved, same, Text.after?, first, second]

end WrittenLiteral

/-! ### Paths that begin no literal -/

/-- True for a text with which no literal begins, and none would if more stood behind it. -/
def beginsNone (text : List Char) : Bool :=
  (text.head?.any fun c => !"\"'[\x7b".toList.contains c) &&
    ((afterNumber? text).or (afterWord? text)).isNone

theorem afterLiteral?_of_beginsNone {text : List Char} (seam : Seam text more)
    (other : beginsNone text = true) (fuel : Nat) : afterLiteral? fuel (text ++ more) = none := by
  cases fuel with
  | zero => rfl
  | succ fuel =>
    cases text with
    | nil => cases other
    | cons c text =>
      simp only [beginsNone, List.head?_cons, Option.any_some, Bool.and_eq_true, Bool.not_eq_true',
        Option.isNone_iff_eq_none] at other
      rw [List.cons_append, afterLiteral?_plain other.1, ← List.cons_append,
        seam.afterNumber?_append, seam.afterWord?_append, ← Option.map_or, other.2]
      rfl

theorem apart_of_unbracketed {text : List Char} (other : beginsNone text = true) (fuel : Nat)
    (more : List Char) (follows : Follows more) : literal? fuel (text ++ more) = none := by
  rw [literal?, afterLiteral?_of_beginsNone (follows.seam text) other]
  rfl

/-- What stands behind the bracket is neither an item nor a further one nor the end of the items. -/
theorem apart_of_bracketed (body : List Char) (other : beginsNone (skip body) = true)
    (stays : (skip body).head? ≠ some ',' ∧ (skip body).head? ≠ some ']') (fuel : Nat)
    (more : List Char) (follows : Follows more) : literal? fuel ('[' :: body ++ more) = none := by
  have skipped : skip (body ++ more) = skip body ++ more := by
    refine skip_append ?_ more
    intro empty
    rw [empty] at other
    cases other
  have missing : ∀ fuel, afterItem? fuel (body ++ more) = none := by
    intro fuel
    rw [afterItem?, skipped]
    exact afterLiteral?_of_beginsNone (follows.seam _) other fuel
  have closed : ∀ fuel, afterItems? fuel (body ++ more) = none := by
    intro fuel
    cases read : afterItems? fuel (body ++ more) with
    | none => rfl
    | some rest =>
      obtain ⟨others, begins⟩ := readsFurther_items.begins read
      rw [skipped] at begins
      cases same : skip body with
      | nil =>
        rw [same] at other
        cases other
      | cons c text =>
        rw [same] at begins stays
        rcases begins with comma | bracket
        · exact absurd (congrArg some (List.cons.inj comma).1) stays.1
        · exact absurd (congrArg some (List.cons.inj bracket).1) stays.2
  have none : afterLiteral? fuel ('[' :: body ++ more) = none := by
    cases fuel with
    | zero => rfl
    | succ fuel =>
      have opened : afterLiteral? (fuel + 1) ('[' :: (body ++ more)) =
          afterItems? fuel ((afterItem? fuel (body ++ more)).getD (body ++ more)) := rfl
      rw [List.cons_append, opened, missing, Option.getD_none, closed]
  rw [literal?, none]
  rfl

/-- A path as it is written. -/
structure WrittenPath where
  text : List Char
  path : Path
  read : Path.read? text = some (path, [])
  free : isReserved text = false
  /-- The path is not the beginning of a literal. -/
  apart : ∀ fuel more, Follows more → literal? fuel (text ++ more) = none

/-- An argument that is no call. -/
inductive Leaf where
  | literal (leaf : WrittenLiteral)
  | path (leaf : WrittenPath)

namespace Leaf

def text : Leaf → List Char
  | .literal leaf => leaf.text
  | .path leaf => leaf.text

def operand : Leaf → Operand
  | .literal leaf => .literal leaf.value
  | .path leaf => .path leaf.path

theorem keyFree (leaf : Leaf) : KeyFree leaf.text := by
  cases leaf with
  | literal leaf =>
    obtain ⟨⟨fuel, after⟩, _⟩ := leaf.passed
    exact keyFree_of_afterLiteral? after
  | path leaf => exact (Path.opening_of_whole leaf.read).keyFree

theorem begins (leaf : Leaf) : ∃ c others, leaf.text = c :: others ∧ beginsArgument c = true := by
  cases leaf with
  | literal leaf =>
    obtain ⟨c, others, same, literal⟩ := leaf.begins
    exact ⟨c, others, same, beginsArgument_of_beginsLiteral literal⟩
  | path leaf =>
    obtain ⟨c, others, same, path⟩ := (Path.opening_of_whole leaf.read).begins
    exact ⟨c, others, same, beginsArgument_of_path path⟩

/-- A leaf is read as it is by itself where more follows. -/
theorem operand?_append (leaf : Leaf) (follows : Follows more) {fuel : Nat}
    (enough : leaf.text.length < fuel) :
    operand? fuel (leaf.text ++ more) = some (.ok leaf.operand, more) := by
  obtain ⟨fuel, rfl⟩ : ∃ less, fuel = less + 1 := ⟨fuel - 1, by omega⟩
  cases leaf with
  | literal leaf =>
    have free := leaf.isReserved_append more
    obtain ⟨less, read⟩ := leaf.read
    have read : literal? (fuel + 1) (leaf.text ++ more) = some (.ok (.literal leaf.value), more) :=
      literal?_append read (follows.seam []) (Nat.le_of_lt enough)
    simp only [operand?, text, operand, free, read, Bool.false_eq_true, if_false]
  | path leaf =>
    have free := isReserved_append (follows.seam leaf.text) leaf.free
    have apart := leaf.apart (fuel + 1) more follows
    have read : Path.read? (leaf.text ++ more) = some (leaf.path, more) :=
      Path.read?_append leaf.read Path.clear_nil (follows.seam [])
    simp only [operand?, text, operand, free, apart, read, Bool.false_eq_true, if_false]

end Leaf

end Stencil.Template
