import Stencil.Proofs.NameContext
import Stencil.Template.Nesting

set_option autoImplicit false

/-!
Written calls. A call whose arguments are read as they are written is read as they are
(`WrittenOperand.call`), and so is a tag around what it says (`tag?_of_written`), whatever the arguments
are: literals and paths, or calls again.
-/

namespace Stencil

open Template (isNameChar)

/-- The name of an option. -/
structure OptionName where
  name : String
  nonempty : name.toList ≠ []
  chars : ∀ c ∈ name.toList, isNameChar c = true

def OptionName.ofString (name : String) (nonempty : name.toList ≠ [])
    (chars : name.toList.all isNameChar = true) : OptionName :=
  ⟨name, nonempty, List.all_eq_true.mp chars⟩

/-- The name of an option before its value. -/
def keyText : Option OptionName → List Char
  | none => []
  | some key => key.name.toList ++ ['=']

end Stencil

namespace Stencil.Template

variable {text more : List Char} {operand : Operand} {written : List Argument}

/-! ### Ends of calls -/

/-- What stands behind the last argument of a call. -/
inductive EndsCall : List Char → Prop where
  | callEnd (rest : List Char) : EndsCall (')' :: rest)
  | tagEnd (rest : List Char) : EndsCall ('\x7d' :: rest)

theorem EndsCall.follows (ends : EndsCall more) : Follows more := by
  cases ends with
  | callEnd rest => exact Follows.callEnd rest
  | tagEnd rest => exact Follows.tagEnd rest

/-- The arguments of a call end with it. -/
theorem EndsCall.arguments_eq (ends : EndsCall more) (fuel : Nat) :
    arguments fuel more = ([], more) := by
  cases ends with
  | callEnd rest =>
    exact arguments_eq_nil rfl (read?_eq_none (by decide) rest) (by decide) (by decide) (by decide) fuel
  | tagEnd rest =>
    exact arguments_eq_nil rfl (read?_eq_none (by decide) rest) (by decide) (by decide) (by decide) fuel

/-! ### Arguments -/

theorem callOf_ok (head : Operand) (written : List Argument) :
    callOf (.ok head) (written.map fun argument => (argument.1, .ok argument.2)) =
      .ok ⟨head, written⟩ := by
  have all (check : Option String × Checked Operand → Checked Argument)
      (checks : ∀ argument : Argument, check (argument.1, .ok argument.2) = .ok argument) :
      (written.map fun argument => (argument.1, .ok argument.2)).mapM check = .ok written := by
    induction written with
    | nil => rfl
    | cons argument written ih =>
      rw [List.map_cons, List.mapM_cons, checks, ih]
      rfl
  rw [callOf, all _ fun argument => rfl]
  rfl

theorem skip_of_begins (begins : ∃ c others, text = c :: others ∧ isSpace c = false)
    (more : List Char) : skip (text ++ more) = text ++ more := by
  obtain ⟨c, others, rfl, solid⟩ := begins
  simp [skip, solid]

theorem isSpace_of_beginsArgument {c : Char} (begins : beginsArgument c = true) :
    isSpace c = false := by
  simp only [beginsArgument, Bool.and_eq_true, Bool.not_eq_true'] at begins
  exact begins.1.1.1

theorem beginsArgument_of_isNameChar {c : Char} (char : isNameChar c = true) :
    beginsArgument c = true := beginsArgument_of_path (Or.inl char)

/-- A text that is read as an operand wherever a call goes on behind it, and not as the name of an
option. -/
structure WrittenOperand (text : List Char) (operand : Operand) : Prop where
  begins : ∃ c others, text = c :: others ∧ beginsArgument c = true
  keyless : ∀ {more}, Follows more → ∀ key rest, name? (text ++ more) = some (key, rest) →
    token? "=" rest = none
  read : ∀ {more}, Follows more → ∀ {fuel}, text.length < fuel →
    operand? fuel (text ++ more) = some (.ok operand, more)

theorem Leaf.isWritten (leaf : Leaf) : WrittenOperand leaf.text leaf.operand :=
  ⟨leaf.begins, fun follows _ _ read => leaf.keyFree.keyless follows read, leaf.operand?_append⟩

/-- Arguments as they are written, a space before each, of which there is at least one. -/
inductive WrittenArguments : List Char → List Argument → Prop where
  | last (key : Option OptionName) {text : List Char} {operand : Operand}
      (first : WrittenOperand text operand) :
      WrittenArguments (' ' :: (keyText key ++ text)) [(key.map OptionName.name, operand)]
  | next (key : Option OptionName) {text others : List Char} {operand : Operand}
      {written : List Argument} (first : WrittenOperand text operand)
      (further : WrittenArguments others written) :
      WrittenArguments (' ' :: (keyText key ++ text) ++ others)
        ((key.map OptionName.name, operand) :: written)

/-- One argument and those behind it. -/
theorem arguments_cons (key : Option OptionName) (first : WrittenOperand text operand)
    (follows : Follows more) {fuel : Nat} (enough : text.length < fuel) :
    arguments (fuel + 1) (' ' :: (keyText key ++ text) ++ more) =
      ((key.map OptionName.name, .ok operand) :: (arguments fuel more).1, (arguments fuel more).2) := by
  have read := first.read follows enough
  have solid : ∃ c others, text = c :: others ∧ isSpace c = false := by
    obtain ⟨c, others, same, begins⟩ := first.begins
    exact ⟨c, others, same, isSpace_of_beginsArgument begins⟩
  cases key with
  | none =>
    have skipped : skip (' ' :: (keyText none ++ text) ++ more) = text ++ more :=
      skip_of_begins solid more
    cases name : name? (text ++ more) with
    | none =>
      simp only [arguments, skipped, name, read, Option.bind_none, Option.map_some, Option.none_or,
        Option.map_none]
    | some found =>
      obtain ⟨key, rest⟩ := found
      have equals : token? "=" rest = none := first.keyless follows key rest name
      simp only [arguments, skipped, name, equals, read, Option.bind_some, Option.bind_none,
        Option.map_some, Option.none_or, Option.map_none]
  | some key =>
    have skipped : skip (' ' :: (keyText (some key) ++ text) ++ more) =
        key.name.toList ++ '=' :: (text ++ more) := by
      obtain ⟨c, others, same⟩ := List.exists_cons_of_ne_nil key.nonempty
      have solid := isSpace_of_beginsArgument
        (beginsArgument_of_isNameChar (key.chars c (by simp [same])))
      have blank : isSpace ' ' = true := by decide
      simp [keyText, same, skip, solid, blank]
    have name : name? (key.name.toList ++ '=' :: (text ++ more)) =
        some (key.name, '=' :: (text ++ more)) := by
      rw [name?_append key.nonempty key.chars, String.ofList_toList]
      intro c found
      cases found
      decide
    have equals : token? "=" ('=' :: (text ++ more)) = some (text ++ more) := rfl
    simp only [arguments, skipped, name, equals, skip_of_begins solid more, read, Option.bind_some,
      Option.map_some, Option.some_or]

theorem begins_of_key (key : Option OptionName) (first : WrittenOperand text operand) :
    ∃ c others, keyText key ++ text = c :: others ∧ beginsArgument c = true := by
  cases key with
  | none => exact first.begins
  | some key =>
    obtain ⟨c, others, same⟩ := List.exists_cons_of_ne_nil key.nonempty
    refine ⟨c, others ++ '=' :: text, ?_, beginsArgument_of_isNameChar (key.chars c (by simp [same]))⟩
    simp [keyText, same]

namespace WrittenArguments

/-- Arguments follow whatever stands before them. -/
theorem follows (args : WrittenArguments text written) (more : List Char) :
    Follows (text ++ more) := by
  cases args with
  | last key first =>
    obtain ⟨c, others, same, begins⟩ := begins_of_key key first
    rw [same]
    exact Follows.argument _ begins
  | next key first further =>
    obtain ⟨c, others, same, begins⟩ := begins_of_key key first
    rw [same]
    exact Follows.argument _ begins

theorem ne_nil (args : WrittenArguments text written) : written ≠ [] := by
  cases args <;> simp

/-- Arguments are read up to the end of the call. -/
theorem read (args : WrittenArguments text written) {more : List Char} (ends : EndsCall more)
    {fuel : Nat} (enough : text.length < fuel) : arguments fuel (text ++ more) =
      (written.map fun argument => (argument.1, .ok argument.2), more) := by
  induction args generalizing fuel with
  | @last key text operand first =>
    simp only [List.length_cons, List.length_append] at enough
    obtain ⟨fuel, rfl⟩ : ∃ less, fuel = less + 1 := ⟨fuel - 1, by omega⟩
    have one := arguments_cons key first ends.follows (show text.length < fuel by omega)
    rw [ends.arguments_eq] at one
    exact one
  | @next key text others operand written first further ih =>
    simp only [List.length_cons, List.length_append] at enough
    obtain ⟨fuel, rfl⟩ : ∃ less, fuel = less + 1 := ⟨fuel - 1, by omega⟩
    have one := arguments_cons key first (further.follows more) (show text.length < fuel by omega)
    rw [ih (show others.length < fuel by omega)] at one
    rw [List.append_assoc]
    exact one

end WrittenArguments

/-! ### Calls -/

/-- A name with arguments. -/
theorem expression?_call {name : String} (nonempty : name.toList ≠ [])
    (chars : ∀ c ∈ name.toList, isNameChar c = true) (args : WrittenArguments text written)
    (ends : EndsCall more) {fuel : Nat} (enough : text.length < fuel) :
    expression? (fuel + 1) (name.toList ++ (text ++ more)) =
      some (.ok ⟨.word name, written⟩, more) := by
  have word : name? (name.toList ++ (text ++ more)) = some (name, text ++ more) := by
    obtain ⟨c, rest, same, fails⟩ := (args.follows more).exists_not isNameChar nameChar_fails
    rw [name?_append nonempty chars, String.ofList_toList]
    rw [same]
    intro d found
    cases found
    exact fails
  have call := callOf_ok (.word name) written
  have read := args.read ends enough
  cases same : written with
  | nil => exact absurd same args.ne_nil
  | cons argument others =>
    rw [same, List.map_cons] at read call
    simp only [expression?, word, Option.bind_some, read, call]

/-- A call in parentheses. -/
theorem WrittenOperand.call {name : String} (nonempty : name.toList ≠ [])
    (chars : ∀ c ∈ name.toList, isNameChar c = true) (args : WrittenArguments text written) :
    WrittenOperand ('(' :: (name.toList ++ text ++ [')'])) (.call (.word name) written) := by
  refine ⟨⟨'(', _, rfl, by decide⟩, ?_, ?_⟩
  · intro more follows key rest read
    cases read
  intro more follows fuel enough
  simp only [List.length_cons, List.length_append, List.length_nil] at enough
  obtain ⟨fuel, rfl⟩ : ∃ less, fuel = less + 3 := ⟨fuel - 3, by omega⟩
  have positive := List.length_pos_iff.mpr nonempty
  have call := expression?_call nonempty chars args (EndsCall.callEnd more)
    (show text.length < fuel by omega)
  have solid : ∃ c others, name.toList = c :: others ∧ isSpace c = false := by
    obtain ⟨c, others, same⟩ := List.exists_cons_of_ne_nil nonempty
    refine ⟨c, others, same, isSpace_of_beginsArgument ?_⟩
    exact beginsArgument_of_isNameChar (chars c (by simp [same]))
  have whole : '(' :: (name.toList ++ text ++ [')']) ++ more =
      '(' :: (name.toList ++ (text ++ (')' :: more))) := by
    simp
  have closed : token? ")" (')' :: more) = some more := rfl
  rw [whole, operand?_eq_call? (read?_eq_none (by decide) _) (by decide) (by decide)]
  simp only [call?, skip_of_begins solid, call, closed, Option.map_some]
  rfl

/-- No arguments stand behind the first name of a path. -/
theorem arguments_behind_path (opening : Path.Opening text)
    (stop : ∀ c, more.head? = some c → isNameChar c = false)
    (ends : ∀ fuel, arguments fuel more = ([], more)) (fuel : Nat) {name : String} {rest : List Char}
    (read : name? (text ++ more) = some (name, rest)) : (arguments fuel rest).1 = [] := by
  cases opening with
  | @marked c others mark =>
    rcases mark with rfl | rfl | rfl <;> cases read
  | @word first behind nonempty chars stops =>
    rw [List.append_assoc] at read
    rcases stops with rfl | ⟨c, others, rfl, separates, none⟩
    · rw [List.nil_append, name?_append nonempty chars stop] at read
      cases read
      exact congrArg Prod.fst (ends fuel)
    · have plain := Path.not_isNameChar_of_isSeparator separates
      rw [name?_append nonempty chars (by intro d found; cases found; exact plain)] at read
      cases read
      exact congrArg Prod.fst (arguments_eq_nil_of_separator separates (none more) fuel)

/-- A path alone. -/
theorem expression?_path {path : Path} (opening : Path.Opening text)
    (read : Path.read? (text ++ more) = some (path, more))
    (stop : ∀ c, more.head? = some c → isNameChar c = false)
    (ends : ∀ fuel, arguments fuel more = ([], more)) (fuel : Nat) :
    expression? (fuel + 1) (text ++ more) = some (.ok ⟨.path path, []⟩, more) := by
  cases name : name? (text ++ more) with
  | none => simp only [expression?, name, Option.bind_none, read, Option.map_some]
  | some found =>
    obtain ⟨word, rest⟩ := found
    have behind := arguments_behind_path opening stop ends fuel name
    cases arguments : arguments fuel rest with
    | mk written rest =>
      rw [arguments] at behind
      obtain rfl : written = [] := behind
      simp only [expression?, name, Option.bind_some, arguments, read, Option.map_some]

/-! ### Tags -/

/-- The end of a tag. -/
def closing : List Char := "\x7d\x7d".toList

/-- A text that is read as what a tag says, up to some end, and that is no other tag. -/
structure WrittenValue (text more : List Char) (expression : Expression) : Prop where
  begins : ∃ c others, text = c :: others ∧
    (isNameChar c = true ∨ c = '.' ∨ c = '@' ∨ c = '[')
  otherwise : Text.after? "else".toList (text ++ more) = none
  read : ∀ {fuel}, text.length < fuel →
    expression? (fuel + 1) (text ++ more) = some (.ok expression, more)

/-- What begins as a path or a name does is no mark of another tag. -/
theorem no_mark_of_begins {c : Char}
    (begins : isNameChar c = true ∨ c = '.' ∨ c = '@' ∨ c = '[') (others : List Char) :
    comment? (c :: others) = none ∧ tripleTag? (c :: others) = none ∧
      token? "~" (c :: others) = none ∧ token? "^" (c :: others) = none ∧
      ∀ fuel, call? fuel (c :: others) = none := by
  have solid : isSpace c = false := isSpace_of_beginsArgument (beginsArgument_of_path begins)
  have apart : '!' ≠ c ∧ '\x7b' ≠ c ∧ '~' ≠ c ∧ '^' ≠ c ∧ c ≠ '(' := by
    refine ⟨?_, ?_, ?_, ?_, ?_⟩
    all_goals
      rintro rfl
      revert begins
      decide
  have skipped : skip (c :: others) = c :: others := by simp [skip, solid]
  refine ⟨?_, ?_, ?_, ?_, fun fuel => ?_⟩
  · simp [comment?, Text.after?, apart]
  · simp [tripleTag?, Text.after?, apart]
  · rw [token?, skipped]
    simp [Text.after?, apart]
  · rw [token?, skipped]
    simp [Text.after?, apart]
  · cases fuel <;> simp [call?, apart]

namespace WrittenValue

variable {expression : Expression} (value : WrittenValue text more expression)

include value

theorem skip_eq : skip (text ++ more) = text ++ more := by
  obtain ⟨c, others, same, begins⟩ := value.begins
  exact skip_of_begins ⟨c, others, same, isSpace_of_beginsArgument (beginsArgument_of_path begins)⟩ more

theorem no_mark : comment? (text ++ more) = none ∧ tripleTag? (text ++ more) = none ∧
    token? "~" (text ++ more) = none ∧ token? "^" (text ++ more) = none ∧
    ∀ fuel, call? fuel (text ++ more) = none := by
  obtain ⟨c, others, rfl, begins⟩ := value.begins
  exact no_mark_of_begins begins (others ++ more)

theorem tilde_eq : tilde (text ++ more) = (false, text ++ more) := by
  rw [tilde, value.no_mark.2.2.1]

theorem valueExpression?_eq :
    valueExpression? (text ++ more) = some (.ok expression, more) := by
  have call := value.no_mark.2.2.2.2 (fuelOf (text ++ more))
  have read := value.read (show text.length < 4 * (text ++ more).length + 3 by
    simp only [List.length_append]
    omega)
  simp only [valueExpression?, value.skip_eq, call]
  exact read

/-- Behind an optional tilde the value is read up to the end of the tag. -/
theorem doubleTag?_eq {whole : List Char} {trims : Bool} {inside : Inside}
    (lead : tilde whole = (trims, text ++ more))
    (ends : ended? "\x7d\x7d" .value (.ok expression, more) = some inside) :
    doubleTag? whole = some (trims, inside) := by
  have word : token? "else" (text ++ more) = none := by
    rw [token?, value.skip_eq]
    exact value.otherwise
  have alternative : alternative? (text ++ more) = none := by
    simp [alternative?, word, value.no_mark.2.2.2.1]
  simp only [doubleTag?, lead, alternative, value.valueExpression?_eq, Option.bind_some, ends]
  rfl

end WrittenValue

/-- A tag of two braces around what it says. -/
theorem tag?_of_written {expression : Expression} (value : WrittenValue text closing expression) :
    tag? [] (text ++ closing) = some (⟨.value expression, none, false, false, [], []⟩, []) := by
  obtain ⟨comment, triple, _⟩ := value.no_mark
  have double : doubleTag? (text ++ closing) = some (false, ⟨.value expression, none, false, []⟩) :=
    value.doubleTag?_eq value.tilde_eq rfl
  simp only [tag?, comment, triple, double]
  rfl

end Stencil.Template
