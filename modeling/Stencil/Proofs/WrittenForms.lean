import Mathlib.Data.List.Forall2
import Mathlib.Data.List.TakeWhile
import Stencil.Proofs.OperandContext
import Stencil.Proofs.TagPaths
import Stencil.Proofs.WrittenCalls

set_option autoImplicit false

/-!
Written forms: operands, calls and arguments with every space between their parts, as they stand in a tag.
Whatever the readers of operands, calls and arguments read is the text of a form up to what is left, and
if it is read without faults, it is what the form says (`formReaders`).
-/

namespace Stencil.Template

/-! ### Spaces and names -/

/-- What is left after dropping begins with a character that is not dropped. -/
theorem not_of_head?_dropWhile {test : Char → Bool} {text : List Char} {c : Char}
    (first : c ∈ (text.dropWhile test).head?) : test c = false := by
  have stops := List.head?_dropWhile_not test text
  rw [Option.mem_def.mp first] at stops
  exact stops

/-- Spaces between the parts of a tag. -/
structure Gap where
  text : List Char
  spaces : ∀ c ∈ text, isSpace c = true

theorem skip_split (text : List Char) : ∃ gap : Gap, text = gap.text ++ skip text :=
  ⟨⟨text.takeWhile isSpace, fun _ member => List.mem_takeWhile_imp member⟩,
    List.takeWhile_append_dropWhile.symm⟩

theorem token?_split {word : String} {text rest : List Char} (found : token? word text = some rest) :
    ∃ gap : Gap, text = gap.text ++ (word.toList ++ rest) := by
  obtain ⟨gap, whole⟩ := skip_split text
  have behind : skip text = word.toList ++ rest := Text.after?_eq_some_iff.mp found
  exact ⟨gap, behind ▸ whole⟩

theorem name?_split {text rest : List Char} {name : String} (found : name? text = some (name, rest)) :
    ∃ written : OptionName, written.name = name ∧ text = written.name.toList ++ rest := by
  simp only [name?] at found
  split at found
  · cases found
  · rename_i filled
    cases found
    have nonempty : text.takeWhile isNameChar ≠ [] := by simpa using filled
    have chars : ∀ c ∈ text.takeWhile isNameChar, isNameChar c = true :=
      fun c member => List.mem_takeWhile_imp member
    refine ⟨⟨String.ofList (text.takeWhile isNameChar), by simpa using nonempty, by
      simpa using chars⟩, rfl, ?_⟩
    simp

/-! ### Forms -/

/-- A literal as it is written. -/
structure LiteralForm where
  text : List Char
  read : ∃ fuel more, afterLiteral? fuel (text ++ more) = some more

/-- The data of a literal, if it is any. -/
def LiteralForm.operand (literal : LiteralForm) : Operand :=
  match literalOf literal.text with
  | .ok operand => operand
  | .error _ => .literal .null

/-- A path as it is written. -/
structure PathForm where
  path : Path
  read : path.IsRead

/-- The name of an option with the spaces around the sign behind it. -/
structure KeyForm where
  key : OptionName
  before : Gap
  after : Gap

def KeyForm.text (written : KeyForm) : List Char :=
  written.key.name.toList ++ (written.before.text ++ '=' :: written.after.text)

mutual

/-- An operand as it is written. -/
inductive Form where
  | literal (literal : LiteralForm)
  | path (path : PathForm)
  /-- A call in parentheses. -/
  | call (before : Gap) (phrase : Phrase) (after : Gap)

/-- A call without parentheses, or a path alone. -/
inductive Phrase where
  | path (path : PathForm)
  | named (name : OptionName) (arguments : Forms)

/-- Arguments, each behind spaces, and behind a key if it is an option. -/
inductive Forms where
  | nil
  | cons (gap : Gap) (key : Option KeyForm) (form : Form) (others : Forms)

end

def keyOf (key : Option KeyForm) : List Char := key.elim [] KeyForm.text

mutual

def Form.text : Form → List Char
  | .literal literal => literal.text
  | .path written => written.path.raw.toList
  | .call before phrase after => '(' :: (before.text ++ (phrase.text ++ (after.text ++ [')'])))

def Phrase.text : Phrase → List Char
  | .path written => written.path.raw.toList
  | .named name arguments => name.name.toList ++ arguments.text

def Forms.text : Forms → List Char
  | .nil => []
  | .cons gap key form others => gap.text ++ (keyOf key ++ (form.text ++ others.text))

end

mutual

/-- The operand that is written. -/
def Form.operand : Form → Operand
  | .literal literal => literal.operand
  | .path written => .path written.path
  | .call _ phrase _ => phrase.expression.toOperand

/-- What is called with what. -/
def Phrase.expression : Phrase → Expression
  | .path written => ⟨.path written.path, []⟩
  | .named name arguments => ⟨.word name.name, arguments.written⟩

def Forms.written : Forms → List Argument
  | .nil => []
  | .cons _ key form others => (key.map fun key => key.key.name, form.operand) :: others.written

end

/-! ### Reading -/

/-- What was read without faults is a given value. -/
def Settles {α : Type} (checked : Checked α) (value : α) : Prop := ∀ found, checked = .ok found → found = value

theorem settles_ok {α : Type} (value : α) : Settles (.ok value) value := by
  intro found same
  cases same
  rfl

theorem Settles.map {α β : Type} {checked : Checked α} {value : α} (settles : Settles checked value)
    (f : α → β) : Settles (checked.map f) (f value) := by
  intro found same
  cases checked with
  | error invalid => cases same
  | ok inner =>
    cases same
    rw [settles inner rfl]

/-- An argument that was read, and what is written for it. -/
def SettlesArgument (read : Option String × Checked Operand) (written : Argument) : Prop :=
  read.1 = written.1 ∧ Settles read.2 written.2

theorem settles_callOf {head : Checked Operand} {operand : Operand}
    {read : List (Option String × Checked Operand)} {written : List Argument}
    (named : Settles head operand) (all : List.Forall₂ SettlesArgument read written) :
    Settles (callOf head read) ⟨operand, written⟩ := by
  intro expression call
  obtain ⟨same, checked⟩ := callOf_eq_ok call
  rw [← named _ same]
  suffices ∀ found, (read.mapM fun argument => do
      return (argument.1, ← argument.2) : Checked (List Argument)) = .ok found → found = written by
    rw [← this _ checked]
  clear call checked same named
  induction all with
  | nil =>
    intro found same
    cases same
    rfl
  | @cons argument other read written first further ih =>
    intro found same
    obtain ⟨key, operand⟩ := argument
    obtain ⟨rfl, settles⟩ := first
    rw [List.mapM_cons] at same
    cases operand with
    | error invalid => cases same
    | ok operand =>
      cases rest : (read.mapM fun argument => do return (argument.1, ← argument.2) :
          Checked (List Argument)) with
      | error invalid =>
        rw [rest] at same
        cases same
      | ok others =>
        rw [rest] at same
        cases same
        rw [ih others rest, settles operand rfl]

theorem literal_form {fuel : Nat} {text rest : List Char} {checked : Checked Operand}
    (read : literal? fuel text = some (checked, rest)) :
    ∃ literal : LiteralForm, text = literal.text ++ rest ∧ Settles checked literal.operand := by
  obtain ⟨left, passed, same⟩ := Option.map_eq_some_iff.mp read
  cases same
  obtain ⟨part, rfl⟩ := ((literalReaders fuel).literal _ _ passed).suffix
  have part_eq : (part ++ rest).take ((part ++ rest).length - rest.length) = part := by
    rw [List.length_append, Nat.add_sub_cancel, List.take_left]
  refine ⟨⟨part, fuel, rest, passed⟩, rfl, ?_⟩
  rw [part_eq]
  intro found same
  rw [LiteralForm.operand, same]

theorem path_form {text rest : List Char} {path : Path}
    (read : Path.read? text = some (path, rest)) :
    ∃ written : PathForm, written.path = path ∧ text = written.path.raw.toList ++ rest :=
  ⟨⟨path, text, rest, read⟩, rfl, (Path.raw_append read).symm⟩

/-- The readers with some fuel read forms. -/
structure FormReaders (fuel : Nat) : Prop where
  operand : ∀ {text rest checked}, operand? fuel text = some (checked, rest) →
    ∃ form : Form, text = form.text ++ rest ∧ Settles checked form.operand
  call : ∀ {text rest checked}, call? fuel text = some (checked, rest) →
    ∃ before phrase after, text = (Form.call before phrase after).text ++ rest ∧
      Settles checked (Form.call before phrase after).operand
  expression : ∀ {text rest checked}, expression? fuel text = some (checked, rest) →
    ∃ phrase : Phrase, text = phrase.text ++ rest ∧ Settles checked phrase.expression
  arguments : ∀ text, ∃ forms : Forms, text = forms.text ++ (arguments fuel text).2 ∧
    List.Forall₂ SettlesArgument (arguments fuel text).1 forms.written

namespace FormReaders

variable {fuel : Nat} {text rest : List Char}

theorem operand_succ (readers : FormReaders fuel) {checked : Checked Operand}
    (read : operand? (fuel + 1) text = some (checked, rest)) :
    ∃ form : Form, text = form.text ++ rest ∧ Settles checked form.operand := by
  simp only [operand?] at read
  split at read
  · cases read
  · split at read
    · rename_i result literal
      cases read
      obtain ⟨literal, whole, settles⟩ := literal_form literal
      exact ⟨.literal literal, whole, settles⟩
    · split at read
      · rename_i path left found
        cases read
        obtain ⟨written, rfl, whole⟩ := path_form found
        exact ⟨.path written, whole, settles_ok _⟩
      · obtain ⟨before, phrase, after, whole, settles⟩ := readers.call read
        exact ⟨.call before phrase after, whole, settles⟩

theorem call_succ (readers : FormReaders fuel) {checked : Checked Operand}
    (read : call? (fuel + 1) text = some (checked, rest)) :
    ∃ before phrase after, text = (Form.call before phrase after).text ++ rest ∧
      Settles checked (Form.call before phrase after).operand := by
  simp only [call?] at read
  split at read
  · rename_i inside
    split at read
    · rename_i expression left found
      obtain ⟨last, closed, same⟩ := Option.map_eq_some_iff.mp read
      cases same
      obtain ⟨before, opened⟩ := skip_split inside
      obtain ⟨phrase, whole, settles⟩ := readers.expression found
      obtain ⟨after, behind⟩ := token?_split closed
      refine ⟨before, phrase, after, ?_, settles.map _⟩
      rw [opened, whole, behind]
      simp [Form.text]
    · cases read
  · cases read

theorem expression_succ (readers : FormReaders fuel) {checked : Checked Expression}
    (read : expression? (fuel + 1) text = some (checked, rest)) :
    ∃ phrase : Phrase, text = phrase.text ++ rest ∧ Settles checked phrase.expression := by
  simp only [expression?] at read
  split at read
  · rename_i result call
    cases read
    obtain ⟨⟨name, behind⟩, named, same⟩ := Option.bind_eq_some_iff.mp call
    obtain ⟨written, rfl, rfl⟩ := name?_split named
    obtain ⟨forms, whole, all⟩ := readers.arguments behind
    dsimp only at same
    split at same
    · cases same
    · rename_i found left _ arguments
      cases same
      rw [arguments] at whole all
      refine ⟨.named written forms, ?_, settles_callOf (settles_ok _) all⟩
      rw [Phrase.text, List.append_assoc, ← whole]
  · obtain ⟨⟨path, left⟩, found, same⟩ := Option.map_eq_some_iff.mp read
    cases same
    obtain ⟨written, rfl, whole⟩ := path_form found
    exact ⟨.path written, whole, settles_ok _⟩

/-- One argument, perhaps behind a key. -/
theorem argument (readers : FormReaders fuel) {key : Option String} {checked : Checked Operand}
    (read : argument? fuel text = some (key, checked, rest)) :
    ∃ (gap : Gap) (name : Option KeyForm) (form : Form),
      text = gap.text ++ (keyOf name ++ (form.text ++ rest)) ∧
        key = name.map (fun name => name.key.name) ∧ Settles checked form.operand := by
  obtain ⟨gap, opened⟩ := skip_split text
  rcases Option.or_eq_some_iff.mp read with named | ⟨_, positional⟩
  · obtain ⟨⟨name, behind⟩, found, same⟩ := Option.bind_eq_some_iff.mp named
    obtain ⟨⟨operand, left⟩, value, same⟩ := Option.map_eq_some_iff.mp same
    cases same
    obtain ⟨start, equals, value⟩ := Option.bind_eq_some_iff.mp value
    obtain ⟨written, rfl, whole⟩ := name?_split found
    obtain ⟨before, split⟩ := token?_split equals
    obtain ⟨after, valued⟩ := skip_split start
    obtain ⟨form, last, settles⟩ := readers.operand value
    refine ⟨gap, some ⟨written, before, after⟩, form, ?_, rfl, settles⟩
    have equals : "=".toList = ['='] := rfl
    rw [opened, whole, split, valued, last, equals]
    simp [keyOf, KeyForm.text]
  · obtain ⟨⟨operand, left⟩, value, same⟩ := Option.map_eq_some_iff.mp positional
    cases same
    obtain ⟨form, last, settles⟩ := readers.operand value
    refine ⟨gap, none, form, ?_, rfl, settles⟩
    rw [opened, last]
    simp [keyOf]

theorem arguments_succ (readers : FormReaders fuel) (text : List Char) :
    ∃ forms : Forms, text = forms.text ++ (Template.arguments (fuel + 1) text).2 ∧
      List.Forall₂ SettlesArgument (Template.arguments (fuel + 1) text).1 forms.written := by
  rw [Template.arguments_succ]
  cases found : argument? fuel text with
  | none => exact ⟨.nil, rfl, List.Forall₂.nil⟩
  | some read =>
    obtain ⟨key, checked, behind⟩ := read
    obtain ⟨gap, name, form, whole, same, settles⟩ := readers.argument found
    obtain ⟨others, further, all⟩ := readers.arguments behind
    refine ⟨.cons gap name form others, ?_, List.Forall₂.cons ⟨same, settles⟩ all⟩
    have parts := congrArg (fun rest => gap.text ++ (keyOf name ++ (form.text ++ rest))) further
    rw [whole, parts]
    simp [Forms.text]

end FormReaders

/-- Whatever is read is a form. -/
theorem formReaders (fuel : Nat) : FormReaders fuel := by
  induction fuel with
  | zero => exact ⟨nofun, nofun, nofun, fun text => ⟨.nil, rfl, List.Forall₂.nil⟩⟩
  | succ fuel ih => exact ⟨ih.operand_succ, ih.call_succ, ih.expression_succ, ih.arguments_succ⟩

end Stencil.Template
