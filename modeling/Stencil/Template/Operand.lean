import Stencil.Json.Reader
import Stencil.Template.Path
import Stencil.Text.Search

set_option autoImplicit false

/-!
Operands: what stands for a value in a tag, and how it is written. A literal is data, with texts in
single quotes allowed; a path leads into the data; a call in parentheses runs a helper.

Reading has two outcomes of its own: a text that has no reading at all, and one whose form is right
but whose literal is no data, such as `01`.
-/

namespace Stencil.Template

/-- An operand. An argument of a call has a key if it is a named option. -/
inductive Operand where
  | literal (value : Json)
  | path (path : Path)
  /-- The bare name of a helper, block or partial. -/
  | word (name : String)
  | call (head : Operand) (arguments : List (Option String × Operand))

instance : Inhabited Operand := ⟨.literal .null⟩

/-- An argument as it is written: positional, or a named option. -/
abbrev Argument := Option String × Operand

/-- What a tag says: a name and arguments. -/
structure Expression where
  head : Operand
  arguments : List Argument

/-- The written text of a literal that is no data. -/
structure InvalidLiteral where
  text : String
  deriving DecidableEq

/-- What was read, if all its literals are data. -/
abbrev Checked (α : Type) := Except InvalidLiteral α

namespace Operand

/-- The name by which something is called: a bare name, or a path as it is written. -/
def name? : Operand → Option String
  | .word text => some text
  | .path target => some target.raw
  | _ => none

end Operand

/-- The positional arguments, in order. -/
def positional (arguments : List Argument) : List Operand :=
  arguments.filterMap fun (key, operand) => if key.isNone then some operand else none

/-- Puts a named value at its place in ascending order of names; a later one replaces it. -/
def insertNamed {α : Type} (key : String) (value : α) : List (String × α) → List (String × α)
  | [] => [(key, value)]
  | (other, old) :: entries =>
    if key < other then (key, value) :: (other, old) :: entries
    else if key = other then (key, value) :: entries
    else (other, old) :: insertNamed key value entries

/-- The named options in ascending order of names, the last of those with one name. -/
def named {α : Type} (arguments : List (Option String × α)) : List (String × α) :=
  arguments.foldl (fun entries (key, value) =>
    match key with
    | some key => insertNamed key value entries
    | none => entries) []

/-! ### Spaces, names and literals -/

/-- What may stand between the parts of a tag. -/
def isSpace (c : Char) : Bool := c == ' ' || c == '\t' || c == '\n' || c == '\r'

def skip (text : List Char) : List Char := text.dropWhile isSpace

/-- Drops a text after optional spaces. -/
def token? (word : String) (text : List Char) : Option (List Char) :=
  Text.after? word.toList (skip text)

/-- Reads a name. -/
def name? (text : List Char) : Option (String × List Char) :=
  let name := text.takeWhile isNameChar
  if name.isEmpty then none else some (String.ofList name, text.dropWhile isNameChar)

/-- True if no character of a name follows. -/
def endsName (text : List Char) : Bool := !(text.head?.map isNameChar).getD false

def isHex (c : Char) : Bool := (Json.hexValue? c).isSome

/-- Drops the rest of a text in quotes; escapes are those of data texts. -/
def afterQuoted? (quote : Char) : List Char → Option (List Char)
  | [] => none
  | '\\' :: 'u' :: a :: b :: c :: d :: text =>
    if isHex a && isHex b && isHex c && isHex d then afterQuoted? quote text else none
  | '\\' :: c :: text =>
    if c = quote || "\\/bfnrt".toList.contains c then afterQuoted? quote text else none
  | c :: text =>
    if c = quote then some text else if c = '\\' then none else afterQuoted? quote text

/-- Drops an exponent; only a capital `E` marks one. -/
def afterExponent (text : List Char) : List Char :=
  match text with
  | 'E' :: rest =>
    let rest := (Text.after? ['-'] rest).getD rest
    if (rest.head?.map Char.isDigit).getD false then rest.dropWhile Char.isDigit else text
  | text => text

/-- Drops a number, which must not run into a name. -/
def afterNumber? (text : List Char) : Option (List Char) :=
  let digits := (Text.after? ['-'] text).getD text
  if (digits.head?.map Char.isDigit).getD false then
    let rest := digits.dropWhile Char.isDigit
    let rest := ((Text.after? ['.'] rest).getD rest).dropWhile Char.isDigit
    let rest := afterExponent rest
    if endsName rest then some rest else none
  else none

/-- Drops a fixed word, which must not run into a name. -/
def afterWord? (text : List Char) : Option (List Char) :=
  (["null", "true", "false"].findSome? fun word => Text.after? word.toList text).filter endsName

mutual

/-- Drops a literal; `fuel` bounds how many parts it has. -/
def afterLiteral? : Nat → List Char → Option (List Char)
  | 0, _ => none
  | fuel + 1, text =>
    match text with
    | '"' :: rest => afterQuoted? '"' rest
    | '\'' :: rest => afterQuoted? '\'' rest
    | '[' :: rest =>
      afterItems? fuel ((afterLiteral? fuel (skip rest)).getD rest)
    | '\x7b' :: rest => afterFields? fuel ((afterField? fuel rest).getD rest)
    | text => (afterNumber? text).or (afterWord? text)

/-- Drops further items of an array and its end. -/
def afterItems? : Nat → List Char → Option (List Char)
  | 0, _ => none
  | fuel + 1, text =>
    match (token? "," text).bind fun rest => afterLiteral? fuel (skip rest) with
    | some rest => afterItems? fuel rest
    | none => token? "]" text

/-- Drops a field: a text in quotes, a colon and a literal. -/
def afterField? : Nat → List Char → Option (List Char)
  | 0, _ => none
  | fuel + 1, text =>
    let key := match skip text with
      | '"' :: rest => afterQuoted? '"' rest
      | '\'' :: rest => afterQuoted? '\'' rest
      | _ => none
    ((key.bind (token? ":")).map skip).bind (afterLiteral? fuel)

/-- Drops further fields of an object and its end. -/
def afterFields? : Nat → List Char → Option (List Char)
  | 0, _ => none
  | fuel + 1, text =>
    match (token? "," text).bind (afterField? fuel) with
    | some rest => afterFields? fuel rest
    | none => token? "\x7d" text

end

/-- The data text of a text in single quotes: `\'` loses its backslash and `"` gets one. -/
def doubleQuoted (body : List Char) : List Char :=
  '"' :: Text.replace ['"'] ['\\', '"'] (Text.replace ['\\', '\''] ['\''] body) ++ ['"']

/-- The data that a literal writes. -/
def literalOf (text : List Char) : Checked Operand :=
  let value := match text with
    | '\'' :: rest => Json.read? (doubleQuoted rest.dropLast)
    | text => Json.read? text
  match value with
  | some value => .ok (.literal value)
  | none => .error ⟨String.ofList text⟩

def literal? (fuel : Nat) (text : List Char) : Option (Checked Operand × List Char) :=
  (afterLiteral? fuel text).map fun rest =>
    (literalOf (text.take (text.length - rest.length)), rest)

/-! ### Operands and arguments -/

/-- True where `as` or `else` stands instead of an operand. -/
def isReserved (text : List Char) : Bool :=
  (["as", "else"].findSome? fun word => Text.after? word.toList text).any fun rest =>
    endsName (skip rest)

/-- A call of what was read, unless a literal in it is no data. -/
def callOf (head : Checked Operand) (arguments : List (Option String × Checked Operand)) :
    Checked Expression := do
  let head ← head
  let arguments ← arguments.mapM fun (key, operand) => return (key, ← operand)
  return ⟨head, arguments⟩

def Expression.toOperand (expression : Expression) : Operand :=
  .call expression.head expression.arguments

mutual

/-- Reads an operand; `fuel` bounds how many parts it has. -/
def operand? : Nat → List Char → Option (Checked Operand × List Char)
  | 0, _ => none
  | fuel + 1, text =>
    if isReserved text then none
    else
      match literal? (fuel + 1) text with
      | some read => some read
      | none =>
        match Path.read? text with
        | some (path, rest) => some (.ok (.path path), rest)
        | none => call? fuel text

/-- Reads a call in parentheses: a name with arguments, or a path alone. -/
def call? : Nat → List Char → Option (Checked Operand × List Char)
  | 0, _ => none
  | fuel + 1, text =>
    match text with
    | '(' :: rest =>
      match expression? fuel (skip rest) with
      | some (expression, rest) =>
        (token? ")" rest).map fun rest => (expression.map Expression.toOperand, rest)
      | none => none
    | _ => none

/-- Reads a name with at least one argument, or a path alone. -/
def expression? : Nat → List Char → Option (Checked Expression × List Char)
  | 0, _ => none
  | fuel + 1, text =>
    let call := (name? text).bind fun (name, rest) =>
      match arguments fuel rest with
      | ([], _) => none
      | (arguments, rest) => some (callOf (.ok (.word name)) arguments, rest)
    match call with
    | some read => some read
    | none => (Path.read? text).map fun (path, rest) => (.ok ⟨.path path, []⟩, rest)

/-- Reads as many arguments as there are. -/
def arguments : Nat → List Char → List (Option String × Checked Operand) × List Char
  | 0, text => ([], text)
  | fuel + 1, text =>
    let named := (name? (skip text)).bind fun (key, rest) =>
      ((token? "=" rest).bind fun rest => operand? fuel (skip rest)).map fun (operand, rest) =>
        (some key, operand, rest)
    let argument := named.or ((operand? fuel (skip text)).map fun (operand, rest) =>
      (none, operand, rest))
    match argument with
    | none => ([], text)
    | some (key, operand, rest) =>
      let (more, rest) := arguments fuel rest
      ((key, operand) :: more, rest)

end

end Stencil.Template
