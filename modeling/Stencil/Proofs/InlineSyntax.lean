import Stencil.Extraction.Variable
import Stencil.Template.Operand

set_option autoImplicit false

/-!
Inline sources: text with tags that show a path or the value of a call. Arguments are paths, data or
calls again, with single spaces between them, and paths are ASCII names with points between them.
-/

namespace Stencil.Inline

open Template (isNameChar)

/-! ### Paths and data -/

/-- The words that are no names. -/
def reserved : List (List Char) :=
  ["this", "as", "true", "false", "null", "undefined"].map String.toList

/-- A name that begins neither with a digit or a minus sign nor with `else`. -/
structure Name where
  text : List Char
  chars : ∀ c ∈ text, isNameChar c = true ∧ Text.isAscii c = true
  begins : (text.head?.any fun c => !c.isDigit && c != '-') = true
  free : text ∉ reserved
  apart : Text.after? "else".toList text = none

/-- What may stand before the names of a path. -/
inductive Lead where
  | none
  | outer
  | this

def Lead.text : Lead → List Char
  | .none => []
  | .outer => "../".toList
  | .this => "this.".toList

structure Path where
  lead : Lead
  first : Name
  others : List Name

def pointed (names : List Name) : List Char := names.flatMap fun name => '.' :: name.text

def Path.text (path : Path) : List Char := path.lead.text ++ (path.first.text ++ pointed path.others)

structure Digits where
  text : List Char
  nonempty : text ≠ []
  chars : ∀ c ∈ text, c.isDigit = true

/-- A power of ten behind a number. -/
structure Power where
  capital : Bool
  sign : Option Bool
  digits : Digits

def Power.text (power : Power) : List Char :=
  (if power.capital then 'E' else 'e') ::
    ((power.sign.map fun minus => if minus then '-' else '+').toList ++ power.digits.text)

structure Number where
  minus : Bool
  whole : Digits
  fraction : Option Digits
  power : Option Power

namespace Number

variable (number : Number)

/-- What stands behind the whole part of a number. -/
def behind : List Char :=
  (number.fraction.elim [] fun digits => '.' :: digits.text) ++ number.power.elim [] Power.text

def text : List Char :=
  (if number.minus then ['-'] else []) ++ (number.whole.text ++ number.behind)

/-- A number as the grammar of tags has it, with a capital letter before a power and no plus sign, whose
value is in the range of data. -/
structure Readable : Prop where
  capital : ∀ power ∈ number.power, power.capital = true
  sign : ∀ power ∈ number.power, power.sign ≠ some false
  inRange : (Json.read? number.text).isSome = true

end Number

/-- A text in quotes, without quotes, braces and backslashes. -/
structure Quoted where
  double : Bool
  body : List Char
  plain : ∀ c ∈ body, c ∉ "\"'\x7b\x7d\\".toList

namespace Quoted

variable (quoted : Quoted)

def quote : Char := if quoted.double then '"' else '\''

def text : List Char := quoted.quote :: (quoted.body ++ [quoted.quote])

/-- A text without control characters, which data texts must escape. -/
def Readable : Prop := ∀ c ∈ quoted.body, 32 ≤ c.toNat

end Quoted

/-- A path, or data as it is written. -/
inductive Leaf where
  | path (path : Path)
  | number (number : Number)
  | truth (value : Bool)
  | null
  | quoted (quoted : Quoted)

namespace Leaf

def text : Leaf → List Char
  | .path target => target.text
  | .number value => value.text
  | .truth value => (if value then "true" else "false").toList
  | .null => "null".toList
  | .quoted value => value.text

def Readable : Leaf → Prop
  | .number value => value.Readable
  | .quoted value => value.Readable
  | _ => True

/-- The variable that a path reads. -/
def base? : Leaf → Option String
  | .path target => Extraction.baseVariable? (String.ofList target.text)
  | _ => none

end Leaf

/-! ### Calls -/

mutual

/-- An argument. The value of an option is a path or data. -/
inductive Argument where
  | leaf (leaf : Leaf)
  | option (key : Name) (leaf : Leaf)
  | call (helper : Name) (arguments : Arguments)

/-- The arguments of a call, of which there is at least one. -/
inductive Arguments where
  | last (argument : Argument)
  | next (argument : Argument) (arguments : Arguments)

end

mutual

def Argument.text : Argument → List Char
  | .leaf leaf => leaf.text
  | .option key leaf => key.text ++ '=' :: leaf.text
  | .call helper arguments => '(' :: (helper.text ++ arguments.text ++ [')'])

/-- Arguments as they are written, a space before each. -/
def Arguments.text : Arguments → List Char
  | .last argument => ' ' :: argument.text
  | .next argument arguments => ' ' :: argument.text ++ arguments.text

end

mutual

def Argument.Readable : Argument → Prop
  | .leaf leaf => leaf.Readable
  | .option _ leaf => leaf.Readable
  | .call _ arguments => arguments.Readable

/-- Arguments whose numbers and texts are read as data. -/
def Arguments.Readable : Arguments → Prop
  | .last argument => argument.Readable
  | .next argument arguments => argument.Readable ∧ arguments.Readable

end

/-- The key of an option. -/
def Argument.key? : Argument → Option (List Char)
  | .option key _ => some key.text
  | _ => none

/-- The keys of the options among arguments. -/
def Arguments.keys : Arguments → List (List Char)
  | .last argument => argument.key?.toList
  | .next argument arguments => argument.key?.toList ++ arguments.keys

mutual

/-- The variables of options whose key is given again behind them in the same call. -/
def Argument.replaced : Argument → List String
  | .call _ arguments => arguments.replaced
  | _ => []

def Arguments.replaced : Arguments → List String
  | .last argument => argument.replaced
  | .next (.option key leaf) arguments =>
    (if key.text ∈ arguments.keys then leaf.base?.toList else []) ++ arguments.replaced
  | .next argument arguments => argument.replaced ++ arguments.replaced

end

/-! ### Sources -/

/-- A tag that shows a path, without the blanks around the tag or without escaping, or a call. -/
inductive Tag where
  | value (path : Path)
  | trimmed (path : Path)
  | plain (path : Path)
  | call (helper : Name) (arguments : Arguments)

namespace Tag

/-- What stands between the first two braces and the first two after them. -/
def content : Tag → List Char
  | .value path => path.text
  | .trimmed path => '~' :: (path.text ++ ['~'])
  | .plain path => '\x7b' :: path.text
  | .call helper arguments => helper.text ++ arguments.text

/-- What stands behind these braces. -/
def behind : Tag → List Char
  | .plain _ => ['\x7d']
  | _ => []

def text (tag : Tag) : List Char :=
  '\x7b' :: '\x7b' :: (tag.content ++ '\x7d' :: '\x7d' :: tag.behind)

def Readable : Tag → Prop
  | .call _ arguments => arguments.Readable
  | _ => True

def replaced : Tag → List String
  | .call _ arguments => arguments.replaced
  | _ => []

end Tag

/-- Text without braces and backslashes, or a tag. -/
inductive Piece where
  | text (chars : List Char) (plain : ∀ c ∈ chars, c ∉ "\x7b\x7d\\".toList)
  | tag (tag : Tag)

namespace Piece

def chars : Piece → List Char
  | .text inert _ => inert
  | .tag value => value.text

def Readable : Piece → Prop
  | .text _ _ => True
  | .tag value => value.Readable

def replaced : Piece → List String
  | .text _ _ => []
  | .tag value => value.replaced

end Piece

/-- The tags among pieces. -/
def tags (pieces : List Piece) : List Tag :=
  pieces.filterMap fun piece => match piece with
    | .tag value => some value
    | .text _ _ => none

/-- The source of some pieces. -/
def source (pieces : List Piece) : String := String.ofList (pieces.flatMap Piece.chars)

end Stencil.Inline
