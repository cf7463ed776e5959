import Stencil.Number.Decimal
import Stencil.Text.Search

set_option autoImplicit false

/-!
Texts as YAML scalars. A text stands plain where nothing else can be read out of it; otherwise it is
put in single quotes, in double quotes with escapes, or, with line breaks, in a literal block.
-/

namespace Stencil.Yaml

open Number (Decimal Binary64)

/-! ### Texts that would be read as something else -/

def withoutSign : List Char → List Char
  | '+' :: text => text
  | '-' :: text => text
  | text => text

/-- A zero before further digits, which is no number but looks like one. -/
def isPaddedDigits (text : List Char) : Bool :=
  match withoutSign text with
  | '0' :: digits => !digits.isEmpty && digits.all Char.isDigit
  | _ => false

/-- The value of a digit of a base up to sixteen. -/
def digitOf? (base : Nat) (c : Char) : Option Nat :=
  let value := if c.isDigit then c.toNat - '0'.toNat else c.toLower.toNat - 'a'.toNat + 10
  if (c.isDigit || c.isAlpha) && decide (value < base) then some value else none

/-- Digits of a base whose number stays below a bound. -/
def isNumberBelow (bound base : Nat) (digits : List Char) : Bool :=
  match digits.mapM (digitOf? base) with
  | some values => !digits.isEmpty && decide (values.foldl (fun n d => n * base + d) 0 < bound)
  | none => false

/-- An integer with a base mark and perhaps a sign; magnitudes go up to 128 bits. -/
def isMarkedInteger (text : List Char) : Bool :=
  let bound := if text.head? = some '-' then Nat.pow 2 127 + 1 else Nat.pow 2 128
  match withoutSign text with
  | '0' :: 'x' :: digits => isNumberBelow bound 16 digits
  | '0' :: 'o' :: digits => isNumberBelow bound 8 digits
  | '0' :: 'b' :: digits => isNumberBelow bound 2 digits
  | _ => false

/-- Decimal text that is read as a finite number. -/
def isDecimalNumber (text : List Char) : Bool :=
  let body := match text with
    | '+' :: rest => if rest.head? = some '+' ∨ rest.head? = some '-' then [] else rest
    | text => text
  match Decimal.read? body with
  | some value => value.isFinite
  | none => false

/-- Words that stand for null, truth values, infinities and the value that is no number. -/
def reserved : List String :=
  ["", "null", "Null", "NULL", "~", "true", "True", "TRUE", "false", "False", "FALSE",
    ".inf", ".Inf", ".INF", "+.inf", "+.Inf", "+.INF", "-.inf", "-.Inf", "-.INF",
    ".nan", ".NaN", ".NAN"]

/-- True where the bare text would not be read as a text. -/
def looksSpecial (text : List Char) : Bool :=
  reserved.contains (String.ofList text) || isPaddedDigits text || isMarkedInteger text ||
    isDecimalNumber text

/-! ### What a text holds -/

def isBreak (c : Char) : Bool :=
  c == '\n' || c == '\r' || c.toNat == 0x85 || c.toNat == 0x2028 || c.toNat == 0x2029

/-- Blank, or the end of the text. -/
def isGap (next : Option Char) : Bool :=
  match next with
  | none => true
  | some c => c == ' ' || c == '\t' || isBreak c || c.toNat == 0

/-- Characters that may stand in a document as they are. -/
def isPrintable (c : Char) : Bool :=
  let code := c.toNat
  code == 0x0A || (0x20 ≤ code && code ≤ 0x7E) || (0xA0 ≤ code && code != 0xFEFF &&
    code != 0xFFFE && code != 0xFFFF)

/-- A character that begins or ends a structure when it opens a text. -/
def opensStructure (c : Char) (next : Option Char) : Bool :=
  if ",[]\x7b\x7d#&*!|>'\"%@\x60".toList.contains c then true
  else if c == '?' || c == ':' || c == '-' then isGap next
  else false

/-- Whether a later character of a text belongs to a structure. -/
def holdsStructure : Bool → List Char → Bool
  | _, [] => false
  | afterGap, c :: text =>
    (c == ':' && isGap text.head?) || (c == '#' && afterGap) ||
      holdsStructure (isGap (some c)) text

/-- Document marks and structure characters that keep a text from standing plain. -/
def hasIndicators (text : List Char) : Bool :=
  "---".toList.isPrefixOf text || "...".toList.isPrefixOf text ||
    match text with
    | [] => false
    | c :: rest => opensStructure c rest.head? || holdsStructure (isGap (some c)) rest

/-- True if a character that passes the first test stands right before one that passes the second. -/
def follows (first second : Char → Bool) : List Char → Bool
  | c :: d :: text => (first c && second d) || follows first second (d :: text)
  | _ => false

def isSpace (c : Char) : Bool := c == ' '

def endsInGap (text : List Char) : Bool :=
  let atEnd (c : Option Char) := (c.map fun c => isSpace c || isBreak c).getD false
  atEnd text.head? || atEnd text.getLast?

/-- Only double quotes can hold such a text: it is not printable, or a space stands before a break. -/
def needsEscapes (text : List Char) : Bool :=
  text.any (fun c => !isPrintable c) || follows isSpace isBreak text

def mayBePlain (text : List Char) : Bool :=
  !needsEscapes text && !endsInGap text && !text.any isBreak && !hasIndicators text

def maySingleQuote (text : List Char) : Bool :=
  !needsEscapes text && !follows isBreak isSpace text

def mayBeBlock (text : List Char) : Bool :=
  !needsEscapes text && !(text.getLast? == some ' ')

/-! ### The written forms -/

/-- How a text is written. -/
inductive Style where
  | plain
  | single
  | double
  | block
  deriving DecidableEq

def quotedStyle (text : List Char) : Style := if maySingleQuote text then .single else .double

/-- The style of a text; a key of one line holds no block. -/
def styleOf (key : Bool) (text : List Char) : Style :=
  if key && text.any isBreak then .double
  else if text.contains '\n' then (if mayBeBlock text && !key then .block else .double)
  else if looksSpecial text then quotedStyle text
  else if mayBePlain text then .plain
  else quotedStyle text

def indentation (columns : Nat) : List Char := List.replicate columns ' '

/-- Inside single quotes a quote is doubled, and a line that a break begins is indented. -/
def singleBody (indent : Nat) : Bool → List Char → List Char
  | fresh, [] => if fresh then indentation indent else []
  | fresh, c :: text =>
    if isBreak c then c :: singleBody indent true text
    else
      (if fresh then indentation indent else []) ++ (if c = '\'' then ['\'', '\''] else [c]) ++
        singleBody indent false text

def upperHex (width code : Nat) : List Char :=
  let digits := (Nat.toDigits 16 code).map Char.toUpper
  List.replicate (width - digits.length) '0' ++ digits

/-- The letter of a short escape. -/
def shortEscapes : List (Nat × Char) :=
  [(0, '0'), (7, 'a'), (8, 'b'), (9, 't'), (10, 'n'), (11, 'v'), (12, 'f'), (13, 'r'), (27, 'e'),
    (34, '"'), (92, '\\'), (0x85, 'N'), (0xA0, '_'), (0x2028, 'L'), (0x2029, 'P')]

def escapeChar (c : Char) : List Char :=
  if isPrintable c && !isBreak c && c != '"' && c != '\\' then [c]
  else
    match shortEscapes.find? (·.1 == c.toNat) with
    | some (_, letter) => ['\\', letter]
    | none =>
      if c.toNat ≤ 0xFF then '\\' :: 'x' :: upperHex 2 c.toNat
      else if c.toNat ≤ 0xFFFF then '\\' :: 'u' :: upperHex 4 c.toNat
      else '\\' :: 'U' :: upperHex 8 c.toNat

/-- The lines of a block, each with its indentation; empty ones get none. -/
def blockBody (indent : Nat) : Bool → List Char → List Char
  | _, [] => []
  | fresh, c :: text =>
    if isBreak c then c :: blockBody indent true text
    else (if fresh then indentation indent else []) ++ c :: blockBody indent false text

/-- What follows the bar of a block: a width if it begins with a gap, and what becomes of breaks at
its end. -/
def blockHints (text : List Char) : List Char :=
  let starts := (text.head?.map fun c => isSpace c || isBreak c).getD false
  let ends := match text.reverse with
    | [] => ['-']
    | [c] => if isBreak c then ['+'] else ['-']
    | c :: d :: _ => if !isBreak c then ['-'] else if isBreak d then ['+'] else []
  (if starts then ['2'] else []) ++ ends

/-- A text in its style, up to the end of its last line. -/
def scalarLines (key : Bool) (indent : Nat) (text : List Char) : List Char :=
  match styleOf key text with
  | .plain => text ++ (if key then [] else ['\n'])
  | .single => '\'' :: singleBody indent false text ++ '\'' :: (if key then [] else ['\n'])
  | .double => '"' :: text.flatMap escapeChar ++ '"' :: (if key then [] else ['\n'])
  | .block =>
    '|' :: blockHints text ++ '\n' :: blockBody indent true text ++
      (if (text.getLast?.map isBreak).getD false then [] else ['\n'])

end Stencil.Yaml
