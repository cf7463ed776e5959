import Stencil.Template.Operand

set_option autoImplicit false

/-!
Tags: everything in a template between double braces. A tilde inside an end of a tag removes the
blanks outside of it.
-/

namespace Stencil.Template

/-- What a tag does. -/
inductive TagKind where
  /-- Writes a value. -/
  | value (expression : Expression)
  /-- Opens a block. -/
  | opening (expression : Expression) (params : List String)
  /-- Ends the part of a block before it and chains another block to it. -/
  | chain (expression : Expression) (params : List String)
  /-- Ends the main part of a block. -/
  | otherwise
  /-- Includes a partial. -/
  | inclusion (expression : Expression)
  /-- Opens a block that is handed to a partial. -/
  | inclusionOpening (expression : Expression)
  | decoration (expression : Expression)
  | decorationOpening (expression : Expression)
  /-- Closes a block. The names of partials have other characters than those of helpers, so one or
  both of the readings may exist. -/
  | closing (helper : Option String) (included : Option String)
  | comment (text : String)
  /-- Opens a block whose text is taken as it is. -/
  | rawOpening (expression : Expression) (params : List String)
  | rawClosing (name : String)

/-- A tag with its surroundings in the source: what stands before it, backwards, and after it. -/
structure Tag where
  kind : TagKind
  /-- The first literal in the tag that is no data. -/
  invalid : Option InvalidLiteral
  trimsBefore : Bool
  trimsAfter : Bool
  before : List Char
  after : List Char

/-! ### Parts of tags -/

/-- Reads a tilde if there is one. -/
def tilde (text : List Char) : Bool × List Char :=
  match token? "~" text with
  | some rest => (true, rest)
  | none => (false, text)

/-- Reads the end of a tag, perhaps with a tilde. -/
def tagEnd? (ending : String) (text : List Char) : Option (Bool × List Char) :=
  let (trims, rest) := tilde text
  (token? ending rest).map fun rest => (trims, rest)

/-- How many parts a text may have: each part of an operand, and each step into one, takes one. -/
def fuelOf (text : List Char) : Nat := 4 * text.length + 4

/-- Reads what a value tag says: a name with arguments, a call in parentheses or a path. -/
def valueExpression? (text : List Char) : Option (Checked Expression × List Char) :=
  let text := skip text
  match call? (fuelOf text) text with
  | some (call, rest) => some (call.map fun call => ⟨call, []⟩, rest)
  | none => expression? (fuelOf text) text

/-- Reads a name without arguments: a call in parentheses or a path. -/
def nameExpression? (text : List Char) : Option (Checked Expression × List Char) :=
  let text := skip text
  match call? (fuelOf text) text with
  | some (call, rest) => some (call.map fun call => ⟨call, []⟩, rest)
  | none => (Path.read? text).map fun (path, rest) => (.ok ⟨.path path, []⟩, rest)

/-- Reads the names between bars after `as`. -/
def blockParams? (text : List Char) : Option (List String × List Char) := do
  let rest ← (token? "as" text).bind (token? "|")
  let (first, rest) ← name? (skip rest)
  match name? (skip rest) with
  | some (second, rest) => return ([first, second], ← token? "|" rest)
  | none => return ([first], ← token? "|" rest)

/-- A block's expression and the names that it gives to values. -/
structure Line where
  expression : Checked Expression
  params : List String

/-- Reads a name with arguments, if any, and block parameters. -/
def line? (text : List Char) : Option (Line × List Char) :=
  (name? (skip text)).map fun (name, rest) =>
    let (arguments, rest) := arguments (fuelOf rest) rest
    let expression := callOf (.ok (.word name)) arguments
    match blockParams? rest with
    | some (params, rest) => (⟨expression, params⟩, rest)
    | none => (⟨expression, []⟩, rest)

/-- True for the characters of partial names. -/
def isPartialChar (c : Char) : Bool :=
  Text.isPlainAlphanumeric c || "-_@/.".toList.contains c || !Text.isAscii c

/-- Splits a text before the next quote; a quote after a backslash does not count. -/
def upToQuote : List Char → List Char × List Char
  | '\\' :: '\'' :: text =>
    let (body, rest) := upToQuote text
    ('\\' :: '\'' :: body, rest)
  | '\'' :: text => ([], '\'' :: text)
  | c :: text =>
    let (body, rest) := upToQuote text
    (c :: body, rest)
  | [] => ([], [])

/-- Reads the name of a partial, which keeps its quotes. -/
def partialName? (text : List Char) : Option (String × List Char) :=
  let name := text.takeWhile isPartialChar
  if !name.isEmpty then some (String.ofList name, text.dropWhile isPartialChar)
  else
    match text with
    | '\'' :: rest =>
      match upToQuote rest with
      | (c :: body, '\'' :: rest) => some (String.ofList ('\'' :: c :: body ++ ['\'']), rest)
      | _ => none
    | _ => none

/-- Reads the name of a partial and the arguments of its inclusion. -/
def partialLine? (text : List Char) : Option (Checked Expression × List Char) :=
  let text := skip text
  let head : Option (Checked Operand × List Char) := match partialName? text with
    | some (name, rest) => some (.ok (.word name), rest)
    | none => (nameExpression? text).map fun (name, rest) => (name.map Expression.head, rest)
  head.map fun (head, rest) =>
    let (arguments, rest) := arguments (fuelOf rest) rest
    (callOf head arguments, rest)

/-! ### Reading tags -/

/-- The inside of a tag: what it does, its first invalid literal, and how it ends. -/
structure Inside where
  kind : TagKind
  invalid : Option InvalidLiteral
  trimsAfter : Bool
  rest : List Char

def Inside.of (expression : Checked Expression) (kind : Expression → TagKind) (trims : Bool)
    (rest : List Char) : Inside :=
  match expression with
  | .ok expression => ⟨kind expression, none, trims, rest⟩
  | .error invalid => ⟨kind ⟨.literal .null, []⟩, some invalid, trims, rest⟩

/-- Ends a tag after what it says. -/
def ended? (ending : String) (kind : Expression → TagKind) :
    Checked Expression × List Char → Option Inside := fun (expression, rest) =>
  (tagEnd? ending rest).map fun (trims, rest) => Inside.of expression kind trims rest

/-- Ends the tag of a block. -/
def endedLine? (ending : String) (kind : Expression → List String → TagKind) :
    Line × List Char → Option Inside := fun (line, rest) =>
  ended? ending (kind · line.params) (line.expression, rest)

/-- Reads `else` or a caret, alone or with a block. -/
def alternative? (text : List Char) : Option Inside := do
  let rest ← (token? "else" text).or (token? "^" text)
  match tagEnd? "\x7d\x7d" rest with
  | some (trims, rest) => return ⟨.otherwise, none, trims, rest⟩
  | none => (line? rest).bind (endedLine? "\x7d\x7d" .chain)

/-- Reads a value in a third pair of braces, or after an ampersand. -/
def plainValue? (text : List Char) : Option Inside :=
  match token? "\x7b" text, token? "&" text with
  | some rest, _ => do
    let (expression, rest) ← valueExpression? rest
    let rest ← token? "\x7d" rest
    ended? "\x7d\x7d" .value (expression, rest)
  | none, some rest => (nameExpression? rest).bind (ended? "\x7d\x7d" .value)
  | none, none => none

def opening? (text : List Char) : Option Inside := do
  let rest ← token? "#" text
  match token? "*" rest, token? ">" rest with
  | some rest, _ => (line? rest).bind (endedLine? "\x7d\x7d" fun e _ => .decorationOpening e)
  | none, some rest => (partialLine? rest).bind (ended? "\x7d\x7d" .inclusionOpening)
  | none, none => (line? rest).bind (endedLine? "\x7d\x7d" .opening)

def decoration? (text : List Char) : Option Inside := do
  (line? (← token? "*" text)).bind (endedLine? "\x7d\x7d" fun e _ => .decoration e)

def inclusion? (text : List Char) : Option Inside := do
  (partialLine? (← token? ">" text)).bind (ended? "\x7d\x7d" .inclusion)

/-- Reads a name that may be left out, and the end of the tag. -/
def closingName? (name? : List Char → Option (String × List Char)) (ending : String)
    (text : List Char) : Option (String × Bool × List Char) :=
  let (name, rest) := (name? (skip text)).getD ("", text)
  (tagEnd? ending rest).map fun (trims, rest) => (name, trims, rest)

def closing? (text : List Char) : Option Inside := do
  let rest ← token? "/" text
  let helper := closingName? name? "\x7d\x7d" rest
  let included := closingName? partialName? "\x7d\x7d" rest
  let (_, trims, rest) ← helper.or included
  return ⟨.closing (helper.map (·.1)) (included.map (·.1)), none, trims, rest⟩

/-- Splits a text at the first occurrence of an ending. -/
def upTo? (ending : List Char) : List Char → Option (List Char × List Char)
  | [] => none
  | c :: text =>
    match Text.after? ending (c :: text) with
    | some rest => some ([], rest)
    | none => (upTo? ending text).map fun (body, rest) => (c :: body, rest)

/-- Reads a comment: one with dashes ends at dashes, if there are any. -/
def comment? (text : List Char) : Option Inside := do
  let rest ← Text.after? ['!'] text
  let long := (token? "--" rest).bind (upTo? "--\x7d\x7d".toList)
  let (body, rest) ← long.or (upTo? "\x7d\x7d".toList rest)
  return ⟨.comment (String.ofList body), none, false, rest⟩

/-- Reads a tag of three braces. -/
def tripleTag? (text : List Char) : Option (Bool × Inside) := do
  let (before, rest) := tilde (← Text.after? ['\x7b'] text)
  let read ← valueExpression? rest
  let inside ← ended? "\x7d\x7d\x7d" .value read
  return (before, inside)

/-- Reads the opening of a raw block, of four braces. -/
def rawOpening? (text : List Char) : Option (Bool × Inside) := do
  let (before, rest) := tilde (← Text.after? ['\x7b', '\x7b'] text)
  let inside ← (line? rest).bind (endedLine? "\x7d\x7d\x7d\x7d" .rawOpening)
  return (before, inside)

/-- Reads the end of a raw block. -/
def rawClosing? (text : List Char) : Option (Bool × Inside) := do
  let (before, rest) := tilde (← Text.after? "\x7b\x7b\x7b\x7b".toList text)
  let (name, trims, rest) ← closingName? name? "\x7d\x7d\x7d\x7d" (← token? "/" rest)
  return (before, ⟨.rawClosing name, none, trims, rest⟩)

/-- Reads a tag of two braces. -/
def doubleTag? (text : List Char) : Option (Bool × Inside) :=
  let (before, rest) := tilde text
  let value := (valueExpression? rest).bind (ended? "\x7d\x7d" .value)
  let inside := (alternative? rest) <|> value <|> plainValue? rest <|> opening? rest <|>
    decoration? rest <|> inclusion? rest <|> closing? rest
  inside.map (before, ·)

/-- Reads the tag after its first two braces. -/
def tag? (before text : List Char) : Option (Tag × List Char) :=
  let comment := (comment? text).map (false, ·)
  let read := comment <|> tripleTag? text <|> doubleTag? text <|> rawOpening? text
  read.map fun (trims, inside) =>
    (⟨inside.kind, inside.invalid, trims, inside.trimsAfter, before, inside.rest⟩, inside.rest)

end Stencil.Template
