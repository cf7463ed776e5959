import Stencil.Json.Basic

set_option autoImplicit false

/-!
Reading data values. Values may nest 127 deep; text in quotes holds no raw control character and no
half of a surrogate pair.
-/

namespace Stencil.Json

/-- How deep values may nest. -/
def maxDepth : Nat := 127

def isSpace (c : Char) : Bool := c == ' ' || c == '\n' || c == '\t' || c == '\r'

def skipSpace (text : List Char) : List Char := text.dropWhile isSpace

/-- The value of a hexadecimal digit. -/
def hexValue? (c : Char) : Option Nat :=
  if '0' ≤ c ∧ c ≤ '9' then some (c.toNat - '0'.toNat)
  else if 'a' ≤ c ∧ c ≤ 'f' then some (c.toNat - 'a'.toNat + 10)
  else if 'A' ≤ c ∧ c ≤ 'F' then some (c.toNat - 'A'.toNat + 10)
  else none

def hexCode? (a b c d : Char) : Option Nat := do
  let a ← hexValue? a
  let b ← hexValue? b
  let c ← hexValue? c
  let d ← hexValue? d
  return ((a * 16 + b) * 16 + c) * 16 + d

/-- The character of a short escape. -/
def shortEscape? (c : Char) : Option Char :=
  if c = '"' ∨ c = '\\' ∨ c = '/' then some c
  else if c = 'b' then some (Char.ofNat 8)
  else if c = 'f' then some (Char.ofNat 12)
  else if c = 'n' then some '\n'
  else if c = 'r' then some '\r'
  else if c = 't' then some '\t'
  else none

def isLeading (code : Nat) : Bool := decide (0xD800 ≤ code) && decide (code < 0xDC00)

def isTrailing (code : Nat) : Bool := decide (0xDC00 ≤ code) && decide (code < 0xE000)

/-- The character of two surrogate halves. -/
def joinHalves (leading trailing : Nat) : Char :=
  Char.ofNat (0x10000 + (leading - 0xD800) * 0x400 + (trailing - 0xDC00))

/-- What an escape of one or two code units stands for. -/
def unitEscape? (code : Nat) (next : Option Nat) : Option (Char × Bool) :=
  if isTrailing code then none
  else if isLeading code then
    match next with
    | some trailing => if isTrailing trailing then some (joinHalves code trailing, true) else none
    | none => none
  else some (Char.ofNat code, false)

/-- Reads up to the closing quote; what has been read is kept backwards. -/
def readQuoted : List Char → List Char → Option (List Char × List Char)
  | _, [] => none
  | done, '"' :: rest => some (done.reverse, rest)
  | done, '\\' :: 'u' :: a :: b :: c :: d :: '\\' :: 'u' :: e :: f :: g :: h :: rest =>
    match hexCode? a b c d with
    | none => none
    | some code =>
      match unitEscape? code (hexCode? e f g h) with
      | none => none
      | some (char, true) => readQuoted (char :: done) rest
      | some (char, false) =>
        readQuoted (char :: done) ('\\' :: 'u' :: e :: f :: g :: h :: rest)
  | done, '\\' :: 'u' :: a :: b :: c :: d :: rest =>
    match (hexCode? a b c d).bind (unitEscape? · none) with
    | some (char, _) => readQuoted (char :: done) rest
    | none => none
  | done, '\\' :: c :: rest =>
    match shortEscape? c with
    | some char => readQuoted (char :: done) rest
    | none => none
  | done, c :: rest => if c.toNat < 32 then none else readQuoted (c :: done) rest

/-- Drops a fixed word. -/
def word? (word : String) (value : Json) (text : List Char) : Option (Json × List Char) :=
  if word.toList.isPrefixOf text then some (value, text.drop word.length) else none

mutual

/-- Reads a value; `fuel` bounds the number of values and `depth` how far they may still nest. -/
def readValue : Nat → Nat → List Char → Option (Json × List Char)
  | 0, _, _ => none
  | fuel + 1, depth, text =>
    match skipSpace text with
    | '"' :: rest => (readQuoted [] rest).map fun (chars, rest) => (string (String.ofList chars), rest)
    | '[' :: rest =>
      if depth = 0 then none
      else
        match skipSpace rest with
        | ']' :: rest => some (array [], rest)
        | rest => readItems fuel (depth - 1) [] rest
    | '\x7b' :: rest =>
      if depth = 0 then none
      else
        match skipSpace rest with
        | '\x7d' :: rest => some (object [], rest)
        | rest => readFields fuel (depth - 1) [] rest
    | 'n' :: rest => word? "ull" null rest
    | 't' :: rest => word? "rue" (bool true) rest
    | 'f' :: rest => word? "alse" (bool false) rest
    | text => (Reading.numeral? text).map fun (value, rest) => (number value, rest)

/-- Reads the items of an array up to its end. -/
def readItems : Nat → Nat → List Json → List Char → Option (Json × List Char)
  | 0, _, _, _ => none
  | fuel + 1, depth, items, text =>
    match readValue fuel depth text with
    | none => none
    | some (item, rest) =>
      match skipSpace rest with
      | ',' :: rest => readItems fuel depth (item :: items) rest
      | ']' :: rest => some (array (item :: items).reverse, rest)
      | _ => none

/-- Reads the fields of an object up to its end. -/
def readFields : Nat → Nat → List (String × Json) → List Char → Option (Json × List Char)
  | 0, _, _, _ => none
  | fuel + 1, depth, fields, text =>
    match skipSpace text with
    | '"' :: rest =>
      match readQuoted [] rest with
      | none => none
      | some (key, rest) =>
        match skipSpace rest with
        | ':' :: rest =>
          match readValue fuel depth rest with
          | none => none
          | some (value, rest) =>
            let fields := (String.ofList key, value) :: fields
            match skipSpace rest with
            | ',' :: rest => readFields fuel depth fields rest
            | '\x7d' :: rest => some (ofFields fields.reverse, rest)
            | _ => none
        | _ => none
    | _ => none

end

/-- Reads a text that holds one value and nothing else. -/
def read? (text : List Char) : Option Json :=
  match readValue (2 * text.length + 2) maxDepth text with
  | some (value, rest) => if (skipSpace rest).isEmpty then some value else none
  | none => none

end Stencil.Json
