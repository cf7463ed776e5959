import Stencil.Json.Basic

set_option autoImplicit false

/-!
Data values as text: on one line without spaces, or indented by two spaces a level. Both printers
append to the text written so far.
-/

namespace Stencil.Json

/-- A character inside quotes; control characters without a short escape are written in hexadecimal. -/
def escapeChar (written : String) (c : Char) : String :=
  if c = '"' then written ++ "\\\""
  else if c = '\\' then written ++ "\\\\"
  else if 32 ≤ c.toNat then written.push c
  else if c = '\n' then written ++ "\\n"
  else if c = '\r' then written ++ "\\r"
  else if c = '\t' then written ++ "\\t"
  else if c.toNat = 8 then written ++ "\\b"
  else if c.toNat = 12 then written ++ "\\f"
  else
    let digits := Nat.toDigits 16 c.toNat
    written ++ "\\u" ++ String.ofList (List.replicate (4 - digits.length) '0' ++ digits)

def writeString (written : String) (text : String) : String :=
  (text.toList.foldl escapeChar (written.push '"')).push '"'

mutual

/-- Appends a value on one line. -/
def write (written : String) : Json → String
  | null => written ++ "null"
  | bool value => written ++ (if value then "true" else "false")
  | number value => written ++ value.text
  | string value => writeString written value
  | array items => (writeItems (written.push '[') true items).push ']'
  | object fields => (writeFields (written.push '\x7b') true fields).push '\x7d'

def writeItems (written : String) (first : Bool) : List Json → String
  | [] => written
  | item :: items => writeItems (write (if first then written else written.push ',') item) false items

def writeFields (written : String) (first : Bool) : List (String × Json) → String
  | [] => written
  | (key, value) :: fields =>
    let written := if first then written else written.push ','
    writeFields (write ((writeString written key).push ':') value) false fields

end

/-- A value on one line. -/
def compact (value : Json) : String := write "" value

/-- A line break and the indentation of a level. -/
def breakLine (written : String) (level : Nat) : String :=
  written ++ "\n" ++ String.ofList (List.replicate (2 * level) ' ')

mutual

/-- Appends an indented value; empty arrays and objects stay on one line. -/
def writePretty (written : String) (level : Nat) : Json → String
  | array items =>
    if items.isEmpty then written ++ "[]"
    else
      (breakLine (writePrettyItems (written.push '[') level true items) level).push ']'
  | object fields =>
    if fields.isEmpty then written ++ "\x7b\x7d"
    else
      (breakLine (writePrettyFields (written.push '\x7b') level true fields) level).push '\x7d'
  | other => write written other

def writePrettyItems (written : String) (level : Nat) (first : Bool) : List Json → String
  | [] => written
  | item :: items =>
    let written := breakLine (if first then written else written.push ',') (level + 1)
    writePrettyItems (writePretty written (level + 1) item) level false items

def writePrettyFields (written : String) (level : Nat) (first : Bool) :
    List (String × Json) → String
  | [] => written
  | (key, value) :: fields =>
    let written := breakLine (if first then written else written.push ',') (level + 1)
    let written := writeString written key ++ ": "
    writePrettyFields (writePretty written (level + 1) value) level false fields

end

/-- A value over several lines. -/
def pretty (value : Json) : String := writePretty "" 0 value

/-- The text of a value as an argument: a text is itself, null is empty, all else is data. -/
def toText : Json → String
  | null => ""
  | string value => value
  | other => other.compact

end Stencil.Json
