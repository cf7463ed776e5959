import Stencil.Json.Basic
import Stencil.Text.Trim
import Stencil.Yaml.Scalar

set_option autoImplicit false

/-!
Data values as YAML documents in block style. A sequence under a key keeps the column of the key;
everything else that is nested moves two columns to the right.
-/

namespace Stencil.Yaml

open Number (Layout)

/-- The longest key, in bytes, that stands on one line with its value. -/
def maxKeyBytes : Nat := 128

/-- A key before its value: most stand on the line of the value, all others after a question mark. -/
def isSimpleKey (key : String) : Bool :=
  !key.toList.any isBreak && decide (key.utf8ByteSize ≤ maxKeyBytes)

/-- The key with the colon; what follows the colon of a marked key may begin on its line. -/
def keyLines (indent : Nat) (key : String) : List Char :=
  if isSimpleKey key then scalarLines true (indent + 2) key.toList ++ [':']
  else '?' :: ' ' :: scalarLines false (indent + 2) key.toList ++ indentation indent ++ [':']

def numberText : Numeral → String
  | .int value => toString value
  | .real negative units => Layout.block.writeFinite negative units

/-- A value that stands on the line of its key or dash; none for one that takes lines of its own. -/
def onLine? (indent : Nat) : Json → Option (List Char)
  | .null => some "null\n".toList
  | .bool value => some (if value then "true\n" else "false\n").toList
  | .number value => some (numberText value ++ "\n").toList
  | .string text => some (scalarLines false (indent + 2) text.toList)
  | .array [] => some "[]\n".toList
  | .object [] => some "\x7b\x7d\n".toList
  | .array _ => none
  | .object _ => none

mutual

/-- The lines of a value; the first line of a sequence or mapping has its indentation already. -/
def valueLines (indent : Nat) : Json → List Char
  | .array (item :: items) => itemLines indent true (item :: items)
  | .object (field :: fields) => fieldLines indent true (field :: fields)
  | other => (onLine? indent other).getD []

def itemLines (indent : Nat) (first : Bool) : List Json → List Char
  | [] => []
  | item :: items =>
    (if first then [] else indentation indent) ++ '-' :: ' ' ::
      (match onLine? indent item with
        | some line => line
        | none => valueLines (indent + 2) item) ++
      itemLines indent false items

def fieldLines (indent : Nat) (first : Bool) : List (String × Json) → List Char
  | [] => []
  | (key, value) :: fields =>
    (if first then [] else indentation indent) ++ keyLines indent key ++
      (match onLine? indent value with
        | some line => ' ' :: line
        | none =>
          if !isSimpleKey key then ' ' :: valueLines (indent + 2) value
          else
            match value with
            | .array items => '\n' :: (indentation indent ++ itemLines indent true items)
            | value => '\n' :: (indentation (indent + 2) ++ valueLines (indent + 2) value)) ++
      fieldLines indent false fields

end

/-- A value as a document, without blanks at its end. -/
def document (value : Json) : String := String.ofList (Text.trimEnd (valueLines 0 value))

end Stencil.Yaml
