import Stencil.Text.Class
import Stencil.Text.Property.CaseMap
import Stencil.Text.Property.Cased

set_option autoImplicit false

/-!
Upper and lower case. One letter may become several, and a sigma at the end of a word has a lower
case of its own, which only shows when a whole text is lowered.
-/

namespace Stencil.Text

open Property

/-- Looks a letter up in a case mapping beyond ASCII. -/
def mapCase (strings : List (Nat × List Nat)) (shifts : List Shift) (c : Char) : List Char :=
  match strings.find? (·.1 == c.toNat) with
  | some (_, codes) => codes.map Char.ofNat
  | none =>
    match shifts.find? (·.stride.holds c.toNat) with
    | some shift => [Char.ofNat (c.toNat + shift.distance).toNat]
    | none => [c]

def upperChar (c : Char) : List Char :=
  if isAscii c then [c.toUpper] else mapCase toUpperStrings toUpperShifts c

def lowerChar (c : Char) : List Char :=
  if isAscii c then [c.toLower] else mapCase toLowerStrings toLowerShifts c

def upperChars (text : List Char) : List Char := text.flatMap upperChar

/-- True if the first character that is not passed over has a case. -/
def meetsCased (text : List Char) : Bool :=
  let ignorable := classify (fun c => "'.:^\x60".toList.contains c) caseIgnorable
  match text.dropWhile ignorable with
  | [] => false
  | c :: _ => classify Char.isAlpha cased c

/-- The lower case of a capital sigma between two texts; the one before it is given backwards. -/
def lowerSigma (before after : List Char) : Char :=
  if meetsCased before && !meetsCased after then 'ς' else 'σ'

/-- Lowers a text; what stands before it is given backwards. -/
def lowerFrom : List Char → List Char → List (List Char)
  | _, [] => []
  | before, c :: text =>
    (if c = 'Σ' then [lowerSigma before text] else lowerChar c) :: lowerFrom (c :: before) text

def lowerChars (text : List Char) : List Char :=
  if text.contains 'Σ' then (lowerFrom [] text).flatten else text.flatMap lowerChar

def upperText (text : String) : String := String.ofList (upperChars text.toList)

def lowerText (text : String) : String := String.ofList (lowerChars text.toList)

/-- The first character in upper case, the others unchanged. -/
def capitalize : List Char → List Char
  | [] => []
  | c :: text => upperChar c ++ text

theorem upperChar_of_ascii {c : Char} (h : isAscii c = true) : upperChar c = [c.toUpper] := by
  simp [upperChar, h]

theorem lowerChar_of_ascii {c : Char} (h : isAscii c = true) : lowerChar c = [c.toLower] := by
  simp [lowerChar, h]

end Stencil.Text
