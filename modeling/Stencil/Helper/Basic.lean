import Stencil.Calendar.Instant
import Stencil.Json.Printer
import Stencil.Text.Trim

set_option autoImplicit false

/-!
Helpers and how they are called. A helper is a function of a call: the name under which it is
called, its arguments, its named options and the present time. The accessors of a call read single
arguments, and their errors name the helper.
-/

namespace Stencil

open Number (Binary64 Decimal)

/-- Why a helper refuses a call. -/
inductive HelperError where
  | missingArgument (helper : String) (position : Nat)
  | invalidArgument (helper : String) (reason : String)
  | custom (message : String)
  deriving DecidableEq

namespace HelperError

def message : HelperError → String
  | missingArgument helper position => helper ++ ": missing argument #" ++ toString position
  | invalidArgument helper reason => helper ++ ": " ++ reason
  | custom message => message

end HelperError

/-- How a call ends without a value. -/
inductive Halt where
  | refused (error : HelperError)
  /-- A position is out of its bounds, or the bounds of a range are out of order. -/
  | unbounded
  /-- A fill that never gets wider is repeated forever. -/
  | endless
  deriving DecidableEq

/-- What a helper gives. -/
abbrev Answer (α : Type) := Except Halt α

/-- A call of a helper. -/
structure Call where
  helper : String
  arguments : List Json
  options : List (String × Json)
  now : Calendar.Instant

abbrev Helper := Call → Answer Json

/-! ### What must be inside its bounds -/

/-- The value at a position, which must be there. -/
def itemAt {α : Type} (items : List α) (index : Nat) : Answer α :=
  match items[index]? with
  | some item => .ok item
  | none => .error .unbounded

/-- The values between two positions, which must be in order and inside the list. -/
def itemsBetween {α : Type} (items : List α) (start finish : Int) : Answer (List α) :=
  if 0 ≤ start ∧ start ≤ finish ∧ finish ≤ items.length then
    .ok ((items.drop start.toNat).take (finish - start).toNat)
  else .error .unbounded

/-- An integer held between two others, which must be in order. -/
def held (low high value : Int) : Answer Int :=
  if low ≤ high then .ok (min (max value low) high) else .error .unbounded

namespace Json

/-- The number that a value stands for: numbers, numeric texts and truth values. -/
def toBinary? : Json → Option Binary64
  | number value => some value.toBinary
  | string text => Decimal.read? (Text.trim text.toList)
  | bool value => some (if value then Binary64.one else Binary64.zero)
  | _ => none

def isNull : Json → Bool
  | null => true
  | _ => false

end Json

namespace Call

def invalid (call : Call) (reason : String) : HelperError := .invalidArgument call.helper reason

/-- Refuses a call with a reason. -/
def refuse {α : Type} (call : Call) (reason : String) : Answer α :=
  .error (.refused (call.invalid reason))

def option? (call : Call) (key : String) : Option Json := Json.find? key call.options

def argument? (call : Call) (index : Nat) : Option Json := call.arguments[index]?

def argument (call : Call) (index : Nat) : Answer Json :=
  match call.argument? index with
  | some value => .ok value
  | none => .error (.refused (.missingArgument call.helper (index + 1)))

def text (call : Call) (index : Nat) : Answer String := (call.argument index).map Json.toText

def chars (call : Call) (index : Nat) : Answer (List Char) := (call.text index).map String.toList

/-- The text of an argument that may be left out. -/
def textOr (call : Call) (index : Nat) (other : String) : String :=
  match call.argument? index with
  | some value => value.toText
  | none => other

def number (call : Call) (index : Nat) : Answer Binary64 := do
  let value ← call.argument index
  match value.toBinary? with
  | some number => .ok number
  | none => call.refuse ("expected a number, got " ++ value.compact)

/-- A whole number, held inside 64 signed bits. -/
def integer (call : Call) (index : Nat) : Answer Int := do
  let number ← call.number index
  if number.isWhole then .ok number.toInt64
  else call.refuse ("expected an integer, got " ++ number.text)

/-- A whole number that may be null or left out. -/
def integer? (call : Call) (index : Nat) : Answer (Option Int) :=
  match call.argument? index with
  | none => .ok none
  | some .null => .ok none
  | some _ => (call.integer index).map some

/-- A whole number that must not be negative; `what` is its name in the error. -/
def natural (call : Call) (index : Nat) (what : String) : Answer Nat := do
  let value ← call.integer index
  if value < 0 then call.refuse (what ++ " must not be negative") else .ok value.toNat

def array (call : Call) (index : Nat) : Answer (List Json) := do
  match ← call.argument index with
  | .array items => .ok items
  | other => call.refuse ("expected an array, got " ++ other.typeName)

/-- An array, or null for an empty one. -/
def arrayOrEmpty (call : Call) (index : Nat) : Answer (List Json) := do
  match ← call.argument index with
  | .null => .ok []
  | _ => call.array index

def object (call : Call) (index : Nat) : Answer (List (String × Json)) := do
  match ← call.argument index with
  | .object fields => .ok fields
  | other => call.refuse ("expected an object, got " ++ other.typeName)

/-- An object, or null for an empty one. -/
def objectOrEmpty (call : Call) (index : Nat) : Answer (List (String × Json)) := do
  match ← call.argument index with
  | .null => .ok []
  | _ => call.object index

end Call

/-- A helper of the catalog. -/
structure CatalogEntry where
  name : String
  description : String
  run : Helper

end Stencil
