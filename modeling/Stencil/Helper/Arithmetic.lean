import Stencil.Helper.Basic
import Stencil.Helper.Grouping

set_option autoImplicit false

/-!
The number helpers of the catalog. Arguments are read as binary64 numbers, and results become
integers again where they are exact.
-/

namespace Stencil.Arithmetic

open Number (Binary64)

/-- A helper that changes one number. -/
def unary (change : Binary64 → Binary64) (call : Call) : Answer Json := do
  return .ofBinary (change (← call.number 0))

/-- A helper that combines two numbers. -/
def binary (combine : Binary64 → Binary64 → Binary64) (call : Call) : Answer Json := do
  let left ← call.number 0
  let right ← call.number 1
  return .ofBinary (combine left right)

/-- A helper that divides two numbers; the divisor is looked at first. -/
def division (combine : Binary64 → Binary64 → Binary64) (call : Call) : Answer Json := do
  let divisor ← call.number 1
  if divisor.isZero then call.refuse "division by zero"
  else return .ofBinary (combine (← call.number 0) divisor)

/-- A number of decimals, from none to fifteen. -/
def places (call : Call) (index : Nat) : Answer Nat := do
  return (← held 0 15 ((← call.integer? index).getD 0)).toNat

def round (call : Call) : Answer Json := do
  let value ← call.number 0
  let factor := Binary64.powerOfTen (← places call 1)
  return .ofBinary ((value.mul factor).round.div factor)

/-- The numbers of the arguments, or of one array that is the only argument. -/
def numbers (call : Call) : Answer (List Binary64) :=
  let values := match call.arguments with
    | [.array items] => items
    | arguments => arguments
  values.mapM fun value =>
    match value.toBinary? with
    | some number => .ok number
    | none => call.refuse ("not a number: " ++ value.compact)

def extreme (pick : Binary64 → Binary64 → Binary64) (call : Call) : Answer Json := do
  match ← numbers call with
  | [] => call.refuse "needs at least one number"
  | first :: others => return .ofBinary (others.foldl pick first)

/-- A number held between two others, which must be numbers in order. -/
def heldNumber (low high value : Binary64) : Answer Binary64 :=
  if (Binary64.compare? low high).any Ordering.isLE then .ok (Binary64.clamp value low high)
  else .error .unbounded

def clamp (call : Call) : Answer Json := do
  let value ← call.number 0
  let low ← call.number 1
  let high ← call.number 2
  if low.gt high then
    call.refuse ("min " ++ low.text ++ " is greater than max " ++ high.text)
  else return .ofBinary (← heldNumber low high value)

def total (values : List Binary64) : Binary64 := values.foldl Binary64.add Binary64.zero

def sum (call : Call) : Answer Json := do
  return .ofBinary (total (← numbers call))

/-- The mean; of no numbers it is zero. -/
def avg (call : Call) : Answer Json := do
  let values ← numbers call
  if values.isEmpty then return .int 0
  else return .ofBinary ((total values).div (.ofNat values.length))

def formatNumber (call : Call) : Answer Json := do
  let value ← call.number 0
  let decimals ← places call 1
  let separator := ((call.option? "separator").map Json.toText).getD ","
  return .string (Grouping.grouped value decimals separator)

/-- The part of a whole, if a whole is given. -/
def ratio (call : Call) : Answer Binary64 := do
  let value ← call.number 0
  match call.argument? 1 with
  | none => return value
  | some .null => return value
  | some _ =>
    let whole ← call.number 1
    if whole.isZero then call.refuse "total is zero" else return value.div whole

def percent (call : Call) : Answer Json := do
  let ratio ← ratio call
  let decimals ← places call 2
  return .string ((ratio.mul (.ofNat 100)).fixed decimals ++ "%")

def entries : List CatalogEntry := [
  ⟨"add", "Sum of two numbers", binary Binary64.add⟩,
  ⟨"subtract", "Difference of two numbers", binary Binary64.sub⟩,
  ⟨"multiply", "Product of two numbers", binary Binary64.mul⟩,
  ⟨"divide", "Quotient of two numbers; dividing by zero is an error", division Binary64.div⟩,
  ⟨"mod", "Remainder of a division; zero divisor is an error", division Binary64.rem⟩,
  ⟨"abs", "Absolute value", unary Binary64.abs⟩,
  ⟨"round", "Rounds to a number of decimals (default 0)", round⟩,
  ⟨"floor", "Rounds down", unary Binary64.floor⟩,
  ⟨"ceil", "Rounds up", unary Binary64.ceil⟩,
  ⟨"min", "Smallest of the arguments (or of one array)", extreme Binary64.min⟩,
  ⟨"max", "Largest of the arguments (or of one array)", extreme Binary64.max⟩,
  ⟨"clamp", "Limits a number to [min, max]", clamp⟩,
  ⟨"sum", "Sum of an array", sum⟩,
  ⟨"avg", "Mean of an array; empty arrays give 0", avg⟩,
  ⟨"formatNumber", "Thousands separators and fixed decimals", formatNumber⟩,
  ⟨"percent", "Formats a ratio (or value/total) as a percentage", percent⟩]

end Stencil.Arithmetic
