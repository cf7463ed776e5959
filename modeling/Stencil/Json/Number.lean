import Stencil.Number.Decimal

set_option autoImplicit false

/-!
Numbers of data. An integer keeps its exact value; every other number is a finite binary64. The two
kinds differ even where their values agree, except for the helpers that compare loosely.
-/

namespace Stencil

open Number (Binary64 Decimal Layout)

/-- A number of data: an exact integer of 64 bits, or a finite real number in units of `2 ^ -1074`. -/
inductive Numeral where
  | int (value : Int)
  | real (negative : Bool) (units : Nat)
  deriving DecidableEq

namespace Numeral

def toBinary : Numeral → Binary64
  | int value => Binary64.ofInt value
  | real negative units => .finite negative units

/-- Sameness within a kind: both zeros of the reals are the same number. -/
def same : Numeral → Numeral → Bool
  | int left, int right => left == right
  | real left a, real right b => Binary64.signedUnits left a == Binary64.signedUnits right b
  | _, _ => false

/-- Equality of values across kinds. -/
def looselySame (left right : Numeral) : Bool := left.toBinary.eq right.toBinary

def text : Numeral → String
  | int value => toString value
  | real negative units => Layout.data.writeFinite negative units

/-- A number kept integral where it is a whole number below `9 * 10 ^ 15`; none for no number. -/
def ofBinary? (value : Binary64) : Option Numeral :=
  match value with
  | .finite negative units =>
    if value.isWhole && decide (units < 9 * Nat.pow 10 15 * Binary64.unit) then
      some (int (value.truncate.getD 0))
    else some (real negative units)
  | _ => none

theorem same_self (number : Numeral) : same number number = true := by
  cases number <;> simp [same]

theorem same_comm (left right : Numeral) : same left right = same right left := by
  cases left <;> cases right <;> simp [same, Bool.beq_comm]

end Numeral

namespace Reading

/-- The largest whole number that fits 64 bits. -/
def maxWhole : Nat := Nat.pow 2 64 - 1

/-- The digits read so far as a number of 64 bits, and the power of ten that belongs to it. -/
structure Significand where
  value : Nat
  exponent : Int
  full : Bool

namespace Significand

/-- A digit before the point; once the value is full, each further one only raises the power. -/
def pushWhole (significand : Significand) (digit : Char) : Significand :=
  let next := significand.value * 10 + (digit.toNat - '0'.toNat)
  if significand.full || decide (maxWhole < next) then
    { significand with exponent := significand.exponent + 1, full := true }
  else { significand with value := next }

/-- A digit after the point; once one does not fit, the rest is left out. -/
def pushFraction (significand : Significand) (digit : Char) : Significand :=
  let next := significand.value * 10 + (digit.toNat - '0'.toNat)
  if significand.full || decide (maxWhole < next) then { significand with full := true }
  else { significand with value := next, exponent := significand.exponent - 1 }

end Significand

/-- Scales by a power of ten, in steps of at most `10 ^ 308`; none where it overflows. -/
def scale : Nat → Binary64 → Int → Option Binary64
  | 0, value, _ => some value
  | fuel + 1, value, exponent =>
    if exponent.natAbs ≤ 308 then
      let power := Binary64.powerOfTen exponent.natAbs
      if 0 ≤ exponent then
        let scaled := value.mul power
        if scaled.isFinite then some scaled else none
      else some (value.div power)
    else if value.isZero then some value
    else if 0 ≤ exponent then none
    else scale fuel (value.div (Binary64.powerOfTen 308)) (exponent + 308)

def realOf (negative : Bool) (value : Binary64) : Option Numeral :=
  match value with
  | .finite _ units => some (.real negative units)
  | _ => none

/-- The number of a significand and a further power of ten. -/
def scaled (negative : Bool) (significand : Nat) (exponent : Int) : Option Numeral :=
  (scale 8 (Binary64.ofNat significand) exponent).bind (realOf negative)

/-- A whole number that fits is an integer; minus zero and one out of range are real. -/
def whole (negative : Bool) (significand : Significand) : Option Numeral :=
  if significand.full then scaled negative significand.value significand.exponent
  else if !negative then some (.int significand.value)
  else if significand.value ≠ 0 ∧ significand.value ≤ Nat.pow 2 63 then
    some (.int (-significand.value))
  else scaled true significand.value 0

def takeDigits (text : List Char) : List Char × List Char := text.span Char.isDigit

/-- An exponent after its mark, and the number that it makes of a significand. -/
def exponentOf (negative : Bool) (value : Nat) (start : Int) (text : List Char) :
    Option (Numeral × List Char) :=
  let (down, text) := Decimal.takeSign text
  let (digits, rest) := takeDigits text
  if digits.isEmpty then none
  else
    let power := Decimal.ofDigits digits
    if Nat.pow 2 31 ≤ power then
      if value ≠ 0 ∧ !down then none else some (.real negative 0, rest)
    else
      let exponent : Int := start + (if down then -(power : Int) else power)
      (scaled negative value exponent).map (·, rest)

/-- Continues after the whole part. -/
def afterWhole (negative : Bool) (significand : Significand) : List Char → Option (Numeral × List Char)
  | '.' :: text =>
    let (digits, rest) := takeDigits text
    if digits.isEmpty then none
    else
      let significand := digits.foldl Significand.pushFraction { significand with full := false }
      match rest with
      | mark :: rest' =>
        if mark = 'e' ∨ mark = 'E' then
          exponentOf negative significand.value significand.exponent rest'
        else (scaled negative significand.value significand.exponent).map (·, rest)
      | [] => (scaled negative significand.value significand.exponent).map (·, rest)
  | mark :: text =>
    if mark = 'e' ∨ mark = 'E' then exponentOf negative significand.value significand.exponent text
    else (whole negative significand).map (·, mark :: text)
  | [] => (whole negative significand).map (·, [])

/-- Reads a number; a zero stands alone before the point. -/
def numeral? (text : List Char) : Option (Numeral × List Char) :=
  let (negative, text) := match text with
    | '-' :: rest => (true, rest)
    | text => (false, text)
  let (digits, rest) := takeDigits text
  match digits with
  | [] => none
  | '0' :: _ :: _ => none
  | digits => afterWhole negative (digits.foldl Significand.pushWhole ⟨0, 0, false⟩) rest

end Reading

end Stencil
