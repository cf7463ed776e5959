set_option autoImplicit false

/-!
Binary floating-point numbers of 53 significant bits, as exact integers.

Every finite number of the format is a whole multiple of `2 ^ -1074`, so a magnitude is the natural
number of such units. Sums, remainders and comparisons are then plain integer arithmetic, and the
only approximation is `nearest`, which every operation applies once.
-/

namespace Stencil.Number

/-- A number of the binary64 format; `units` counts steps of `2 ^ -1074`. -/
inductive Binary64 where
  | finite (negative : Bool) (units : Nat)
  | infinite (negative : Bool)
  | nan
  deriving DecidableEq

namespace Binary64

/-- How many units make the number one. -/
def unit : Nat := 1 <<< 1074

/-- The least magnitude that is too large for the format, `2 ^ 1024`, in units. -/
def limit : Nat := 1 <<< 2098

/-- A quotient rounded to the nearest whole number, a half going to the even neighbour. -/
def roundDiv (num den : Nat) : Nat :=
  let quotient := num / den
  let rest := num % den
  if 2 * rest < den then quotient
  else if 2 * rest = den then quotient + quotient % 2
  else quotient + 1

/-- How many low bits a magnitude of this size cannot keep. -/
def dropped (units : Nat) : Nat := units.log2 - 52

/-- The magnitude of the format nearest to `num / den` units, ties to the even significand. -/
def nearest (num den : Nat) : Nat :=
  let shift := dropped (num / den)
  roundDiv num (den <<< shift) <<< shift

/-- A signed magnitude, rounded, with overflow to infinity. -/
def ofRatio (negative : Bool) (num den : Nat) : Binary64 :=
  let units := nearest num den
  if units < limit then finite negative units else infinite negative

def zero : Binary64 := finite false 0

def one : Binary64 := finite false unit

def ofInt (value : Int) : Binary64 :=
  ofRatio (value < 0) (value.natAbs * unit) 1

def ofNat (value : Nat) : Binary64 := ofRatio false (value * unit) 1

/-- The number `10 ^ exponent`, rounded. -/
def powerOfTen (exponent : Nat) : Binary64 := ofNat (Nat.pow 10 exponent)

def neg : Binary64 → Binary64
  | finite negative units => finite (!negative) units
  | infinite negative => infinite (!negative)
  | nan => nan

def abs : Binary64 → Binary64
  | finite _ units => finite false units
  | infinite _ => infinite false
  | nan => nan

/-- Opposite magnitudes cancel to a positive zero. -/
def add : Binary64 → Binary64 → Binary64
  | finite left a, finite right b =>
    if left = right then ofRatio left (a + b) 1
    else if b < a then ofRatio left (a - b) 1
    else if a < b then ofRatio right (b - a) 1
    else zero
  | infinite left, infinite right => if left = right then infinite left else nan
  | infinite left, finite _ _ => infinite left
  | finite _ _, infinite right => infinite right
  | nan, _ => nan
  | _, nan => nan

def sub (left right : Binary64) : Binary64 := add left (neg right)

def mul : Binary64 → Binary64 → Binary64
  | finite left a, finite right b => ofRatio (left != right) (a * b) unit
  | infinite left, infinite right => infinite (left != right)
  | infinite left, finite right b => if b = 0 then nan else infinite (left != right)
  | finite left a, infinite right => if a = 0 then nan else infinite (left != right)
  | nan, _ => nan
  | _, nan => nan

def div : Binary64 → Binary64 → Binary64
  | finite left a, finite right b =>
    if b = 0 then (if a = 0 then nan else infinite (left != right))
    else ofRatio (left != right) (a * unit) b
  | infinite _, infinite _ => nan
  | infinite left, finite right _ => infinite (left != right)
  | finite left _, infinite right => finite (left != right) 0
  | nan, _ => nan
  | _, nan => nan

/-- The remainder of a division truncated toward zero; it has the sign of the dividend and is exact. -/
def rem : Binary64 → Binary64 → Binary64
  | finite left a, finite _ b => if b = 0 then nan else finite left (a % b)
  | finite left a, infinite _ => finite left a
  | infinite _, _ => nan
  | nan, _ => nan
  | _, nan => nan

/-- True for a finite number without a fraction. -/
def isWhole : Binary64 → Bool
  | finite _ units => units % unit == 0
  | _ => false

def isFinite : Binary64 → Bool
  | finite _ _ => true
  | _ => false

def isZero : Binary64 → Bool
  | finite _ units => units == 0
  | _ => false

/-- True from `2 ^ -1022` on, where a number keeps all its significant bits. -/
def isNormal : Binary64 → Bool
  | finite _ units => decide (1 <<< 52 ≤ units)
  | _ => false

def floor : Binary64 → Binary64
  | finite negative units =>
    let whole := units / unit
    let up := negative && units % unit != 0
    finite negative ((if up then whole + 1 else whole) * unit)
  | other => other

def ceil (value : Binary64) : Binary64 := neg (floor (neg value))

/-- The nearest whole number, a half going away from zero. -/
def round : Binary64 → Binary64
  | finite negative units => finite negative ((2 * units + unit) / (2 * unit) * unit)
  | other => other

/-- The integer left of the point. -/
def truncate : Binary64 → Option Int
  | finite negative units =>
    let whole : Int := (units / unit : Nat)
    some (if negative then -whole else whole)
  | _ => none

/-- The integer left of the point, held inside 64 signed bits; a number that is none gives zero. -/
def toInt64 : Binary64 → Int
  | infinite negative => if negative then -(Nat.pow 2 63 : Int) else Nat.pow 2 63 - 1
  | nan => 0
  | value => min (max ((truncate value).getD 0) (-(Nat.pow 2 63 : Int))) (Nat.pow 2 63 - 1)

/-- The signed number of units, by which finite numbers are ordered. -/
def signedUnits (negative : Bool) (units : Nat) : Int :=
  if negative then -(units : Int) else units

/-- The order of two numbers; none beside a value that is no number. -/
def compare? : Binary64 → Binary64 → Option Ordering
  | finite left a, finite right b => some (compare (signedUnits left a) (signedUnits right b))
  | infinite left, infinite right => some (compare right.toNat left.toNat)
  | infinite left, finite _ _ => some (if left then .lt else .gt)
  | finite _ _, infinite right => some (if right then .gt else .lt)
  | nan, _ => none
  | _, nan => none

def lt (left right : Binary64) : Bool := compare? left right == some .lt

def gt (left right : Binary64) : Bool := compare? left right == some .gt

/-- Numeric equality: both zeros are equal, and a value that is no number equals nothing. -/
def eq (left right : Binary64) : Bool := compare? left right == some .eq

/-- The smaller number; beside a value that is no number, the other one. -/
def min (left right : Binary64) : Binary64 :=
  match left, right with
  | nan, other => other
  | other, nan => other
  | _, _ => if lt right left then right else left

def max (left right : Binary64) : Binary64 :=
  match left, right with
  | nan, other => other
  | other, nan => other
  | _, _ => if lt left right then right else left

/-- The number held between two bounds. -/
def clamp (value low high : Binary64) : Binary64 :=
  if lt value low then low else if gt value high then high else value

@[simp] theorem compare?_finite (left right : Bool) (a b : Nat) :
    compare? (finite left a) (finite right b) =
      some (compare (signedUnits left a) (signedUnits right b)) := rfl

@[simp] theorem neg_neg (value : Binary64) : neg (neg value) = value := by
  cases value <;> simp [neg]

end Binary64

end Stencil.Number
