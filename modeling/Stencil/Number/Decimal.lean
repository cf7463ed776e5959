import Stencil.Number.Binary64

set_option autoImplicit false

/-!
Decimal text of binary64 numbers.

`shortest` finds the fewest digits that read back as the same magnitude, `Layout` decides how such
digits are written and which of two equally near ones are taken, `fixed` writes a given number of
places of the exact value, and `read?` reads decimal text back, correctly rounded.
-/

namespace Stencil.Number

/-- A positive decimal: `digits` times `10 ^ exponent`. -/
structure Decimal where
  digits : Nat
  exponent : Int
  deriving DecidableEq

/-- Which of two neighbours is taken if a value is right between them. -/
inductive TieRule where
  | toEven
  | upward
  deriving DecidableEq

namespace TieRule

/-- The neighbour that is taken, given the lower one. -/
def choose : TieRule → Nat → Nat
  | toEven, below => below + below % 2
  | upward, below => below + 1

end TieRule

namespace Decimal

/-- The gap to the next smaller magnitude is half the gap to the next larger one at a power of two. -/
def halfGapBelow (units : Nat) : Nat :=
  let shift := Binary64.dropped units
  if shift ≠ 0 ∧ units = 1 <<< units.log2 then 1 <<< (shift - 1) else 1 <<< shift

def halfGapAbove (units : Nat) : Nat := 1 <<< Binary64.dropped units

/-- True for a half-unit count that rounds to `units`: the ends belong to an even significand. -/
def roundsTo (units num den : Nat) : Bool :=
  let low := (2 * units - halfGapBelow units) * den
  let high := (2 * units + halfGapAbove units) * den
  let even := (units >>> Binary64.dropped units) % 2 == 0
  if even then low ≤ num && num ≤ high else low < num && num < high

/-- The multiple of `10 ^ exponent` that reads back as `units`, the nearer one if there are two. -/
def onGrid? (tie : TieRule) (units : Nat) (exponent : Int) : Option Decimal :=
  let scale := Nat.pow 10 (-exponent).toNat
  let step := Nat.pow 10 exponent.toNat * (2 * Binary64.unit)
  let value := 2 * units * scale
  let below := value / step
  let candidate (digits : Nat) := roundsTo units (digits * step) scale
  let rest := 2 * (value % step)
  let nearer := if rest < step then below else if rest = step then tie.choose below else below + 1
  if candidate nearer then some ⟨nearer, exponent⟩
  else if candidate below then some ⟨below, exponent⟩
  else if candidate (below + 1) then some ⟨below + 1, exponent⟩
  else none

/-- Searches the grids from the coarsest to the finest. -/
def search (tie : TieRule) (units : Nat) : Nat → Int → Option Decimal
  | 0, _ => none
  | fuel + 1, exponent =>
    match onGrid? tie units exponent with
    | some decimal => some decimal
    | none => search tie units fuel (exponent - 1)

/-- The decimal of fewest digits that reads back as the same positive magnitude. -/
def shortest (tie : TieRule) (units : Nat) : Decimal :=
  let magnitude : Int := (units.log2 : Int) - 1074
  (search tie units 20 (magnitude * 30103 / 100000 + 1)).getD ⟨0, 0⟩

end Decimal

/-- How decimal digits are written out. -/
structure Layout where
  /-- Written after a number without fraction. -/
  wholeMark : String
  /-- The positions of the point, counted from the first digit, that are written without exponent. -/
  positional : Option (Int × Int)
  /-- The sign of a positive exponent. -/
  plus : String
  /-- Which of two equally near decimals is written. -/
  tie : TieRule

namespace Layout

/-- Plain decimal notation, never an exponent. -/
def plain : Layout := ⟨"", none, "", .upward⟩

/-- The number form of data text: always a point or an exponent, exponents from `1e16` and below `1e-5`. -/
def data : Layout := ⟨".0", some (-4, 16), "+", .toEven⟩

/-- The data form without a plus sign in exponents. -/
def block : Layout := ⟨".0", some (-4, 16), "", .toEven⟩

def zeros (count : Nat) : String := String.ofList (List.replicate count '0')

def isPositional (layout : Layout) (point : Int) : Bool :=
  match layout.positional with
  | none => true
  | some (low, high) => decide (low ≤ point) && decide (point ≤ high)

/-- Writes `digits` times `10 ^ exponent`. -/
def write (layout : Layout) (decimal : Decimal) : String :=
  let digits := (Nat.toDigits 10 decimal.digits)
  let count : Int := digits.length
  let point := count + decimal.exponent
  if layout.isPositional point then
    if count ≤ point then
      String.ofList digits ++ zeros (point - count).toNat ++ layout.wholeMark
    else if 0 < point then
      String.ofList (digits.take point.toNat) ++ "." ++ String.ofList (digits.drop point.toNat)
    else "0." ++ zeros (-point).toNat ++ String.ofList digits
  else
    let mark := if digits.length ≤ 1 then "" else "."
    let power := point - 1
    let sign := if power < 0 then "-" else layout.plus
    String.ofList (digits.take 1) ++ mark ++ String.ofList (digits.drop 1) ++ "e" ++ sign ++
      toString power.natAbs

/-- Writes a finite magnitude with its sign; both zeros show theirs. -/
def writeFinite (layout : Layout) (negative : Bool) (units : Nat) : String :=
  (if negative then "-" else "") ++
    (if units = 0 then "0" ++ layout.wholeMark else layout.write (Decimal.shortest layout.tie units))

end Layout

namespace Binary64

/-- The shortest text that reads back, in plain notation. -/
def text : Binary64 → String
  | finite negative units => Layout.plain.writeFinite negative units
  | infinite negative => if negative then "-inf" else "inf"
  | nan => "NaN"

/-- The magnitude with exactly `places` digits after the point, a half going to the even digit. -/
def fixedMagnitude (units places : Nat) : String :=
  let scaled := roundDiv (units * Nat.pow 10 places) unit
  let digits := Nat.toDigits 10 scaled
  let padded := List.replicate (places + 1 - digits.length) '0' ++ digits
  let whole := padded.take (padded.length - places)
  if places = 0 then String.ofList whole
  else String.ofList whole ++ "." ++ String.ofList (padded.drop (padded.length - places))

/-- Fixed notation with `places` digits after the point. -/
def fixed (value : Binary64) (places : Nat) : String :=
  match value with
  | finite negative units => (if negative then "-" else "") ++ fixedMagnitude units places
  | other => other.text

/-- `digits * 10 ^ exponent`, correctly rounded; far exponents need no large power. -/
def ofDecimal (negative : Bool) (digits : Nat) (exponent : Int) : Binary64 :=
  if digits = 0 then finite negative 0
  else
    let magnitude : Int := (Nat.toDigits 10 digits).length + exponent
    if 400 < magnitude then infinite negative
    else if magnitude < -400 then finite negative 0
    else
      ofRatio negative (digits * unit * Nat.pow 10 exponent.toNat) (Nat.pow 10 (-exponent).toNat)

end Binary64

namespace Decimal

/-- The number that a row of decimal digits writes. -/
def ofDigits (digits : List Char) : Nat :=
  digits.foldl (fun total digit => 10 * total + (digit.toNat - '0'.toNat)) 0

/-- Splits a leading sign off: true for a minus. -/
def takeSign : List Char → Bool × List Char
  | '-' :: rest => (true, rest)
  | '+' :: rest => (false, rest)
  | text => (false, text)

/-- The power of ten after an `e`; the whole text must be used up. -/
def readExponent? : List Char → Option Int
  | [] => some 0
  | mark :: rest =>
    if mark = 'e' ∨ mark = 'E' then
      let (negative, digits) := takeSign rest
      if digits.isEmpty || !digits.all Char.isDigit then none
      else some (if negative then -(ofDigits digits : Int) else ofDigits digits)
    else none

/-- Digits with an optional point and exponent: a digit must stand before or after the point. -/
def readMagnitude? (negative : Bool) (text : List Char) : Option Binary64 :=
  let whole := text.takeWhile Char.isDigit
  let rest := text.dropWhile Char.isDigit
  let (fraction, rest) := match rest with
    | '.' :: rest => (rest.takeWhile Char.isDigit, rest.dropWhile Char.isDigit)
    | rest => ([], rest)
  if whole.isEmpty && fraction.isEmpty then none
  else (readExponent? rest).map fun exponent =>
    Binary64.ofDecimal negative (ofDigits (whole ++ fraction)) (exponent - fraction.length)

/-- Reads decimal text, or `inf`, `infinity` or `nan` in any case. -/
def read? (text : List Char) : Option Binary64 :=
  let (negative, magnitude) := takeSign text
  let word := magnitude.map Char.toLower
  if word = "inf".toList ∨ word = "infinity".toList then some (.infinite negative)
  else if word = "nan".toList then some .nan
  else readMagnitude? negative magnitude

end Decimal

end Stencil.Number
