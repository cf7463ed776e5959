import Stencil.Helper.Basic

set_option autoImplicit false

/-!
Whole numbers as arguments. A whole number is read through binary64 and held inside 64 bits, so it has 64
bits in any case (`toInt64_bounds`), and one of at most 53 bits is read as it is (`integer_of_int`).
-/

namespace Stencil

namespace Number.Binary64

theorem toInt64_bounds (value : Binary64) :
    -(Nat.pow 2 63 : Int) ≤ value.toInt64 ∧ value.toInt64 < Nat.pow 2 63 := by
  cases value with
  | finite negative units =>
    have positive : (0 : Int) < Nat.pow 2 63 := by decide
    simp only [toInt64]
    omega
  | infinite negative => cases negative <;> decide
  | nan => decide

theorem roundDiv_of_dvd {num den : Nat} (positive : 0 < den) (whole : den ∣ num) :
    roundDiv num den = num / den := by
  have rest : 2 * (num % den) < den := by
    rw [Nat.mod_eq_zero_of_dvd whole]
    exact positive
  simp only [roundDiv, if_pos rest]

theorem roundDiv_bounds (num den : Nat) :
    num / den ≤ roundDiv num den ∧ roundDiv num den ≤ num / den + 1 := by
  unfold roundDiv
  simp only
  split
  · omega
  · split
    · omega
    · omega

/-- A magnitude is kept if the bits that it cannot keep are zero. -/
theorem nearest_of_dvd {units : Nat} (whole : Nat.pow 2 (dropped units) ∣ units) :
    nearest units 1 = units := by
  rw [Nat.pow_eq] at whole
  have positive : 0 < 2 ^ dropped units := Nat.two_pow_pos _
  simp only [nearest, Nat.div_one, Nat.shiftLeft_eq, Nat.one_mul]
  rw [roundDiv_of_dvd positive whole, Nat.div_mul_cancel whole]

/-- From the normal range on, rounding does not go below the power of two that a magnitude has reached, and
less than doubles. -/
theorem nearest_bounds (units : Nat) (large : Nat.pow 2 52 ≤ units) :
    Nat.pow 2 units.log2 ≤ nearest units 1 ∧ nearest units 1 ≤ 2 * units := by
  simp only [Nat.pow_eq] at large ⊢
  have positive : units ≠ 0 := by omega
  have size : 52 ≤ units.log2 := (Nat.le_log2 positive).mpr large
  have power : 2 ^ units.log2 ≤ units := Nat.log2_self_le positive
  have split : 2 ^ 52 * 2 ^ (units.log2 - 52) = 2 ^ units.log2 := by
    rw [← Nat.pow_add, Nat.add_sub_cancel' size]
  have step : 0 < 2 ^ (units.log2 - 52) := Nat.two_pow_pos _
  have quotient : 2 ^ 52 ≤ units / 2 ^ (units.log2 - 52) :=
    (Nat.le_div_iff_mul_le step).mpr (split ▸ power)
  have below : units / 2 ^ (units.log2 - 52) * 2 ^ (units.log2 - 52) ≤ units :=
    Nat.div_mul_le_self units _
  have bounds := roundDiv_bounds units (2 ^ (units.log2 - 52))
  simp only [nearest, dropped, Nat.div_one, Nat.shiftLeft_eq, Nat.one_mul]
  constructor
  · rw [← split]
    exact Nat.mul_le_mul_right _ (Nat.le_trans quotient bounds.1)
  · calc roundDiv units (2 ^ (units.log2 - 52)) * 2 ^ (units.log2 - 52)
        ≤ (units / 2 ^ (units.log2 - 52) + 1) * 2 ^ (units.log2 - 52) :=
          Nat.mul_le_mul_right _ bounds.2
      _ = units / 2 ^ (units.log2 - 52) * 2 ^ (units.log2 - 52) + 2 ^ (units.log2 - 52) := by
          rw [Nat.add_mul, Nat.one_mul]
      _ ≤ 2 * units := by
          have least : 2 ^ (units.log2 - 52) ≤ 2 ^ units.log2 :=
            Nat.pow_le_pow_right (by omega) (Nat.sub_le _ _)
          omega

theorem exists_unit_eq : ∃ power, unit = Nat.pow 2 power := by
  unfold unit
  generalize 1074 = power
  exact ⟨power, Nat.one_shiftLeft power⟩

theorem unit_pos : 0 < unit := by
  obtain ⟨power, same⟩ := exists_unit_eq
  exact same ▸ Nat.two_pow_pos power

/-- A whole number that is not zero is in the normal range. -/
theorem le_mul_unit {value : Nat} (positive : 0 < value) : Nat.pow 2 52 ≤ value * unit := by
  have least : Nat.pow 2 52 ≤ unit := by decide +kernel
  exact Nat.le_trans least (Nat.le_mul_of_pos_left unit positive)

/-- A whole number of at most 53 bits keeps all of them. -/
theorem nearest_whole {value : Nat} (small : value < Nat.pow 2 53) :
    nearest (value * unit) 1 = value * unit := by
  obtain ⟨power, same⟩ := exists_unit_eq
  apply nearest_of_dvd
  rw [same]
  have below : value * Nat.pow 2 power < 2 ^ (53 + power) := by
    rw [Nat.pow_add]
    exact Nat.mul_lt_mul_of_pos_right small (Nat.two_pow_pos power)
  have bits : dropped (value * Nat.pow 2 power) ≤ power := by
    unfold dropped
    by_cases zero : value * Nat.pow 2 power = 0
    · rw [zero, Nat.log2_zero]
      omega
    · have size := (Nat.log2_lt zero).mpr below
      omega
  exact Nat.dvd_mul_left_of_dvd (Nat.pow_dvd_pow 2 bits) value

/-- A whole number is rounded to a whole number. -/
theorem unit_dvd_nearest (value : Nat) : unit ∣ nearest (value * unit) 1 := by
  obtain ⟨power, same⟩ := exists_unit_eq
  rw [same]
  by_cases few : dropped (value * Nat.pow 2 power) ≤ power
  · rw [nearest_of_dvd]
    · exact Nat.dvd_mul_left _ value
    · apply Nat.dvd_mul_left_of_dvd
      exact Nat.pow_dvd_pow 2 few
  · simp only [nearest, Nat.div_one, Nat.shiftLeft_eq, Nat.one_mul]
    apply Nat.dvd_mul_left_of_dvd
    exact Nat.pow_dvd_pow 2 (Nat.le_of_not_le few)

/-- The whole number that a whole number is rounded to. -/
def rounded (value : Nat) : Nat := nearest (value * unit) 1 / unit

theorem rounded_mul_unit (value : Nat) : rounded value * unit = nearest (value * unit) 1 :=
  Nat.div_mul_cancel (unit_dvd_nearest value)

theorem rounded_of_lt {value : Nat} (small : value < Nat.pow 2 53) : rounded value = value := by
  rw [rounded, nearest_whole small, Nat.mul_div_cancel _ unit_pos]

/-- What has more than 53 bits has so after rounding. -/
theorem le_rounded {value : Nat} (large : Nat.pow 2 53 ≤ value) : Nat.pow 2 53 ≤ rounded value := by
  obtain ⟨power, same⟩ := exists_unit_eq
  rw [Nat.pow_eq] at large same ⊢
  have size : 2 ^ (53 + power) ≤ value * unit := by
    rw [same, Nat.pow_add]
    exact Nat.mul_le_mul_right _ large
  have nonzero : value * unit ≠ 0 := Nat.ne_of_gt (Nat.lt_of_lt_of_le (Nat.two_pow_pos _) size)
  have bits : 53 + power ≤ (value * unit).log2 := (Nat.le_log2 nonzero).mpr size
  have normal : Nat.pow 2 52 ≤ value * unit := le_mul_unit (Nat.lt_of_lt_of_le (by decide) large)
  apply Nat.le_of_mul_le_mul_right _ unit_pos
  calc 2 ^ 53 * unit = 2 ^ (53 + power) := by rw [same, Nat.pow_add]
    _ ≤ 2 ^ (value * unit).log2 := Nat.pow_le_pow_right (by decide) bits
    _ ≤ nearest (value * unit) 1 := (nearest_bounds _ normal).1
    _ = rounded value * unit := (rounded_mul_unit value).symm

/-- A whole number of 64 bits does not overflow. -/
theorem ofInt_eq {value : Int} (word : value.natAbs ≤ Nat.pow 2 64) :
    ofInt value = finite (value < 0) (rounded value.natAbs * unit) := by
  have inside : nearest (value.natAbs * unit) 1 < limit := by
    rcases Nat.eq_zero_or_pos value.natAbs with zero | positive
    · rw [zero, Nat.zero_mul]
      decide +kernel
    · have most : 2 * (Nat.pow 2 64 * unit) < limit := by decide +kernel
      calc nearest (value.natAbs * unit) 1 ≤ 2 * (value.natAbs * unit) :=
            (nearest_bounds _ (le_mul_unit positive)).2
        _ ≤ 2 * (Nat.pow 2 64 * unit) := Nat.mul_le_mul_left _ (Nat.mul_le_mul_right _ word)
        _ < limit := most
  rw [ofInt, ofRatio, rounded_mul_unit]
  exact if_pos inside

theorem isWhole_ofInt {value : Int} (word : value.natAbs ≤ Nat.pow 2 64) :
    (ofInt value).isWhole = true := by
  rw [ofInt_eq word, isWhole, Nat.mul_mod_left]
  rfl

/-- A whole number of 64 bits is rounded, and then held inside 64 signed bits. -/
theorem toInt64_ofInt {value : Int} (word : value.natAbs ≤ Nat.pow 2 64) :
    (ofInt value).toInt64 = Min.min (Max.max (signedUnits (value < 0) (rounded value.natAbs))
      (-(Nat.pow 2 63 : Int))) (Nat.pow 2 63 - 1) := by
  rw [ofInt_eq word, toInt64]
  · rw [truncate, Nat.mul_div_cancel _ unit_pos]
    rfl
  · nofun
  · nofun

theorem toInt64_ofInt_of_small {value : Int} (small : value.natAbs < Nat.pow 2 53) :
    (ofInt value).toInt64 = value := by
  have word : value.natAbs ≤ Nat.pow 2 64 := Nat.le_trans (Nat.le_of_lt small) (by decide)
  rw [toInt64_ofInt word, rounded_of_lt small, signedUnits]
  simp only [decide_eq_true_eq, Nat.pow_eq] at small ⊢
  split
  · omega
  · omega

/-- What has more than 53 bits has so after it was read, on the same side of zero. -/
theorem toInt64_of_large {value : Int} (word : value.natAbs ≤ Nat.pow 2 64)
    (large : Nat.pow 2 53 ≤ value.natAbs) :
    Nat.pow 2 53 ≤ (ofInt value).toInt64.natAbs ∧ (0 ≤ (ofInt value).toInt64 ↔ 0 ≤ value) := by
  have least := le_rounded large
  rw [toInt64_ofInt word, signedUnits]
  simp only [decide_eq_true_eq, Nat.pow_eq] at least ⊢
  split
  · omega
  · omega

end Number.Binary64

namespace Json

theorem toBinary?_int (value : Int) : (Json.int value).toBinary? = some (Number.Binary64.ofInt value) := by
  simp only [int, toBinary?, Numeral.toBinary]

end Json

namespace Call

variable {call : Call} {index : Nat}

theorem number_of_int {value : Int} (given : call.argument index = .ok (.int value)) :
    call.number index = .ok (Number.Binary64.ofInt value) := by
  unfold number
  simp only [given, bind, Except.bind, Json.toBinary?_int]

/-- A whole number of 64 bits is read through binary64. -/
theorem integer_of_word {value : Int} (given : call.argument index = .ok (.int value))
    (word : value.natAbs ≤ Nat.pow 2 64) :
    call.integer index = .ok (Number.Binary64.ofInt value).toInt64 := by
  unfold integer
  simp only [number_of_int given, bind, Except.bind, Number.Binary64.isWhole_ofInt word, if_true]

theorem integer?_of_word {value : Int} (given : call.argument? index = some (.int value))
    (word : value.natAbs ≤ Nat.pow 2 64) :
    call.integer? index = .ok (some (Number.Binary64.ofInt value).toInt64) := by
  have found : call.argument index = .ok (.int value) := by rw [argument, given]
  unfold integer?
  simp only [given, Json.int, integer_of_word found word, Except.map]

/-- A whole number of at most 53 bits is read as it is. -/
theorem integer_of_int {value : Int} (given : call.argument index = .ok (.int value))
    (small : value.natAbs < Nat.pow 2 53) : call.integer index = .ok value := by
  rw [integer_of_word given (Nat.le_trans (Nat.le_of_lt small) (by decide)),
    Number.Binary64.toInt64_ofInt_of_small small]

end Call

end Stencil
