import Stencil.Helper.Order

set_option autoImplicit false

/-!
The order of data values is a total order up to ties: it compares a value's rank first, then what a
number or a truth value measures, then a text. So sorting, by the values or by one of their fields,
always has an order to go by (`atMost_trans`, `atMost_total`).
-/

namespace Stencil

open Number (Binary64)

theorem Numeral.toBinary_ne_nan (number : Numeral) : number.toBinary ≠ .nan := by
  cases number with
  | real negative units => simp [toBinary]
  | int value =>
    rw [toBinary, Binary64.ofInt, Binary64.ofRatio]
    split
    · simp
    · simp

namespace Json

/-- What a number or a truth value measures; infinite numbers are beyond all others. -/
def grade : Json → Int × Int
  | bool value => (0, value.toNat)
  | number value =>
    match value.toBinary with
    | .finite negative units => (0, Binary64.signedUnits negative units)
    | .infinite negative => (if negative then -1 else 1, 0)
    | .nan => (0, 0)
  | _ => (0, 0)

/-- The text by which a value is compared. -/
def words : Json → String
  | string text => text
  | array items => (array items).compact
  | object fields => (object fields).compact
  | _ => ""

/-- The order among the values of one rank. -/
def compareWithin (left right : Json) : Ordering :=
  (compare left.grade.1 right.grade.1).then
    ((compare left.grade.2 right.grade.2).then (compare left.words right.words))

theorem compareText_eq (left right : String) : compareText left right = compare left right := by
  show _ = compareOfLessAndEq left right
  unfold compareText compareOfLessAndEq
  by_cases below : left < right
  · rw [if_pos below, if_pos below]
  · rw [if_neg below, if_neg below]
    by_cases same : left = right
    · have neither : ¬ right < left := same ▸ below
      rw [if_pos same, if_neg neither]
    · have above : right < left := by
        apply Decidable.byContradiction
        exact fun neither => same (String.le_antisymm (String.not_lt.mp neither)
          (String.not_lt.mp below))
      rw [if_neg same, if_pos above]

theorem compare_numbers (left right : Numeral) :
    (left.toBinary.compare? right.toBinary).getD .eq = compareWithin (number left) (number right) := by
  have known := left.toBinary_ne_nan
  have known' := right.toBinary_ne_nan
  simp only [compareWithin, grade, words]
  generalize left.toBinary = left at known
  generalize right.toBinary = right at known'
  cases left with
  | nan => exact absurd rfl known
  | finite left a =>
    cases right with
    | nan => exact absurd rfl known'
    | finite right b => simp
    | infinite right => cases right <;> simp [Binary64.compare?] <;> rfl
  | infinite left =>
    cases right with
    | nan => exact absurd rfl known'
    | finite right b => cases left <;> simp [Binary64.compare?] <;> rfl
    | infinite right => cases left <;> cases right <;> simp [Binary64.compare?] <;> rfl

theorem compareValues_of_rank_ne {left right : Json} (differ : left.rank ≠ right.rank) :
    compareValues left right = compare left.rank right.rank := by
  cases left <;> cases right <;> first | exact absurd rfl differ | rfl

theorem compareValues_of_rank_eq {left right : Json} (same : left.rank = right.rank) :
    compareValues left right = compareWithin left right := by
  match left, right, same with
  | null, null, _ => simp [compareValues, compareWithin, compareText_eq]
  | bool left, bool right, _ => cases left <;> cases right <;> rfl
  | number left, number right, _ => exact compare_numbers left right
  | string left, string right, _ =>
    simp [compareValues, compareWithin, compareText_eq, grade, words]
  | array left, array right, _ =>
    simp [compareValues, compareWithin, compareText_eq, rank, grade, words]
  | object left, object right, _ =>
    simp [compareValues, compareWithin, compareText_eq, rank, grade, words]

/-- Values are compared by rank, then by what they measure, then by text. -/
theorem compareValues_eq (left right : Json) : compareValues left right =
    compareLex (compareOn rank) (compareLex (compareOn fun value => value.grade.1)
      (compareLex (compareOn fun value => value.grade.2) (compareOn words))) left right := by
  show _ = (compare left.rank right.rank).then (compareWithin left right)
  by_cases same : left.rank = right.rank
  · have equal : compare left.rank right.rank = .eq := Nat.compare_eq_eq.mpr same
    rw [compareValues_of_rank_eq same, equal]
    rfl
  · have unequal : compare left.rank right.rank ≠ .eq := fun equal =>
      same (Nat.compare_eq_eq.mp equal)
    rw [compareValues_of_rank_ne same]
    cases order : compare left.rank right.rank with
    | eq => exact absurd order unequal
    | lt => rfl
    | gt => rfl

instance : Std.TransCmp compareValues := by
  have same : compareValues = compareLex (compareOn rank) (compareLex (compareOn fun value =>
      value.grade.1) (compareLex (compareOn fun value => value.grade.2) (compareOn words))) := by
    funext left right
    exact compareValues_eq left right
  rw [same]
  infer_instance

theorem atMost_eq_isLE (left right : Json) : atMost left right = (compareValues left right).isLE := by
  unfold atMost
  cases compareValues left right <;> rfl

theorem atMost_trans (first second third : Json) (lower : atMost first second = true)
    (upper : atMost second third = true) : atMost first third = true := by
  rw [atMost_eq_isLE] at lower upper ⊢
  exact Std.TransCmp.isLE_trans lower upper

theorem atMost_total (left right : Json) : (atMost left right || atMost right left) = true := by
  have swapped : compareValues right left = (compareValues left right).swap := Std.OrientedCmp.eq_swap
  rw [atMost_eq_isLE, atMost_eq_isLE, swapped]
  cases compareValues left right <;> rfl

end Json

end Stencil
