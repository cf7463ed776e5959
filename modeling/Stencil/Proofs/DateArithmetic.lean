import Stencil.Proofs.CatalogInstallation
import Stencil.Proofs.ShiftedDates
import Stencil.Proofs.WholeNumbers

set_option autoImplicit false

/-!
Laws of computed dates. A whole second without a fraction is its count of seconds since the epoch
(`atSecond`), and on counts the date helpers are plain arithmetic: a shift adds, a difference subtracts, and
earlier is less. Each helper writes its date as text and the next one reads it; in the years from 0 to 9999
nothing is lost on the way, so the laws of arithmetic hold of the calls (`shifts_add_up`).
-/

namespace Stencil

open Number (Binary64)

namespace Calendar.Instant

/-- The whole second that is so many seconds after the epoch. -/
def atSecond (seconds : Int) : Instant :=
  ⟨seconds / secondsPerDay, (seconds % secondsPerDay).toNat, 0⟩

/-- True for a count of seconds that leads to a year from 0 to 9999. -/
def FourDigits (seconds : Int) : Prop :=
  0 ≤ (atSecond seconds).date.year ∧ (atSecond seconds).date.year ≤ 9999

instance (seconds : Int) : Decidable (FourDigits seconds) := inferInstanceAs (Decidable (_ ∧ _))

section

variable {instant : Instant} {seconds : Int}

theorem seconds_atSecond (seconds : Int) : (atSecond seconds).seconds = seconds := by
  simp only [Instant.seconds, atSecond, secondsPerDay]
  omega

theorem proper_atSecond (seconds : Int) : (atSecond seconds).Proper where
  second_lt := by
    simp only [atSecond, secondsPerDay]
    omega
  nano_lt := by simp [atSecond, billion]
  leap := by simp [atSecond, billion]

theorem whole_atSecond (seconds : Int) : (atSecond seconds).whole = atSecond seconds := by
  simp [whole, atSecond]

theorem eq_atSecond (proper : instant.Proper) (whole : instant.nano = 0) :
    instant = atSecond instant.seconds := by
  have second_lt := proper.second_lt
  cases instant with
  | mk day second nano =>
    simp only [secondsPerDay] at whole second_lt
    simp only [atSecond, Instant.seconds, secondsPerDay, mk.injEq]
    omega

/-- The years of four digits are far from the ends of the range of dates. -/
theorem FourDigits.bounds (inside : FourDigits seconds) :
    -100000000000 ≤ seconds ∧ seconds ≤ 400000000000 := by
  have days := (Date.onCalendar_ofDays (atSecond seconds).day).toDays_bounds inside.1 inside.2
  simp only [Date.toDays_ofDays, atSecond, secondsPerDay] at days
  omega

theorem ofSeconds?_of_fourDigits (inside : FourDigits seconds) :
    ofSeconds? seconds 0 = some (atSecond seconds) := by
  have ranged : inRange (seconds / secondsPerDay) = true := inRange_of_year inside.1 inside.2
  rw [ofSeconds?]
  exact if_pos ranged

/-- So many seconds away, no date is in the range. -/
theorem ofSeconds?_eq_none (far : 100000000000000 ≤ seconds.natAbs) : ofSeconds? seconds 0 = none := by
  have first : Date.minDays = -96465292 := by decide
  have last : Date.maxDays = 95026236 := by decide
  have outside : ¬ inRange (seconds / secondsPerDay) = true := by
    simp only [inRange, first, last, Bool.and_eq_true, decide_eq_true_eq, secondsPerDay]
    omega
  rw [ofSeconds?]
  exact if_neg outside

theorem addSeconds?_atSecond (inside : FourDigits seconds) (amount : Int) :
    (atSecond seconds).addSeconds? amount = ofSeconds? (seconds + amount) 0 := by
  by_cases still : amount = 0
  · rw [still, Int.add_zero, ofSeconds?_of_fourDigits inside]
    rfl
  · have plain : (atSecond seconds).nano < billion := Nat.zero_lt_of_lt (Nat.lt_succ_self _)
    rw [addSeconds?, if_neg still, if_pos plain, seconds_atSecond]
    rfl

theorem before_atSecond (first second : Int) :
    (atSecond first).before (atSecond second) = decide (first < second) := by
  rw [Bool.eq_iff_iff]
  simp only [before, Bool.or_eq_true, Bool.and_eq_true, decide_eq_true_eq, beq_iff_eq]
  simp only [atSecond, secondsPerDay]
  omega

theorem daysBetween_atSecond (start finish : Int) :
    daysBetween (atSecond start) (atSecond finish) = (finish - start).tdiv secondsPerDay := by
  have leaps : leapCount (atSecond start) (atSecond finish) = 0 := by
    simp [leapCount, atSecond, billion]
  have nanos : nanosBetween (atSecond start) (atSecond finish) = (finish - start) * billion := by
    rw [nanosBetween, leaps, seconds_atSecond, seconds_atSecond, Int.add_zero]
    exact Int.add_sub_cancel _ _
  rw [daysBetween, nanos, Int.mul_tdiv_cancel _ (by decide)]

theorem instant?_atSecond (inside : FourDigits seconds) :
    Calendar.instant? (atSecond seconds).timestamp.toList = some (atSecond seconds) := by
  have read := instant?_timestamp (proper_atSecond seconds)
  rwa [if_pos ⟨inside.1, inside.2⟩, whole_atSecond] at read

theorem fullTimestamp?_atSecond (inside : FourDigits seconds) :
    fullTimestamp? (atSecond seconds).timestamp.toList = some (atSecond seconds) := by
  rw [timestamp, String.toList_ofList, fullTimestamp?_dateTimeText (proper_atSecond seconds) inside.1 inside.2,
    whole_atSecond]

end

end Calendar.Instant

namespace Dates

open Calendar (Instant)
open Calendar.Instant (atSecond FourDigits)
open Catalog (answer)

/-- The text of the date that is so many seconds after the epoch. -/
def stamp (seconds : Int) : Json := .string (atSecond seconds).timestamp

theorem instant?_stamp {seconds : Int} (inside : FourDigits seconds) :
    instant? (stamp seconds) = some (atSecond seconds) :=
  Instant.instant?_atSecond inside

/-- The answer of a shift under a name, given where it leads to. -/
def shifted (helper : String) : Option Instant → Answer Json
  | some moved => .ok (.string moved.timestamp)
  | none => .error (.refused (.invalidArgument helper "date out of range"))

theorem shift_eq {unit : Nat} {call : Call} {date : Instant} {amount : Int}
    (dated : instant call 0 = .ok date) (counted : call.integer 1 = .ok amount) :
    shift unit call = shifted call.helper (date.addSeconds? (amount * unit)) := by
  simp only [shift, dated, counted, bind, Except.bind]
  cases date.addSeconds? (amount * unit) <;> rfl

section

variable (options : List (String × Json)) (now : Instant) {helper : String} {unit : Nat}
  {first second : Json} {seconds other amount : Int}

/-- A shift adds what it reads the amount as to the count of seconds. -/
theorem answer_shift (serves : Catalog.helper? helper = some (shift unit))
    (read : instant? first = some (atSecond seconds)) (inside : FourDigits seconds)
    (word : amount.natAbs ≤ Nat.pow 2 64) : answer options now helper [first, .int amount] =
      shifted helper (Instant.ofSeconds? (seconds + (Binary64.ofInt amount).toInt64 * unit) 0) := by
  have dated : instant ⟨helper, [first, .int amount], options, now⟩ 0 = .ok (atSecond seconds) :=
    instant_eq_ok_iff.mpr ⟨first, rfl, read⟩
  have given : (Call.mk helper [first, .int amount] options now).argument 1 = .ok (.int amount) := rfl
  rw [Catalog.answer_eq serves, shift_eq dated (Call.integer_of_word given word),
    Instant.addSeconds?_atSecond inside]

/-- An amount that leads from one year of four digits to another one is small enough to be read as it is. -/
theorem small_of_reached (positive : 0 < unit) (inside : FourDigits seconds)
    (reached : FourDigits (seconds + amount * unit)) : amount.natAbs < Nat.pow 2 53 := by
  have start := inside.bounds
  have finish := reached.bounds
  calc amount.natAbs ≤ amount.natAbs * unit := Nat.le_mul_of_pos_right _ positive
    _ = (amount * unit).natAbs := by rw [Int.natAbs_mul, Int.natAbs_natCast]
    _ < Nat.pow 2 53 := by
      rw [Nat.pow_eq]
      omega

theorem answer_shift_reached (serves : Catalog.helper? helper = some (shift unit)) (positive : 0 < unit)
    (read : instant? first = some (atSecond seconds)) (inside : FourDigits seconds)
    (reached : FourDigits (seconds + amount * unit)) :
    answer options now helper [first, .int amount] = .ok (stamp (seconds + amount * unit)) := by
  have small := small_of_reached positive inside reached
  rw [answer_shift options now serves read inside (Nat.le_trans (Nat.le_of_lt small) (by decide)),
    Binary64.toInt64_ofInt_of_small small, Instant.ofSeconds?_of_fourDigits reached]
  rfl

theorem answer_diffDays (start : instant? first = some (atSecond seconds))
    (finish : instant? second = some (atSecond other)) : answer options now "diffDays" [first, second] =
      .ok (.int ((other - seconds).tdiv Instant.secondsPerDay)) := by
  have serves : Catalog.helper? "diffDays" = some diffDays := rfl
  rw [Catalog.answer_eq serves, diffDays, instant_eq_ok_iff.mpr ⟨first, rfl, start⟩,
    instant_eq_ok_iff.mpr ⟨second, rfl, finish⟩, ← Instant.daysBetween_atSecond]
  rfl

theorem answer_isBefore (start : instant? first = some (atSecond seconds))
    (finish : instant? second = some (atSecond other)) :
    answer options now "isBefore" [first, second] = .ok (.bool (seconds < other)) := by
  have serves : Catalog.helper? "isBefore" = some isBefore := rfl
  rw [Catalog.answer_eq serves, isBefore, instant_eq_ok_iff.mpr ⟨first, rfl, start⟩,
    instant_eq_ok_iff.mpr ⟨second, rfl, finish⟩, ← Instant.before_atSecond]
  rfl

theorem answer_isAfter (start : instant? first = some (atSecond seconds))
    (finish : instant? second = some (atSecond other)) :
    answer options now "isAfter" [first, second] = .ok (.bool (other < seconds)) := by
  have serves : Catalog.helper? "isAfter" = some isAfter := rfl
  rw [Catalog.answer_eq serves, isAfter, instant_eq_ok_iff.mpr ⟨first, rfl, start⟩,
    instant_eq_ok_iff.mpr ⟨second, rfl, finish⟩, ← Instant.before_atSecond]
  rfl

/-- A shift by minutes of more than 51 bits leads out of the range of dates. -/
theorem ofSeconds?_of_large (inside : FourDigits seconds) (word : amount.natAbs ≤ Nat.pow 2 64)
    (large : Nat.pow 2 51 ≤ amount.natAbs) :
    Instant.ofSeconds? (seconds + (Binary64.ofInt amount).toInt64 * (60 : Nat)) 0 = none := by
  have bounds := inside.bounds
  have far : Nat.pow 2 51 ≤ (Binary64.ofInt amount).toInt64.natAbs := by
    by_cases small : amount.natAbs < Nat.pow 2 53
    · rwa [Binary64.toInt64_ofInt_of_small small]
    · exact Nat.le_trans (by decide) (Binary64.toInt64_of_large word (Nat.le_of_not_lt small)).1
  generalize (Binary64.ofInt amount).toInt64 = read at far
  apply Instant.ofSeconds?_eq_none
  rw [Nat.pow_eq] at far
  omega

/-- Minutes add up if the date on the way can be read, also where both ways leave the range of dates. -/
theorem addMinutes_addMinutes (read : instant? first = some (atSecond seconds)) (inside : FourDigits seconds)
    {once again : Int} (reached : FourDigits (seconds + once * (60 : Nat)))
    (word : again.natAbs ≤ Nat.pow 2 63) :
    (do answer options now "addMinutes" [← answer options now "addMinutes" [first, .int once], .int again]) =
      answer options now "addMinutes" [first, .int (once + again)] := by
  have serves : Catalog.helper? "addMinutes" = some (shift 60) := rfl
  have start := inside.bounds
  have middle := reached.bounds
  simp only [Nat.pow_eq] at word
  have first_word : again.natAbs ≤ Nat.pow 2 64 := by
    rw [Nat.pow_eq]
    omega
  have sum_word : (once + again).natAbs ≤ Nat.pow 2 64 := by
    rw [Nat.pow_eq]
    omega
  rw [answer_shift_reached options now serves (by decide) read inside reached, Answer.ok_bind,
    answer_shift options now serves read inside sum_word,
    answer_shift options now serves (instant?_stamp reached) reached first_word]
  by_cases small : again.natAbs < Nat.pow 2 52
  · rw [Nat.pow_eq] at small
    have sum : (once + again).natAbs < Nat.pow 2 53 := by
      rw [Nat.pow_eq]
      omega
    rw [Binary64.toInt64_ofInt_of_small sum,
      Binary64.toInt64_ofInt_of_small (Nat.lt_trans small (by decide))]
    have total : seconds + once * (60 : Nat) + again * (60 : Nat) = seconds + (once + again) * (60 : Nat) := by
      omega
    rw [total]
  · rw [Nat.pow_eq] at small
    rw [ofSeconds?_of_large reached first_word (by rw [Nat.pow_eq]; omega),
      ofSeconds?_of_large inside sum_word (by rw [Nat.pow_eq]; omega)]

/-- A shift by days in a smaller unit, of which so many are a day. -/
theorem answer_shift_days (serves : Catalog.helper? helper = some (shift unit)) (positive : 0 < unit)
    {parts days : Int} (day : parts * unit = (86400 : Nat)) (read : instant? first = some (atSecond seconds))
    (inside : FourDigits seconds) (reached : FourDigits (seconds + days * (86400 : Nat))) :
    answer options now helper [first, .int (parts * days)] = .ok (stamp (seconds + days * (86400 : Nat))) := by
  have total : days * (86400 : Nat) = parts * days * unit := by
    rw [← day, Int.mul_comm parts days, Int.mul_assoc]
  rw [total] at reached ⊢
  exact answer_shift_reached options now serves positive read inside reached

end

/-- For every whole second of the years from 0 to 9999, given in any form that is read, and every shift that
stays in these years: the days between it and the shifted date are those of the shift, shifting back gives
the timestamp of the date, which is read back as the date, days, hours and minutes measure the same, minutes
add up, and the shifted date is later or earlier as the shift goes forward or backward. -/
theorem shifts_add_up (options : List (String × Json)) (now : Instant) {value : Json} {date : Instant}
    (read : instant? value = some date) (whole : date.nano = 0) (inside : FourDigits date.seconds) :
    Calendar.fullTimestamp? date.timestamp.toList = some date ∧
    (∀ days : Int, FourDigits (date.seconds + days * (86400 : Nat)) →
      (do answer options now "diffDays" [value, ← answer options now "addDays" [value, .int days]]) =
        .ok (.int days) ∧
      (do answer options now "addDays" [← answer options now "addDays" [value, .int days], .int (-days)]) =
        .ok (.string date.timestamp) ∧
      answer options now "addHours" [value, .int (24 * days)] =
        answer options now "addDays" [value, .int days] ∧
      answer options now "addMinutes" [value, .int (1440 * days)] =
        answer options now "addDays" [value, .int days]) ∧
    (∀ once again : Int, FourDigits (date.seconds + once * (60 : Nat)) → again.natAbs ≤ Nat.pow 2 63 →
      (do answer options now "addMinutes"
            [← answer options now "addMinutes" [value, .int once], .int again]) =
        answer options now "addMinutes" [value, .int (once + again)]) ∧
    (∀ minutes : Int, FourDigits (date.seconds + minutes * (60 : Nat)) →
      (do answer options now "isBefore" [value, ← answer options now "addMinutes" [value, .int minutes]]) =
        .ok (.bool (0 < minutes)) ∧
      (do answer options now "isAfter" [value, ← answer options now "addMinutes" [value, .int minutes]]) =
        .ok (.bool (minutes < 0))) := by
  have same := Instant.eq_atSecond (proper_of_instant? read) whole
  generalize date.seconds = seconds at same inside
  subst same
  have days : Catalog.helper? "addDays" = some (shift 86400) := rfl
  have hours : Catalog.helper? "addHours" = some (shift 3600) := rfl
  have minutes : Catalog.helper? "addMinutes" = some (shift 60) := rfl
  refine ⟨Instant.fullTimestamp?_atSecond inside, fun amount reached => ?_, fun once again reached word =>
    addMinutes_addMinutes options now read inside reached word, fun amount reached => ?_⟩
  · have there := answer_shift_reached options now days (by decide) read inside reached
    have stamped := instant?_stamp reached
    have home : seconds + amount * (86400 : Nat) + -amount * (86400 : Nat) = seconds := by omega
    have returned : FourDigits (seconds + amount * (86400 : Nat) + -amount * (86400 : Nat)) := by rwa [home]
    have back := answer_shift_reached options now days (by decide) stamped reached returned
    have apart : (seconds + amount * (86400 : Nat) - seconds).tdiv Instant.secondsPerDay = amount := by
      rw [show seconds + amount * (86400 : Nat) - seconds = amount * (86400 : Nat) by omega]
      exact Int.mul_tdiv_cancel amount (by decide)
    refine ⟨?_, ?_, ?_, ?_⟩
    · rw [there, Answer.ok_bind, answer_diffDays options now read stamped, apart]
    · rw [there, Answer.ok_bind, back, home]
      rfl
    · rw [there, answer_shift_days options now hours (by decide) rfl read inside reached]
    · rw [there, answer_shift_days options now minutes (by decide) rfl read inside reached]
  · have there := answer_shift_reached options now minutes (by decide) read inside reached
    have stamped := instant?_stamp reached
    have later : seconds < seconds + amount * (60 : Nat) ↔ 0 < amount := by omega
    have earlier : seconds + amount * (60 : Nat) < seconds ↔ amount < 0 := by omega
    rw [there, Answer.ok_bind, Answer.ok_bind, answer_isBefore options now read stamped,
      answer_isAfter options now read stamped, decide_eq_decide.mpr later, decide_eq_decide.mpr earlier]
    exact ⟨rfl, rfl⟩

/-- The day before the leap day of a year that ends a century. -/
def leapEve : Json := .string "2000-02-28"

set_option maxRecDepth 8192 in
/-- Two days lead over the leap day and back again, and a minute back is made up for on the way out of the
range of dates. -/
theorem shifts_add_up_leapEve : instant? leapEve = some ⟨11015, 0, 0⟩ ∧
    (Instant.mk 11015 0 0).nano = 0 ∧ FourDigits (Instant.mk 11015 0 0).seconds ∧
    FourDigits ((Instant.mk 11015 0 0).seconds + 2 * (86400 : Nat)) ∧
    FourDigits ((Instant.mk 11015 0 0).seconds + -1 * (60 : Nat)) ∧
    (do answer [] ⟨0, 0, 0⟩ "diffDays" [leapEve, ← answer [] ⟨0, 0, 0⟩ "addDays" [leapEve, .int 2]]) =
      .ok (.int 2) ∧
    (do answer [] ⟨0, 0, 0⟩ "addDays" [← answer [] ⟨0, 0, 0⟩ "addDays" [leapEve, .int 2], .int (-2)]) =
      .ok (.string "2000-02-28T00:00:00Z") ∧
    (do answer [] ⟨0, 0, 0⟩ "addMinutes"
          [← answer [] ⟨0, 0, 0⟩ "addMinutes" [leapEve, .int (-1)], .int (Nat.pow 2 62)]) =
      answer [] ⟨0, 0, 0⟩ "addMinutes" [leapEve, .int (-1 + Nat.pow 2 62)] ∧
    (do answer [] ⟨0, 0, 0⟩ "isAfter" [leapEve, ← answer [] ⟨0, 0, 0⟩ "addMinutes" [leapEve, .int (-1)]]) =
      .ok (.bool true) := by
  have read : instant? leapEve = some ⟨11015, 0, 0⟩ := rfl
  have inside : FourDigits (Instant.mk 11015 0 0).seconds := by decide
  have twoDays : FourDigits ((Instant.mk 11015 0 0).seconds + 2 * (86400 : Nat)) := by decide
  have minute : FourDigits ((Instant.mk 11015 0 0).seconds + -1 * (60 : Nat)) := by decide
  obtain ⟨-, days, sums, order⟩ := shifts_add_up [] ⟨0, 0, 0⟩ read rfl inside
  obtain ⟨apart, back, -, -⟩ := days 2 twoDays
  exact ⟨read, rfl, inside, twoDays, minute, apart, back, sums (-1) (Nat.pow 2 62) minute (by decide),
    (order (-1) minute).2⟩

end Dates

end Stencil
