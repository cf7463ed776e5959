import Stencil.Helper.Dates
import Stencil.Proofs.TimestampReading

set_option autoImplicit false

/-!
Computed dates as arguments of further calls. Whatever is read as a date is a second of a day with a
fraction, and a leap second only at the end of a minute (`proper_of_instant?`); a shift keeps this. So the
text of a shifted date is read as the shifted instant without its fraction, if its year has four digits.
-/

namespace Stencil

namespace Calendar

open Number (Decimal)

/-! ### Numbers that are read -/

theorem ofDigitChars_lt {digits : List Char} (chars : ∀ c ∈ digits, c.isDigit = true) (start : Nat) :
    Nat.ofDigitChars 10 digits start < (start + 1) * Nat.pow 10 digits.length := by
  induction digits generalizing start with
  | nil => simp [Nat.ofDigitChars]
  | cons c digits ih =>
    obtain ⟨first, others⟩ := List.forall_mem_cons.mp chars
    have small : c.toNat - '0'.toNat ≤ 9 := Nat.sub_le_of_le_add (Text.digit_bounds first).2
    rw [Nat.ofDigitChars_cons, List.length_cons, Nat.pow_eq, Nat.pow_succ']
    calc Nat.ofDigitChars 10 digits (10 * start + (c.toNat - '0'.toNat))
        < (10 * start + (c.toNat - '0'.toNat) + 1) * 10 ^ digits.length := ih others _
      _ ≤ ((start + 1) * 10) * 10 ^ digits.length := Nat.mul_le_mul_right _ (by omega)
      _ = (start + 1) * (10 * 10 ^ digits.length) := Nat.mul_assoc _ _ _

/-- Digits that are filled up to nine places write less than a thousand million. -/
theorem ofDigits_mul_lt {digits : List Char} (chars : ∀ c ∈ digits, c.isDigit = true)
    (short : digits.length ≤ 9) :
    Decimal.ofDigits digits * Nat.pow 10 (9 - digits.length) < Instant.billion := by
  have below : Decimal.ofDigits digits < 10 ^ digits.length := by
    have bound := ofDigitChars_lt chars 0
    rwa [← ofDigits_eq, Nat.zero_add, Nat.one_mul] at bound
  calc Decimal.ofDigits digits * 10 ^ (9 - digits.length)
      < 10 ^ digits.length * 10 ^ (9 - digits.length) :=
        Nat.mul_lt_mul_of_pos_right below (Nat.pow_pos (by decide))
    _ = 10 ^ (digits.length + (9 - digits.length)) := (Nat.pow_add 10 _ _).symm
    _ = 10 ^ 9 := by rw [Nat.add_sub_cancel' short]

/-- A fraction is below a second. -/
theorem fraction?_lt {text rest : List Char} {nano : Nat} (read : fraction? text = some (nano, rest)) :
    nano < Instant.billion := by
  unfold fraction? at read
  split at read
  · rename_i behind
    have chars := List.all_eq_true.mp (List.all_takeWhile (p := Char.isDigit) (l := behind))
    simp only at read
    split at read
    · cases read
    · cases read
      exact ofDigits_mul_lt (fun c member => chars c (List.mem_of_mem_take member)) (List.length_take_le 9 _)
  · cases read
    decide

/-- An offset is a number of minutes. -/
theorem offset?_minutes {text rest : List Char} {seconds : Int} (read : offset? text = some (seconds, rest)) :
    seconds % 60 = 0 := by
  unfold offset? at read
  split at read
  · cases read
  · split at read
    · cases read
      rfl
    · split at read
      · simp only [Option.bind_eq_bind, Option.bind_eq_some_iff] at read
        obtain ⟨⟨hours, behindHours⟩, -, behindColon, -, ⟨minutes, behindMinutes⟩, -, made⟩ := read
        simp only at made
        split at made
        · obtain ⟨same, -⟩ := Prod.mk.inj (Option.some.inj made)
          rw [← same]
          split <;> omega
        · cases made
      · cases read

/-- A time is a second of the day, and a leap second is the last one of its minute. -/
theorem timeOfDay?_bounds {hour minute second nano time fraction : Nat} (below : nano < Instant.billion)
    (read : timeOfDay? hour minute second nano = some (time, fraction)) :
    time < Instant.secondsPerDay ∧ fraction < 2 * Instant.billion ∧
      (Instant.billion ≤ fraction → time % 60 = 59) := by
  unfold timeOfDay? at read
  unfold Instant.secondsPerDay
  split at read
  · split at read
    · cases read
      omega
    · split at read
      · cases read
        omega
      · cases read
  · cases read

namespace Instant

section

variable {instant moved : Instant} {seconds amount : Int} {nano : Nat}

theorem of_ofSeconds? (made : ofSeconds? seconds nano = some instant) :
    instant.seconds = seconds ∧ instant.second < secondsPerDay ∧ instant.nano = nano := by
  unfold ofSeconds? at made
  simp only at made
  split at made
  · cases made
    unfold Instant.seconds secondsPerDay
    refine ⟨?_, ?_, rfl⟩
    · simp only
      omega
    · simp only
      omega
  · cases made

theorem proper_of_ofSeconds? (made : ofSeconds? seconds nano = some instant) (nano_lt : nano < 2 * billion)
    (leap : billion ≤ nano → seconds % 60 = 59) : instant.Proper := by
  obtain ⟨sum, second_lt, same⟩ := of_ofSeconds? made
  refine ⟨second_lt, by omega, fun full => ?_⟩
  have last := leap (by omega)
  unfold Instant.seconds secondsPerDay at sum
  omega

theorem proper_of_ofMillis? {millis : Int} (made : ofMillis? millis = some instant) : instant.Proper := by
  have below : (millis % 1000).toNat * 1000000 < billion := by
    unfold billion
    omega
  refine proper_of_ofSeconds? made (by omega) fun full => ?_
  omega

theorem proper_of_fullTimestamp? {text : List Char} (read : fullTimestamp? text = some instant) :
    instant.Proper := by
  -- Eleven readers come before the fraction.
  iterate 11 obtain ⟨_, _, read⟩ := Option.bind_eq_some_iff.mp read
  obtain ⟨⟨nano, behindNano⟩, fractions, read⟩ := Option.bind_eq_some_iff.mp read
  obtain ⟨⟨offset, behindOffset⟩, offsets, read⟩ := Option.bind_eq_some_iff.mp read
  obtain ⟨date, -, read⟩ := Option.bind_eq_some_iff.mp read
  obtain ⟨⟨time, fraction⟩, times, made⟩ := Option.bind_eq_some_iff.mp read
  dsimp only at made
  have minutes := offset?_minutes offsets
  obtain ⟨-, nano_lt, leap⟩ := timeOfDay?_bounds (fraction?_lt fractions) times
  split at made
  · refine proper_of_ofSeconds? made nano_lt fun full => ?_
    have last := leap full
    simp only [secondsPerDay]
    omega
  · cases made

theorem proper_of_bareTimestamp? {text : List Char} (read : bareTimestamp? text = some instant) :
    instant.Proper := by
  simp only [bareTimestamp?, Option.bind_eq_bind, Option.bind_eq_some_iff] at read
  -- Seven readers come before the time.
  iterate 7 obtain ⟨_, _, read⟩ := read
  obtain ⟨⟨time, fraction⟩, times, made⟩ := read
  obtain ⟨second_lt, nano_lt, leap⟩ := timeOfDay?_bounds (by decide) times
  split at made
  · cases made
    exact ⟨second_lt, nano_lt, leap⟩
  · cases made

theorem proper_of_midnight? {text : List Char} (read : midnight? text = some instant) : instant.Proper := by
  simp only [midnight?, Option.bind_eq_bind, Option.bind_eq_some_iff] at read
  obtain ⟨_, _, made⟩ := read
  split at made
  · cases made
    constructor
    · simp [secondsPerDay]
    · simp [billion]
    · simp [billion]
  · cases made

theorem proper_of_instant? {text : List Char} (read : Calendar.instant? text = some instant) :
    instant.Proper := by
  simp only [Calendar.instant?, Option.orElse_eq_orElse, Option.orElse_eq_or, Option.or_eq_some_iff] at read
  rcases read with full | ⟨-, bare | ⟨-, date⟩⟩
  · exact proper_of_fullTimestamp? full
  · exact proper_of_bareTimestamp? bare
  · exact proper_of_midnight? date

/-! ### Shifts -/

theorem Proper.addSeconds? (proper : instant.Proper) (shifted : instant.addSeconds? amount = some moved) :
    moved.Proper := by
  obtain ⟨second_lt, nano_lt, leap⟩ := proper
  unfold Instant.addSeconds? at shifted
  split at shifted
  · cases shifted
    exact ⟨second_lt, nano_lt, leap⟩
  · split at shifted
    · exact proper_of_ofSeconds? shifted nano_lt fun full => by omega
    · split at shifted
      · exact proper_of_ofSeconds? shifted (by omega) fun full => by omega
      · exact proper_of_ofSeconds? shifted (by omega) fun full => by omega

theorem ofSeconds?_dropped (seconds : Int) (nano : Nat) :
    ofSeconds? seconds (nano / billion * billion) = (ofSeconds? seconds nano).map whole := by
  unfold ofSeconds?
  simp only
  split <;> rfl

/-- Dropping the fraction of a second before a shift drops it from the shifted instant. -/
theorem addSeconds?_whole (proper : instant.Proper) (amount : Int) :
    instant.whole.addSeconds? amount = (instant.addSeconds? amount).map whole := by
  have nano_lt := proper.nano_lt
  by_cases still : amount = 0
  · simp [addSeconds?, still]
  by_cases plain : instant.nano < billion
  · have dropped : instant.whole.nano < billion := Nat.lt_of_le_of_lt (Nat.div_mul_le_self _ _) plain
    simp only [addSeconds?, if_neg still, if_pos plain, if_pos dropped, ← ofSeconds?_dropped]
    rfl
  · have one : instant.whole.nano = billion := by
      unfold whole billion at *
      simp only
      omega
    have rest : (instant.nano - billion) / billion * billion = 0 := by
      rw [Nat.div_eq_of_lt (by omega), Nat.zero_mul]
    simp only [addSeconds?, if_neg still, if_neg plain, one, Nat.lt_irrefl, if_false, Nat.sub_self]
    split
    · rw [← ofSeconds?_dropped, rest]
      rfl
    · rw [← ofSeconds?_dropped, rest]
      rfl

theorem timestamp_whole (instant : Instant) : instant.whole.timestamp = instant.timestamp := by
  have second : instant.whole.secondOfMinute = instant.secondOfMinute := by
    simp only [secondOfMinute, whole, Nat.mul_div_cancel _ (show 0 < billion by decide)]
  rw [timestamp, dateTimeText, second]
  rfl

/-- Outside of leap seconds a shift adds to the count of seconds. -/
theorem seconds_of_addSeconds? (plain : instant.nano < billion)
    (shifted : instant.addSeconds? amount = some moved) : moved.seconds = instant.seconds + amount := by
  unfold addSeconds? at shifted
  split at shifted
  · cases shifted
    omega
  · exact (of_ofSeconds? shifted).1

end

end Instant

end Calendar

namespace Dates

open Calendar (Instant)

theorem proper_of_instant? {value : Json} {date : Instant} (read : instant? value = some date) :
    date.Proper := by
  cases value with
  | number value => exact Instant.proper_of_ofMillis? read
  | string text => exact Instant.proper_of_instant? read
  | null => cases read
  | bool value => cases read
  | array items => cases read
  | object fields => cases read

theorem instant_eq_ok_iff {call : Call} {index : Nat} {date : Instant} :
    instant call index = .ok date ↔
      ∃ value, call.argument index = .ok value ∧ instant? value = some date := by
  unfold instant
  cases call.argument index with
  | error halt =>
    constructor
    · intro read
      cases read
    · rintro ⟨_, given, -⟩
      cases given
  | ok value =>
    cases found : instant? value with
    | none =>
      constructor
      · intro read
        simp [found, Call.refuse, bind, Except.bind] at read
      · rintro ⟨_, given, read⟩
        cases given
        simp [found] at read
    | some other => simp [found, bind, Except.bind]

theorem instant_of_none {call : Call} {index : Nat} {value : Json} (given : call.argument index = .ok value)
    (unread : instant? value = none) :
    instant call index = call.refuse ("not a date: " ++ value.compact) := by
  simp only [instant, given, bind, Except.bind, unread]

theorem instant?_string (text : String) : instant? (.string text) = Calendar.instant? text.toList := rfl

/-- What a shift gives is the text of the shifted date. -/
theorem of_shift {unit : Nat} {call : Call} {value : Json} (returned : shift unit call = .ok value) :
    ∃ date amount moved, instant call 0 = .ok date ∧ call.integer 1 = .ok amount ∧
      date.addSeconds? (amount * unit) = some moved ∧ value = .string moved.timestamp := by
  unfold shift at returned
  cases dated : instant call 0 with
  | error halt => simp [dated, bind, Except.bind] at returned
  | ok date =>
    cases counted : call.integer 1 with
    | error halt => simp [dated, counted, bind, Except.bind] at returned
    | ok amount =>
      simp only [dated, counted, bind, Except.bind] at returned
      split at returned
      · rename_i moved shifted
        cases returned
        exact ⟨date, amount, moved, rfl, rfl, shifted, rfl⟩
      · cases returned

/-- What a shift gives is the timestamp of the date without its fraction of a second, moved by so many units.
Every helper that reads it as a date reads just this instant if its year has four digits, and else takes it
for no date. -/
theorem shift_reads_back {unit : Nat} {call : Call} {value : Json} (returned : shift unit call = .ok value) :
    ∃ date amount moved, instant call 0 = .ok date ∧ call.integer 1 = .ok amount ∧
      date.whole.addSeconds? (amount * unit) = some moved ∧
      (date.nano < Instant.billion → moved.seconds = date.seconds + amount * unit) ∧
      value = .string moved.timestamp ∧
      ∀ (other : Call) (index : Nat), other.argument index = .ok value →
        instant other index =
          if 0 ≤ moved.date.year ∧ moved.date.year ≤ 9999 then .ok moved
          else other.refuse ("not a date: " ++ value.compact) := by
  obtain ⟨date, amount, shifted, dated, counted, added, rfl⟩ := of_shift returned
  have proper : date.Proper := by
    obtain ⟨given, -, read⟩ := instant_eq_ok_iff.mp dated
    exact proper_of_instant? read
  have moved := Instant.addSeconds?_whole proper (amount * unit)
  rw [added, Option.map_some] at moved
  refine ⟨date, amount, shifted.whole, dated, counted, moved, fun plain => ?_, ?_, ?_⟩
  · show shifted.seconds = _
    exact Instant.seconds_of_addSeconds? plain added
  · rw [Instant.timestamp_whole]
  · intro other index given
    have read := Instant.instant?_timestamp (proper.addSeconds? added)
    rw [← instant?_string] at read
    have sameYear : shifted.whole.date.year = shifted.date.year := rfl
    rw [sameYear]
    by_cases inside : 0 ≤ shifted.date.year ∧ shifted.date.year ≤ 9999
    · rw [if_pos inside] at read ⊢
      exact instant_eq_ok_iff.mpr ⟨_, given, read⟩
    · rw [if_neg inside] at read ⊢
      exact instant_of_none given read

/-- A call that shifts the last day of the years of four digits by one day. -/
def lastDay : Call := ⟨"addDays", [.string "9999-12-31", .int 1], [], ⟨0, 0, 0⟩⟩

/-- A call that counts the days up to what `lastDay` gives. -/
def toNextDay : Call :=
  ⟨"diffDays", [.string "9999-12-31", .string "+10000-01-01T00:00:00Z"], [], ⟨0, 0, 0⟩⟩

set_option maxRecDepth 8192 in
/-- The shifted date has a year of five digits, so it is not read again. -/
theorem shift_reads_back_lastDay : shift 86400 lastDay = .ok (.string "+10000-01-01T00:00:00Z") ∧
    instant toNextDay 1 = toNextDay.refuse "not a date: \"+10000-01-01T00:00:00Z\"" := by
  have returned : shift 86400 lastDay = .ok (.string "+10000-01-01T00:00:00Z") := rfl
  obtain ⟨date, amount, moved, dated, counted, shifted, -, -, reads⟩ := shift_reads_back returned
  have first : instant lastDay 0 = .ok ⟨2932896, 0, 0⟩ := rfl
  have one : lastDay.integer 1 = .ok 1 := rfl
  cases first.symm.trans dated
  cases one.symm.trans counted
  have next : (Instant.whole ⟨2932896, 0, 0⟩).addSeconds? (1 * (86400 : Nat)) = some ⟨2932897, 0, 0⟩ := rfl
  cases next.symm.trans shifted
  have outside : ¬ (0 ≤ (Instant.mk 2932897 0 0).date.year ∧ (Instant.mk 2932897 0 0).date.year ≤ 9999) := by
    decide
  have refused := reads toNextDay 1 rfl
  rw [if_neg outside] at refused
  exact ⟨returned, refused⟩

end Dates

end Stencil
