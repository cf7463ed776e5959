import Stencil.Calendar.Pattern
import Stencil.Calendar.Reading
import Stencil.Proofs.DayNumbers

set_option autoImplicit false

/-!
Timestamps that are read back. A timestamp is written with the year in four digits if it has no more, and
then every field has its full width, so the timestamp is read as the whole second of its instant. Any other
year is written with a sign, and then no reader takes the text: the one for full timestamps wants four digits
at the beginning, and the other ones leave the `Z` at the end (`instant?_timestamp`).
-/

namespace Stencil.Calendar

open Number (Decimal)

/-- Digits that write a number. -/
structure Writes (value : Nat) (digits : List Char) : Prop where
  chars : ∀ c ∈ digits, c.isDigit = true
  sum : Decimal.ofDigits digits = value

section

variable {value : Nat} {digits : List Char}

/-- Digits of a fixed number are read in front of any text. -/
theorem digits?_of_writes (writes : Writes value digits) {width : Nat} (full : digits.length = width)
    (rest : List Char) : digits? width width (digits ++ rest) = some (value, rest) := by
  have whole : (digits ++ []).takeWhile Char.isDigit = digits ++ [] :=
    List.takeWhile_append_of_pos writes.chars
  have taken : ((digits ++ rest).take width).takeWhile Char.isDigit = digits := by
    rw [List.take_left' full, ← List.append_nil digits, whole]
  simp only [digits?, taken, full, Nat.lt_irrefl, if_false, List.drop_left' full, writes.sum]

theorem append_of_digits? {least most : Nat} {text rest : List Char}
    (read : digits? least most text = some (value, rest)) :
    ∃ digits, text = digits ++ rest ∧ ∀ c ∈ digits, c.isDigit = true := by
  obtain ⟨behind, split⟩ : (text.take most).takeWhile Char.isDigit <+: text :=
    (List.takeWhile_prefix _).trans (List.take_prefix most text)
  have chars := List.all_eq_true.mp (List.all_takeWhile (p := Char.isDigit) (l := text.take most))
  unfold digits? at read
  generalize (text.take most).takeWhile Char.isDigit = digits at read split chars
  simp only at read
  split at read
  · cases read
  · cases read
    exact ⟨digits, by rw [← split, List.drop_left], chars⟩

theorem char?_eq_some_iff {c : Char} {text rest : List Char} :
    char? c text = some rest ↔ text = c :: rest := by
  cases text with
  | nil => simp [char?]
  | cons d text =>
    by_cases same : c = d
    · simp [char?, same]
    · have differs : d ≠ c := fun equal => same equal.symm
      simp [char?, same, differs]

theorem char?_cons (c : Char) (rest : List Char) : char? c (c :: rest) = some rest :=
  char?_eq_some_iff.mpr rfl

theorem ofDigits_eq (digits : List Char) : Decimal.ofDigits digits = Nat.ofDigitChars 10 digits 0 :=
  Nat.ofDigitChars_eq_foldl.symm

theorem writes_decimal (value : Nat) : Writes value (decimal value) where
  chars := fun _ member => Nat.isDigit_of_mem_toDigits (by decide) (by decide) member
  sum := by rw [ofDigits_eq, decimal, Nat.ofDigitChars_toDigits (by decide) (by decide)]

/-- Zeros in front of digits do not change their number. -/
theorem Writes.fill (writes : Writes value digits) (width : Nat) : Writes value (fill '0' width digits) := by
  obtain ⟨chars, sum⟩ := writes
  unfold Calendar.fill
  generalize width - digits.length = zeros
  induction zeros with
  | zero => exact ⟨chars, sum⟩
  | succ zeros ih =>
    rw [List.replicate_succ, List.cons_append]
    exact ⟨List.forall_mem_cons.mpr ⟨rfl, ih.chars⟩, ih.sum⟩

theorem twoDigits_zero (value : Nat) : twoDigits .zero value =
    [Char.ofNat ('0'.toNat + value / 10), Char.ofNat ('0'.toNat + value % 10)] := by
  unfold twoDigits
  cases value / 10 <;> rfl

theorem writes_twoDigits {value : Nat} (small : value < 100) : Writes value (twoDigits .zero value) := by
  have all : ∀ value < 100, (twoDigits .zero value).all Char.isDigit = true ∧
      Decimal.ofDigits (twoDigits .zero value) = value := by decide
  obtain ⟨chars, sum⟩ := all value small
  exact ⟨List.all_eq_true.mp chars, sum⟩

theorem digits?_twoDigits {value : Nat} (small : value < 100) (rest : List Char) :
    digits? 2 2 (twoDigits .zero value ++ rest) = some (value, rest) :=
  digits?_of_writes (writes_twoDigits small) (by rw [twoDigits_zero]; rfl) rest

/-- A year of at most four digits is filled up to four. -/
theorem writes_yearText {year : Int} (low : 0 ≤ year) (high : year ≤ 9999) :
    Writes year.natAbs (yearText .zero year) ∧ (yearText .zero year).length = 4 := by
  have inside : (decide (year < 0) || decide (9999 < year)) = false := by
    simp only [Bool.or_eq_false_iff, decide_eq_false_iff_not]
    omega
  have text : yearText .zero year = fill '0' 4 (decimal year.natAbs) := by
    rw [yearText, inside]
    simp [signed, Int.not_lt.mpr low]
  have width : (decimal year.natAbs).length ≤ 4 :=
    (Nat.length_toDigits_le_iff (by decide) (by decide)).mpr (by omega)
  rw [text]
  refine ⟨(writes_decimal year.natAbs).fill 4, ?_⟩
  rw [fill, List.length_append, List.length_replicate]
  omega

theorem digits?_yearText {year : Int} (low : 0 ≤ year) (high : year ≤ 9999) (rest : List Char) :
    digits? 4 4 (yearText .zero year ++ rest) = some (year.natAbs, rest) :=
  digits?_of_writes (writes_yearText low high).1 (writes_yearText low high).2 rest

/-- Any other year begins with a sign. -/
theorem yearText_outside {year : Int} (outside : ¬ (0 ≤ year ∧ year ≤ 9999)) :
    ∃ mark rest, yearText .zero year = mark :: rest ∧ (mark = '-' ∨ mark = '+') := by
  have marked : (decide (year < 0) || decide (9999 < year)) = true := by
    simp only [Bool.or_eq_true, decide_eq_true_eq]
    omega
  rw [yearText, marked]
  simp only [signed, if_true]
  split
  · exact ⟨'-', _, rfl, .inl rfl⟩
  · exact ⟨'+', _, rfl, .inr rfl⟩

theorem head_yearText (year : Int) :
    ∃ c rest, yearText .zero year = c :: rest ∧ Text.isBlank c = false := by
  by_cases inside : 0 ≤ year ∧ year ≤ 9999
  · obtain ⟨writes, width⟩ := writes_yearText inside.1 inside.2
    cases text : yearText .zero year with
    | nil => simp [text] at width
    | cons c rest => exact ⟨c, rest, rfl, Text.not_isBlank_of_isDigit (writes.chars c (by simp [text]))⟩
  · obtain ⟨mark, rest, text, minus | plus⟩ := yearText_outside inside
    · exact ⟨mark, rest, text, by rw [minus]; decide⟩
    · exact ⟨mark, rest, text, by rw [plus]; decide⟩

end

/-! ### Texts that the other readers leave -/

section

variable {text rest : List Char}

theorem mem_of_digits? {least most value : Nat} (read : digits? least most text = some (value, rest))
    (marked : 'Z' ∈ text) : 'Z' ∈ rest := by
  obtain ⟨digits, split, chars⟩ := append_of_digits? read
  rw [split] at marked
  rcases List.mem_append.mp marked with inside | behind
  · exact absurd (chars 'Z' inside) (by decide)
  · exact behind

theorem mem_of_char? {c : Char} (other : c ≠ 'Z') (read : char? c text = some rest)
    (marked : 'Z' ∈ text) : 'Z' ∈ rest := by
  rw [char?_eq_some_iff.mp read] at marked
  rcases List.mem_cons.mp marked with first | behind
  · exact absurd first.symm other
  · exact behind

theorem mem_trimStart (marked : 'Z' ∈ text) : 'Z' ∈ Text.trimStart text :=
  Text.mem_dropWhile marked (by decide)

theorem mem_of_number? {width value : Nat} (read : number? width text = some (value, rest))
    (marked : 'Z' ∈ text) : 'Z' ∈ rest :=
  mem_of_digits? read (mem_trimStart marked)

theorem mem_of_year? {year : Int} (read : year? text = some (year, rest)) (marked : 'Z' ∈ text) :
    'Z' ∈ rest := by
  have start := mem_trimStart marked
  unfold year? at read
  split at read
  · rename_i signed
    obtain ⟨⟨value, left⟩, digits, same⟩ := Option.map_eq_some_iff.mp read
    cases same
    exact mem_of_digits? digits (mem_of_char? (by decide) (char?_eq_some_iff.mpr signed) start)
  · rename_i signed
    obtain ⟨⟨value, left⟩, digits, same⟩ := Option.map_eq_some_iff.mp read
    cases same
    exact mem_of_digits? digits (mem_of_char? (by decide) (char?_eq_some_iff.mpr signed) start)
  · obtain ⟨⟨value, left⟩, digits, same⟩ := Option.map_eq_some_iff.mp read
    cases same
    exact mem_of_digits? digits start

theorem mem_of_bareDate? {date : Date} (read : bareDate? text = some (date, rest)) (marked : 'Z' ∈ text) :
    'Z' ∈ rest := by
  simp only [bareDate?, Option.bind_eq_bind, Option.bind_eq_some_iff] at read
  obtain ⟨⟨year, behindYear⟩, years, behindDash, dash, ⟨month, behindMonth⟩, months, behindNext, next,
    ⟨day, behindDay⟩, days, found, -, same⟩ := read
  cases same
  exact mem_of_number? days (mem_of_char? (by decide) next (mem_of_number? months
    (mem_of_char? (by decide) dash (mem_of_year? years marked))))

/-- A bare timestamp ends with its second. -/
theorem bareTimestamp?_of_mem (marked : 'Z' ∈ text) : bareTimestamp? text = none := by
  rw [Option.eq_none_iff_forall_ne_some]
  intro instant read
  simp only [bareTimestamp?, Option.bind_eq_bind, Option.bind_eq_some_iff] at read
  obtain ⟨⟨date, behindDate⟩, dates, behindMark, mark, ⟨hour, behindHour⟩, hours, behindColon, colon,
    ⟨minute, behindMinute⟩, minutes, behindNext, next, ⟨second, behindSecond⟩, seconds, time, -, done⟩ := read
  have left : 'Z' ∈ behindSecond := mem_of_number? seconds (mem_of_char? (by decide) next
    (mem_of_number? minutes (mem_of_char? (by decide) colon (mem_of_number? hours
      (mem_of_char? (by decide) mark (mem_of_bareDate? dates marked))))))
  simp [List.ne_nil_of_mem left] at done

/-- A bare date ends with its day. -/
theorem midnight?_of_mem (marked : 'Z' ∈ text) : midnight? text = none := by
  rw [Option.eq_none_iff_forall_ne_some]
  intro instant read
  simp only [midnight?, Option.bind_eq_bind, Option.bind_eq_some_iff] at read
  obtain ⟨⟨date, behindDate⟩, dates, done⟩ := read
  simp [List.ne_nil_of_mem (mem_of_bareDate? dates marked)] at done

end

namespace Instant

/-- The instant without its fraction of a second; a leap second stays one. -/
def whole (instant : Instant) : Instant :=
  { instant with nano := instant.nano / billion * billion }

/-- A second of the day, with a fraction, that is a leap second only at the end of a minute. -/
structure Proper (instant : Instant) : Prop where
  second_lt : instant.second < secondsPerDay
  nano_lt : instant.nano < 2 * billion
  leap : billion ≤ instant.nano → instant.second % 60 = 59

section

variable {instant : Instant}

theorem timeOfDay?_of_proper (proper : instant.Proper) :
    timeOfDay? instant.hour instant.minute instant.secondOfMinute 0 =
      some (instant.second, instant.whole.nano) := by
  obtain ⟨second_lt, nano_lt, leap⟩ := proper
  unfold timeOfDay? hour minute secondOfMinute whole
  unfold secondsPerDay at second_lt
  have clock : instant.second / 3600 < 24 ∧ instant.second / 60 % 60 < 60 := by omega
  rw [if_pos clock]
  by_cases plain : instant.nano < billion
  · have none : instant.nano / billion = 0 := Nat.div_eq_of_lt plain
    have inside : instant.second % 60 + 0 < 60 := by omega
    rw [none, if_pos inside, Nat.zero_mul]
    congr 2
    omega
  · have one : instant.nano / billion = 1 := by
      unfold billion at *
      omega
    have last := leap (by omega)
    rw [one, last]
    simp
    omega

theorem inRange_of_year (low : 0 ≤ instant.date.year) (high : instant.date.year ≤ 9999) :
    inRange instant.day = true := by
  have bounds := (Date.onCalendar_ofDays instant.day).toDays_bounds low high
  rw [Date.toDays_ofDays] at bounds
  have first : Date.minDays = -96465292 := by decide
  have last : Date.maxDays = 95026236 := by decide
  simp only [inRange, first, last, Bool.and_eq_true, decide_eq_true_eq]
  omega

theorem ofSeconds?_whole (proper : instant.Proper) (ranged : inRange instant.day = true) :
    ofSeconds? (instant.day * secondsPerDay + instant.second - 0) instant.whole.nano =
      some instant.whole := by
  have second_lt := proper.second_lt
  unfold secondsPerDay at *
  have day : (instant.day * (86400 : Nat) + instant.second - 0) / (86400 : Nat) = instant.day := by omega
  have second : ((instant.day * (86400 : Nat) + instant.second - 0) % (86400 : Nat)).toNat =
      instant.second := by omega
  simp only [ofSeconds?, secondsPerDay, day, second, ranged, if_true]
  rfl

theorem date?_of_year (low : 0 ≤ instant.date.year) (high : instant.date.year ≤ 9999) :
    date? instant.date.year.natAbs instant.date.month instant.date.day = some instant.date := by
  have year : (instant.date.year.natAbs : Int) = instant.date.year := by omega
  have valid : instant.date.isValid = true := by
    rw [Date.isValid_iff, Date.minYear, Date.maxYear]
    exact ⟨by omega, by omega, Date.onCalendar_ofDays instant.day⟩
  rw [year]
  exact if_pos valid

theorem clock_lt (proper : instant.Proper) :
    instant.hour < 100 ∧ instant.minute < 100 ∧ instant.secondOfMinute < 100 := by
  obtain ⟨second_lt, nano_lt, -⟩ := proper
  unfold hour minute secondOfMinute
  unfold secondsPerDay at second_lt
  unfold billion at *
  omega

theorem dateTimeText_append (rest : List Char) :
    instant.dateTimeText ++ rest = yearText .zero instant.date.year ++ '-' ::
      (twoDigits .zero instant.date.month ++ '-' :: (twoDigits .zero instant.date.day ++ 'T' ::
        (twoDigits .zero instant.hour ++ ':' :: (twoDigits .zero instant.minute ++ ':' ::
          (twoDigits .zero instant.secondOfMinute ++ rest))))) := by
  simp only [dateTimeText, List.append_assoc, List.cons_append, List.nil_append]

/-- A timestamp with a year of four digits is read as the whole second of its instant. -/
theorem fullTimestamp?_dateTimeText (proper : instant.Proper) (low : 0 ≤ instant.date.year)
    (high : instant.date.year ≤ 9999) :
    fullTimestamp? (instant.dateTimeText ++ ['Z']) = some instant.whole := by
  have calendar : instant.date.OnCalendar := Date.onCalendar_ofDays instant.day
  have month : instant.date.month < 100 := Nat.lt_of_le_of_lt calendar.month_le (by decide)
  have day : instant.date.day < 100 := Nat.lt_of_le_of_lt calendar.day_le_31 (by decide)
  obtain ⟨hour, minute, second⟩ := clock_lt proper
  have mark : ∀ rest, (char? 'T' ('T' :: rest) <|> char? 't' ('T' :: rest) <|> char? ' ' ('T' :: rest)) =
      some rest := fun _ => rfl
  have sum := ofSeconds?_whole proper (inRange_of_year low high)
  have same : instant.date.toDays = instant.day := Date.toDays_ofDays instant.day
  rw [← same] at sum
  rw [dateTimeText_append]
  -- One reader after the other takes what was written for it.
  refine Option.bind_eq_some_iff.mpr ⟨_, digits?_yearText low high _, ?_⟩
  refine Option.bind_eq_some_iff.mpr ⟨_, char?_cons '-' _, ?_⟩
  refine Option.bind_eq_some_iff.mpr ⟨_, digits?_twoDigits month _, ?_⟩
  refine Option.bind_eq_some_iff.mpr ⟨_, char?_cons '-' _, ?_⟩
  refine Option.bind_eq_some_iff.mpr ⟨_, digits?_twoDigits day _, ?_⟩
  refine Option.bind_eq_some_iff.mpr ⟨_, mark _, ?_⟩
  refine Option.bind_eq_some_iff.mpr ⟨_, digits?_twoDigits hour _, ?_⟩
  refine Option.bind_eq_some_iff.mpr ⟨_, char?_cons ':' _, ?_⟩
  refine Option.bind_eq_some_iff.mpr ⟨_, digits?_twoDigits minute _, ?_⟩
  refine Option.bind_eq_some_iff.mpr ⟨_, char?_cons ':' _, ?_⟩
  refine Option.bind_eq_some_iff.mpr ⟨_, digits?_twoDigits second _, ?_⟩
  refine Option.bind_eq_some_iff.mpr ⟨(0, ['Z']), rfl, ?_⟩
  refine Option.bind_eq_some_iff.mpr ⟨(0, []), rfl, ?_⟩
  refine Option.bind_eq_some_iff.mpr ⟨_, date?_of_year low high, ?_⟩
  exact Option.bind_eq_some_iff.mpr ⟨_, timeOfDay?_of_proper proper, sum⟩

/-- A text that begins with a sign is no full timestamp. -/
theorem fullTimestamp?_of_sign {mark : Char} (sign : mark = '-' ∨ mark = '+') (rest : List Char) :
    fullTimestamp? (mark :: rest) = none := by
  have begins : mark.isDigit = false := by rcases sign with rfl | rfl <;> rfl
  have year : digits? 4 4 (mark :: rest) = none := by simp [digits?, begins]
  rw [fullTimestamp?, year]
  rfl

theorem dateTimeText_eq (instant : Instant) :
    ∃ rest, instant.dateTimeText = yearText .zero instant.date.year ++ rest :=
  ⟨_, by rw [← List.append_nil instant.dateTimeText, dateTimeText_append]⟩

theorem trim_timestamp (instant : Instant) :
    Text.trim instant.timestamp.toList = instant.dateTimeText ++ ['Z'] := by
  rw [timestamp, String.toList_ofList]
  refine Text.trim_of_solid (by decide) fun c found => ?_
  obtain ⟨rest, text⟩ := instant.dateTimeText_eq
  obtain ⟨first, others, begins, solid⟩ := head_yearText instant.date.year
  rw [text, begins] at found
  cases found
  exact solid

/-- A timestamp is read as the whole second of its instant if the year has four digits, and not at all if
the year has more or is before the year zero. -/
theorem instant?_timestamp (proper : instant.Proper) : Calendar.instant? instant.timestamp.toList =
    if 0 ≤ instant.date.year ∧ instant.date.year ≤ 9999 then some instant.whole else none := by
  rw [Calendar.instant?, trim_timestamp]
  by_cases inside : 0 ≤ instant.date.year ∧ instant.date.year ≤ 9999
  · rw [if_pos inside, fullTimestamp?_dateTimeText proper inside.1 inside.2]
    rfl
  · have marked : 'Z' ∈ instant.dateTimeText ++ ['Z'] := by simp
    rw [if_neg inside, bareTimestamp?_of_mem marked, midnight?_of_mem marked]
    obtain ⟨rest, text⟩ := instant.dateTimeText_eq
    obtain ⟨mark, others, begins, sign⟩ := yearText_outside inside
    rw [text, begins, List.cons_append, List.cons_append, fullTimestamp?_of_sign sign]
    rfl

end

end Instant

end Stencil.Calendar
