import Stencil.Calendar.Instant

set_option autoImplicit false

/-!
Writing instants by a pattern. A pattern is a list of items: text as it stands, a number with its
padding, a name, or one of the longer fields.
-/

namespace Stencil.Calendar

/-- How a number is filled up to its width. -/
inductive Padding where
  | none
  | zero
  | space
  deriving DecidableEq

/-- A numeric field of a pattern. -/
inductive NumberField where
  | year | century | yearOfCentury | isoYear | isoYearOfCentury | quarter | month | day
  | weekFromSunday | weekFromMonday | isoWeek | weekdayFromSunday | weekdayFromMonday | ordinal
  | hour | hour12 | minute | second | nano | timestamp
  deriving DecidableEq

/-- An item of a pattern. -/
inductive Item where
  | text (chars : List Char)
  | number (field : NumberField) (padding : Padding)
  | shortMonth | longMonth | shortWeekday | longWeekday | lowerHalf | upperHalf
  /-- The fraction of the second with a point, of as few digits as needed in threes. -/
  | fraction
  /-- The fraction of the second in a number of digits, with or without a point. -/
  | fixedFraction (point : Bool) (digits : Nat)
  | zoneName
  /-- The offset written as given, for universal time. -/
  | zoneOffset (written : String)
  | fullTimestamp
  /-- An item that can be read but not written. -/
  | unwritable
  deriving DecidableEq

namespace Pattern

def zeroed (field : NumberField) : Item := .number field .zero

def spaced (field : NumberField) : Item := .number field .space

def bare (field : NumberField) : Item := .number field .none

def sign (c : Char) : Item := .text [c]

def dateItems : List Item := [zeroed .month, sign '/', zeroed .day, sign '/', zeroed .yearOfCentury]

def timeItems : List Item := [zeroed .hour, sign ':', zeroed .minute, sign ':', zeroed .second]

/-- The items of a one-letter specifier. -/
def letterItems? : Char → Option (List Item)
  | 'A' => some [.longWeekday]
  | 'B' => some [.longMonth]
  | 'C' => some [zeroed .century]
  | 'D' => some dateItems
  | 'F' => some [zeroed .year, sign '-', zeroed .month, sign '-', zeroed .day]
  | 'G' => some [zeroed .isoYear]
  | 'H' => some [zeroed .hour]
  | 'I' => some [zeroed .hour12]
  | 'M' => some [zeroed .minute]
  | 'P' => some [.lowerHalf]
  | 'R' => some [zeroed .hour, sign ':', zeroed .minute]
  | 'S' => some [zeroed .second]
  | 'T' => some timeItems
  | 'U' => some [zeroed .weekFromSunday]
  | 'V' => some [zeroed .isoWeek]
  | 'W' => some [zeroed .weekFromMonday]
  | 'X' => some timeItems
  | 'Y' => some [zeroed .year]
  | 'Z' => some [.zoneName]
  | 'a' => some [.shortWeekday]
  | 'b' => some [.shortMonth]
  | 'c' => some ([.shortWeekday, sign ' ', .shortMonth, sign ' ', spaced .day, sign ' '] ++
      timeItems ++ [sign ' ', zeroed .year])
  | 'd' => some [zeroed .day]
  | 'e' => some [spaced .day]
  | 'f' => some [zeroed .nano]
  | 'g' => some [zeroed .isoYearOfCentury]
  | 'h' => some [.shortMonth]
  | 'j' => some [zeroed .ordinal]
  | 'k' => some [spaced .hour]
  | 'l' => some [spaced .hour12]
  | 'm' => some [zeroed .month]
  | 'n' => some [sign '\n']
  | 'p' => some [.upperHalf]
  | 'q' => some [bare .quarter]
  | 'r' => some ([zeroed .hour12, sign ':', zeroed .minute, sign ':', zeroed .second, sign ' ',
      .upperHalf])
  | 's' => some [bare .timestamp]
  | 't' => some [sign '\t']
  | 'u' => some [bare .weekdayFromMonday]
  | 'v' => some [spaced .day, sign '-', .shortMonth, sign '-', zeroed .year]
  | 'w' => some [bare .weekdayFromSunday]
  | 'x' => some dateItems
  | 'y' => some [zeroed .yearOfCentury]
  | 'z' => some [.zoneOffset "+0000"]
  | '+' => some [.fullTimestamp]
  | '%' => some [sign '%']
  | _ => none

/-- The specifier that follows a percent sign, and the text after it. -/
def specifier? : List Char → Option (List Item × List Char)
  | ':' :: ':' :: ':' :: 'z' :: rest => some ([.zoneOffset "+00"], rest)
  | ':' :: ':' :: 'z' :: rest => some ([.zoneOffset "+00:00:00"], rest)
  | ':' :: 'z' :: rest => some ([.zoneOffset "+00:00"], rest)
  | '.' :: 'f' :: rest => some ([.fraction], rest)
  | '.' :: '3' :: 'f' :: rest => some ([.fixedFraction true 3], rest)
  | '.' :: '6' :: 'f' :: rest => some ([.fixedFraction true 6], rest)
  | '.' :: '9' :: 'f' :: rest => some ([.fixedFraction true 9], rest)
  | '3' :: 'f' :: rest => some ([.fixedFraction false 3], rest)
  | '6' :: 'f' :: rest => some ([.fixedFraction false 6], rest)
  | '9' :: 'f' :: rest => some ([.fixedFraction false 9], rest)
  | letter :: rest => (letterItems? letter).map (·, rest)
  | [] => none

/-- Changes the padding of a specifier that is a single number; no other one takes a flag. -/
def withPadding? (padding : Padding) : List Item → Option (List Item)
  | [.number field _] => some [.number field padding]
  | _ => none

/-- The flag of a padding. -/
def paddingOf? : Char → Option Padding
  | '-' => some .none
  | '0' => some .zero
  | '_' => some .space
  | _ => none

/-- A specifier with its flag. -/
def flagged? : List Char → Option (List Item × List Char)
  | '#' :: 'z' :: rest => some ([.unwritable], rest)
  | '#' :: _ => none
  | flag :: rest =>
    match paddingOf? flag with
    | none => specifier? (flag :: rest)
    | some padding => do
      let (items, rest) ← specifier? rest
      let items ← withPadding? padding items
      return (items, rest)
  | [] => none

/-- Reads a pattern; `fuel` bounds the number of its items. -/
def readFrom? : Nat → List Char → Option (List Item)
  | _, [] => some []
  | 0, _ => none
  | fuel + 1, '%' :: text => do
    let (items, rest) ← flagged? text
    let others ← readFrom? fuel rest
    return items ++ others
  | fuel + 1, c :: text => (readFrom? fuel text).map (sign c :: ·)

/-- The items of a pattern; none if it holds an unknown specifier. -/
def read? (text : List Char) : Option (List Item) := readFrom? text.length text

end Pattern

/-- Fills a text up to a width from the left. -/
def fill (c : Char) (width : Nat) (text : List Char) : List Char :=
  List.replicate (width - text.length) c ++ text

def decimal (value : Nat) : List Char := Nat.toDigits 10 value

/-- Two digits; a value above 99 shows in its first character. -/
def twoDigits (padding : Padding) (value : Nat) : List Char :=
  let last := Char.ofNat ('0'.toNat + value % 10)
  match value / 10, padding with
  | 0, .none => [last]
  | 0, .space => [' ', last]
  | tens, _ => [Char.ofNat ('0'.toNat + tens), last]

/-- A number of a least width, in which a sign counts. -/
def signed (padding : Padding) (width : Nat) (plus : Bool) (value : Int) : List Char :=
  let mark := if value < 0 then ['-'] else if plus then ['+'] else []
  let digits := decimal value.natAbs
  match padding with
  | .none => mark ++ digits
  | .zero => mark ++ fill '0' (width - mark.length) digits
  | .space => fill ' ' width (mark ++ digits)

/-- A year of four digits; one that needs more or is negative has a sign. -/
def yearText (padding : Padding) (year : Int) : List Char :=
  let outside := decide (year < 0) || decide (9999 < year)
  signed padding (if outside then 5 else 4) outside year

/-- A number held in eight bits. -/
def lowByte (value : Int) : Nat := (value % 256).toNat

def shortMonths : List String :=
  ["Jan", "Feb", "Mar", "Apr", "May", "Jun", "Jul", "Aug", "Sep", "Oct", "Nov", "Dec"]

def longMonths : List String :=
  ["January", "February", "March", "April", "May", "June", "July", "August", "September",
    "October", "November", "December"]

def longWeekdays : List String :=
  ["Sunday", "Monday", "Tuesday", "Wednesday", "Thursday", "Friday", "Saturday"]

def nameAt (names : List String) (index : Nat) : List Char := ((names[index]?).getD "").toList

namespace Instant

def hour (instant : Instant) : Nat := instant.second / 3600

def minute (instant : Instant) : Nat := instant.second / 60 % 60

/-- The second of the minute, 60 in a leap second. -/
def secondOfMinute (instant : Instant) : Nat :=
  instant.second % 60 + instant.nano / billion

/-- The nanosecond within the second. -/
def subsecond (instant : Instant) : Nat := instant.nano % billion

/-- The hour of a clock that shows twelve. -/
def hour12 (instant : Instant) : Nat := if instant.hour % 12 = 0 then 12 else instant.hour % 12

def weekday (instant : Instant) : Nat := Date.weekday instant.day

/-- A fraction in a number of digits. -/
def fractionDigits (instant : Instant) (digits : Nat) : List Char :=
  fill '0' digits (decimal (instant.subsecond / Nat.pow 10 (9 - digits)))

/-- A fraction with a point, in no, three, six or nine digits. -/
def fractionText (instant : Instant) : List Char :=
  let nano := instant.subsecond
  if nano = 0 then []
  else if nano % 1000000 = 0 then '.' :: instant.fractionDigits 3
  else if nano % 1000 = 0 then '.' :: instant.fractionDigits 6
  else '.' :: instant.fractionDigits 9

def numberText (instant : Instant) (padding : Padding) : NumberField → List Char
  | .year => yearText padding instant.date.year
  | .century => twoDigits padding (lowByte (instant.date.year / 100))
  | .yearOfCentury => twoDigits padding (instant.date.year % 100).toNat
  | .isoYear => yearText padding instant.date.isoWeek.1
  | .isoYearOfCentury => twoDigits padding (instant.date.isoWeek.1 % 100).toNat
  | .quarter => decimal ((instant.date.month + 2) / 3)
  | .month => twoDigits padding instant.date.month
  | .day => twoDigits padding instant.date.day
  | .weekFromSunday => twoDigits padding (instant.date.weeksFrom 0)
  | .weekFromMonday => twoDigits padding (instant.date.weeksFrom 1)
  | .isoWeek => twoDigits padding instant.date.isoWeek.2
  | .weekdayFromSunday => decimal instant.weekday
  | .weekdayFromMonday => decimal ((instant.weekday + 6) % 7 + 1)
  | .ordinal => signed padding 3 false instant.date.ordinal
  | .hour => twoDigits padding instant.hour
  | .hour12 => twoDigits padding instant.hour12
  | .minute => twoDigits padding instant.minute
  | .second => twoDigits padding instant.secondOfMinute
  | .nano => signed padding 9 false instant.subsecond
  | .timestamp => signed padding 9 false instant.seconds

/-- Date and time with a `T` between them, up to the fraction. -/
def dateTimeText (instant : Instant) : List Char :=
  yearText .zero instant.date.year ++ ['-'] ++ twoDigits .zero instant.date.month ++ ['-'] ++
    twoDigits .zero instant.date.day ++ ['T'] ++ twoDigits .zero instant.hour ++ [':'] ++
    twoDigits .zero instant.minute ++ [':'] ++ twoDigits .zero instant.secondOfMinute

/-- The full timestamp in whole seconds of universal time. -/
def timestamp (instant : Instant) : String := String.ofList (instant.dateTimeText ++ ['Z'])

def itemText? (instant : Instant) : Item → Option (List Char)
  | .text chars => some chars
  | .number field padding => some (instant.numberText padding field)
  | .shortMonth => some (nameAt shortMonths (instant.date.month - 1))
  | .longMonth => some (nameAt longMonths (instant.date.month - 1))
  | .shortWeekday => some ((nameAt longWeekdays instant.weekday).take 3)
  | .longWeekday => some (nameAt longWeekdays instant.weekday)
  | .lowerHalf => some (if instant.hour < 12 then "am" else "pm").toList
  | .upperHalf => some (if instant.hour < 12 then "AM" else "PM").toList
  | .fraction => some instant.fractionText
  | .fixedFraction point digits =>
    some ((if point then ['.'] else []) ++ instant.fractionDigits digits)
  | .zoneName => some "UTC".toList
  | .zoneOffset written => some written.toList
  | .fullTimestamp => some (instant.dateTimeText ++ instant.fractionText ++ "+00:00".toList)
  | .unwritable => none

/-- Writes an instant by the items of a pattern; none if one of them cannot be written. -/
def format? (instant : Instant) (items : List Item) : Option String :=
  (items.mapM instant.itemText?).map fun parts => String.ofList parts.flatten

end Instant

end Stencil.Calendar
