import Stencil.Calendar.Instant
import Stencil.Number.Decimal
import Stencil.Text.Trim

set_option autoImplicit false

/-!
Reading instants: a full timestamp with an offset, a timestamp without one, which is taken as
universal time, or a bare date, which is its midnight.
-/

namespace Stencil.Calendar

open Number (Decimal)

/-- Reads from `least` to `most` digits. -/
def digits? (least most : Nat) (text : List Char) : Option (Nat × List Char) :=
  let digits := (text.take most).takeWhile Char.isDigit
  if digits.length < least then none
  else some (Decimal.ofDigits digits, text.drop digits.length)

def char? (c : Char) : List Char → Option (List Char)
  | d :: text => if c = d then some text else none
  | [] => none

/-- A time of day as a second and nanoseconds; second 60 is a leap second. -/
def timeOfDay? (hour minute second nano : Nat) : Option (Nat × Nat) :=
  if hour < 24 ∧ minute < 60 then
    if second < 60 then some (hour * 3600 + minute * 60 + second, nano)
    else if second = 60 then some (hour * 3600 + minute * 60 + 59, Instant.billion + nano)
    else none
  else none

def date? (year : Int) (month day : Nat) : Option Date :=
  if (Date.mk year month day).isValid then some ⟨year, month, day⟩ else none

/-- A fraction of a second, cut after nine digits. -/
def fraction? : List Char → Option (Nat × List Char)
  | '.' :: text =>
    let digits := text.takeWhile Char.isDigit
    let kept := digits.take 9
    if digits.isEmpty then none
    else some (Decimal.ofDigits kept * Nat.pow 10 (9 - kept.length), text.drop digits.length)
  | text => some (0, text)

/-- An offset from universal time in seconds. -/
def offset? (text : List Char) : Option (Int × List Char) :=
  match text with
  | [] => none
  | sign :: rest =>
    if sign = 'Z' ∨ sign = 'z' then some (0, rest)
    else if sign = '+' ∨ sign = '-' ∨ sign = '−' then do
      let (hours, rest) ← digits? 2 2 rest
      let rest ← char? ':' rest
      let (minutes, rest) ← digits? 2 2 rest
      if hours < 24 ∧ minutes < 60 then
        let seconds : Int := (hours * 3600 + minutes * 60 : Nat)
        some (if sign = '+' then seconds else -seconds, rest)
      else none
    else none

/-- A timestamp with an offset, in which every field has its full width. -/
def fullTimestamp? (text : List Char) : Option Instant := do
  let (year, text) ← digits? 4 4 text
  let text ← char? '-' text
  let (month, text) ← digits? 2 2 text
  let text ← char? '-' text
  let (day, text) ← digits? 2 2 text
  let text ← (char? 'T' text <|> char? 't' text <|> char? ' ' text)
  let (hour, text) ← digits? 2 2 text
  let text ← char? ':' text
  let (minute, text) ← digits? 2 2 text
  let text ← char? ':' text
  let (second, text) ← digits? 2 2 text
  let (nano, text) ← fraction? text
  let (offset, text) ← offset? text
  let date ← date? year month day
  let (time, nano) ← timeOfDay? hour minute second nano
  if text.isEmpty then
    Instant.ofSeconds? (date.toDays * Instant.secondsPerDay + time - offset) nano
  else none

/-- A number after optional blanks, of one digit up to the width. -/
def number? (width : Nat) (text : List Char) : Option (Nat × List Char) :=
  digits? 1 width (Text.trimStart text)

/-- A year after optional blanks: of at most four digits, or with a sign of any number. -/
def year? (text : List Char) : Option (Int × List Char) :=
  match Text.trimStart text with
  | '-' :: rest => (digits? 1 rest.length rest).map fun (year, rest) => (-(year : Int), rest)
  | '+' :: rest => (digits? 1 rest.length rest).map fun (year, rest) => ((year : Int), rest)
  | rest => (digits? 1 4 rest).map fun (year, rest) => ((year : Int), rest)

def bareDate? (text : List Char) : Option (Date × List Char) := do
  let (year, text) ← year? text
  let text ← char? '-' text
  let (month, text) ← number? 2 text
  let text ← char? '-' text
  let (day, text) ← number? 2 text
  let date ← date? year month day
  return (date, text)

def bareTimestamp? (text : List Char) : Option Instant := do
  let (date, text) ← bareDate? text
  let text ← char? 'T' text
  let (hour, text) ← number? 2 text
  let text ← char? ':' text
  let (minute, text) ← number? 2 text
  let text ← char? ':' text
  let (second, text) ← number? 2 text
  let (time, nano) ← timeOfDay? hour minute second 0
  if text.isEmpty then some ⟨date.toDays, time, nano⟩ else none

def midnight? (text : List Char) : Option Instant := do
  let (date, text) ← bareDate? text
  if text.isEmpty then some ⟨date.toDays, 0, 0⟩ else none

/-- Reads an instant in the first form that fits. -/
def instant? (text : List Char) : Option Instant :=
  let text := Text.trim text
  fullTimestamp? text <|> bareTimestamp? text <|> midnight? text

end Stencil.Calendar
