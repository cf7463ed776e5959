import Stencil.Calendar.Pattern
import Stencil.Calendar.Reading
import Stencil.Helper.Basic

set_option autoImplicit false

/-!
The date helpers of the catalog. A date is a text that the calendar reads, or a number of
milliseconds since the epoch; computed dates are timestamps of universal time.
-/

namespace Stencil.Dates

open Calendar (Instant)

def defaultPattern : String := "%Y-%m-%d"

/-- Milliseconds are whole: a number that is none is cut toward zero, and held inside 64 bits. -/
def millisOf : Numeral → Int
  | .int value => if value < Nat.pow 2 63 then value else (Numeral.int value).toBinary.toInt64
  | real => real.toBinary.toInt64

def instant? : Json → Option Instant
  | .number value => Instant.ofMillis? (millisOf value)
  | .string text => Calendar.instant? text.toList
  | _ => none

def instant (call : Call) (index : Nat) : Answer Instant := do
  let value ← call.argument index
  match instant? value with
  | some instant => .ok instant
  | none => call.refuse ("not a date: " ++ value.compact)

def formatted (call : Call) (instant : Instant) (pattern : String) : Answer Json :=
  match Calendar.Pattern.read? pattern.toList with
  | none => call.refuse ("invalid date format '" ++ pattern ++ "'")
  | some items =>
    match instant.format? items with
    | some text => .ok (.string text)
    | none => call.refuse ("cannot format date with '" ++ pattern ++ "'")

def now (call : Call) : Answer Json :=
  match call.arguments.head? with
  | some (.string pattern) => formatted call call.now pattern
  | _ => .ok (.string call.now.timestamp)

def formatDate (call : Call) : Answer Json := do
  let date ← instant call 0
  match call.argument? 1 with
  | some (.string pattern) => formatted call date pattern
  | _ => formatted call date defaultPattern

/-- Moves a date by a whole number of units of the given length. -/
def shift (seconds : Nat) (call : Call) : Answer Json := do
  let date ← instant call 0
  let amount ← call.integer 1
  match date.addSeconds? (amount * seconds) with
  | some shifted => return .string shifted.timestamp
  | none => call.refuse "date out of range"

def diffDays (call : Call) : Answer Json := do
  let start ← instant call 0
  let finish ← instant call 1
  return .int (Instant.daysBetween start finish)

def isBefore (call : Call) : Answer Json := do
  let first ← instant call 0
  let second ← instant call 1
  return .bool (first.before second)

def isAfter (call : Call) : Answer Json := do
  let first ← instant call 0
  let second ← instant call 1
  return .bool (second.before first)

def entries : List CatalogEntry := [
  ⟨"now", "Current UTC time, RFC 3339 or formatted", now⟩,
  ⟨"formatDate", "Formats a date with a strftime pattern (default %Y-%m-%d)", formatDate⟩,
  ⟨"addDays", "Adds (or subtracts) days", shift 86400⟩,
  ⟨"addHours", "Adds (or subtracts) hours", shift 3600⟩,
  ⟨"addMinutes", "Adds (or subtracts) minutes", shift 60⟩,
  ⟨"diffDays", "Whole days from the first date to the second", diffDays⟩,
  ⟨"isBefore", "True if the first date is earlier", isBefore⟩,
  ⟨"isAfter", "True if the first date is later", isAfter⟩]

end Stencil.Dates
