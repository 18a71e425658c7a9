import NodeWarden.Text.Blank
import NodeWarden.Text.Digit
import NodeWarden.Text.Letter
import NodeWarden.Time.Timestamp

/-!
# Reading timestamps

The text of a timestamp is read leniently. A number may have fewer digits than usual, blanks
may stand in front of every number and every sign, a blank may stand for the `T` between
date and time, and the year may have a sign and then any number of digits. The date has to
be one that the calendar has, and the point in time one of the years that can be counted.
-/

namespace NodeWarden

namespace Timestamp

/-- The digits at the front of a text, at most `most` of them if that is given, as a number,
and what follows them. -/
def digits? (most : Option Nat) (cs : List Char) : Option (Nat × List Char) := do
  let digits := ((most.map fun n => cs.take n).getD cs).takeWhile Char.isDigit
  return (← Text.number? 10 digits, cs.drop digits.length)

/-- A number of one or two digits between two bounds, with blanks in front of it. -/
def number? (least most : Nat) (cs : List Char) : Option (Nat × List Char) := do
  let (n, rest) ← digits? (some 2) (Text.trimStart cs)
  if least ≤ n ∧ n ≤ most then some (n, rest) else none

/-- What follows a sign, with blanks in front of it. -/
def sign? (sign : Char) (cs : List Char) : Option (List Char) :=
  match Text.trimStart cs with
  | c :: rest => if c = sign then some rest else none
  | [] => none

/-- A year: with a sign and digits, or without a sign and with at most four digits. -/
def year? (cs : List Char) : Option (Int × List Char) :=
  match Text.trimStart cs with
  | '-' :: rest => (digits? none rest).map fun (n, rest) => (-n, rest)
  | '+' :: rest => (digits? none rest).map fun (n, rest) => (n, rest)
  | cs => (digits? (some 4) cs).map fun (n, rest) => (n, rest)

/-- A date that the calendar has. -/
def date? (cs : List Char) : Option (Date × List Char) := do
  let (year, cs) ← year? cs
  let (month, cs) ← number? 1 12 (← sign? '-' cs)
  let (day, cs) ← number? 1 31 (← sign? '-' cs)
  let date : Date := ⟨year, month, day⟩
  if date.isValid then some (date, cs) else none

/-- The nanoseconds that a fraction of a second has, none if it is missing. Digits after the
ninth are passed over. -/
def fraction? (cs : List Char) : Option (Nat × List Char) :=
  match cs with
  | '.' :: cs => do
    let (n, rest) ← digits? (some 9) cs
    return (n * Nat.pow 10 (9 - (cs.length - rest.length)), rest.dropWhile Char.isDigit)
  | cs => some (0, cs)

/-- A time of day, as seconds since midnight and nanoseconds. The second after the last of a
minute is a leap second. -/
def timeOfDay? (cs : List Char) : Option ((Nat × Nat) × List Char) := do
  let (hour, cs) ← number? 0 23 cs
  let (minute, cs) ← number? 0 59 (← sign? ':' cs)
  let (second, cs) ← number? 0 60 (← sign? ':' cs)
  let (nanos, cs) ← fraction? cs
  let (second, nanos) := if second = 60 then (59, nanos + 1000000000) else (second, nanos)
  return ((hour * 3600 + minute * 60 + second, nanos), cs)

/-- The number that two digits at the front of a text write. -/
def twoDigits? : List Char → Option (Nat × List Char)
  | a :: b :: rest => (Text.number? 10 [a, b]).map (·, rest)
  | _ => none

/-- How many seconds the hours and minutes of an offset are, less than a day. Between them
may be any number of colons and blanks. -/
def offsetSeconds? (cs : List Char) : Option (Nat × List Char) := do
  let (hours, cs) ← twoDigits? cs
  let (minutes, cs) ← twoDigits? (cs.dropWhile fun c => c == ':' || Text.isBlank c)
  if hours ≤ 23 ∧ minutes ≤ 59 then some (hours * 3600 + minutes * 60, cs) else none

/-- The seconds by which the clocks of a zone are ahead of universal time. The zone is
written as a letter or three for universal time itself, or as an offset with a sign, which
may be a true minus. -/
def zone? (cs : List Char) : Option (Int × List Char) :=
  if Text.asciiLower (cs.take 3) = ['u', 't', 'c'] then some (0, cs.drop 3)
  else
    match cs with
    | c :: rest =>
      if c = 'Z' ∨ c = 'z' then some (0, rest)
      else if c = '+' then (offsetSeconds? rest).map fun (n, rest) => (n, rest)
      else if c = '-' ∨ c = '\u2212' then (offsetSeconds? rest).map fun (n, rest) => (-n, rest)
      else none
    | [] => none

/-- Whether a count of seconds lies in the years that can be counted. -/
def isCountable (seconds : Int) : Bool :=
  (Date.mk (-262143) 1 1).toDays * 86400 ≤ seconds && seconds < (Date.mk 262143 1 1).toDays * 86400

/-- Reads a timestamp. -/
def parse? (s : String) : Option Timestamp := do
  let (date, cs) ← date? s.toList
  let c ← cs.head?
  if ¬(c = 'T' ∨ c = 't' ∨ c = ' ') then none
  let ((inDay, nanos), cs) ← timeOfDay? (cs.drop 1)
  let (ahead, cs) ← zone? (Text.trimStart cs)
  let written := date.toDays * 86400 + inDay
  if Text.trimStart cs = [] ∧ isCountable written ∧ isCountable (written - ahead) then
    some ⟨written - ahead, nanos⟩
  else none

end Timestamp

end NodeWarden
