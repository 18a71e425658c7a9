import NodeWarden.Text.Blank
import NodeWarden.Time.Duration

/-!
# Written time spans

The form in which a person writes a duration in a configuration file: a sum of spans such as
`1h 30m` or `1.5s`, each a number with a unit. A number may have a fraction if the unit divides it
exactly into whole nanoseconds (or, from the hour on, whole seconds). Blanks may stand anywhere but
inside the name of a unit. The same form is used to show a duration again, with the largest units
first.
-/

namespace NodeWarden.Time

/-- A unit of written time. -/
inductive SpanUnit where
  | nanosecond | microsecond | millisecond | second | minute | hour | day | week | month | year
deriving Repr, DecidableEq

namespace SpanUnit

/-- The unit with the given name, or none. -/
def ofName? : String → Option SpanUnit
  | "nanos" | "nsec" | "ns" => some nanosecond
  | "usec" | "us" | "µs" => some microsecond
  | "millis" | "msec" | "ms" => some millisecond
  | "seconds" | "second" | "secs" | "sec" | "s" => some second
  | "minutes" | "minute" | "mins" | "min" | "m" => some minute
  | "hours" | "hour" | "hrs" | "hr" | "h" => some hour
  | "days" | "day" | "d" => some day
  | "weeks" | "week" | "wks" | "wk" | "w" => some week
  | "months" | "month" | "M" => some month
  | "years" | "year" | "yrs" | "yr" | "y" => some year
  | _ => none

/-- The seconds in a unit of at least a second. A month is the twelfth of a year to the nearest
hundredth of a day. -/
def seconds : SpanUnit → Nat
  | minute => 60
  | hour => 3600
  | day => 86400
  | week => 604800
  | month => 2630016
  | year => 31557600
  | _ => 1

/-- The nanoseconds in a unit of at most a second. -/
def nanos : SpanUnit → Nat
  | nanosecond => 1
  | microsecond => 1000
  | millisecond => 1000000
  | _ => 1000000000

/-- Whether the unit is shorter than a second. -/
def isSubSecond : SpanUnit → Bool
  | nanosecond | microsecond | millisecond => true
  | _ => false

end SpanUnit

/-- The largest count that a number of a span, or a sum of seconds, may reach. -/
def countLimit : Nat := UInt64.size - 1

/-- A count, if it is within the limit. -/
def checked (n : Nat) : Option Nat :=
  if n ≤ countLimit then some n else none

/-- Adds seconds and nanoseconds to a duration, if the seconds stay within the limit. -/
def addChecked (d : Duration) (seconds nanos : Nat) : Option Duration := do
  let nanos ← checked (d.subNanos + nanos)
  let total := d.seconds + seconds + nanos / 1000000000
  let total ← checked total
  return .ofParts total (nanos % 1000000000)

/-- A fraction, the digits after a point: `numerator / denominator`. -/
structure Fraction where
  numerator : Nat
  denominator : Nat
deriving Repr, DecidableEq

/-- The part of a unit that a fraction makes, in seconds and nanoseconds. It has to come out even:
in nanoseconds up to the minute, in seconds from the hour on. -/
def Fraction.of (f : Fraction) (unit : SpanUnit) : Option (Nat × Nat) := do
  let even (perUnit : Nat) : Option Nat := do
    let n ← checked (f.numerator * perUnit)
    if n % f.denominator == 0 then some (n / f.denominator) else none
  match unit with
  | .nanosecond => none
  | .microsecond | .millisecond | .second => return (0, ← even unit.nanos)
  | .minute => return (0, ← even 60000000000)
  | _ => return (← even unit.seconds, 0)

/-- Adds one written span to a duration. -/
def addSpan (d : Duration) (n : Nat) (fraction : Option Fraction) (unit : SpanUnit) :
    Option Duration := do
  let d ←
    if unit.isSubSecond then addChecked d 0 (← checked (n * unit.nanos))
    else addChecked d (← checked (n * unit.seconds)) 0
  match fraction with
  | none => some d
  | some f =>
    let (s, ns) ← f.of unit
    addChecked d s ns

/-- The value of an ASCII digit. -/
def digitValue? (c : Char) : Option Nat :=
  if c.isDigit then some (c.toNat - '0'.toNat) else none

/-- A letter that may stand in the name of a unit. -/
def isUnitLetter (c : Char) : Bool :=
  c.isAlpha || c == 'µ'

/-- Where a reader of spans stands. -/
inductive SpanState where
  /-- Before a span, with nothing but blanks since the last. -/
  | between
  /-- Inside the whole part of a number. -/
  | number (n : Nat)
  /-- Inside the digits after a point. -/
  | fraction (n : Nat) (f : Fraction)
  /-- Inside the name of a unit, whose letters are kept in reverse. -/
  | unit (n : Nat) (f : Option Fraction) (name : List Char)

/-- Adds the span that ends with a unit's name. -/
def finishSpan (d : Duration) (n : Nat) (f : Option Fraction) (name : List Char) :
    Option Duration := do
  addSpan d n f (← SpanUnit.ofName? (String.ofList name.reverse))

/-- Reads spans up to the end of the text and adds them to the duration read so far. -/
def readSpans : Duration → SpanState → List Char → Option Duration
  | d, .between, [] => some d
  | _, .number _, [] => none
  | _, .fraction _ _, [] => none
  | d, .unit n f name, [] => finishSpan d n f name
  | d, .between, c :: cs =>
    match digitValue? c with
    | some v => readSpans d (.number v) cs
    | none => if Text.isBlank c then readSpans d .between cs else none
  | d, .number n, c :: cs =>
    match digitValue? c with
    | some v => do readSpans d (.number (← checked (n * 10 + v))) cs
    | none =>
      if Text.isBlank c then readSpans d (.number n) cs
      else if isUnitLetter c then readSpans d (.unit n none [c]) cs
      else if c == '.' then readSpans d (.fraction n ⟨0, 1⟩) cs
      else none
  | d, .fraction n f, c :: cs =>
    match digitValue? c with
    | some v => do
      let numerator ← checked (f.numerator * 10 + v)
      let denominator ← checked (f.denominator * 10)
      readSpans d (.fraction n ⟨numerator, denominator⟩) cs
    | none =>
      if Text.isBlank c then readSpans d (.fraction n f) cs
      else if isUnitLetter c && f.denominator != 1 then readSpans d (.unit n (some f) [c]) cs
      else none
  | d, .unit n f name, c :: cs =>
    match digitValue? c with
    | some v => do readSpans (← finishSpan d n f name) (.number v) cs
    | none =>
      if Text.isBlank c then do readSpans (← finishSpan d n f name) .between cs
      else if isUnitLetter c then readSpans d (.unit n f (c :: name)) cs
      else none

end NodeWarden.Time

namespace NodeWarden.Duration

open NodeWarden.Time

/-- Reads a sum of written spans. A text without any span is refused, but for a zero that
stands alone: no time needs no unit. -/
def parse? (s : String) : Option Duration :=
  if s = "0" then some ⟨0⟩
  else if s.toList.all Text.isBlank then none
  else readSpans ⟨0⟩ .between s.toList

/-- The span of a count, or nothing for zero. -/
def spanItem (count : Nat) (unit : String) : List String :=
  if count == 0 then [] else [toString count ++ unit]

/-- The span of a count in a unit whose name takes a plural. -/
def pluralItem (count : Nat) (unit : String) : List String :=
  spanItem count (if count == 1 then unit else unit ++ "s")

/-- The duration as a sum of spans, each unit used as often as it fits, the largest first. -/
def written (d : Duration) : String :=
  let year := SpanUnit.year.seconds
  let month := SpanUnit.month.seconds
  let inYear := d.seconds % year
  let inMonth := inYear % month
  let inDay := inMonth % 86400
  let items :=
    pluralItem (d.seconds / year) "year" ++ pluralItem (inYear / month) "month"
      ++ pluralItem (inMonth / 86400) "day" ++ spanItem (inDay / 3600) "h"
      ++ spanItem (inDay % 3600 / 60) "m" ++ spanItem (inDay % 60) "s"
      ++ spanItem (d.subNanos / 1000000) "ms" ++ spanItem (d.subNanos / 1000 % 1000) "us"
      ++ spanItem (d.subNanos % 1000) "ns"
  if items.isEmpty then "0s" else " ".intercalate items

end NodeWarden.Duration
