import NodeWarden.Number.Decimal

/-!
# Durations

A length of time in whole nanoseconds, and the text in which an error shows one: in the largest of
the units `s`, `ms`, `µs` and `ns` that it fills, with the rest as a decimal fraction.
-/

namespace NodeWarden

/-- A length of time. -/
structure Duration where
  nanos : Nat
deriving Repr, DecidableEq, BEq, Inhabited

namespace Duration

def ofSeconds (s : Nat) : Duration := ⟨s * 1000000000⟩

def ofMillis (ms : Nat) : Duration := ⟨ms * 1000000⟩

/-- A duration of whole seconds and further nanoseconds. -/
def ofParts (seconds nanos : Nat) : Duration := ⟨seconds * 1000000000 + nanos⟩

/-- The whole seconds. -/
def seconds (d : Duration) : Nat := d.nanos / 1000000000

/-- The nanoseconds beyond the whole seconds. -/
def subNanos (d : Duration) : Nat := d.nanos % 1000000000

/-- Whether the duration is empty. -/
def isZero (d : Duration) : Bool := d.nanos == 0

/-- A number with a fraction of `width` digits, the zeros at its end left out. -/
def withFraction (whole fraction width : Nat) : String :=
  let ds := (Number.padded width fraction).toList
  let kept := (ds.reverse.dropWhile (· == '0')).reverse
  if kept.isEmpty then toString whole else toString whole ++ "." ++ String.ofList kept

/-- The text of a duration in its largest unit. -/
def text (d : Duration) : String :=
  if 1000000000 ≤ d.nanos then withFraction d.seconds d.subNanos 9 ++ "s"
  else if 1000000 ≤ d.nanos then withFraction (d.nanos / 1000000) (d.nanos % 1000000) 6 ++ "ms"
  else if 1000 ≤ d.nanos then withFraction (d.nanos / 1000) (d.nanos % 1000) 3 ++ "µs"
  else toString d.nanos ++ "ns"

end Duration

end NodeWarden
