import NodeWarden.Time.Duration
import NodeWarden.Time.Timestamp

/-!
# Clocks

A world with a clock has a wall clock, by which samples are dated, and a stopwatch, by which ticks
are measured.
-/

namespace NodeWarden

/-- A world that tells the time. -/
class Clock (σ : Type) where
  /-- The time of the wall clock. -/
  now : σ → Timestamp
  /-- The time since some fixed start. -/
  stopwatch : σ → Duration

/-- The point in time so many milliseconds after the start of 1970. -/
def Timestamp.ofMillis (ms : Nat) : Timestamp :=
  ⟨(ms / 1000 : Nat), ms % 1000 * 1000000⟩

/-- A duration in seconds, as a float. -/
def Duration.toFloat (d : Duration) : Float :=
  Float.ofNat d.seconds + Float.ofNat d.subNanos / 1000000000

end NodeWarden
