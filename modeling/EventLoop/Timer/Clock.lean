/-!
Moments and delays on the clock that timers use.

* `Instant` is a moment in nanoseconds; `Instant.latest` is the last one that can be represented.
* `Delay` is a span of nanoseconds, made from seconds and nanoseconds by `Delay.of`.
* `Instant.after?` adds a delay, and fails exactly when the sum cannot be represented.
* `Instant.deadline?` is the sum where it exists, and a stand-in otherwise: thirty years from when
  the clock is read again.
-/

namespace EventLoop

/-- A moment on a clock that never goes back, in nanoseconds. -/
abbrev Instant := Int

/-- A span of time in nanoseconds. -/
abbrev Delay := Nat

namespace Delay

/-- The nanoseconds in a second. -/
def second : Delay := 1000000000

/-- The delay of a number of seconds and nanoseconds. -/
def of (seconds nanos : Nat) : Delay := seconds * second + nanos

/-- The delay that stands in for one whose end cannot be represented: thirty years of 365 days. -/
def standIn : Delay := of (86400 * 365 * 30) 0

end Delay

namespace Instant

/-- The last moment that can be represented: the last nanosecond of the last second, and seconds
are signed words of 64 bits. -/
def latest : Instant := 9223372036854775807 * 1000000000 + 999999999

/-- The moment a delay later, if it can be represented. -/
def after? (now : Instant) (delay : Delay) : Option Instant :=
  let later := now + delay
  if later ≤ latest then some later else none

/-- The moment at which a delay that starts now is over. Where that cannot be represented the clock
is read again, and the delay ends thirty years from then instead; if not even this moment can be
represented, there is none. -/
def deadline? (now again : Instant) (delay : Delay) : Option Instant :=
  (after? now delay).or (after? again Delay.standIn)

/-- A delay can be added exactly when the sum can be represented. -/
theorem after?_eq_some_iff {now : Instant} {delay : Delay} {later : Instant} :
    after? now delay = some later ↔ later = now + delay ∧ later ≤ latest := by
  simp only [after?, Option.ite_none_right_eq_some, Option.some.injEq]
  constructor
  · rintro ⟨h, rfl⟩
    exact ⟨rfl, h⟩
  · rintro ⟨rfl, h⟩
    exact ⟨h, rfl⟩

end Instant

end EventLoop
