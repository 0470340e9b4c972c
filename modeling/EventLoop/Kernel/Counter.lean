import EventLoop.OsError

/-!
The counter that wakes a waiting driver. Others add to it, the driver reads it back to zero; the
driver waits only while it is zero.

* `Counter.wake` adds one; a counter that is full stays as it is and still counts as woken.
* `Counter.drain` takes the counter back to zero.
-/

namespace EventLoop

/-- A wakeup counter; one that is not writable refuses every wake. -/
structure Counter where
  value : Nat
  writable : Bool
deriving DecidableEq, Inhabited

namespace Counter

/-- The largest value that a counter holds: a word of 64 bits that is not the largest. -/
def full : Nat := 18446744073709551614

/-- A fresh counter. -/
def fresh : Counter := ⟨0, true⟩

/-- A counter that starts at a value. A value that no counter holds is refused, and the counter
stays at zero. -/
def startingAt (value : Nat) : Counter := if value ≤ full then ⟨value, true⟩ else fresh

/-- A file that can only be read, in the place of a counter. -/
def readOnly : Counter := ⟨0, false⟩

/-- Adding one to a counter fails when the counter would grow past its limit. -/
def increment (c : Counter) : Except OsError Counter :=
  if !c.writable then .error .badDescriptor
  else if c.value < full then .ok { c with value := c.value + 1 }
  else .error .wouldBlock

/-- Waking adds one. A full counter is awake already, so its refusal is no failure. -/
def wake (c : Counter) : Except OsError Counter :=
  match c.increment with
  | .error e => if e = .wouldBlock then .ok c else .error e
  | .ok next => .ok next

/-- Draining takes the counter back to zero. -/
def drain (c : Counter) : Counter := { c with value := 0 }

/-- Reads the counter back to zero and tells its value, unless that is zero already. -/
def take? (c : Counter) : Counter × Option Nat :=
  if c.value = 0 then (c, none) else (c.drain, some c.value)

/-- A counter is raised when it was woken since it was drained. -/
def isRaised (c : Counter) : Bool := c.value != 0

/-- A counter that was woken is raised. -/
theorem isRaised_of_wake {c d : Counter} (h : c.wake = .ok d) : d.isRaised = true := by
  unfold wake increment at h
  by_cases hw : c.writable = true
  · by_cases hf : c.value < full
    · simp only [hw, hf] at h
      cases h
      simp [isRaised]
    · simp only [hw, hf] at h
      cases h
      have : 0 < full := by decide
      simp only [isRaised, bne_iff_ne]
      omega
  · simp only [hw] at h
    cases h

@[simp] theorem isRaised_drain (c : Counter) : c.drain.isRaised = false := rfl

end Counter

end EventLoop
