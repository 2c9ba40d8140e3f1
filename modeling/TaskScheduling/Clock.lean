import TaskScheduling.Fault
import TaskScheduling.Text.Inspect
import TaskScheduling.Time

/-!
# Clocks

A clock remembers the last time that it read from its source.  While it is held, by one or more holders, it goes on
showing that time, so that everything done meanwhile sees one and the same moment.

* `now_of_held`: a held clock stands still.
* `cached_le_cached_accurate`: what a clock remembers never decreases.
-/

namespace TaskScheduling

inductive TimeSource where
  /-- Moves only when it is told to. -/
  | manual (reading : Nat)
  /-- Moves by itself, and never back. -/
  | monotonic (reading : Nat)
  deriving DecidableEq, Repr

namespace TimeSource

def reading : TimeSource → Nat
  | manual t => t
  | monotonic t => t

def withReading (s : TimeSource) (t : Nat) : TimeSource :=
  match s with
  | manual _ => manual t
  | monotonic _ => monotonic t

def inspect : TimeSource → String
  | manual t => Inspect.record "ManualTimeSource" [("now", toString t)]
  | monotonic _ => "MonotonicSource"

/-- Moves the source forward.  A step past `Time.limit` wraps around to 0, which is noticed only afterwards. -/
def advance (s : TimeSource) (d : Duration) : TimeSource × Except Fault Nat :=
  let t := s.reading + d.millis
  if t ≤ Time.limit then (s.withReading t, .ok t)
  else (s.withReading (t % (Time.limit + 1)), .error .timeOverflow)

/-- Jumps to a time, unless it has passed. -/
def jump (s : TimeSource) (t : Nat) : TimeSource := s.withReading (max s.reading t)

@[simp] theorem reading_withReading (s : TimeSource) (t : Nat) : (s.withReading t).reading = t := by cases s <;> rfl

end TimeSource

structure Clock where
  source : TimeSource
  cached : Nat
  holds : Nat
  deriving DecidableEq, Repr

namespace Clock

def start (source : TimeSource) : Clock := ⟨source, source.reading, 0⟩

instance : Inhabited Clock := ⟨start (.manual 0)⟩

def isHeld (c : Clock) : Bool := c.holds != 0

/-- Reads the source even if the clock is held; only a clock that is not held remembers what it read. -/
def accurate (c : Clock) : Nat × Clock :=
  let t := max c.cached c.source.reading
  (t, if c.isHeld then c else { c with cached := t })

/-- The remembered time of a held clock, and the refreshed time of any other. -/
def now (c : Clock) : Nat × Clock := if c.isHeld then (c.cached, c) else c.accurate

/-- One more holder; the first one refreshes the clock. -/
def hold (c : Clock) : Clock :=
  { c with holds := c.holds + 1, cached := if c.isHeld then c.cached else max c.cached c.source.reading }

/-- One holder less; after the last one the clock is refreshed. -/
def release (c : Clock) : Clock :=
  let c := { c with holds := c.holds - 1 }
  if c.isHeld then c else c.accurate.2

def advance (c : Clock) (d : Duration) : Clock × Except Fault Nat :=
  let (source, result) := c.source.advance d
  ({ c with source := source }, result)

def jump (c : Clock) (t : Nat) : Clock := { c with source := c.source.jump t }

def inspect (c : Clock) : String :=
  Inspect.record "Clock"
    [("source", c.source.inspect), ("last_known", toString c.cached), ("held", Inspect.flag c.isHeld)]

theorem now_of_held {c : Clock} (h : c.isHeld = true) : c.now = (c.cached, c) := by simp [now, h]

theorem cached_le_cached_accurate (c : Clock) : c.cached ≤ c.accurate.2.cached := by
  unfold accurate
  split
  · exact Nat.le_refl _
  · exact Nat.le_max_left _ _

theorem cached_le_cached_now (c : Clock) : c.cached ≤ c.now.2.cached := by
  unfold now
  split
  · exact Nat.le_refl _
  · exact c.cached_le_cached_accurate

theorem now_eq_cached_now (c : Clock) : c.now.1 = c.now.2.cached := by
  unfold now accurate
  split <;> simp [*]

theorem cached_le_now (c : Clock) : c.cached ≤ c.now.1 := c.now_eq_cached_now ▸ c.cached_le_cached_now

theorem cached_le_cached_hold (c : Clock) : c.cached ≤ c.hold.cached := by
  unfold hold
  split
  · exact Nat.le_refl _
  · exact Nat.le_max_left _ _

theorem cached_le_cached_release (c : Clock) : c.cached ≤ c.release.cached := by
  unfold release
  dsimp only
  split
  · exact Nat.le_refl _
  · exact cached_le_cached_accurate { c with holds := c.holds - 1 }

theorem source_now (c : Clock) : c.now.2.source = c.source := by
  unfold now accurate; split <;> simp

theorem holds_now (c : Clock) : c.now.2.holds = c.holds := by
  unfold now accurate; split <;> simp [*]

/-- As long as the source stands still, the clock shows the same time again. -/
theorem now_now (c : Clock) : c.now.2.now.1 = c.now.1 := by
  by_cases h : c.isHeld = true
  · simp only [now, if_pos h]
  · have hread : c.now.2.isHeld = c.isHeld := by rw [isHeld, holds_now, isHeld]
    rw [now, if_neg (hread ▸ h), accurate, source_now]
    simp only [now, if_neg h, accurate]
    omega

@[simp] theorem holds_hold (c : Clock) : c.hold.holds = c.holds + 1 := rfl

theorem source_accurate (c : Clock) : c.accurate.2.source = c.source := by
  unfold accurate
  split <;> rfl

theorem holds_accurate (c : Clock) : c.accurate.2.holds = c.holds := by
  unfold accurate
  split <;> rfl

theorem source_release (c : Clock) : c.release.source = c.source := by
  unfold release
  dsimp only
  split
  · rfl
  · exact source_accurate _

@[simp] theorem holds_release (c : Clock) : c.release.holds = c.holds - 1 := by
  unfold release
  dsimp only
  split
  · rfl
  · exact holds_accurate _

end Clock

end TaskScheduling
