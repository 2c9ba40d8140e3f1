/-!
# Time

Scheduler time counts whole milliseconds on a monotonic source and fits in 64 bits: a sum that would not fit stops
at `Time.limit`.  A `Duration` is exact to the nanosecond; it enters scheduler time through `Duration.millis`, which
drops the part below a millisecond and saturates as well.
-/

namespace TaskScheduling

namespace Time

/-- The largest representable time in milliseconds. -/
def limit : Nat := 18446744073709551615

/-- The time `step` milliseconds after `t`, at most `limit`. -/
def plus (t step : Nat) : Nat := min (t + step) limit

theorem plus_le_limit (t step : Nat) : plus t step ≤ limit := Nat.min_le_right _ _

theorem le_plus {t : Nat} (step : Nat) (h : t ≤ limit) : t ≤ plus t step := by
  unfold plus; omega

theorem plus_zero {t : Nat} (h : t ≤ limit) : plus t 0 = t := by
  unfold plus; omega

theorem plus_plus (t a b : Nat) : plus (plus t a) b = plus t (a + b) := by
  unfold plus; omega

theorem plus_mono {s t : Nat} (step : Nat) (h : s ≤ t) : plus s step ≤ plus t step := by
  unfold plus; omega

end Time

/-- A length of time: whole seconds and the nanoseconds of the last, unfinished second. -/
structure Duration where
  seconds : Nat
  nanos : Nat
  nanos_lt : nanos < 1000000000 := by decide
  deriving DecidableEq

namespace Duration

def zero : Duration := ⟨0, 0, by decide⟩

instance : Inhabited Duration := ⟨zero⟩

def ofMillis (ms : Nat) : Duration := ⟨ms / 1000, ms % 1000 * 1000000, by omega⟩

/-- The duration of `seconds` and `nanos` together; full seconds among the nanoseconds count as seconds. -/
def ofParts (seconds nanos : Nat) : Duration := ⟨seconds + nanos / 1000000000, nanos % 1000000000, by omega⟩

def isZero (d : Duration) : Bool := d.seconds == 0 && d.nanos == 0

/-- Whole milliseconds, at most `Time.limit`. -/
def millis (d : Duration) : Nat := min (d.seconds * 1000 + d.nanos / 1000000) Time.limit

/-- How long the machine's clock has been counting already, in seconds; no more than this is assumed about it. -/
def uptime : Nat := 86400

/-- Whether the moment that lies this far ahead can be told: the machine's clock counts up to 2 ^ 63 seconds. -/
def isReachable (d : Duration) : Bool := d.seconds + uptime < 9223372036854775808

theorem millis_le_limit (d : Duration) : d.millis ≤ Time.limit := Nat.min_le_right _ _

theorem millis_ofMillis {ms : Nat} (h : ms ≤ Time.limit) : (ofMillis ms).millis = ms := by
  simp only [millis, ofMillis, Time.limit] at *; omega

/-- The decimal digits of `n`, filled up with zeros on the left to `width` digits. -/
private def padded (width n : Nat) : List Char :=
  let digits := (toString n).toList
  List.replicate (width - digits.length) '0' ++ digits

/-- A whole number with a fraction of `width` digits, without the zeros at its end and without an empty fraction. -/
private def withFraction (whole fraction width : Nat) : String :=
  let digits := ((padded width fraction).reverse.dropWhile (· == '0')).reverse
  toString whole ++ if digits.isEmpty then "" else "." ++ String.ofList digits

/-- The duration in the largest unit of which it holds at least one. -/
def render (d : Duration) : String :=
  if d.seconds > 0 then withFraction d.seconds d.nanos 9 ++ "s"
  else if d.nanos ≥ 1000000 then withFraction (d.nanos / 1000000) (d.nanos % 1000000) 6 ++ "ms"
  else if d.nanos ≥ 1000 then withFraction (d.nanos / 1000) (d.nanos % 1000) 3 ++ "µs"
  else toString d.nanos ++ "ns"

end Duration

end TaskScheduling
