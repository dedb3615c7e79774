/-
A virtual clock: time moves only when it is advanced or slept on, and every sleep is remembered.

- Moments are told only up to `lastMoment`; time may pass beyond it, up to the longest span.
- A clock breaks when time would pass the longest span, or when it is asked for a moment that is not told. It stays
  broken, and a broken clock tells nothing.
-/
import ReplicaKV.Duration

namespace ReplicaKV

structure Clock where
  elapsed : Duration
  /-- every sleep so far, last first -/
  slept : List Duration
  broken : Bool
deriving DecidableEq, Repr

namespace Clock

/-- what stops a clock from telling the time -/
inductive Trouble where
  /-- time would pass the longest span -/
  | spanTooLong
  /-- it is too late for a moment to be told -/
  | momentTooLate
  /-- the clock broke before -/
  | alreadyBroken
deriving DecidableEq, Repr

def Trouble.message : Trouble → String
  | spanTooLong => "overflow when adding durations"
  | momentTooLate => "overflow when adding duration to instant"
  | alreadyBroken => "called `Result::unwrap()` on an `Err` value: PoisonError \x7b .. \x7d"

def start : Clock := ⟨.zero, [], false⟩

/-- every sleep so far, in order -/
def sleeps (c : Clock) : List Duration := c.slept.reverse

/-- can time move forward by d, or would the time elapsed exceed the longest span? -/
def canPass (c : Clock) (d : Duration) : Bool := (c.elapsed.add? d).isSome

/-- move time forward without a sleep -/
def advance (c : Clock) (d : Duration) : Clock :=
  { c with elapsed := c.elapsed + d, broken := c.broken || !c.canPass d }

/-- move time forward by a sleep -/
def sleep (c : Clock) (d : Duration) : Clock := { c.advance d with slept := d :: c.slept }

/-- the latest moment that is told. Moments count seconds below 2^63 from an origin of their own, a day before the
clock was started. -/
def lastMoment : Duration := ⟨(0x8000000000000000 - 86400) * billion - 1⟩

/-- does the clock tell which moment it is? -/
def tellsMoment (c : Clock) : Bool := !c.broken && !decide (lastMoment < c.elapsed)

/-- the clock after it was asked for the moment -/
def asked (c : Clock) : Clock := { c with broken := !c.tellsMoment }

/-- the moment that comes after d, or the latest one that is told -/
def momentAfter (c : Clock) (d : Duration) : Duration :=
  if lastMoment < c.elapsed + d then lastMoment else c.elapsed + d

/-- the time since the start -/
def elapsed? (c : Clock) : Except Trouble Duration :=
  if c.broken then .error .alreadyBroken else .ok c.elapsed

/-- the moment, told as the time since the start -/
def moment? (c : Clock) : Except Trouble Duration :=
  if c.broken then .error .alreadyBroken
  else if lastMoment < c.elapsed then .error .momentTooLate
  else .ok c.elapsed

end Clock

end ReplicaKV
