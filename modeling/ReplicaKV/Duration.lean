/-
Spans of time in whole nanoseconds. A span is at most 2^64 - 1 seconds and 999999999 nanoseconds; sums are checked
against that bound and multiples stop at it.
-/
import ReplicaKV.Binary64

namespace ReplicaKV

structure Duration where
  nanos : Nat
deriving DecidableEq, Repr, Inhabited

/-- nanoseconds in a second -/
def billion : Nat := 1000000000

namespace Duration

def zero : Duration := ⟨0⟩

def ofSeconds (n : Nat) : Duration := ⟨n * billion⟩

def ofMillis (n : Nat) : Duration := ⟨n * 1000000⟩

/-- the longest span -/
def max : Duration := ⟨UInt64.size * billion - 1⟩

def seconds (d : Duration) : Nat := d.nanos / billion

def subsecond (d : Duration) : Nat := d.nanos % billion

instance : Add Duration := ⟨fun a b => ⟨a.nanos + b.nanos⟩⟩

instance : LT Duration := ⟨fun a b => a.nanos < b.nanos⟩

instance (a b : Duration) : Decidable (a < b) := inferInstanceAs (Decidable (a.nanos < b.nanos))

/-- the sum, if it is a span -/
def add? (a b : Duration) : Option Duration := if max < a + b then none else some (a + b)

/-- n times as long, stopping at the longest span -/
def times (d : Duration) (n : Nat) : Duration := if max < ⟨d.nanos * n⟩ then max else ⟨d.nanos * n⟩

/-- a number of seconds to the nearest nanosecond, ties to even. Negative numbers, NaN and numbers from 2^64 on are
not spans; -0 is the zero span. -/
def ofBinary64? (x : Binary64) : Option Duration :=
  match x.magnitude with
  | .finite m e =>
    let (n, d) := scaleBy 2 e m 1
    if m ≠ 0 && x.negative || UInt64.size * d ≤ n then none else some ⟨roundDiv (n * billion) d⟩
  | _ => none

/-- seconds with a fraction of up to nine places, without its closing zeros -/
def text (d : Duration) : String :=
  let fraction := toString (billion + d.subsecond) |>.toList |>.drop 1
  let places := (fraction.reverse.dropWhile (· = '0')).reverse
  toString d.seconds ++ (if places.isEmpty then "" else "." ++ String.ofList places) ++ "s"

end Duration

end ReplicaKV
