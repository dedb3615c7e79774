/-
IEEE-754 double precision numbers, held as their 64 bits and computed with exactly: a finite number is m * 2^e for
natural m, a decimal is rounded once from its exact ratio, and its text is the shortest decimal that rounds back.
-/

namespace ReplicaKV

structure Binary64 where
  bits : UInt64
deriving DecidableEq, Repr

/-- num / den to the nearest integer, a half going to the even neighbour -/
def roundDiv (num den : Nat) : Nat :=
  let q := num / den
  let r := num % den
  if den < 2 * r || (2 * r = den && q % 2 = 1) then q + 1 else q

/-- num / den times base^e, as a fraction -/
def scaleBy (base : Nat) (e : Int) (num den : Nat) : Nat × Nat :=
  if 0 ≤ e then (num * Nat.pow base e.toNat, den) else (num, den * Nat.pow base (-e).toNat)

namespace Binary64

/-- 2^63, the bit of the sign -/
def signBit : Nat := 0x8000000000000000

/-- 2^52, the bit above the fraction -/
def hiddenBit : Nat := 0x10000000000000

/-- the bits of infinity without the sign -/
def infinityBits : Nat := 2047 * hiddenBit

/-- the absolute value of a number -/
inductive Magnitude where
  | nan
  | infinite
  /-- m * 2^e -/
  | finite (m : Nat) (e : Int)
deriving DecidableEq, Repr

def negative (x : Binary64) : Bool := signBit ≤ x.bits.toNat

def magnitude (x : Binary64) : Magnitude :=
  let field : Nat := x.bits.toNat / hiddenBit % 2048
  let fraction : Nat := x.bits.toNat % hiddenBit
  if field = 2047 then if fraction = 0 then .infinite else .nan
  else if field = 0 then .finite fraction (-1074)
  else .finite (hiddenBit + fraction) ((field : Int) - 1075)

/-- the number of given sign whose other bits are n, or infinity if n is past the largest finite number -/
def ofParts (negative : Bool) (n : Nat) : Binary64 :=
  let n := if infinityBits ≤ n then infinityBits else n
  ⟨UInt64.ofNat (if negative then signBit + n else n)⟩

def infinity (negative : Bool) : Binary64 := ofParts negative infinityBits

def nan (negative : Bool) : Binary64 := ⟨if negative then 0xfff8000000000000 else 0x7ff8000000000000⟩

/-- the number nearest to num / den, a tie going to the even significand -/
def ofRatio (negative : Bool) (num den : Nat) : Binary64 :=
  if num = 0 then ofParts negative 0
  else
    let e : Int := (num.log2 : Int) - den.log2 - 52
    let (n, d) := scaleBy 2 (-e) num den
    let e := if n < hiddenBit * d then e - 1 else e
    let e := if e < -1074 then -1074 else e
    let (n, d) := scaleBy 2 (-e) num den
    ofParts negative ((e + 1074).toNat * hiddenBit + roundDiv n d)

/-- the number nearest to digits * 10^exponent. Exponents far outside the range are settled by their size alone. -/
def ofDecimal (negative : Bool) (digits : Nat) (exponent : Int) : Binary64 :=
  let size : Int := exponent + (digits.log2 : Int) * 30103 / 100000
  if digits = 0 || size < -400 then ofParts negative 0
  else if 400 < size then infinity negative
  else
    let (n, d) := scaleBy 10 exponent digits 1
    ofRatio negative n d

def ofInt (n : Int) : Binary64 := ofRatio (n < 0) n.natAbs 1

/-! ## Shortest text -/

/-- the coarsest decimal grid at or below 10^p with a point that rounds to m * 2^e, and its point nearest to it (a
tie goes up): digits and exponent. Bounds of the rounding interval count if m is even; below a power of two the
interval is half as wide. -/
def shortestFrom (m : Nat) (e : Int) : (fuel : Nat) → (p : Int) → Nat × Int
  | 0, p => (0, p)
  | fuel + 1, p =>
    let lowGap := if m = hiddenBit && -1074 < e then 1 else 2
    let (a, b) := scaleBy 2 (e - 2) 1 1
    let (b, a) := scaleBy 10 p b a
    let value := 4 * m * a
    let c := value / b
    let low := (4 * m - lowGap) * a
    let high := (4 * m + 2) * a
    let downHit := if m % 2 = 0 then low ≤ c * b else low < c * b
    let upHit := if m % 2 = 0 then (c + 1) * b ≤ high else (c + 1) * b < high
    if downHit && upHit then if b ≤ 2 * (value - c * b) then (c + 1, p) else (c, p)
    else if downHit then (c, p)
    else if upHit then (c + 1, p)
    else shortestFrom m e fuel (p - 1)

/-- digits * 10^p written out without an exponent -/
def positional (digits : Nat) (p : Int) : String :=
  let text := toString digits
  if 0 ≤ p then text ++ String.ofList (List.replicate p.toNat '0')
  else
    let places := (-p).toNat
    let cs := List.replicate (places + 1 - text.length) '0' ++ text.toList
    String.ofList (cs.take (cs.length - places) ++ '.' :: cs.drop (cs.length - places))

/-- the shortest decimal that reads back as x, never with an exponent and without a fraction where it has none -/
def text (x : Binary64) : String :=
  match x.magnitude with
  | .nan => "NaN"
  | .infinite => if x.negative then "-inf" else "inf"
  | .finite m e =>
    let body := if m = 0 then "0" else
      let (digits, p) := shortestFrom m e 700 309
      positional digits p
    if x.negative then "-" ++ body else body

end Binary64

end ReplicaKV
