/-
Numbers in TOML. Integers have 64 bits and a sign, and may be written in four bases; a float has a fraction, an
exponent or both, and is rounded once. Underscores may stand between digits.
-/
import ReplicaKV.Toml.Quoted
import ReplicaKV.Toml.Value

namespace ReplicaKV.Toml

open Scan

/-- one digit, which an underscore may precede -/
def furtherDigit (isDigit : Char → Bool) : Scan Char := char isDigit <|> exactly "_" *> char isDigit

def digits (isDigit : Char → Bool) : Scan (List Char) := do
  let d ← char isDigit
  let ds ← many (furtherDigit isDigit)
  return d :: ds

/-- is there a minus sign? -/
def sign : Scan Bool := (fun _ => true) <$> exactly "-" <|> (fun _ => false) <$> exactly "+" <|> pure false

/-- sign and digits of a decimal integer; a leading zero stands alone -/
def wholePart : Scan (Bool × List Char) := do
  let negative ← sign
  let d ← char Char.isDigit
  let ds ← if d = '0' then pure [] else many (furtherDigit Char.isDigit)
  return (negative, d :: ds)

/-- an integer in another base than ten, marked by two characters -/
def basedInteger (mark : String) (base : Nat) (isDigit : Char → Bool) : Scan Int := do
  exactly mark
  let ds ← digits isDigit
  return ofDigits base ds

def decimalInteger : Scan Int := do
  let (negative, ds) ← wholePart
  let n : Int := ofDigits 10 ds
  return if negative then -n else n

def integer : Scan Int := do
  let n ← basedInteger "0x" 16 isHexDigit <|> basedInteger "0o" 8 (fun c => '0' ≤ c && c ≤ '7')
    <|> basedInteger "0b" 2 (fun c => c = '0' || c = '1') <|> decimalInteger
  if Int64.minValue.toInt ≤ n && n ≤ Int64.maxValue.toInt then return n else failure

/-- the size of an exponent. Once it has reached 65536, which is far outside the range of floats, its further digits do
not count. -/
def exponentSize (ds : List Char) : Nat := ds.foldl (fun n c => if n < 65536 then n * 10 + digitValue c else n) 0

def exponent : Scan Int := do
  exactly "e" <|> exactly "E"
  let negative ← sign
  let ds ← digits Char.isDigit
  let n : Int := exponentSize ds
  return if negative then -n else n

/-- a float that is written with digits. Positive numbers past the range are refused, negative ones are infinite. -/
def decimalFloat : Scan Binary64 := do
  let (negative, whole) ← wholePart
  let fraction ← optional (exactly "." *> digits Char.isDigit)
  let e ← if fraction.isSome then (fun e => e.getD 0) <$> optional exponent else exponent
  let places := fraction.getD []
  let x := Binary64.ofDecimal negative (ofDigits 10 (whole ++ places)) (e - places.length)
  if x = .infinity false then failure else return x

def specialFloat : Scan Binary64 := do
  let negative ← sign
  (fun _ => .infinity negative) <$> exactly "inf" <|> (fun _ => .nan negative) <$> exactly "nan"

def number : Scan Value :=
  .float <$> (decimalFloat <|> specialFloat) <|> .integer <$> integer

end ReplicaKV.Toml
