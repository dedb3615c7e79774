/-
Dates and times in TOML. Nothing here needs their value, so they are only recognised: a date of the calendar, a time of
the day with an optional fraction, or both with an optional offset from universal time.
-/
import ReplicaKV.Toml.Quoted

namespace ReplicaKV.Toml

open Scan

/-- a number of n digits between lo and hi -/
def field (n lo hi : Nat) : Scan Nat := fun cs =>
  let ds := cs.take n
  let v := ofDigits 10 ds
  if ds.length = n && ds.all Char.isDigit && lo ≤ v && v ≤ hi then some (v, cs.drop n) else none

def isLeapYear (year : Nat) : Bool := year % 4 = 0 && (year % 100 ≠ 0 || year % 400 = 0)

def daysInMonth (year month : Nat) : Nat :=
  if month = 2 then if isLeapYear year then 29 else 28
  else if month = 4 || month = 6 || month = 9 || month = 11 then 30
  else 31

def date : Scan Unit := do
  let year ← field 4 0 9999
  exactly "-"
  let month ← field 2 1 12
  exactly "-"
  let _ ← field 2 1 (daysInMonth year month)

/-- hours, minutes and seconds, of which a minute may have 61 -/
def timeOfDay : Scan Unit := do
  let _ ← field 2 0 23
  exactly ":"
  let _ ← field 2 0 59
  exactly ":"
  let _ ← field 2 0 60
  let _ ← optional (exactly "." *> char Char.isDigit *> run Char.isDigit)

def offset : Scan Unit :=
  exactly "Z" <|> exactly "z" <|> do
    exactly "+" <|> exactly "-"
    let _ ← field 2 0 23
    exactly ":"
    let _ ← field 2 0 59

def moment : Scan Unit :=
  (do
    date
    let _ ← optional (do
      exactly "T" <|> exactly "t" <|> exactly " "
      timeOfDay
      let _ ← optional offset))
    <|> timeOfDay

end ReplicaKV.Toml
