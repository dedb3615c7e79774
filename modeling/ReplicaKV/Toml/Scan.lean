/-
Scanners: each takes a value off the front of the characters that are left, or fails and leaves them as they were.
Repetition is greedy and never fails; it stops where its scanner does.
-/

namespace ReplicaKV.Toml

abbrev Scan (α : Type) := StateT (List Char) Option α

namespace Scan

/-- one character with the property -/
def char (p : Char → Bool) : Scan Char := fun
  | c :: r => if p c then some (c, r) else none
  | [] => none

/-- exactly this text -/
def exactly (text : String) : Scan Unit := fun cs =>
  let wanted := text.toList
  if wanted.isPrefixOf cs then some ((), cs.drop wanted.length) else none

/-- the longest run of characters with the property -/
def run (p : Char → Bool) : Scan (List Char) := fun cs => some (cs.span p)

/-- nothing, where no characters are left -/
def atEnd : Scan Unit := fun
  | [] => some ((), [])
  | _ => none

/-- further values, after those in acc (last first), at most one for each character of `rounds` -/
def manyAfter {α : Type} (item : Scan α) (acc : List α) : (rounds : List Char) → Scan (List α)
  | [], cs => some (acc.reverse, cs)
  | _ :: rounds, cs =>
    match item cs with
    | none => some (acc.reverse, cs)
    | some (x, r) => manyAfter item (x :: acc) rounds r

/-- as many values as there are, each of which takes at least one character -/
def many {α : Type} (item : Scan α) : Scan (List α) := fun cs => manyAfter item [] cs cs

/-- one value or more, with a separator between each two -/
def separated {α : Type} (item : Scan α) (separator : Scan Unit) : Scan (List α) := do
  let x ← item
  let xs ← many (separator *> item)
  return x :: xs

end Scan

open Scan

/-- a space or a tab -/
def isBlank (c : Char) : Bool := c = ' ' || c = '\t'

/-- a character that may stand for itself in comments and quotes: no control character but the tab -/
def isPlain (c : Char) : Bool := c = '\t' || ' ' ≤ c && c ≠ '\x7f'

def blanks : Scan Unit := do
  let _ ← run isBlank

def newline : Scan Unit := exactly "\n" <|> exactly "\r\n"

def comment : Scan Unit := do
  exactly "#"
  let _ ← run isPlain

end ReplicaKV.Toml
