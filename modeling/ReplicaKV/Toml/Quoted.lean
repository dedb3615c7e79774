/-
Quoted text in TOML. Double quotes know escapes, single quotes do not; three quotes allow line breaks, which count as a
line feed each, and drop the first one.
-/
import ReplicaKV.Toml.Scan

namespace ReplicaKV.Toml

open Scan

/-- the number that one hexadecimal digit stands for -/
def digitValue (c : Char) : Nat :=
  let d := c.toLower.toNat
  if d < 97 then d - 48 else d - 87

/-- the number that digits stand for after those of n -/
def digitsAfter (base n : Nat) (ds : List Char) : Nat := ds.foldl (fun n c => n * base + digitValue c) n

/-- the number that digits stand for, from halves of halves, which keeps the products short -/
def ofHalves (base : Nat) : (halvings : Nat) → List Char → Nat
  | 0, ds => digitsAfter base 0 ds
  | k + 1, ds =>
    let low := ds.drop (ds.length / 2)
    ofHalves base k (ds.take (ds.length / 2)) * Nat.pow base low.length + ofHalves base k low

/-- the number that hexadecimal digits stand for -/
def ofDigits (base : Nat) (ds : List Char) : Nat := ofHalves base (ds.length.log2 - 6) ds

def isHexDigit (c : Char) : Bool := c.isDigit || 'a' ≤ c && c ≤ 'f' || 'A' ≤ c && c ≤ 'F'

/-- the character with a code of n hexadecimal digits -/
def charOfCode (n : Nat) : Scan Char := fun cs =>
  let ds := cs.take n
  let code := ofDigits 16 ds
  if ds.length = n && ds.all isHexDigit && code.isValidChar then some (Char.ofNat code, cs.drop n) else none

/-- a backslash and what it stands for -/
def escape : Scan Char := do
  exactly "\\"
  match ← char fun _ => true with
  | 'b' => return '\x08'
  | 't' => return '\t'
  | 'n' => return '\n'
  | 'f' => return '\x0c'
  | 'r' => return '\r'
  | '"' => return '"'
  | '\\' => return '\\'
  | 'u' => charOfCode 4
  | 'U' => charOfCode 8
  | _ => failure

/-- a backslash at the end of a line, which drops all white space up to the next text -/
def continuation : Scan Unit := do
  exactly "\\"
  blanks
  newline
  let _ ← many ((fun _ => ()) <$> char isBlank <|> newline)

/-- a piece of text in double quotes -/
def piece : Scan Char := char (fun c => isPlain c && c ≠ '"' && c ≠ '\\') <|> escape

/-- a piece of text in single quotes -/
def rawPiece : Scan Char := char fun c => isPlain c && c ≠ '\''

/-- pieces between a quote and the next -/
def between (quote : String) (piece : Scan Char) : Scan String := do
  exactly quote
  let cs ← many piece
  exactly quote
  return String.ofList cs

/-- one or two quotes inside of three -/
def fewQuotes (quote : Char) : Scan (List Char) := fun cs =>
  let (qs, r) := cs.span (· = quote)
  if 1 ≤ qs.length && qs.length ≤ 2 && !r.isEmpty then some (qs, r) else none

/-- the closing three quotes, with up to two before them that belong to the text -/
def closing (quote : Char) : Scan (List Char) := fun cs =>
  let (qs, r) := cs.span (· = quote)
  if 3 ≤ qs.length && qs.length ≤ 5 then some (qs.drop 3, r) else none

/-- pieces between three quotes and the next three -/
def betweenThree (quote : Char) (piece : Scan (List Char)) : Scan String := do
  exactly (String.ofList [quote, quote, quote])
  let _ ← optional newline
  let cs ← many (piece <|> fewQuotes quote <|> (fun _ => ['\n']) <$> newline)
  let qs ← closing quote
  return String.ofList (cs.flatten ++ qs)

/-- quoted text on one line -/
def quotedLine : Scan String := between "\"" piece <|> between "'" rawPiece

def quoted : Scan String :=
  betweenThree '"' ((fun _ => []) <$> continuation <|> (fun c => [c]) <$> piece)
    <|> betweenThree '\'' ((fun c => [c]) <$> rawPiece)
    <|> quotedLine

end ReplicaKV.Toml
