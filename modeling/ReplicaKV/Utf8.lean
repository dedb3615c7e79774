/-
Text in byte strings. A byte string is read as UTF-8 either strictly, with the place and kind of the first defect, or
leniently, with one replacement character for each maximal stretch of bytes that begins like a character and stops
being one.
-/
import ReplicaKV.Bytes

namespace ReplicaKV.Utf8

/-- what stands at the front of a byte string, with the number of bytes it takes -/
inductive Front where
  | char (c : Char) (width : Nat)
  | invalid (width : Nat)
  /-- the bytes end inside a character -/
  | cut (width : Nat)
deriving Repr, DecidableEq

/-- read n more bytes of a character: the next one between lo and hi, later ones between 0x80 and 0xbf -/
def follow : (n : Nat) → (lo hi : UInt8) → (code width : Nat) → List UInt8 → Front
  | 0, _, _, code, width, _ => .char (Char.ofNat code) width
  | _ + 1, _, _, _, width, [] => .cut width
  | n + 1, lo, hi, code, width, b :: r =>
    if lo ≤ b && b ≤ hi then follow n 0x80 0xbf (code * 64 + (b.toNat - 0x80)) (width + 1) r else .invalid width

/-- the front of b :: r. Second bytes are narrower after 0xe0 and 0xf0 (a shorter form exists), 0xed (surrogates) and
0xf4 (past the last code point). -/
def front (b : UInt8) (r : List UInt8) : Front :=
  if b < 0x80 then .char (Char.ofNat b.toNat) 1
  else if b < 0xc2 then .invalid 1
  else if b < 0xe0 then follow 1 0x80 0xbf (b.toNat - 0xc0) 1 r
  else if b < 0xf0 then
    follow 2 (if b = 0xe0 then 0xa0 else 0x80) (if b = 0xed then 0x9f else 0xbf) (b.toNat - 0xe0) 1 r
  else if b < 0xf5 then
    follow 3 (if b = 0xf0 then 0x90 else 0x80) (if b = 0xf4 then 0x8f else 0xbf) (b.toNat - 0xf0) 1 r
  else .invalid 1

/-- why a byte string is not text -/
inductive Defect where
  | invalid (width : Nat) (start : Nat)
  | incomplete (start : Nat)
deriving Repr, DecidableEq

def Defect.message : Defect → String
  | .invalid width start => s!"invalid utf-8 sequence of {width} bytes from index {start}"
  | .incomplete start => s!"incomplete utf-8 byte sequence from index {start}"

/-- the first defect from index i on, after `skip` bytes that are known to be good -/
def defectFrom : (skip i : Nat) → List UInt8 → Option Defect
  | _, _, [] => none
  | skip + 1, i, _ :: r => defectFrom skip (i + 1) r
  | 0, i, b :: r =>
    match front b r with
    | .char _ width => defectFrom (width - 1) (i + 1) r
    | .invalid width => some (.invalid width i)
    | .cut _ => some (.incomplete i)

def defect (bs : Bytes) : Option Defect := defectFrom 0 0 bs.list

/-- the text that the bytes encode -/
def decode (bs : Bytes) : Except Defect String :=
  match String.fromUTF8? bs with
  | some s => .ok s
  | none => .error ((defect bs).getD (.incomplete 0))

/-- the characters of a lenient reading, after `skip` bytes that are already accounted for; acc holds the characters
before them, last first -/
def lenientFrom (acc : List Char) : (skip : Nat) → List UInt8 → List Char
  | _, [] => acc.reverse
  | skip + 1, _ :: r => lenientFrom acc skip r
  | 0, b :: r =>
    match front b r with
    | .char c width => lenientFrom (c :: acc) (width - 1) r
    | .invalid width | .cut width => lenientFrom ('\uFFFD' :: acc) (width - 1) r

/-- the bytes as text, each defect replaced by U+FFFD -/
def lenient (bs : Bytes) : String := String.ofList (lenientFrom [] 0 bs.list)

end ReplicaKV.Utf8
