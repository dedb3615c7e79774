/-
Reading a frame from a stream of bytes. A reader counts the bytes of the frame and keeps their checksum; the footer is
read last and compared with it.

A stream is what a channel has delivered and nobody has read, together with the fault that a read meets once that is
used up. A read that needs more than is there uses up the stream. A frame that would exceed the size limit is refused
before its bytes are looked at.
-/
import ReplicaKV.Fault
import ReplicaKV.Frame.Writer
import ReplicaKV.Utf8

namespace ReplicaKV

/-- bytes delivered and not yet read (those of data from pos on), and what lies behind them -/
structure Stream where
  data : Bytes
  pos : Nat
  ending : Fault

namespace Stream

/-- the bytes of a string, and then nothing -/
def ofBytes (data : Bytes) : Stream := ⟨data, 0, .endOfInput⟩

/-- a channel on which nothing has been delivered -/
def empty : Stream := ofBytes ByteArray.empty

def left (s : Stream) : Nat := s.data.size - s.pos

/-- the bytes not yet read -/
def unread (s : Stream) : Bytes := s.data.extract s.pos s.data.size

/-- deliver more bytes, and what lies behind them from now on -/
def deliver (s : Stream) (bytes : Bytes) (ending : Fault) : Stream :=
  if s.left = 0 then ⟨bytes, 0, ending⟩ else ⟨s.unread ++ bytes, 0, ending⟩

/-- the next n bytes, or as many as there are -/
def take (s : Stream) (n : Nat) : Bytes × Stream :=
  (s.data.extract s.pos (s.pos + n), { s with pos := min (s.pos + n) s.data.size })

end Stream

/-- a frame being read: the stream after its first `consumed` bytes, and the checksum of these -/
structure Reader where
  stream : Stream
  consumed : Nat
  crc : UInt32

/-- an action that reads part of a frame -/
abbrev Read (α : Type) := EStateM Fault Reader α

namespace Frame

/-- a reader at the start of a frame -/
def start (s : Stream) : Reader := ⟨s, 0, 0⟩

/-- the next n bytes of a stream, all of them or the stream's fault -/
def takeExactly (n : Nat) (r : Reader) : EStateM.Result Fault Reader Bytes :=
  let (bytes, rest) := r.stream.take n
  let r := { r with stream := rest }
  if bytes.size < n then .error r.stream.ending r else .ok bytes r

/-- the next n bytes of the frame -/
def getRaw (n : Nat) : Read Bytes := fun r =>
  if sizeLimit < r.consumed + n then .error (.invalid s!"frame exceeds maximum size {sizeLimit}") r
  else
    match takeExactly n r with
    | .ok bytes r => .ok bytes { r with consumed := r.consumed + n, crc := Checksum.extend r.crc bytes }
    | .error e r => .error e r

/-- the number whose bytes, least significant first, are given -/
def littleEndian : List UInt8 → Nat
  | [] => 0
  | b :: r => b.toNat + 256 * littleEndian r

def getU32 : Read UInt32 := do
  let b ← getRaw 4
  return UInt32.ofNat (littleEndian b.list)

def getI32 : Read Int32 := do
  let v ← getU32
  return v.toInt32

def getU64 : Read UInt64 := do
  let b ← getRaw 8
  return UInt64.ofNat (littleEndian b.list)

def getF64 : Read Binary64 := do
  let v ← getU64
  return ⟨v⟩

def getBool : Read Bool := do
  let b ← getRaw 1
  match littleEndian b.list with
  | 0 => return false
  | 1 => return true
  | n => throw (.invalid s!"invalid bool byte {n}")

def getBytes : Read Bytes := do
  let n ← getU32
  if sizeLimit < n.toNat then throw (.invalid s!"byte string length {n.toNat} too large")
  getRaw n.toNat

def getText : Read String := do
  let b ← getBytes
  match Utf8.decode b with
  | .ok s => return s
  | .error d => throw (.invalid d.message)

def getOption {α : Type} (get : Read α) : Read (Option α) := do
  if ← getBool then
    let v ← get
    return some v
  else return none

/-- n items more, after those in acc (last first) -/
def getItems {α : Type} (get : Read α) : (n : Nat) → List α → Read (List α)
  | 0, acc => return acc.reverse
  | n + 1, acc => do
    let v ← get
    getItems get n (v :: acc)

def getList {α : Type} (get : Read α) : Read (List α) := do
  let n ← getU32
  getItems get n.toNat []

/-- n hexadecimal digits of v, lower case -/
def hexDigits (n v : Nat) : String :=
  String.ofList ((List.range n).reverse.map fun i => Nat.digitChar (v >>> (4 * i) % 16))

/-- a 32-bit word as 0x and eight hexadecimal digits -/
def hexWord (v : UInt32) : String := "0x" ++ hexDigits 8 v.toNat

/-- read the footer and compare it with the checksum of what was read -/
def close : Read Unit := fun r =>
  match takeExactly footerSize r with
  | .error e r => .error e r
  | .ok bytes r =>
    let found := UInt32.ofNat (littleEndian bytes.list)
    if found = r.crc then .ok () r
    else .error (.invalid s!"checksum mismatch: expected {hexWord r.crc}, found {hexWord found}") r

end Frame

end ReplicaKV
