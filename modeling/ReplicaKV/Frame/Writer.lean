/-
Writing a frame: little-endian primitives one after the other, then the checksum of everything before it.

    u32, i32        4 bytes
    u64, f64        8 bytes (a float by its bits)
    bool            1 byte, 0 or 1
    bytes, text     u32 length, then the bytes
    option          bool, then the value if present
    list            u32 count, then the items

Every writer appends to the bytes it is given.
-/
import ReplicaKV.Binary64
import ReplicaKV.Checksum

namespace ReplicaKV.Frame

/-- the largest number of bytes of a frame before its footer -/
def sizeLimit : Nat := 64 * 1024 * 1024

/-- the checksum that closes every frame takes four bytes -/
def footerSize : Nat := 4

/-- append the low n bytes of a number, least significant first -/
def putLittleEndian : (n : Nat) → Nat → Bytes → Bytes
  | 0, _, w => w
  | n + 1, v, w => putLittleEndian n (v / 256) (w.push (UInt8.ofNat v))

def putU32 (v : UInt32) (w : Bytes) : Bytes := putLittleEndian 4 v.toNat w

def putI32 (v : Int32) (w : Bytes) : Bytes := putU32 v.toUInt32 w

def putU64 (v : UInt64) (w : Bytes) : Bytes := putLittleEndian 8 v.toNat w

def putF64 (v : Binary64) (w : Bytes) : Bytes := putU64 v.bits w

def putBool (v : Bool) (w : Bytes) : Bytes := w.push (if v then 1 else 0)

/-- append a count of bytes or items; counts are 32 bits wide -/
def putCount (n : Nat) (w : Bytes) : Bytes := putU32 (UInt32.ofNat n) w

def putBytes (v : Bytes) (w : Bytes) : Bytes := putCount v.size w ++ v

def putText (v : String) (w : Bytes) : Bytes := putBytes v.toUTF8 w

def putOption {α : Type} (put : α → Bytes → Bytes) : Option α → Bytes → Bytes
  | none, w => putBool false w
  | some v, w => put v (putBool true w)

def putList {α : Type} (put : α → Bytes → Bytes) (l : List α) (w : Bytes) : Bytes :=
  l.foldl (fun w v => put v w) (putCount l.length w)

/-- close a frame with the checksum of its content -/
def finish (w : Bytes) : Bytes :=
  let crc := Checksum.ofBytes w
  putU32 crc w

end ReplicaKV.Frame
