/-
Replies: a status word, then the payload of a success or the message of a refusal, then the checksum. The form of the
payload is not on the wire; it follows from the request.

- `Reply.ok` and `Reply.refusal` build the two kinds of frame.
- `Reply.decode` reads either, for a payload of a given form.
-/
import ReplicaKV.Request.Codec
import ReplicaKV.Status

namespace ReplicaKV

open ReplicaKV.Frame

/-- a status other than success, with its message -/
structure Refusal where
  status : Status
  message : String
deriving DecidableEq

def Refusal.text (r : Refusal) : String := s!"{r.status.name}: {r.message}"

def Version.put (v : Version) (w : Bytes) : Bytes :=
  w |> putI32 v.major |> putI32 v.minor |> putI32 v.patch |> putText v.info

def Version.read : Read Version := do
  let major ← getI32
  let minor ← getI32
  let patch ← getI32
  let info ← getText
  return ⟨major, minor, patch, info⟩

def putPair {α β : Type} (a : α → Bytes → Bytes) (b : β → Bytes → Bytes) (p : α × β) (w : Bytes) : Bytes :=
  w |> a p.1 |> b p.2

def getPair {α β : Type} (a : Read α) (b : Read β) : Read (α × β) := do
  let x ← a
  let y ← b
  return (x, y)

def Statistics.put (s : Statistics) (w : Bytes) : Bytes :=
  w |> putF64 s.start |> putF64 s.last |> putU64 s.sets |> putU64 s.gets |> putU64 s.deletes |> putU64 s.multiGets
    |> putU64 s.sequences |> putU64 s.entries |> putList (putPair putText putU64) s.applied.entries

/-- of two counts for one node, the later one holds -/
def Statistics.read : Read Statistics := do
  let start ← getF64
  let last ← getF64
  let sets ← getU64
  let gets ← getU64
  let deletes ← getU64
  let multiGets ← getU64
  let sequences ← getU64
  let entries ← getU64
  let applied ← getList (getPair getText getU64)
  return ⟨start, last, sets, gets, deletes, multiGets, sequences, entries, .ofList applied⟩

namespace Shape

/-- write a payload -/
def put : (s : Shape) → s.Value → Bytes → Bytes
  | unit, _, w => w
  | flag, v, w => putBool v w
  | count, v, w => putU64 v w
  | bytes, v, w => putBytes v w
  | text, v, w => putText v w
  | optBytes, v, w => putOption putBytes v w
  | optText, v, w => putOption putText v w
  | bytesList, v, w => putList putBytes v w
  | pairs, v, w => putList (putPair putBytes putBytes) v w
  | version, v, w => v.put w
  | statistics, v, w => v.put w

/-- read a payload -/
def read : (s : Shape) → Read s.Value
  | unit => return ()
  | flag => getBool
  | count => getU64
  | bytes => getBytes
  | text => getText
  | optBytes => getOption getBytes
  | optText => getOption getText
  | bytesList => getList getBytes
  | pairs => getList (getPair getBytes getBytes)
  | version => Version.read
  | statistics => Statistics.read

end Shape

namespace Reply

/-- the frame of a success whose payload is written by `payload` -/
def success (payload : Bytes → Bytes) : Bytes :=
  ByteArray.empty |> putU32 Status.success.code |> payload |> finish

/-- the frame of a success with a payload of form s -/
def ok (s : Shape) (v : s.Value) : Bytes := success (s.put v)

/-- the frame of a refusal -/
def refusal (r : Refusal) : Bytes :=
  ByteArray.empty |> putU32 r.status.code |> putText r.message |> finish

/-- the frame of an outcome -/
def encode (s : Shape) : Except Refusal s.Value → Bytes
  | .ok v => ok s v
  | .error r => refusal r

/-- what a reply says, when its payload has the form s -/
def decode (s : Shape) : Read (Except Refusal s.Value) := do
  let status ← getU32
  if status = Status.success.code then
    let v ← s.read
    close
    return .ok v
  else
    let message ← getText
    close
    return .error ⟨Status.ofCode status, message⟩

end Reply

/-! ## Decoders -/

/-- why there is no value: the node refused, or what stands on the channel cannot be read -/
inductive ReplyError where
  | server (r : Refusal)
  | io (e : Fault)
deriving DecidableEq

/-- a decoder reads as much of a channel as it likes: what it makes of it, and what is left -/
def Decoder (α : Type) : Type := Stream → Except ReplyError α × Stream

/-- the decoder of replies whose payload has the form s -/
def Reply.decoder (s : Shape) : Decoder s.Value := fun ch =>
  match Reply.decode s (Frame.start ch) with
  | .ok (.ok v) r => (.ok v, r.stream)
  | .ok (.error refusal) r => (.error (.server refusal), r.stream)
  | .error e r => (.error (.io e), r.stream)

end ReplicaKV
