/-
The frame that opens a connection: the magic number, the protocol version and the id of the cluster the client means to
talk to.
-/
import ReplicaKV.Opcode

namespace ReplicaKV.Prologue

def version : UInt32 := 1

def encode (clusterId : String) : Bytes :=
  ByteArray.empty |> Frame.putU32 magic |> Frame.putU32 version |> Frame.putText clusterId |> Frame.finish

/-- the cluster id that a prologue names -/
def decode : Read String := do
  let m ← Frame.getU32
  if m ≠ magic then throw (.invalid "prologue without magic")
  let v ← Frame.getU32
  if v ≠ version then throw (.invalid s!"unsupported protocol version {v.toNat}")
  let clusterId ← Frame.getText
  Frame.close
  return clusterId

end ReplicaKV.Prologue
