/-
What a transport reports when connecting, sending or reading fails: a kind and a text. Only two kinds steer the client:
bytes that do not form a valid frame, and bytes that end too early.
-/

namespace ReplicaKV

inductive FaultKind where
  | invalidData
  | unexpectedEof
  | notFound
  | notConnected
  | connectionRefused
  | connectionReset
  | brokenPipe
  /-- any other kind, by name -/
  | other (name : String)
deriving DecidableEq, Repr

structure Fault where
  kind : FaultKind
  text : String
deriving DecidableEq, Repr

/-- bytes that do not form a valid frame -/
def Fault.invalid (text : String) : Fault := ⟨.invalidData, text⟩

/-- the bytes ended before the value did -/
def Fault.endOfInput : Fault := ⟨.unexpectedEof, "failed to fill whole buffer"⟩

end ReplicaKV
