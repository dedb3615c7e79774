/-
What a client refuses to send: keys, values, batches, limits and frames that are too large, and empty names. Arguments
are checked in the order in which they are given, and before anything else happens.
-/
import ReplicaKV.Request.Codec

namespace ReplicaKV

/-- the longest key, and the longest prefix or bound of a range -/
def keyLimit : Nat := 64 * 1024

/-- the longest value, and the longest argument of a user function -/
def valueLimit : Nat := 8 * 1024 * 1024

/-- the most keys of a multi-get, and the most updates of a sequence -/
def batchLimit : Nat := 10000

/-- what is wrong with the arguments of a call -/
inductive Misuse where
  | keyTooLong (size : Nat)
  | valueTooLong (size : Nat)
  | limitTooLarge (limit : UInt32)
  | batchTooLarge (size : Nat)
  | frameTooLarge (op : Opcode) (size : Nat)
  | emptyClientId
  | emptyFunctionName
deriving DecidableEq

namespace Misuse

def message : Misuse → String
  | keyTooLong n => s!"key of {n} bytes exceeds {keyLimit} bytes"
  | valueTooLong n => s!"value of {n} bytes exceeds {valueLimit} bytes"
  | limitTooLarge n => s!"max_elements {n.toNat} exceeds {limitMax.toNat}"
  | batchTooLarge n => s!"batch of {n} exceeds {batchLimit} entries"
  | frameTooLarge op n => s!"{op.name} request of {n} bytes exceeds frame limit"
  | emptyClientId => "client id is empty"
  | emptyFunctionName => "user function name is empty"

/-- m, if the condition holds -/
def when (m : Misuse) (c : Bool) : Option Misuse := if c then some m else none

def ofKey (k : Bytes) : Option Misuse := (keyTooLong k.size).when (keyLimit < k.size)

def ofValue (v : Bytes) : Option Misuse := (valueTooLong v.size).when (valueLimit < v.size)

def ofLimit : Option UInt32 → Option Misuse
  | none => none
  | some n => (limitTooLarge n).when (limitMax < n)

def ofBatch (n : Nat) : Option Misuse := (batchTooLarge n).when (batchLimit < n)

def ofRange (r : KeyRange) : Option Misuse := r.first.bind ofKey <|> r.last.bind ofKey <|> ofLimit r.limit

def ofUpdate (u : Update) : Option Misuse := ofKey u.key <|> u.value?.bind ofValue

end Misuse

open Misuse

/-- the first argument of a query that is not allowed -/
def Query.misuse : Query → Option Misuse
  | .keyExists k | .get k | .assertExists k => ofKey k
  | .multiGet ks => ofBatch ks.length <|> ks.findSome? ofKey
  | .assert k v => ofKey k <|> v.bind ofValue
  | .range r | .rangeEntries r | .revRangeEntries r => ofRange r
  | .keysWithPrefix p limit => ofKey p <|> ofLimit limit

/-- the first argument of a command that is not allowed -/
def Command.misuse : Command → Option Misuse
  | .ping clientId _ => emptyClientId.when clientId.isEmpty
  | .set k v | .confirm k v => ofKey k <|> ofValue v
  | .delete k => ofKey k
  | .testAndSet k expected wanted => ofKey k <|> expected.bind ofValue <|> wanted.bind ofValue
  | .sequence us _ => ofBatch us.length <|> us.findSome? ofUpdate
  | .userFunction name argument => emptyFunctionName.when name.isEmpty <|> argument.bind ofValue
  | .getKeyCount | .expectProgressPossible | .statistics => none

/-- the frame of a request, unless it is too large -/
def Request.encodeChecked (r : Request) : Except Misuse Bytes :=
  let frame := r.encode
  if Frame.sizeLimit < frame.size then .error (.frameTooLarge r.opcode frame.size) else .ok frame

end ReplicaKV
