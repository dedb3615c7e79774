/-
The frames of requests: the opcode word, the arguments, the checksum. Queries carry the dirty flag before their
arguments. A limit is a signed word; a negative one means no limit and is written as -1.

- `Request.encode`: the one frame of a request.
- `Request.decode`: the request of a frame; an opcode decides which arguments are read.
-/
import ReplicaKV.Request

namespace ReplicaKV

open ReplicaKV.Frame

/-- the largest limit that a signed word holds -/
def limitMax : UInt32 := 0x7fffffff

def putLimit (limit : Option UInt32) (w : Bytes) : Bytes :=
  match limit with
  | none => putU32 0xffffffff w
  | some n => putU32 (if limitMax < n then limitMax else n) w

def getLimit : Read (Option UInt32) := do
  let n ← getU32
  return if limitMax < n then none else some n

def KeyRange.put (r : KeyRange) (w : Bytes) : Bytes :=
  w |> putOption putBytes r.first |> putBool r.firstInclusive |> putOption putBytes r.last |> putBool r.lastInclusive
    |> putLimit r.limit

def KeyRange.read : Read KeyRange := do
  let first ← getOption getBytes
  let firstInclusive ← getBool
  let last ← getOption getBytes
  let lastInclusive ← getBool
  let limit ← getLimit
  return ⟨first, firstInclusive, last, lastInclusive, limit⟩

namespace Update

/-- the word in front of an update -/
def tag : Update → UInt32
  | set _ _ => 1
  | delete _ => 2
  | assert _ _ => 8
  | assertExists _ => 15

def put (u : Update) (w : Bytes) : Bytes :=
  let w := putU32 u.tag w
  match u with
  | set k v => w |> putBytes k |> putBytes v
  | delete k => w |> putBytes k
  | assert k v => w |> putBytes k |> putOption putBytes v
  | assertExists k => w |> putBytes k

def read : Read Update := do
  let tag ← getU32
  match tag with
  | 1 =>
    let k ← getBytes
    let v ← getBytes
    return set k v
  | 2 =>
    let k ← getBytes
    return delete k
  | 8 =>
    let k ← getBytes
    let v ← getOption getBytes
    return assert k v
  | 15 =>
    let k ← getBytes
    return assertExists k
  | n => throw (.invalid s!"unknown update tag {n.toNat}")

end Update

/-- the arguments of a query after the dirty flag -/
def Query.put (q : Query) (w : Bytes) : Bytes :=
  match q with
  | .keyExists k | .get k | .assertExists k => putBytes k w
  | .multiGet ks => putList putBytes ks w
  | .assert k v => w |> putBytes k |> putOption putBytes v
  | .range r | .rangeEntries r | .revRangeEntries r => r.put w
  | .keysWithPrefix p limit => w |> putBytes p |> putLimit limit

def Command.put (c : Command) (w : Bytes) : Bytes :=
  match c with
  | .ping clientId clusterId => w |> putText clientId |> putText clusterId
  | .set k v | .confirm k v => w |> putBytes k |> putBytes v
  | .delete k => putBytes k w
  | .testAndSet k expected wanted => w |> putBytes k |> putOption putBytes expected |> putOption putBytes wanted
  | .sequence updates _ => putList Update.put updates w
  | .userFunction name argument => w |> putText name |> putOption putBytes argument
  | .getKeyCount | .expectProgressPossible | .statistics => w

/-- read the dirty flag, then the arguments of a query -/
def readQuery (arguments : Read Query) : Read Request := do
  let dirty ← getBool
  let q ← arguments
  return .query q dirty

namespace Request

/-- everything but the checksum -/
def body (r : Request) : Bytes :=
  let w := putU32 r.opcode.word ByteArray.empty
  match r with
  | whoMaster | version => w
  | query q dirty => w |> putBool dirty |> q.put
  | command c => c.put w

def encode (r : Request) : Bytes := finish r.body

/-- the arguments that follow an opcode -/
def arguments : Opcode → Read Request
  | .whoMaster => return whoMaster
  | .version => return version
  | .getKeyCount => return command .getKeyCount
  | .expectProgressPossible => return command .expectProgressPossible
  | .statistics => return command .statistics
  | .keyExists => readQuery (Query.keyExists <$> getBytes)
  | .get => readQuery (Query.get <$> getBytes)
  | .assertExists => readQuery (Query.assertExists <$> getBytes)
  | .multiGet => readQuery (Query.multiGet <$> getList getBytes)
  | .assert => readQuery (do
    let k ← getBytes
    let v ← getOption getBytes
    return .assert k v)
  | .range => readQuery (Query.range <$> KeyRange.read)
  | .rangeEntries => readQuery (Query.rangeEntries <$> KeyRange.read)
  | .revRangeEntries => readQuery (Query.revRangeEntries <$> KeyRange.read)
  | .keysWithPrefix => readQuery (do
    let p ← getBytes
    let limit ← getLimit
    return .keysWithPrefix p limit)
  | .ping => do
    let clientId ← getText
    let clusterId ← getText
    return command (.ping clientId clusterId)
  | .set => do
    let k ← getBytes
    let v ← getBytes
    return command (.set k v)
  | .confirm => do
    let k ← getBytes
    let v ← getBytes
    return command (.confirm k v)
  | .delete => do
    let k ← getBytes
    return command (.delete k)
  | .testAndSet => do
    let k ← getBytes
    let expected ← getOption getBytes
    let wanted ← getOption getBytes
    return command (.testAndSet k expected wanted)
  | .sequence => do
    let updates ← getList Update.read
    return command (.sequence updates false)
  | .syncedSequence => do
    let updates ← getList Update.read
    return command (.sequence updates true)
  | .userFunction => do
    let name ← getText
    let argument ← getOption getBytes
    return command (.userFunction name argument)

def decode : Read Request := do
  let w ← getU32
  match Opcode.ofWord w with
  | .error e => throw e
  | .ok op =>
    let r ← arguments op
    close
    return r

end Request

end ReplicaKV
