/-
What a client asks of a node. Queries only read, and say whether a node that is not master may answer from its own
store; commands are for the master; who the master is and which version runs is asked of any node.

- `Shape`: the form of the payload of a reply, and `Shape.Value`, the values of that form.
- `Request.shape`: every request has one form of reply.
-/
import ReplicaKV.SortedMap
import ReplicaKV.Opcode

namespace ReplicaKV

/-- the keys between two bounds, each inclusive or not, at most `limit` of them. For a descending read `first` is the
upper bound and `last` the lower one. -/
structure KeyRange where
  first : Option Bytes
  firstInclusive : Bool
  last : Option Bytes
  lastInclusive : Bool
  limit : Option UInt32
deriving DecidableEq

/-- every key -/
def KeyRange.all : KeyRange := ⟨none, false, none, false, none⟩

/-- one update of a sequence -/
inductive Update where
  | set (key value : Bytes)
  | delete (key : Bytes)
  /-- the key has this value, or none -/
  | assert (key : Bytes) (value : Option Bytes)
  | assertExists (key : Bytes)
deriving DecidableEq

namespace Update

def key : Update → Bytes
  | set k _ | delete k | assert k _ | assertExists k => k

/-- the value that an update carries -/
def value? : Update → Option Bytes
  | set _ v => some v
  | assert _ v => v
  | delete _ | assertExists _ => none

end Update

/-- a server's version -/
structure Version where
  major : Int32
  minor : Int32
  patch : Int32
  info : String
deriving DecidableEq

/-- the counters that a master reports -/
structure Statistics where
  start : Binary64
  last : Binary64
  sets : UInt64
  gets : UInt64
  deletes : UInt64
  multiGets : UInt64
  sequences : UInt64
  entries : UInt64
  /-- the last log index applied by each node -/
  applied : SortedMap String UInt64
deriving DecidableEq

/-- the form of a reply's payload -/
inductive Shape where
  | unit
  | flag
  | count
  | bytes
  | text
  | optBytes
  | optText
  | bytesList
  | pairs
  | version
  | statistics
deriving DecidableEq, Repr

/-- the values of a form -/
abbrev Shape.Value : Shape → Type
  | unit => Unit
  | flag => Bool
  | count => UInt64
  | bytes => Bytes
  | text => String
  | optBytes => Option Bytes
  | optText => Option String
  | bytesList => List Bytes
  | pairs => List (Bytes × Bytes)
  | version => Version
  | statistics => Statistics

/-- a read of the store -/
inductive Query where
  | keyExists (key : Bytes)
  | get (key : Bytes)
  | multiGet (keys : List Bytes)
  | assert (key : Bytes) (value : Option Bytes)
  | assertExists (key : Bytes)
  | range (r : KeyRange)
  | rangeEntries (r : KeyRange)
  | revRangeEntries (r : KeyRange)
  | keysWithPrefix (p : Bytes) (limit : Option UInt32)
deriving DecidableEq

namespace Query

def opcode : Query → Opcode
  | keyExists _ => .keyExists
  | get _ => .get
  | multiGet _ => .multiGet
  | assert _ _ => .assert
  | assertExists _ => .assertExists
  | range _ => .range
  | rangeEntries _ => .rangeEntries
  | revRangeEntries _ => .revRangeEntries
  | keysWithPrefix _ _ => .keysWithPrefix

def shape : Query → Shape
  | keyExists _ => .flag
  | get _ => .bytes
  | multiGet _ | range _ | keysWithPrefix _ _ => .bytesList
  | assert _ _ | assertExists _ => .unit
  | rangeEntries _ | revRangeEntries _ => .pairs

end Query

/-- what only the master does -/
inductive Command where
  | ping (clientId clusterId : String)
  | set (key value : Bytes)
  /-- set, unless the value is there already -/
  | confirm (key value : Bytes)
  | delete (key : Bytes)
  | testAndSet (key : Bytes) (expected wanted : Option Bytes)
  /-- all updates or none; a synced sequence is on disk before it is answered -/
  | sequence (updates : List Update) (sync : Bool)
  | userFunction (name : String) (argument : Option Bytes)
  | getKeyCount
  | expectProgressPossible
  | statistics
deriving DecidableEq

namespace Command

def opcode : Command → Opcode
  | ping _ _ => .ping
  | set _ _ => .set
  | confirm _ _ => .confirm
  | delete _ => .delete
  | testAndSet _ _ _ => .testAndSet
  | sequence _ false => .sequence
  | sequence _ true => .syncedSequence
  | userFunction _ _ => .userFunction
  | getKeyCount => .getKeyCount
  | expectProgressPossible => .expectProgressPossible
  | statistics => .statistics

def shape : Command → Shape
  | ping _ _ => .text
  | set _ _ | confirm _ _ | delete _ | sequence _ _ => .unit
  | testAndSet _ _ _ | userFunction _ _ => .optBytes
  | getKeyCount => .count
  | expectProgressPossible => .flag
  | statistics => .statistics

end Command

inductive Request where
  | whoMaster
  | version
  | query (q : Query) (allowDirty : Bool)
  | command (c : Command)
deriving DecidableEq

namespace Request

def opcode : Request → Opcode
  | whoMaster => .whoMaster
  | version => .version
  | query q _ => q.opcode
  | command c => c.opcode

def shape : Request → Shape
  | whoMaster => .optText
  | version => .version
  | query q _ => q.shape
  | command c => c.shape

/-- does the request only read the store? -/
def readOnly : Request → Bool
  | query _ _ => true
  | _ => false

/-- may a node that is not master answer from its own store? -/
def allowsDirty : Request → Bool
  | query _ dirty => dirty
  | _ => false

end Request

end ReplicaKV
