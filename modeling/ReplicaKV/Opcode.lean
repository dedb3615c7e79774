/-
The opcodes of requests. On the wire an opcode is the low half of a 32-bit word whose high half is the protocol's magic
number.
-/
import ReplicaKV.Frame.Reader

namespace ReplicaKV

/-- the high half of every opcode word; as a whole word it opens a connection -/
def magic : UInt32 := 0xb1ff0000

inductive Opcode where
  | ping
  | whoMaster
  | keyExists
  | get
  | set
  | delete
  | range
  | keysWithPrefix
  | testAndSet
  | rangeEntries
  | sequence
  | multiGet
  | expectProgressPossible
  | statistics
  | userFunction
  | assert
  | getKeyCount
  | confirm
  | revRangeEntries
  | syncedSequence
  | version
  | assertExists
deriving DecidableEq, Repr

namespace Opcode

def all : List Opcode :=
  [ping, whoMaster, keyExists, get, set, delete, range, keysWithPrefix, testAndSet, rangeEntries, sequence, multiGet,
    expectProgressPossible, statistics, userFunction, assert, getKeyCount, confirm, revRangeEntries, syncedSequence,
    version, assertExists]

def number : Opcode → UInt32
  | ping => 0x01
  | whoMaster => 0x02
  | keyExists => 0x07
  | get => 0x08
  | set => 0x09
  | delete => 0x0a
  | range => 0x0b
  | keysWithPrefix => 0x0c
  | testAndSet => 0x0d
  | rangeEntries => 0x0f
  | sequence => 0x10
  | multiGet => 0x11
  | expectProgressPossible => 0x12
  | statistics => 0x13
  | userFunction => 0x15
  | assert => 0x16
  | getKeyCount => 0x1a
  | confirm => 0x1c
  | revRangeEntries => 0x23
  | syncedSequence => 0x24
  | version => 0x28
  | assertExists => 0x29

def name : Opcode → String
  | ping => "Ping"
  | whoMaster => "WhoMaster"
  | keyExists => "Exists"
  | get => "Get"
  | set => "Set"
  | delete => "Delete"
  | range => "Range"
  | keysWithPrefix => "Prefix"
  | testAndSet => "TestAndSet"
  | rangeEntries => "RangeEntries"
  | sequence => "Sequence"
  | multiGet => "MultiGet"
  | expectProgressPossible => "ExpectProgressPossible"
  | statistics => "Statistics"
  | userFunction => "UserFunction"
  | assert => "Assert"
  | getKeyCount => "GetKeyCount"
  | confirm => "Confirm"
  | revRangeEntries => "RevRangeEntries"
  | syncedSequence => "SyncedSequence"
  | version => "Version"
  | assertExists => "AssertExists"

/-- the word sent for an opcode -/
def word (op : Opcode) : UInt32 := magic ||| op.number

/-- the opcode of a word; the magic number is checked before the opcode is looked up -/
def ofWord (w : UInt32) : Except Fault Opcode :=
  if w &&& 0xffff0000 ≠ magic then .error (.invalid s!"bad magic in opcode word {Frame.hexWord w}")
  else
    match all.find? fun op => op.number = w &&& 0xffff with
    | some op => .ok op
    | none => .error (.invalid s!"unknown opcode 0x{Frame.hexDigits 4 (w &&& 0xffff).toNat}")

end Opcode

end ReplicaKV
