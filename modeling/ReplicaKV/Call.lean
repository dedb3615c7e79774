/-
The calls of a client.

- Queries go to the master, or to the node for dirty reads while these are allowed; commands go to the master. Both are
  retried while the master is lost.
- Progress, statistics and versions are asked for once.
- The rest reads or changes the state of the client.

`Scene.call` runs any of them. A call that is still being retried after `fuel` rounds is unfinished.
-/
import ReplicaKV.Backoff
import ReplicaKV.Limits

namespace ReplicaKV

/-- a call with its arguments -/
inductive Call where
  | ping (clientId : String)
  | getKeyCount
  | query (q : Query)
  | set (key value : Bytes)
  | confirm (key value : Bytes)
  | delete (key : Bytes)
  | testAndSet (key : Bytes) (expected wanted : Option Bytes)
  | sequence (updates : List Update) (sync : Bool)
  | userFunction (name : String) (argument : Option Bytes)
  | expectProgressPossible
  | statistics
  /-- the version of a node, or of the master -/
  | version (id : Option NodeId)
  | whoMaster
  | allowDirtyReads (allowed : Bool)
  | dirtyReadsAllowed
  | dirtyNode
  | setDirtyNode (id : NodeId)
  | dropConnections
deriving DecidableEq

/-- the form of the value that a call returns -/
def Call.shape : Call → Shape
  | ping _ => .text
  | getKeyCount => .count
  | query q => q.shape
  | set _ _ | confirm _ _ | delete _ | sequence _ _ => .unit
  | testAndSet _ _ _ | userFunction _ _ => .optBytes
  | expectProgressPossible => .flag
  | statistics => .statistics
  | version _ => .version
  | whoMaster | dirtyNode => .text
  | allowDirtyReads _ | dirtyReadsAllowed => .flag
  | setDirtyNode _ | dropConnections => .unit

namespace Scene

variable {W : Type}

/-- what a call ends in, if it ends and the clock lasts -/
abbrev Outcome (α : Type) := Option (Except Failure α)

/-- check a frame, then retry an action on it -/
def sendChecked (net : Network W) (fuel : Nat) (r : Request) {α : Type} (action : Bytes → Act W α) (s : Scene W) :
    Outcome α × Scene W :=
  match r.encodeChecked with
  | .error m => (some (.error (.invalidArgument m.message)), s)
  | .ok frame => s.persist net (.ofConfig s.client.config) fuel (action frame)

/-- a command for the master -/
def command (net : Network W) (fuel : Nat) (c : Command) (s : Scene W) : Outcome c.shape.Value × Scene W :=
  match c.misuse with
  | some m => (some (.error (.invalidArgument m.message)), s)
  | none => s.sendChecked net fuel (.command c) fun frame => exchangeWithMaster net frame c.shape

/-- a query, for the master or for the node for dirty reads -/
def query (net : Network W) (fuel : Nat) (q : Query) (s : Scene W) : Outcome q.shape.Value × Scene W :=
  match q.misuse with
  | some m => (some (.error (.invalidArgument m.message)), s)
  | none =>
    if s.client.dirtyReads then
      s.sendChecked net fuel (.query q true) fun frame => exchange net s.client.dirtyNode frame q.shape
    else s.sendChecked net fuel (.query q false) fun frame => exchangeWithMaster net frame q.shape

/-- does the master expect to make progress? No, if there is none. -/
def expectProgressPossible (net : Network W) : Act W Bool := fun s =>
  match s.exchangeWithMaster net (Request.encode (.command .expectProgressPossible)) .flag with
  | (.error .noMaster, s) => (.ok false, s)
  | r => r

def statistics (net : Network W) : Act W Statistics :=
  exchangeWithMaster net (Request.encode (.command .statistics)) .statistics

def version (net : Network W) (id : Option NodeId) : Act W Version :=
  match id with
  | some id => exchange net id (Request.encode .version) .version
  | none => exchangeWithMaster net (Request.encode .version) .version

/-- let dirty reads go to another node -/
def setDirtyNode (id : NodeId) : Act W Unit := fun s =>
  match s.client.config.location? id with
  | none => (.error (.unknownNode id), s)
  | some _ => (.ok (), { s with client := { s.client with dirtyNode := id } })

/-- the result of an action that always ends -/
def ended {α : Type} (r : Except Failure α × Scene W) : Outcome α × Scene W := (some r.1, r.2)

def call (net : Network W) (fuel : Nat) : (c : Call) → Scene W → Outcome c.shape.Value × Scene W
  | .ping clientId, s => s.command net fuel (.ping clientId s.client.config.clusterId)
  | .getKeyCount, s => s.command net fuel .getKeyCount
  | .query q, s => s.query net fuel q
  | .set k v, s => s.command net fuel (.set k v)
  | .confirm k v, s => s.command net fuel (.confirm k v)
  | .delete k, s => s.command net fuel (.delete k)
  | .testAndSet k expected wanted, s => s.command net fuel (.testAndSet k expected wanted)
  | .sequence us sync, s => s.command net fuel (.sequence us sync)
  | .userFunction name argument, s => s.command net fuel (.userFunction name argument)
  | .expectProgressPossible, s => ended (s.expectProgressPossible net)
  | .statistics, s => ended (s.statistics net)
  | .version id, s => ended (s.version net id)
  | .whoMaster, s => ended (s.findMaster net)
  | .allowDirtyReads allowed, s =>
    (some (.ok allowed), { s with client := { s.client with dirtyReads := allowed } })
  | .dirtyReadsAllowed, s => (some (.ok s.client.dirtyReads), s)
  | .dirtyNode, s => (some (.ok s.client.dirtyNode), s)
  | .setDirtyNode id, s => ended (s.setDirtyNode id)
  | .dropConnections, s => (some (.ok ()), s.closeAll net)

end Scene

end ReplicaKV
