/-
Clients at work on one cluster in memory. They share the cluster and a clock; between their calls the cluster can be
controlled from outside, inspected, and talked to over bare links that carry any bytes.

- `Op`: everything that can happen, and `Simulation.step`, what it does and answers.
- `Simulation.run`: the state after a list of operations.
-/
import ReplicaKV.Call

namespace ReplicaKV

/-- a connection to a node that no client owns -/
structure Link where
  node : NodeId
  stream : Stream
  isOpen : Bool

structure Simulation where
  cluster : Cluster
  clock : Clock
  /-- the clients by number; none where there is no client, or no longer -/
  clients : List (Option Client)
  links : SortedMap String Link

inductive Op where
  | call (client : Nat) (c : Call)
  | dropClient (client : Nat)
  | setMaster (m : Option NodeId)
  | setBelief (id : NodeId) (m : Option NodeId)
  | setAlive (id : NodeId) (alive : Bool)
  | failSends (id : NodeId) (count : Nat)
  | setThreads (threads : List Handling)
  | counters (id : NodeId)
  | contents (id : NodeId)
  | advance (d : Duration)
  | openLink (link : String) (id : NodeId) (clusterId : String)
  | sendOn (link : String) (frame : Bytes)
  | decodeFrom (link : String) (shape : Shape)
  /-- read up to n bytes; a link is not asked for none -/
  | readFrom (link : String) (n : Nat)
  | closeLink (link : String)
  | dropLink (link : String)

inductive Answer where
  | value (shape : Shape) (v : shape.Value)
  | failure (f : Failure)
  /-- a call that is still being retried, or was broken off because the clock broke -/
  | unfinished
  | done
  | fault (e : Fault)
  | refusal (r : Refusal)
  | raw (bytes : Bytes)
  | counters (n : Node)
  | contents (s : Store)
  | elapsed (d : Duration)
  /-- the operation makes no sense here -/
  | impossible (message : String)

namespace Answer

def ofOutcome {shape : Shape} : Option (Except Failure shape.Value) → Answer
  | some (.ok v) => value shape v
  | some (.error f) => failure f
  | none => unfinished

end Answer

namespace Simulation

/-- a cluster, and clients that have done nothing yet -/
def start (c : Cluster) (clients : List (Option Client)) : Simulation := ⟨c, .start, clients, .empty⟩

def client? (s : Simulation) (i : Nat) : Option Client := (s.clients[i]?).join

/-- what client number c acts on -/
def scene (s : Simulation) (c : Client) : Scene Cluster := ⟨c, s.clock, s.cluster⟩

/-- the simulation after client number i has acted -/
def afterScene (s : Simulation) (i : Nat) (x : Scene Cluster) : Simulation :=
  { s with cluster := x.net, clock := x.clock, clients := s.clients.set i (some x.client) }

def noNode (id : NodeId) : Answer := .impossible s!"no simulated node {id}"

/-- change a node that must exist -/
def control (s : Simulation) (id : NodeId) (f : Cluster → Cluster) : Answer × Simulation :=
  if s.cluster.nodes.contains id then (.done, { s with cluster := f s.cluster }) else (noNode id, s)

/-- the fault of a link that was closed -/
def linkClosed : Fault := ⟨.notConnected, "connection closed"⟩

/-- close a link, if it is open; what was delivered on it is gone -/
def closed (s : Simulation) (name : String) : Simulation :=
  match s.links.get? name with
  | none => s
  | some l =>
    if l.isOpen then
      { s with
        cluster := s.cluster.close l.node
        links := s.links.insert name { l with isOpen := false, stream := ⟨ByteArray.empty, 0, linkClosed⟩ } }
    else s

/-- what happens on a link that exists -/
def withLink (s : Simulation) (name : String) (f : Link → Answer × Simulation) : Answer × Simulation :=
  match s.links.get? name with
  | none => (.impossible s!"no link {name}", s)
  | some l => f l

/-- keep what is left to read on a link -/
def setStream (s : Simulation) (name : String) (l : Link) (r : Stream) : Simulation :=
  { s with links := s.links.insert name { l with stream := r } }

def step (fuel : Nat) (s : Simulation) : Op → Answer × Simulation
  | .call i c =>
    match s.client? i with
    | none => (.impossible s!"no client {i}", s)
    | some x =>
      let (r, scene) := (s.scene x).call Cluster.network fuel c
      (.ofOutcome r, s.afterScene i scene)
  | .dropClient i =>
    match s.client? i with
    | none => (.done, s)
    | some x =>
      let scene := (s.scene x).closeAll Cluster.network
      (.done, { s with cluster := scene.net, clients := s.clients.set i none })
  | .setMaster m => (.done, { s with cluster := s.cluster.setMaster m })
  | .setBelief id m => s.control id fun c => c.setBelief id m
  | .setAlive id alive => s.control id fun c => c.setAlive id alive
  | .failSends id count => s.control id fun c => c.failSends id count
  | .setThreads threads => (.done, { s with cluster := s.cluster.setThreads threads })
  | .counters id =>
    match s.cluster.nodes.get? id with
    | none => (noNode id, s)
    | some n => (.counters n, s)
  | .contents id => (.contents (((s.cluster.nodes.get? id).map Node.store).getD .empty), s)
  | .advance d =>
    let clock := s.clock.advance d
    let answer : Answer := match clock.elapsed? with
      | .ok t => .elapsed t
      | .error t => .impossible t.message
    (answer, { s with clock := clock })
  | .openLink name id clusterId =>
    match s.cluster.connect id clusterId with
    | (.error e, c) => (.fault e, { s with cluster := c })
    | (.ok (), c) =>
      let s := { s with cluster := c }.closed name
      (.done, { s with links := s.links.insert name ⟨id, .empty, true⟩ })
  | .sendOn name frame => s.withLink name fun l =>
    if !l.isOpen then (.fault linkClosed, s)
    else
      match s.cluster.send l.node frame with
      | (.error e, c) => (.fault e, { s with cluster := c })
      | (.ok bytes, c) => (.done, { s with cluster := c }.setStream name l (l.stream.deliver bytes .endOfInput))
  | .decodeFrom name shape => s.withLink name fun l =>
    match Reply.decode shape (Frame.start l.stream) with
    | .ok (.ok v) r => (.value shape v, s.setStream name l r.stream)
    | .ok (.error refusal) r => (.refusal refusal, s.setStream name l r.stream)
    | .error e r => (.fault e, s.setStream name l r.stream)
  | .readFrom name n => s.withLink name fun l =>
    if !l.isOpen && n ≠ 0 then (.fault linkClosed, s)
    else
      let (bytes, rest) := l.stream.take n
      (.raw bytes, s.setStream name l rest)
  | .closeLink name => (.done, s.closed name)
  | .dropLink name =>
    let s := s.closed name
    (.done, { s with links := s.links.erase name })

/-- the state after a list of operations -/
def run (fuel : Nat) (s : Simulation) (ops : List Op) : Simulation := ops.foldl (fun s op => (s.step fuel op).2) s

end Simulation

end ReplicaKV
