/-
A cluster in memory. Each node holds a store, a belief about who is master, and fault switches; there is no election,
beliefs are set from outside and may conflict. A node that believes itself master evaluates commands against its own
store and passes the resulting mutations to every live node before it answers. Queries that allow a dirty read are
answered by any node from its own store.

A node works in a thread of its own, and a connection waits for its answer for a limited time. How long a thread takes,
and when it stops, is not decided here: the cluster carries what becomes of the packets to come (`Handling`), and that
can be anything. What a thread does too late it does where the packet was handed over. If it comes to a packet only after
others, then that packet was dropped, and the same frame arrived once more, where nobody waits for the answer.

- `Cluster.respond`: one request at one node.
- `Cluster.receive`: one frame at one node, well formed or not; exactly one frame comes back.
- `Cluster.hand`: a packet on its way to the thread of a node, and the answer on its way back.
- `Cluster.connect`, `Cluster.send`, `Cluster.close`: what a connection does.
-/
import ReplicaKV.Settings
import ReplicaKV.Store
import ReplicaKV.Prologue

namespace ReplicaKV

structure Node where
  alive : Bool
  /-- how many of the next sends fail -/
  failingSends : Nat
  /-- who the node believes is master -/
  belief : Option NodeId
  store : Store
  /-- questions about the master answered -/
  probes : Nat
  /-- frames received, of any kind -/
  requests : Nat
  /-- connections that completed the handshake -/
  opened : Nat
  closed : Nat

def Node.fresh : Node := ⟨true, 0, none, .empty, 0, 0, 0, 0⟩

/-- what the masters of a cluster have done -/
structure Tally where
  sets : Nat
  gets : Nat
  deletes : Nat
  multiGets : Nat
  sequences : Nat
  /-- mutations committed -/
  entries : Nat
  /-- mutations applied by each node -/
  applied : SortedMap NodeId Nat

namespace Tally

def zero : Tally := ⟨0, 0, 0, 0, 0, 0, .empty⟩

def countQuery (t : Tally) : Query → Tally
  | .get _ => { t with gets := t.gets + 1 }
  | .multiGet _ => { t with multiGets := t.multiGets + 1 }
  | _ => t

def countCommand (t : Tally) : Command → Tally
  | .set _ _ | .confirm _ _ => { t with sets := t.sets + 1 }
  | .delete _ => { t with deletes := t.deletes + 1 }
  | .sequence _ _ => { t with sequences := t.sequences + 1 }
  | _ => t

/-- n mutations committed, and applied by the given nodes -/
def commit (t : Tally) (n : Nat) (ids : List NodeId) : Tally :=
  { t with
    entries := t.entries + n
    applied := ids.foldl (fun m id => m.insert id ((m.get? id).getD 0 + n)) t.applied }

/-- the counters as they are reported; the times of this cluster are not kept -/
def statistics (t : Tally) : Statistics where
  start := ⟨0⟩
  last := ⟨0⟩
  sets := .ofNat t.sets
  gets := .ofNat t.gets
  deletes := .ofNat t.deletes
  multiGets := .ofNat t.multiGets
  sequences := .ofNat t.sequences
  entries := .ofNat t.entries
  applied := t.applied.mapValues fun _ n => .ofNat n

end Tally

/-- what becomes of a packet for the thread of a node -/
inductive Handling where
  /-- the thread answers in time -/
  | answered
  /-- the thread does what the packet asks for, but nobody waits for its answer any longer -/
  | late
  /-- the thread stops before it comes to the packet -/
  | dropped
  /-- the thread has stopped -/
  | refused
deriving DecidableEq, Repr

/-- does the thread do what the packet asks for? -/
def Handling.taken : Handling → Bool
  | answered | late => true
  | dropped | refused => false

structure Cluster where
  id : String
  nodes : SortedMap NodeId Node
  tally : Tally
  /-- what becomes of the packets to come, in order; any further ones are answered in time -/
  threads : List Handling

namespace Cluster

/-- a cluster of live nodes without a master -/
def ofNodes (id : String) (ids : List NodeId) : Cluster :=
  ⟨id, .ofList (ids.map fun n => (n, .fresh)), .zero, []⟩

/-- the host that every node is said to run on -/
def host : String := "sim.local"

/-- the port of the first node; the others follow in order -/
def firstPort : Nat := 4000

/-- settings that list every node -/
def settings (c : Cluster) : Settings :=
  (c.nodes.keys.zipIdx).foldl (fun s p => s.withNode p.1 ⟨host, .ofNat (firstPort + p.2)⟩) (.initial c.id)

/-- change the state of a node -/
def adjust (c : Cluster) (id : NodeId) (f : Node → Node) : Cluster := { c with nodes := c.nodes.adjust id f }

/-! ## Control from outside -/

/-- let every node believe in the same master, or in none -/
def setMaster (c : Cluster) (m : Option NodeId) : Cluster :=
  { c with nodes := c.nodes.mapValues fun _ n => { n with belief := m } }

def setBelief (c : Cluster) (id : NodeId) (m : Option NodeId) : Cluster := c.adjust id fun n => { n with belief := m }

/-- stop or restart a node; it keeps its store -/
def setAlive (c : Cluster) (id : NodeId) (alive : Bool) : Cluster := c.adjust id fun n => { n with alive := alive }

/-- let the next sends to a node fail, whatever was set before -/
def failSends (c : Cluster) (id : NodeId) (count : Nat) : Cluster :=
  c.adjust id fun n => { n with failingSends := count }

/-- let these be what becomes of the packets to come, whatever was to become of them before -/
def setThreads (c : Cluster) (threads : List Handling) : Cluster := { c with threads := threads }

/-! ## Answering -/

/-- a node that is not master names the one it believes in -/
def notMaster (n : Node) : Refusal := ⟨.notMaster, n.belief.getD "unknown"⟩

/-- more than half of the nodes are alive -/
def quorum (c : Cluster) : Bool :=
  c.nodes.size < 2 * (c.nodes.entries.filter fun p => p.2.alive).length

/-- evaluate a command against the store of node id: the mutations it leads to, and the answer -/
def evaluate (c : Cluster) (id : NodeId) (s : Store) :
    (cmd : Command) → Except Refusal (List Mutation × cmd.shape.Value)
  | .ping clientId clusterId =>
    if clusterId = c.id then .ok ([], s!"chr sim node {id} greets {clientId} (version 1.0.0)")
    else .error ⟨.wrongCluster, clusterId⟩
  | .set k v => .ok ([.put k v], ())
  | .confirm k v => .ok (if s.get? k = some v then [] else [.put k v], ())
  | .delete k => if s.contains k then .ok ([.remove k], ()) else .error (Store.absent k)
  | .testAndSet k expected wanted =>
    let old := s.get? k
    let ms := if old = expected then
        match wanted with
        | some v => [.put k v]
        | none => [.remove k]
      else []
    .ok (ms, old)
  | .sequence us _ => (s.plan us).map fun ms => (ms, ())
  | .userFunction name argument =>
    if name = "echo" then .ok ([], argument)
    else .error ⟨.userFunctionFailure, s!"unknown user function {name}"⟩
  | .getKeyCount => .ok ([], .ofNat s.size)
  | .expectProgressPossible => .ok ([], c.quorum)
  | .statistics => .ok ([], c.tally.statistics)

/-- apply mutations at node id and at every live node -/
def commit (c : Cluster) (id : NodeId) (ms : List Mutation) : Cluster :=
  if ms.isEmpty then c
  else
    let takes (p : NodeId × Node) : Bool := p.1 = id || p.2.alive
    { c with
      nodes := c.nodes.mapValues fun k n => if takes (k, n) then { n with store := n.store.applyAll ms } else n
      tally := c.tally.commit ms.length ((c.nodes.entries.filter takes).map Prod.fst) }

/-- a command at a node that is master; it is counted whether or not it succeeds -/
def execute (c : Cluster) (id : NodeId) (s : Store) (cmd : Command) : Except Refusal cmd.shape.Value × Cluster :=
  let c := { c with tally := c.tally.countCommand cmd }
  match c.evaluate id s cmd with
  | .ok (ms, v) => (.ok v, c.commit id ms)
  | .error r => (.error r, c)

/-- a request at node id, whose state is n -/
def respond (c : Cluster) (id : NodeId) (n : Node) : (r : Request) → Except Refusal r.shape.Value × Cluster
  | .whoMaster => (.ok n.belief, c.adjust id fun n => { n with probes := n.probes + 1 })
  | .version => (.ok ⟨1, 0, 0, s!"sim node {id}"⟩, c)
  | .query q dirty =>
    if dirty || n.belief = some id then (n.store.answer q, { c with tally := c.tally.countQuery q })
    else (.error (notMaster n), c)
  | .command cmd => if n.belief = some id then c.execute id n.store cmd else (.error (notMaster n), c)

/-- a frame at node id, whose state is n: the frame that it answers -/
def receive (c : Cluster) (id : NodeId) (n : Node) (frame : Bytes) : Bytes × Cluster :=
  let c := c.adjust id fun n => { n with requests := n.requests + 1 }
  match Request.decode (Frame.start (.ofBytes frame)) with
  | .ok r _ =>
    let (v, c) := c.respond id n r
    (Reply.encode r.shape v, c)
  | .error e _ => (Reply.refusal ⟨.unknown, e.text⟩, c)

/-! ## Threads -/

/-- what becomes of the next packet -/
def handling (c : Cluster) : Handling := c.threads.headD .answered

/-- the cluster once a packet has been handed over -/
def handed (c : Cluster) : Cluster := c.setThreads (c.threads.drop 1)

/-- an answer that did not come in time, or never will -/
def unanswered (id : NodeId) : Fault := ⟨.other "TimedOut", s!"node {id} did not answer"⟩

/-- a thread that takes no more packets -/
def stopped (id : NodeId) : Fault := ⟨.other "ConnectionAborted", s!"node {id} stopped"⟩

/-- hand the thread of node id a packet, and wait for its answer; `made` are the answer to the packet and the cluster
that it leads to. What a thread does too late is done all the same. -/
def hand (c : Cluster) (id : NodeId) (made : Bytes × Cluster) : Except Fault Bytes × Cluster :=
  match c.handling with
  | .answered => (.ok made.1, made.2.handed)
  | .late => (.error (unanswered id), made.2.handed)
  | .dropped => (.error (unanswered id), c.handed)
  | .refused => (.error (stopped id), c.handed)

/-! ## Connections -/

/-- the answer to a prologue -/
def greet (c : Cluster) (prologue : Bytes) : Bytes :=
  match Prologue.decode (Frame.start (.ofBytes prologue)) with
  | .ok clusterId _ =>
    if clusterId = c.id then Reply.ok .unit ()
    else Reply.refusal ⟨.wrongCluster, s!"expected cluster {c.id}, got {clusterId}"⟩
  | .error e _ => Reply.refusal ⟨.noMagic, e.text⟩

/-- open a connection to a node, for clients of cluster `clusterId` -/
def connect (c : Cluster) (id : NodeId) (clusterId : String) : Except Fault Unit × Cluster :=
  match c.nodes.get? id with
  | none => (.error ⟨.notFound, s!"no simulated node {id}"⟩, c)
  | some n =>
    if !n.alive then (.error ⟨.connectionRefused, s!"node {id} is down"⟩, c)
    else
      match c.hand id (c.greet (Prologue.encode clusterId), c) with
      | (.error e, c) => (.error e, c)
      | (.ok reply, c) =>
        match Reply.decode .unit (Frame.start (.ofBytes reply)) with
        | .ok (.ok ()) _ => (.ok (), c.adjust id fun n => { n with opened := n.opened + 1 })
        | .ok (.error r) _ => (.error ⟨.connectionRefused, r.text⟩, c)
        | .error e _ => (.error ⟨.connectionRefused, e.text⟩, c)

/-- send a frame on an open connection: the bytes that come back -/
def send (c : Cluster) (id : NodeId) (frame : Bytes) : Except Fault Bytes × Cluster :=
  match c.nodes.get? id with
  | none => (.error ⟨.notFound, s!"no simulated node {id}"⟩, c)
  | some n =>
    if !n.alive then (.error ⟨.connectionReset, s!"node {id} is down"⟩, c)
    else if 0 < n.failingSends then
      (.error ⟨.brokenPipe, s!"injected send failure to {id}"⟩, c.failSends id (n.failingSends - 1))
    else c.hand id (c.receive id n frame)

/-- close an open connection -/
def close (c : Cluster) (id : NodeId) : Cluster := c.adjust id fun n => { n with closed := n.closed + 1 }

end Cluster

end ReplicaKV
