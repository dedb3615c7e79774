/-
The state of a client, and of what it acts on.

- A client holds accepted settings, the master it believes in, at most one channel for each node, the node for dirty
  reads, and the results of the random draws it is going to make.
- A scene is a client together with the clock and the network it uses.
-/
import ReplicaKV.Clock
import ReplicaKV.Failure
import ReplicaKV.Network

namespace ReplicaKV

structure Client where
  config : Config
  /-- the master, if one was confirmed and not lost since -/
  master : Option NodeId
  /-- what has been delivered on each open connection -/
  channels : SortedMap NodeId Stream
  dirtyNode : NodeId
  dirtyReads : Bool
  /-- the results of the draws to come; a draw past the end gives zero -/
  draws : List Nat

/-- a client, the clock and the network -/
structure Scene (W : Type) where
  client : Client
  clock : Clock
  net : W

/-- an action of a client: what it ends in, and the scene after it -/
abbrev Act (W : Type) (α : Type) := Scene W → Except Failure α × Scene W

namespace Client

/-- a draw from 0 to most, and the client after it -/
def draw (c : Client) (most : Nat) : Nat × Client :=
  (min (c.draws.headD 0) most, { c with draws := c.draws.drop 1 })

/-- a client that has done nothing yet; its node for dirty reads is drawn from all nodes -/
def new (config : Config) (draws : List Nat) : Client :=
  let ids := config.nodeIds
  let i := min (draws.headD 0) (ids.length - 1)
  ⟨config, none, .empty, ids[i]?.getD "", false, draws.drop 1⟩

/-- build a client; there must be a node to draw -/
def build (config : Config) (draws : List Nat) : Except Failure Client :=
  let ids := config.nodeIds
  match ids[min (draws.headD 0) (ids.length - 1)]? with
  | some id => .ok ⟨config, none, .empty, id, false, draws.drop 1⟩
  | none => .error (.invalidConfig "node list empty")

/-- the nodes to which a connection is open, ascending -/
def connected (c : Client) : List NodeId := c.channels.keys

/-- exchange the elements at places i and j -/
def swap {α : Type} (l : List α) (i j : Nat) : List α :=
  match l[i]?, l[j]? with
  | some a, some b => (l.set i b).set j a
  | _, _ => l

/-- put a list in random order: for each place from i down to the second, exchange it with one drawn from those up to
it -/
def shuffleFrom (l : List NodeId) : (i : Nat) → Client → List NodeId × Client
  | 0, c => (l, c)
  | i + 1, c =>
    let (j, c) := c.draw (i + 1)
    shuffleFrom (swap l (i + 1) j) i c

/-- all nodes in random order -/
def shuffledNodes (c : Client) : List NodeId × Client := shuffleFrom c.config.nodeIds (c.config.nodeIds.length - 1) c

end Client

namespace Scene

variable {W : Type}

def setMaster (s : Scene W) (m : Option NodeId) : Scene W := { s with client := { s.client with master := m } }

def setChannel (s : Scene W) (id : NodeId) (ch : Stream) : Scene W :=
  { s with client := { s.client with channels := s.client.channels.insert id ch } }

def sleep (s : Scene W) (d : Duration) : Scene W := { s with clock := s.clock.sleep d }

/-- close and forget the channel to a node, if there is one -/
def evict (net : Network W) (id : NodeId) (s : Scene W) : Scene W :=
  match s.client.channels.get? id with
  | none => s
  | some _ =>
    { s with client := { s.client with channels := s.client.channels.erase id }, net := net.close id s.net }

/-- close every channel -/
def closeAll (net : Network W) (s : Scene W) : Scene W :=
  { s with
    client := { s.client with channels := .empty }
    net := s.client.connected.foldl (fun w id => net.close id w) s.net }

end Scene

end ReplicaKV
