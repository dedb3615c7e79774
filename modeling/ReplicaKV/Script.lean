/-
A network that follows a script and records what is done to it. For each node the script lists how the next connects
and sends turn out; where it says nothing, they succeed and nothing comes back.

- Questions about the master follow a list of their own, if there is one, and its last entry holds for ever.
- `Script.events`: what was done, in order. Connections closed together have no order, so closes that follow each other
  are listed by node.
-/
import ReplicaKV.Network

namespace ReplicaKV

/-- how a send turns out -/
inductive Reaction where
  | fail (e : Fault)
  /-- bytes come back; behind them lies a fault, or the end of the input -/
  | reply (bytes : Bytes) (ending : Option Fault)

/-- how the actions on one node turn out from now on -/
structure NodeScript where
  connects : List (Option Fault)
  sends : List Reaction
  who : List Reaction

inductive Event where
  | connect (id : NodeId) (l : Location) (clusterId : String) (succeeded : Bool)
  | send (id : NodeId) (frame : Bytes) (succeeded : Bool)
  | close (id : NodeId)

structure Script where
  nodes : SortedMap NodeId NodeScript
  /-- what was done, last first -/
  log : List Event

namespace Script

def record (s : Script) (e : Event) : Script := { s with log := e :: s.log }

def node (s : Script) (id : NodeId) : NodeScript := (s.nodes.get? id).getD ⟨[], [], []⟩

def setNode (s : Script) (id : NodeId) (n : NodeScript) : Script := { s with nodes := s.nodes.insert id n }

/-- the frame that asks who is master -/
def whoMaster : Bytes := Request.encode .whoMaster

/-- the reaction to a frame, and the script after it -/
def next (n : NodeScript) (frame : Bytes) : Reaction × NodeScript :=
  if frame = whoMaster && !n.who.isEmpty then
    (n.who.headD (.reply ByteArray.empty none), { n with who := if n.who.length = 1 then n.who else n.who.drop 1 })
  else (n.sends.headD (.reply ByteArray.empty none), { n with sends := n.sends.drop 1 })

def connect (id : NodeId) (l : Location) (clusterId : String) (s : Script) : Except Fault Unit × Script :=
  let n := s.node id
  let s := s.setNode id { n with connects := n.connects.drop 1 }
  match n.connects.head?.join with
  | some e => (.error e, s.record (.connect id l clusterId false))
  | none => (.ok (), s.record (.connect id l clusterId true))

def send (id : NodeId) (frame : Bytes) (s : Script) : Except Fault Delivery × Script :=
  let (r, n) := next (s.node id) frame
  let s := s.setNode id n
  match r with
  | .fail e => (.error e, s.record (.send id frame false))
  | .reply bytes ending => (.ok ⟨bytes, ending.getD .endOfInput⟩, s.record (.send id frame true))

def close (id : NodeId) (s : Script) : Script := s.record (.close id)

def network : Network Script where
  connect := connect
  send := send
  close := close

/-- put a close at its place among the closes that stand first in a list -/
def placeClose (id : NodeId) : List Event → List Event
  | .close k :: r => if k < id then .close k :: placeClose id r else .close id :: .close k :: r
  | r => .close id :: r

/-- order closes that follow each other by node -/
def settle (l : List Event) : List Event :=
  l.foldr (fun e r => match e with
    | .close id => placeClose id r
    | e => e :: r) []

/-- what was done, in order -/
def events (s : Script) : List Event := settle s.log.reverse

/-- forget what was done -/
def forget (s : Script) : Script := { s with log := [] }

end Script

end ReplicaKV
