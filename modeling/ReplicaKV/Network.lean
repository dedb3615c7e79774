/-
What a client can do to the world around it: connect to a node, send it a frame, close a connection. A network is any
state with these three actions; a client is written against the actions alone, so whatever is shown of it holds for
every network. Two networks are defined elsewhere: the cluster in memory and the script.

A client also says how each of its requests ended. A network may take note of that; the two networks do not.
-/
import ReplicaKV.Cluster
import ReplicaKV.Failure

namespace ReplicaKV

/-- what a successful send leads to: bytes that can now be read, and what lies behind them -/
structure Delivery where
  bytes : Bytes
  ending : Fault

/-- how a request to a node ended; the reply was to have a payload of the given form -/
structure Notice where
  node : NodeId
  frame : Bytes
  shape : Shape
  outcome : Except Failure shape.Value

/-- the actions on a network whose state is a W -/
structure Network (W : Type) where
  /-- open a connection to a node at a location, for clients of the cluster named -/
  connect : NodeId → Location → String → W → Except Fault Unit × W
  /-- send a frame on an open connection -/
  send : NodeId → Bytes → W → Except Fault Delivery × W
  /-- close an open connection -/
  close : NodeId → W → W
  /-- take note of how a request ended -/
  note : Notice → W → W := fun _ w => w

/-- the network that leads to the nodes of a cluster; locations play no part -/
def Cluster.network : Network Cluster where
  connect id _ clusterId c := c.connect id clusterId
  send id frame c :=
    match c.send id frame with
    | (.ok bytes, c) => (.ok ⟨bytes, .endOfInput⟩, c)
    | (.error e, c) => (.error e, c)
  close id c := c.close id

end ReplicaKV
