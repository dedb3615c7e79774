/-
How a call of a client fails. The kind decides what happens next: some failures mean that the master is lost and are
retried, some mean that the connection cannot be used again, the rest are final answers.
-/
import ReplicaKV.Reply
import ReplicaKV.Settings

namespace ReplicaKV

inductive Failure where
  | invalidConfig (reason : String)
  | unknownNode (id : NodeId)
  /-- an argument that the protocol cannot carry -/
  | invalidArgument (reason : String)
  /-- no node was confirmed as master -/
  | noMaster
  /-- a node refused because it is not, or no longer, master -/
  | notMaster (message : String)
  | transport (id : NodeId) (cause : Fault)
  | notConnected (id : NodeId)
  | notFound (message : String)
  | assertionFailed (message : String)
  /-- any other refusal -/
  | server (status : Status) (message : String)
  /-- a malformed or damaged frame -/
  | protocol (reason : String)
deriving DecidableEq

namespace Failure

def message : Failure → String
  | invalidConfig reason => s!"invalid configuration: {reason}"
  | unknownNode id => s!"unknown node '{id}'"
  | invalidArgument reason => s!"invalid argument: {reason}"
  | noMaster => "could not determine master"
  | notMaster message => s!"node is not master: {message}"
  | transport id cause => s!"transport failure with node '{id}': {cause.text}"
  | notConnected id => s!"not connected to node '{id}'"
  | notFound message => s!"key not found: {message}"
  | assertionFailed message => s!"assertion failed: {message}"
  | server status message => s!"server error {status.name}: {message}"
  | protocol reason => s!"protocol error: {reason}"

/-- does the failure mean that the master is unknown, lost or out of reach? Only such failures are retried. -/
def losesMaster : Failure → Bool
  | noMaster | notMaster _ | transport _ _ | notConnected _ => true
  | _ => false

/-- is the connection that produced the failure unusable? -/
def poisons : Failure → Bool
  | transport _ _ | notConnected _ | protocol _ => true
  | _ => false

/-- what the transport reported, if that is the cause -/
def cause? : Failure → Option Fault
  | transport _ cause => some cause
  | _ => none

/-- the failure that a server's refusal means -/
def ofRefusal (r : Refusal) : Failure :=
  match r.status with
  | .notMaster | .noLongerMaster => notMaster r.message
  | .notFound => notFound r.message
  | .assertionFailed => assertionFailed r.message
  | status => server status r.message

/-- the failure that a fault while reading a reply of a node means: damaged frames are told from lost connections -/
def ofReadFault (id : NodeId) (e : Fault) : Failure :=
  match e.kind with
  | .invalidData => protocol s!"node {id}: {e.text}"
  | _ => transport id e

end Failure

end ReplicaKV
