/-
The layout of settings written down as a TOML document: the id of the cluster, a table of nodes, and tuning with spans
in seconds.

    cluster_id = "main"
    max_attempts = 3
    backoff_scale = 0.2
    master_retry_budget = 60.0
    connect_timeout = 5

    [nodes.n0]
    host = "127.0.0.1"
    port = 4000

Fields are looked at in the order of the document; the first that does not fit is the misfit of the document. Fields
that are missing are only looked for after that.
-/
import ReplicaKV.Settings
import ReplicaKV.Toml.Document

namespace ReplicaKV

open Toml (Value Entries)

namespace Settings

/-- how a document does not fit the layout -/
inductive Misfit where
  | missingField (name : String)
  | unknownField (name : String)
  | invalidType
  | invalidValue
  | invalidLength
deriving DecidableEq, Repr

def Misfit.message : Misfit → String
  | missingField name => s!"missing field `{name}`"
  | unknownField name => s!"unknown field `{name}`"
  | invalidType => "invalid type"
  | invalidValue => "invalid value"
  | invalidLength => "invalid length"

/-- what was written down; absent tuning is none, spans are numbers of seconds -/
structure File where
  clusterId : String
  nodes : SortedMap NodeId Location
  maxAttempts : Option UInt32
  backoffScale : Option Binary64
  masterRetryBudget : Option Binary64
  connectTimeout : Option Binary64
deriving DecidableEq

/-! ## Fields -/

def textField : Value → Except Misfit String
  | .text s => .ok s
  | _ => .error .invalidType

/-- a number below n -/
def naturalField (n : Nat) : Value → Except Misfit Nat
  | .integer i => if 0 ≤ i && i < n then .ok i.toNat else .error .invalidValue
  | _ => .error .invalidType

def portField (v : Value) : Except Misfit UInt16 := (naturalField UInt16.size v).map UInt16.ofNat

def attemptsField (v : Value) : Except Misfit UInt32 := (naturalField UInt32.size v).map UInt32.ofNat

/-- a number of seconds, with or without a fraction -/
def secondsField : Value → Except Misfit Binary64
  | .float x => .ok x
  | .integer n => .ok (.ofInt n)
  | _ => .error .invalidType

/-- take the fields of a location in, others aside -/
def locationFields (found : Option String × Option UInt16) :
    Entries → Except Misfit (Option String × Option UInt16)
  | [] => .ok found
  | (k, v) :: es => do
    if k = "host" then locationFields (some (← textField v), found.2) es
    else if k = "port" then locationFields (found.1, some (← portField v)) es
    else locationFields found es

/-- a location: a table with host and port, or an array that begins with them. A date is a table of no such fields. -/
def locationField : Value → Except Misfit Location
  | .table _ es => do
    match ← locationFields (none, none) es with
    | (none, _) => .error (.missingField "host")
    | (some _, none) => .error (.missingField "port")
    | (some host, some port) => .ok ⟨host, port⟩
  | .moment => .error (.missingField "host")
  | .array [] => .error .invalidLength
  | .array [v] => do
    let _ ← textField v
    .error .invalidLength
  | .array (v :: w :: _) => do
    let host ← textField v
    let port ← portField w
    return ⟨host, port⟩
  | _ => .error .invalidType

def nodesField : Value → Except Misfit (SortedMap NodeId Location)
  | .table _ es => es.foldlM (fun m e => (m.insert e.1 ·) <$> locationField e.2) .empty
  | _ => .error .invalidType

namespace File

/-! ## The layout -/

/-- the fields met so far -/
structure Draft where
  clusterId : Option String
  nodes : Option (SortedMap NodeId Location)
  maxAttempts : Option UInt32
  backoffScale : Option Binary64
  masterRetryBudget : Option Binary64
  connectTimeout : Option Binary64

namespace Draft

def empty : Draft := ⟨none, none, none, none, none, none⟩

def add (d : Draft) (e : String × Value) : Except Misfit Draft := do
  match e.1 with
  | "cluster_id" => return { d with clusterId := some (← textField e.2) }
  | "nodes" => return { d with nodes := some (← nodesField e.2) }
  | "max_attempts" => return { d with maxAttempts := some (← attemptsField e.2) }
  | "backoff_scale" => return { d with backoffScale := some (← secondsField e.2) }
  | "master_retry_budget" => return { d with masterRetryBudget := some (← secondsField e.2) }
  | "connect_timeout" => return { d with connectTimeout := some (← secondsField e.2) }
  | name => throw (.unknownField name)

end Draft

def ofEntries (es : Entries) : Except Misfit File := do
  let d ← es.foldlM Draft.add .empty
  match d.clusterId, d.nodes with
  | none, _ => throw (.missingField "cluster_id")
  | some _, none => throw (.missingField "nodes")
  | some clusterId, some nodes =>
    return ⟨clusterId, nodes, d.maxAttempts, d.backoffScale, d.masterRetryBudget, d.connectTimeout⟩

end File

end Settings

end ReplicaKV
