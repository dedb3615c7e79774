/-
What a client has to know: the id of its cluster, where each node is, and the tuning of retries and connections.
Settings are put together freely and accepted once; a `Config` is a set of settings that was accepted, so whoever holds
one need not check again.
-/
import ReplicaKV.Duration
import ReplicaKV.SortedMap

namespace ReplicaKV

abbrev NodeId := String

/-- where a node listens -/
structure Location where
  host : String
  port : UInt16
deriving DecidableEq, Repr

def Location.text (l : Location) : String := s!"{l.host}:{l.port.toNat}"

structure Settings where
  clusterId : String
  nodes : SortedMap NodeId Location
  /-- how often one request is put to a node before it counts as failed -/
  maxAttempts : UInt32
  /-- the step by which pauses grow -/
  backoffScale : Duration
  /-- how long a lost master is looked for -/
  masterRetryBudget : Duration
  connectTimeout : Duration
deriving DecidableEq

namespace Settings

/-- the longest duration that may be configured: a day -/
def longest : Duration := .ofSeconds 86400

/-- no nodes yet, and the usual tuning -/
def initial (clusterId : String) : Settings where
  clusterId := clusterId
  nodes := .empty
  maxAttempts := 1
  backoffScale := .ofMillis 200
  masterRetryBudget := .ofSeconds 60
  connectTimeout := .ofSeconds 5

/-- add a node, or move it if it is there -/
def withNode (s : Settings) (id : NodeId) (l : Location) : Settings := { s with nodes := s.nodes.insert id l }

/-- the tuning that is a span of time -/
inductive Span where
  | backoffScale
  | masterRetryBudget
  | connectTimeout
deriving DecidableEq, Repr

def Span.name : Span → String
  | backoffScale => "backoff_scale"
  | masterRetryBudget => "master_retry_budget"
  | connectTimeout => "connect_timeout"

/-- one step in putting settings together -/
inductive Edit where
  | node (id : NodeId) (l : Location)
  | maxAttempts (n : UInt32)
  | span (x : Span) (d : Duration)
deriving DecidableEq, Repr

def edit (s : Settings) : Edit → Settings
  | .node id l => s.withNode id l
  | .maxAttempts n => { s with maxAttempts := n }
  | .span .backoffScale d => { s with backoffScale := d }
  | .span .masterRetryBudget d => { s with masterRetryBudget := d }
  | .span .connectTimeout d => { s with connectTimeout := d }

/-- make edits in turn; a later one for the same thing replaces an earlier one -/
def edits (s : Settings) (es : List Edit) : Settings := es.foldl edit s

def span (s : Settings) : Span → Duration
  | .backoffScale => s.backoffScale
  | .masterRetryBudget => s.masterRetryBudget
  | .connectTimeout => s.connectTimeout

/-- why settings are not accepted -/
inductive Problem where
  | noClusterId
  | noNodes
  | noNodeId
  | badLocation (id : NodeId) (l : Location)
  | noAttempts
  | noConnectTimeout
  | tooLong (span : Span) (d : Duration)
deriving DecidableEq, Repr

def Problem.message : Problem → String
  | noClusterId => "cluster id is empty"
  | noNodes => "node list empty"
  | noNodeId => "empty node id"
  | badLocation id l => s!"node {id} has invalid location {l.text}"
  | noAttempts => "max_attempts must be at least 1"
  | noConnectTimeout => "connect_timeout must be positive"
  | tooLong span d => s!"{span.name} of {d.text} exceeds {longest.text}"

/-- p, if the condition holds -/
def Problem.when (p : Problem) (c : Bool) : Option Problem := if c then some p else none

def nodeProblem (id : NodeId) (l : Location) : Option Problem :=
  Problem.noNodeId.when id.isEmpty <|> (Problem.badLocation id l).when (l.host.isEmpty || l.port = 0)

/-- the first problem: ids and nodes, nodes in order of their ids, then the tuning -/
def problem (s : Settings) : Option Problem :=
  Problem.noClusterId.when s.clusterId.isEmpty
    <|> Problem.noNodes.when s.nodes.isEmpty
    <|> s.nodes.entries.findSome? (fun p => nodeProblem p.1 p.2)
    <|> Problem.noAttempts.when (s.maxAttempts = 0)
    <|> Problem.noConnectTimeout.when (s.connectTimeout = .zero)
    <|> [Span.backoffScale, .masterRetryBudget, .connectTimeout].findSome? fun x =>
      (Problem.tooLong x (s.span x)).when (longest < s.span x)

end Settings

/-- accepted settings -/
structure Config where
  settings : Settings
  accepted : settings.problem = none

/-- accept settings, or say what is wrong with them -/
def Settings.accept (s : Settings) : Except Settings.Problem Config :=
  match h : s.problem with
  | none => .ok ⟨s, h⟩
  | some p => .error p

namespace Config

def clusterId (c : Config) : String := c.settings.clusterId

/-- the ids of all nodes, ascending -/
def nodeIds (c : Config) : List NodeId := c.settings.nodes.keys

def location? (c : Config) (id : NodeId) : Option Location := c.settings.nodes.get? id

end Config

end ReplicaKV
