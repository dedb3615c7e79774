/-
Finding the master. A node counts as master only on its own word: either it names itself when asked, or another node
names it and it confirms. All nodes are asked in random order until one is confirmed.
-/
import ReplicaKV.Exchange

namespace ReplicaKV.Scene

variable {W : Type}

/-- ask a node who is master -/
def askMaster (net : Network W) (id : NodeId) : Act W (Option NodeId) :=
  exchange net id (Request.encode .whoMaster) .optText

/-- ask the nodes in turn until one of them, or one that it names, confirms that it is master -/
def search (net : Network W) : List NodeId → Act W NodeId
  | [], s => (.error .noMaster, s)
  | id :: rest, s =>
    match s.askMaster net id with
    | (.ok (some claimed), s) =>
      if claimed = id then (.ok id, s.setMaster (some id))
      else
        match s.askMaster net claimed with
        | (.ok (some confirmed), s) =>
          if confirmed = claimed then (.ok claimed, s.setMaster (some claimed)) else search net rest s
        | (_, s) => search net rest s
    | (_, s) => search net rest s

/-- the master, looked for if it is not known -/
def findMaster (net : Network W) : Act W NodeId := fun s =>
  match s.client.master with
  | some m => (.ok m, s)
  | none =>
    let (ids, c) := s.client.shuffledNodes
    search net ids { s with client := c }

/-- put a request to the master -/
def exchangeWithMaster (net : Network W) (frame : Bytes) (shape : Shape) : Act W shape.Value := fun s =>
  match s.findMaster net with
  | (.error e, s) => (.error e, s)
  | (.ok m, s) => s.exchange net m frame shape

end ReplicaKV.Scene
