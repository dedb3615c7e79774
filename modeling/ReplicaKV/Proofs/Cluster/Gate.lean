/-
Who may change data: what a node does with a frame, whatever bytes it is made of.

- `Request.ofFrame?`: the request that a frame is read as. `receive_request_frame`, `receive_garbage`: the node responds
  to it, or refuses bytes that are none.
- `Node.admits`: does a node evaluate a request? `respond_gate`: the gate in terms of the two classes of requests, those
  that only read and those that allow a dirty read; who is not let in is turned away.
- `Received`: what every frame leads to. There is one reply, the node counts the frame, and stores change only at the
  word of a node that believes itself master and was asked to write.
- `TurnedAway`: what it leads to at any other node. `Node.answerAside` says what such a node answers.
- `stores_guarded`: so it is for every node of every cluster, and the reply is all that is sent back.
-/
import ReplicaKV.Proofs.Simulation

namespace ReplicaKV

/-- the request that a frame is read as, if it is well formed -/
def Request.ofFrame? (frame : Bytes) : Option Request :=
  match decode (Frame.start (.ofBytes frame)) with
  | .ok r _ => some r
  | .error _ _ => none

/-- does node id, in state n, evaluate the request? -/
def Node.admits (id : NodeId) (n : Node) : Request → Bool
  | .query _ dirty => dirty || n.belief = some id
  | .command _ => n.belief = some id
  | .whoMaster | .version => false

/-- what node id answers, in state n, while it does not believe itself master -/
def Node.answerAside (id : NodeId) (n : Node) : (r : Request) → Except Refusal r.shape.Value
  | .whoMaster => .ok n.belief
  | .version => .ok ⟨1, 0, 0, s!"sim node {id}"⟩
  | .query q true => n.store.answer q
  | .query _ false | .command _ => .error ⟨.notMaster, n.belief.getD "unknown"⟩

namespace Tally

/-- nothing that counts writes has changed -/
structure Unwritten (t t' : Tally) : Prop where
  sets : t'.sets = t.sets
  deletes : t'.deletes = t.deletes
  sequences : t'.sequences = t.sequences
  entries : t'.entries = t.entries
  applied : t'.applied = t.applied

theorem Unwritten.refl (t : Tally) : Unwritten t t := ⟨rfl, rfl, rfl, rfl, rfl⟩

theorem unwritten_countQuery (t : Tally) (q : Query) : Unwritten t (t.countQuery q) := by
  cases q <;> exact ⟨rfl, rfl, rfl, rfl, rfl⟩

end Tally

namespace Cluster

variable {c : Cluster} {id k : NodeId} {n : Node} {r : Request} {frame : Bytes}

/-! ## Frames -/

theorem receive_request_frame (h : Request.ofFrame? frame = some r) (c : Cluster) (id : NodeId) (n : Node) :
    c.receive id n frame =
      (Reply.encode r.shape ((c.counted id).respond id n r).1, ((c.counted id).respond id n r).2) := by
  unfold Request.ofFrame? at h
  unfold receive
  cases hd : Request.decode (Frame.start (.ofBytes frame)) with
  | ok r' rest =>
    rw [hd] at h
    cases h
    rfl
  | error e rest =>
    rw [hd] at h
    cases h

theorem receive_garbage (h : Request.ofFrame? frame = none) (c : Cluster) (id : NodeId) (n : Node) :
    ∃ text, c.receive id n frame = (Reply.refusal ⟨.unknown, text⟩, c.counted id) := by
  unfold Request.ofFrame? at h
  unfold receive
  cases hd : Request.decode (Frame.start (.ofBytes frame)) with
  | ok r rest =>
    rw [hd] at h
    cases h
  | error e rest => exact ⟨e.text, rfl⟩

/-! ## Commands -/

/-- the mutations that a command leads to at node id, whose store is s; one that is refused leads to none -/
def mutations (c : Cluster) (id : NodeId) (s : Store) (cmd : Command) : List Mutation :=
  match c.evaluate id s cmd with
  | .ok (ms, _) => ms
  | .error _ => []

/-- they depend on the store alone -/
theorem mutations_eq (c c' : Cluster) (id : NodeId) (s : Store) (cmd : Command) :
    c.mutations id s cmd = c'.mutations id s cmd := by
  cases hw : cmd.writes with
  | true => rw [mutations, evaluate_writes hw c c' id id s, mutations]
  | false =>
    have hnone : ∀ c : Cluster, c.mutations id s cmd = [] := by
      intro c
      unfold mutations
      split
      · rename_i ms v h
        exact evaluate_still hw h
      · rfl
    rw [hnone c, hnone c']

/-- a master counts a command and commits what it leads to -/
theorem execute_snd (c : Cluster) (id : NodeId) (s : Store) (cmd : Command) :
    (c.execute id s cmd).2 = (c.tallied cmd).commit id (c.mutations id s cmd) := by
  rw [mutations_eq c (c.tallied cmd), mutations]
  cases h : (c.tallied cmd).evaluate id s cmd with
  | error f => rw [execute_error h]; rfl
  | ok x => rw [execute_ok h]

theorem respond_refused (hb : n.belief ≠ some id) (c : Cluster) (cmd : Command) :
    c.respond id n (.command cmd) = (.error (notMaster n), c) :=
  if_neg hb

/-! ## Responses -/

/-- **The gate**: but for the two requests that any node answers, a request is evaluated if it only reads and allows a
dirty read, or if the node believes itself master. Otherwise the node names the master that it believes in. -/
theorem respond_gate (hw : r ≠ .whoMaster) (hv : r ≠ .version) (c : Cluster) (id : NodeId) (n : Node) :
    n.admits id r = (r.readOnly && r.allowsDirty || n.belief = some id) ∧
      (n.admits id r = false → c.respond id n r = (.error (notMaster n), c)) := by
  cases r with
  | whoMaster => exact absurd rfl hw
  | version => exact absurd rfl hv
  | query q dirty => exact ⟨rfl, fun hm => if_neg (ne_true_of_eq_false hm)⟩
  | command cmd => exact ⟨rfl, fun hm => respond_refused (of_decide_eq_false hm) c cmd⟩

/-- no response counts a frame -/
theorem requests_respond (c : Cluster) (id : NodeId) (n : Node) (r : Request) (k : NodeId) :
    ((c.respond id n r).2.nodes.get? k).map Node.requests = (c.nodes.get? k).map Node.requests := by
  cases r with
  | whoMaster => exact map_adjust c id (f := fun n => { n with probes := n.probes + 1 }) (fun _ => rfl) k
  | version => rfl
  | query q dirty =>
    simp only [respond]
    split_ifs <;> rfl
  | command cmd =>
    by_cases hb : n.belief = some id
    · rw [respond_master c id n cmd hb, execute_snd, get?_commit, Option.map_map]
      refine Option.map_congr fun m _ => ?_
      simp only [Function.comp_apply]
      split_ifs <;> rfl
    · rw [respond_refused hb]

theorem requests_counted (c : Cluster) (id k : NodeId) :
    ((c.counted id).nodes.get? k).map Node.requests =
      (c.nodes.get? k).map fun m => if k = id then m.requests + 1 else m.requests := by
  rw [counted, adjust, SortedMap.get?_adjust]
  split_ifs
  · rw [Option.map_map]
    rfl
  · rfl

/-- a node that does not believe itself master answers as one aside, and counts no write -/
theorem respond_aside (hb : n.belief ≠ some id) (c : Cluster) (r : Request) :
    (c.respond id n r).1 = n.answerAside id r ∧ Tally.Unwritten c.tally (c.respond id n r).2.tally := by
  cases r with
  | whoMaster | version => exact ⟨rfl, .refl _⟩
  | query q dirty =>
    cases dirty with
    | true => exact ⟨rfl, Tally.unwritten_countQuery _ q⟩
    | false =>
      have hr : c.respond id n (.query q false) = (.error (notMaster n), c) := if_neg (by simp [hb])
      rw [hr]
      exact ⟨rfl, .refl _⟩
  | command cmd =>
    rw [respond_refused hb]
    exact ⟨rfl, .refl _⟩

theorem Quiet.stores {c' : Cluster} (h : Quiet c c') (k : NodeId) :
    (c'.nodes.get? k).map Node.store = (c.nodes.get? k).map Node.store := by
  have hk := congrArg (fun m => (SortedMap.get? m k).map Standing.store) h.standings
  simp only [get?_standings, Option.map_map] at hk
  exact hk

/-- stores change only where a node that believes itself master was asked to write -/
theorem stores_respond (c : Cluster) (id : NodeId) (n : Node) (r : Request) :
    (∀ k, ((c.respond id n r).2.nodes.get? k).map Node.store = (c.nodes.get? k).map Node.store) ∨
      n.belief = some id ∧ ∃ cmd, r = .command cmd ∧ cmd.writes = true := by
  by_cases h : n.belief = some id ∧ ∃ cmd, r = .command cmd ∧ cmd.writes = true
  · exact .inr h
  · left
    by_cases hb : n.belief = some id
    · refine (respond_still c id n fun cmd hcmd => ?_).stores
      exact eq_false_of_ne_true fun hw => h ⟨hb, cmd, hcmd, hw⟩
    · exact (quiet_respond c id n r fun _ _ => hb).stores

/-! ## Every frame -/

/-- what becomes of a frame at node id, whose state is n -/
structure Received (c : Cluster) (id : NodeId) (n : Node) (frame reply : Bytes) (c' : Cluster) : Prop where
  /-- there is one reply, of the form that the request asks for; bytes that are no request are refused -/
  reply : match Request.ofFrame? frame with
    | some r => ∃ outcome, reply = Reply.encode r.shape outcome
    | none => ∃ text, reply = Reply.refusal ⟨.unknown, text⟩
  /-- the frame is counted once, and at this node -/
  requests : ∀ k, (c'.nodes.get? k).map Node.requests =
    (c.nodes.get? k).map fun m => if k = id then m.requests + 1 else m.requests
  /-- no store changes, unless the node believes itself master and the frame is a request to write -/
  stores : (∀ k, (c'.nodes.get? k).map Node.store = (c.nodes.get? k).map Node.store) ∨
    n.belief = some id ∧ ∃ cmd, Request.ofFrame? frame = some (.command cmd) ∧ cmd.writes = true

/-- what becomes of it if the node does not believe itself master -/
structure TurnedAway (c : Cluster) (id : NodeId) (n : Node) (frame reply : Bytes) (c' : Cluster) : Prop where
  /-- only questions that any node answers, and reads that may be dirty, are answered -/
  reply : match Request.ofFrame? frame with
    | some r => reply = Reply.encode r.shape (n.answerAside id r)
    | none => ∃ text, reply = Reply.refusal ⟨.unknown, text⟩
  stores : ∀ k, (c'.nodes.get? k).map Node.store = (c.nodes.get? k).map Node.store
  tally : Tally.Unwritten c.tally c'.tally

theorem received (c : Cluster) (id : NodeId) (n : Node) (frame : Bytes) :
    Received c id n frame (c.receive id n frame).1 (c.receive id n frame).2 := by
  have hcounted := (quiet_counted c id).stores
  cases hr : Request.ofFrame? frame with
  | none =>
    obtain ⟨text, h⟩ := receive_garbage hr c id n
    rw [h]
    exact ⟨by rw [hr]; exact ⟨text, rfl⟩, requests_counted c id, .inl hcounted⟩
  | some r =>
    rw [receive_request_frame hr]
    refine ⟨by rw [hr]; exact ⟨_, rfl⟩, fun k => ?_, ?_⟩
    · rw [requests_respond, requests_counted]
    · rcases stores_respond (c.counted id) id n r with h | ⟨hb, cmd, rfl, hw⟩
      · exact .inl fun k => (h k).trans (hcounted k)
      · exact .inr ⟨hb, cmd, hr, hw⟩

theorem turnedAway (hb : n.belief ≠ some id) (c : Cluster) (frame : Bytes) :
    TurnedAway c id n frame (c.receive id n frame).1 (c.receive id n frame).2 := by
  have hstores := (received c id n frame).stores.resolve_right fun h => hb h.1
  refine ⟨?_, hstores, ?_⟩
  · cases hr : Request.ofFrame? frame with
    | none =>
      obtain ⟨text, h⟩ := receive_garbage hr c id n
      exact ⟨text, congrArg Prod.fst h⟩
    | some r =>
      simp only [receive_request_frame hr, (respond_aside hb (c.counted id) r).1]
  · cases hr : Request.ofFrame? frame with
    | none =>
      obtain ⟨text, h⟩ := receive_garbage hr c id n
      rw [h]
      exact .refl _
    | some r =>
      rw [receive_request_frame hr]
      exact (respond_aside hb (c.counted id) r).2

/-- **Only masters that are asked to write change data.** Whatever bytes a node of a cluster receives, in any state: it
sends one reply and counts the frame, and no store changes unless it believes itself master and the frame is a request
to set, confirm, delete, test and set, or carry out a sequence. If it does not believe itself master, then no write is
counted either, and the reply is what such a node answers. Sent to a node that can be reached, the reply is all that
comes back, and it comes back if the thread of the node answers in time. -/
theorem stores_guarded (c : Cluster) {id : NodeId} {n : Node} (hn : c.nodes.get? id = some n) (frame : Bytes) :
    let reply := (c.receive id n frame).1
    let c' := (c.receive id n frame).2
    Received c id n frame reply c' ∧ (n.belief ≠ some id → TurnedAway c id n frame reply c') ∧
      (n.alive = true → n.failingSends = 0 → network.send id frame c =
        match c.handling with
        | .answered => (.ok ⟨reply, .endOfInput⟩, c'.handed)
        | .late => (.error (unanswered id), c'.handed)
        | .dropped => (.error (unanswered id), c.handed)
        | .refused => (.error (stopped id), c.handed)) := by
  refine ⟨received c id n frame, fun hb => turnedAway hb c frame, fun ha hf => ?_⟩
  rw [network_send, send_reached ⟨hn, ha, hf⟩, hand]
  cases c.handling <;> rfl

/-- a request to write reaches node b, which believes in a: it names a, and all stores stay empty -/
theorem stores_guarded_elsewhere :
    let c := (ofNodes "c" ["a", "b"]).setMaster (some "a")
    let n : Node := { Node.fresh with belief := some "a" }
    let frame := Request.encode (.command (.set "k".toUTF8 "v".toUTF8))
    let reply := (c.receive "b" n frame).1
    let c' := (c.receive "b" n frame).2
    c.nodes.get? "b" = some n ∧ reply = Reply.refusal ⟨.notMaster, "a"⟩ ∧ Received c "b" n frame reply c' ∧
      TurnedAway c "b" n frame reply c' ∧ network.send "b" frame c = (.ok ⟨reply, .endOfInput⟩, c'.handed) := by
  intro c n frame reply c'
  have hn : c.nodes.get? "b" = some n := by
    simp [c, n, setMaster, get?_ofNodes]
  have hreply : reply = Reply.refusal ⟨.notMaster, "a"⟩ := by decide +kernel
  obtain ⟨hreceived, haway, hsent⟩ := stores_guarded c hn frame
  exact ⟨hn, hreply, hreceived, haway (by simp [n]), hsent rfl rfl⟩

end Cluster

end ReplicaKV
