/-
Opening a connection: a client sends a prologue, and the node answers whether it is of the client's cluster, or its
thread does not answer in time.

- `Reply.decode_refusal`: a refusal is not read as a success, however long its message is, cut off counts included.
- `Connects`: what becomes of an attempt to connect. `connects`: so it is whatever state the cluster is in.
- `Member c c'`: the cluster has its id and its nodes still. Nothing that happens changes these (`after_member`).
- `handshake`: prologues are read as the ids they name, and connections are opened accordingly.
-/
import ReplicaKV.Proofs.Simulation

namespace ReplicaKV

open ReplicaKV.Frame

/-- a refusal is not read as a success -/
theorem Reply.decode_refusal {s : Shape} {r : Refusal} (h : r.status ≠ .success) (v : s.Value) (r' : Reader) :
    decode s (start (.ofBytes (refusal r))) ≠ .ok (.ok v) r' := by
  intro hd
  have hrest : (start (.ofBytes (refusal r))).stream.rest = lowBytes 4 r.status.code.toNat ++
      (blob r.message.toUTF8 ++ lowBytes 4 (Checksum.ofBytes (notice r.status.code r.message)).toNat) := by
    have he : refusal r = finish (notice r.status.code r.message) := rfl
    rw [start, Stream.rest_ofBytes, he, list_finish, list_notice, List.append_assoc]
  obtain ⟨r₁, h₁, -⟩ := takes_u32 r.status.code _ _ hrest (by simp [start, sizeLimit])
  rw [decode_eq] at hd
  obtain ⟨r₂, h₂, -⟩ := closed_inv hd
  -- the status word says what it is, and then only a message is read
  rw [read, bind_ok h₁, if_neg (Status.code_ne_success h)] at h₂
  obtain ⟨m, r₃, -, h₃⟩ := bind_inv h₂
  cases (pure_inv h₃).1

namespace Cluster

variable {c c' c'' : Cluster} {id : NodeId} {n : Node} {clusterId : String}

/-! ## One attempt -/

/-- what becomes of an attempt to connect to node id, for a client of the cluster named -/
structure Connects (c : Cluster) (id : NodeId) (clusterId : String) (outcome : Except Fault Unit) (c' : Cluster) :
    Prop where
  /-- live nodes of the client's cluster whose thread answers in time accept it, and nobody else does -/
  accepted : outcome = .ok () ↔
    (∃ n, c.nodes.get? id = some n ∧ n.alive = true ∧ clusterId = c.id) ∧ c.handling = .answered
  /-- then the node counts the connection, and nothing else changes -/
  counted : outcome = .ok () → c'.id = c.id ∧ c'.tally = c.tally ∧ ∀ k, c'.nodes.get? k =
    (c.nodes.get? k).map fun n => if k = id then { n with opened := n.opened + 1 } else n
  /-- otherwise nothing changes, but that a packet may have been handed over -/
  untouched : ∀ e, outcome = .error e → ∃ threads, c' = c.setThreads threads
  /-- where threads answer in time, the fault tells a node that is not there from one that refuses -/
  refused : c.handling = .answered → ∀ e, outcome = .error e →
    e.kind = if (c.nodes.get? id).isSome then .connectionRefused else .notFound
  /-- a live node whose thread does not answer in time is not heard -/
  unheard : c.handling ≠ .answered → ∀ n, c.nodes.get? id = some n → n.alive = true →
    outcome = .error (if c.handling = .refused then stopped id else unanswered id)

theorem connect_down (hn : c.nodes.get? id = some n) (ha : n.alive = false) (clusterId : String) :
    ∃ text, c.connect id clusterId = (.error ⟨.connectionRefused, text⟩, c) := by
  refine ⟨s!"node {id} is down", ?_⟩
  rw [connect, hn]
  simp only [ha, Bool.not_false, if_true]

/-- a node refuses clients of other clusters -/
theorem connect_foreign (hn : c.nodes.get? id = some n) (ha : n.alive = true) (hh : c.handling = .answered)
    (hne : clusterId ≠ c.id) (hfit : (Prologue.body clusterId).size ≤ sizeLimit) :
    ∃ text, c.connect id clusterId = (.error ⟨.connectionRefused, text⟩, c.handed) := by
  obtain ⟨r, hd⟩ := Prologue.decode_encode hfit
  have hgreet : c.greet (Prologue.encode clusterId) =
      Reply.refusal ⟨.wrongCluster, s!"expected cluster {c.id}, got {clusterId}"⟩ := by
    rw [greet, hd]
    exact if_neg hne
  have hnever := Reply.decode_refusal (s := .unit)
    (r := ⟨.wrongCluster, s!"expected cluster {c.id}, got {clusterId}"⟩) Status.noConfusion ()
  rw [connect, hn]
  simp only [ha, Bool.not_true, Bool.false_eq_true, if_false, hand, hh, hgreet]
  -- a message that is too long to be read makes no difference
  split
  · rename_i r' h
    exact absurd h (hnever r')
  · exact ⟨_, rfl⟩
  · exact ⟨_, rfl⟩

/-- a live node whose thread does not answer in time -/
theorem connect_unheard (hn : c.nodes.get? id = some n) (ha : n.alive = true) (hh : c.handling ≠ .answered)
    (clusterId : String) : c.connect id clusterId =
      (.error (if c.handling = .refused then stopped id else unanswered id), c.handed) := by
  rw [connect, hn]
  simp only [ha, Bool.not_true, Bool.false_eq_true, if_false, hand]
  cases h : c.handling with
  | answered => exact absurd h hh
  | late | dropped | refused => rfl

/-- an attempt that fails where there is no live node, or the thread of the node answers in time -/
theorem Connects.of_error {e : Fault} (htouched : ∃ threads, c' = c.setThreads threads)
    (hkind : e.kind = if (c.nodes.get? id).isSome then .connectionRefused else .notFound)
    (hnot : ∀ n, c.nodes.get? id = some n → n.alive = true → clusterId ≠ c.id ∧ c.handling = .answered) :
    Connects c id clusterId (.error e) c' where
  accepted := ⟨nofun, fun ⟨⟨n, hn, ha, he⟩, _⟩ => absurd he (hnot n hn ha).1⟩
  counted := nofun
  untouched _ _ := htouched
  refused _ e' he := by
    cases he
    exact hkind
  unheard hh n hn ha := absurd (hnot n hn ha).2 hh

theorem Connects.of_unheard {e : Fault} (hh : c.handling ≠ .answered)
    (he : e = if c.handling = .refused then stopped id else unanswered id) :
    Connects c id clusterId (.error e) c.handed where
  accepted := ⟨nofun, fun h => absurd h.2 hh⟩
  counted := nofun
  untouched _ _ := ⟨_, rfl⟩
  refused hanswered := absurd hanswered hh
  unheard _ _ _ _ := by rw [he]

/-- every attempt to connect ends in one of these ways -/
theorem connects (c : Cluster) (id : NodeId) (hfit : (Prologue.body clusterId).size ≤ sizeLimit) :
    Connects c id clusterId (c.connect id clusterId).1 (c.connect id clusterId).2 := by
  cases hn : c.nodes.get? id with
  | none =>
    have h : c.connect id clusterId = (.error ⟨.notFound, s!"no simulated node {id}"⟩, c) := by rw [connect, hn]
    rw [h]
    exact .of_error ⟨c.threads, rfl⟩ (by rw [hn]; rfl) fun n hn' => by cases hn.symm.trans hn'
  | some n =>
    have huniq : ∀ n', c.nodes.get? id = some n' → n' = n := fun n' hn' => Option.some.inj (hn'.symm.trans hn)
    cases ha : n.alive with
    | false =>
      obtain ⟨text, h⟩ := connect_down hn ha clusterId
      rw [h]
      refine .of_error ⟨c.threads, rfl⟩ (by rw [hn]; rfl) fun n' hn' ha' => ?_
      rw [huniq n' hn', ha] at ha'
      cases ha'
    | true =>
      by_cases hh : c.handling = .answered
      · by_cases he : clusterId = c.id
        · subst he
          rw [connect_live hn ha hh (Prologue.size_body c.id ▸ hfit)]
          refine ⟨⟨fun _ => ⟨⟨n, hn, ha, rfl⟩, hh⟩, fun _ => rfl⟩, fun _ => ⟨rfl, rfl, fun k => ?_⟩,
            (fun e he => by cases he), (fun _ e he => by cases he), fun hno => absurd hh hno⟩
          rw [adjust, SortedMap.get?_adjust]
          split_ifs
          · rfl
          · exact Option.map_id'.symm
        · obtain ⟨text, h⟩ := connect_foreign hn ha hh he hfit
          rw [h]
          exact .of_error ⟨_, rfl⟩ (by rw [hn]; rfl) fun _ _ _ => ⟨he, hh⟩
      · rw [connect_unheard hn ha hh]
        exact .of_unheard hh rfl

/-! ## The same cluster -/

/-- the cluster has its id and its nodes still -/
structure Member (c c' : Cluster) : Prop where
  id : c'.id = c.id
  nodes : ∀ k, (c'.nodes.get? k).isSome = (c.nodes.get? k).isSome

theorem Member.refl (c : Cluster) : Member c c := ⟨rfl, fun _ => rfl⟩

theorem Member.trans (h : Member c c') (h' : Member c' c'') : Member c c'' :=
  ⟨h'.id.trans h.id, fun k => (h'.nodes k).trans (h.nodes k)⟩

theorem Steady.member (h : Steady c c') : Member c c' := by
  have hposts : ∀ (c : Cluster) k, (c.posts.get? k).isSome = (c.nodes.get? k).isSome := by
    intro c k
    rw [Cluster.posts, SortedMap.get?_mapValues, get?_standings, Option.isSome_map, Option.isSome_map]
  exact ⟨h.id, fun k => by rw [← hposts, ← hposts, h.posts]⟩

theorem member_adjust (c : Cluster) (id : NodeId) (f : Node → Node) : Member c (c.adjust id f) := by
  refine ⟨rfl, fun k => ?_⟩
  rw [adjust, SortedMap.get?_adjust]
  split_ifs
  · exact Option.isSome_map
  · rfl

/-- no change from outside adds or removes a node -/
theorem member_control {op : Op} {f : Cluster → Cluster} (h : op.control? = some f) : Member c (f c) := by
  cases op with
  | setMaster m =>
    cases h
    exact ⟨rfl, fun k => by simp only [setMaster, SortedMap.get?_mapValues, Option.isSome_map]⟩
  | setBelief | setAlive | failSends => cases h; exact member_adjust c _ _
  | setThreads => cases h; exact ⟨rfl, fun _ => rfl⟩
  | _ => cases h

end Cluster

namespace Simulation

open Cluster (Connects Member)

theorem step_member (fuel : Nat) (s : Simulation) (op : Op) : Member s.cluster (s.step fuel op).2.cluster := by
  rcases step_cases fuel s op with ⟨i, c, x, -, -, hs⟩ | ⟨f, hf, hs | hs⟩ | ⟨name, frame, id, -, hs, -, -⟩ | hi
  · rw [hs]
    exact (Cluster.steady_network.call fuel c (s.scene x)).2.member
  · rw [hs]
    exact .refl _
  · rw [hs]
    exact Cluster.member_control hf
  · rw [hs]
    exact (Cluster.steady_send s.cluster id frame).member
  · exact hi.quiet.steady.member

theorem after_member (s : Simulation) (es : List Happening) : Member s.cluster (s.after es).cluster := by
  induction es using List.reverseRecOn with
  | nil => exact .refl _
  | append_singleton es e ih =>
    rw [after_concat]
    cases e with
    | operate fuel op => exact ih.trans (step_member fuel _ op)
    | arrive config draws => exact ih

/-- what is there once a link was to be opened: an open one, with nothing to read, if the node accepts -/
structure Opens (s : Simulation) (name : String) (id : NodeId) (outcome : Except Fault Unit) (answer : Answer)
    (s' : Simulation) : Prop where
  opened : outcome = .ok () → answer = .done ∧
    ∃ l, s'.links.get? name = some l ∧ l.node = id ∧ l.isOpen = true ∧ l.stream.unread = ByteArray.empty
  fault : ∀ e, outcome = .error e → answer = .fault e ∧ s'.links = s.links

theorem opens (fuel : Nat) {s : Simulation} {name : String} (hname : s.links.get? name = none) (id : NodeId)
    (clusterId : String) :
    Opens s name id (s.cluster.connect id clusterId).1 (s.step fuel (.openLink name id clusterId)).1
        (s.step fuel (.openLink name id clusterId)).2 ∧
      (s.step fuel (.openLink name id clusterId)).2.cluster = (s.cluster.connect id clusterId).2 := by
  simp only [step]
  rcases s.cluster.connect id clusterId with ⟨e | u, c⟩
  · refine ⟨⟨?_, ?_⟩, rfl⟩
    · rintro ⟨⟩
    · rintro _ ⟨⟩
      exact ⟨rfl, rfl⟩
  · have hclosed : ({ s with cluster := c } : Simulation).closed name = { s with cluster := c } := by
      simp only [closed, hname]
    simp only [hclosed]
    refine ⟨⟨fun _ => ⟨rfl, ⟨id, .empty, true⟩, ?_, rfl, rfl, rfl⟩, ?_⟩, trivial⟩
    · rw [SortedMap.get?_insert, if_pos Std.compare_self]
    · rintro _ ⟨⟩

/-- **The handshake.** The prologue of a cluster id that fits a frame is read as that id, says itself where it ends, and
of a part of it nothing is made. And whatever has happened to a cluster and its clients, where threads answer in time a
connection is opened exactly at those of its nodes that are alive, for clients of this cluster. It is open, with nothing
to read; the node counts it, and nothing else changes. Otherwise nothing changes at all, and the fault tells a node that
is not there from one that refuses. A thread that does not answer in time makes the attempt fail likewise. -/
theorem handshake {named : String} (hfit : (Prologue.body named).size ≤ sizeLimit) :
    Delimits Prologue.decode (Prologue.encode named) named ∧
    ∀ (clusterId : String) (ids : List NodeId) (es : List Happening) (id : NodeId),
      let s := (initial clusterId ids []).after es
      let tried := s.cluster.connect id named
      Connects s.cluster id named tried.1 tried.2 ∧
        s.cluster.id = clusterId ∧ ((s.cluster.nodes.get? id).isSome ↔ id ∈ ids) ∧
        ∀ fuel name, s.links.get? name = none →
          Opens s name id tried.1 (s.step fuel (.openLink name id named)).1 (s.step fuel (.openLink name id named)).2 ∧
            (s.step fuel (.openLink name id named)).2.cluster = tried.2 := by
  refine ⟨Prologue.delimits hfit, ?_⟩
  intro clusterId ids es id s tried
  have hmember : Member (Cluster.ofNodes clusterId ids) s.cluster := after_member (initial clusterId ids []) es
  refine ⟨Cluster.connects s.cluster id hfit, hmember.id, ?_, fun fuel name hname => opens fuel hname id named⟩
  rw [hmember.nodes, Cluster.get?_ofNodes]
  split_ifs with hid <;> simp [hid]

/-- one node accepts, one is down, one does not exist, and none accepts a client of another cluster -/
theorem handshake_refused :
    let s := (initial "c" ["a", "b"] []).after [.operate 0 (.setAlive "b" false)]
    ((Prologue.body "c").size ≤ sizeLimit ∧ (Prologue.body "d").size ≤ sizeLimit) ∧
      (s.cluster.connect "a" "c").1 = .ok () ∧
      (∃ e, (s.cluster.connect "b" "c").1 = .error e ∧ e.kind = .connectionRefused) ∧
      (∃ e, (s.cluster.connect "z" "c").1 = .error e ∧ e.kind = .notFound) ∧
      ∃ e, (s.cluster.connect "a" "d").1 = .error e ∧ e.kind = .connectionRefused := by
  intro s
  have hc : (Prologue.body "c").size ≤ sizeLimit := by decide +kernel
  have hd : (Prologue.body "d").size ≤ sizeLimit := by decide +kernel
  have same := (handshake hc).2 "c" ["a", "b"] [.operate 0 (.setAlive "b" false)]
  have other := (handshake hd).2 "c" ["a", "b"] [.operate 0 (.setAlive "b" false)]
  have live : s.cluster.nodes.get? "a" = some .fresh := rfl
  have down : s.cluster.nodes.get? "b" = some { Node.fresh with alive := false } := rfl
  have refused : ∀ {id named outcome c'}, Connects s.cluster id named outcome c' → outcome ≠ .ok () →
      ∃ e, outcome = .error e ∧
        e.kind = if (s.cluster.nodes.get? id).isSome then .connectionRefused else .notFound := by
    intro id named outcome c' h hnot
    rcases outcome with e | u
    · exact ⟨e, rfl, h.refused rfl e rfl⟩
    · exact absurd rfl hnot
  refine ⟨⟨hc, hd⟩, (same "a").1.accepted.2 ⟨⟨_, live, rfl, (same "a").2.1.symm⟩, rfl⟩, ?_, ?_, ?_⟩
  · refine refused (same "b").1 fun h => ?_
    obtain ⟨⟨n, hn, ha, -⟩, -⟩ := (same "b").1.accepted.1 h
    cases hn.symm.trans down
    cases ha
  · refine refused (same "z").1 fun h => ?_
    obtain ⟨⟨n, hn, -⟩, -⟩ := (same "z").1.accepted.1 h
    cases hn
  · refine refused (other "a").1 fun h => ?_
    obtain ⟨⟨-, -, -, hid⟩, -⟩ := (other "a").1.accepted.1 h
    exact absurd hid (by decide)

end Simulation

end ReplicaKV
