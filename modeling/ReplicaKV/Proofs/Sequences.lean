/-
Sequences are all or nothing, and equal to their updates made one after the other.

A master tries a sequence out on a copy of its store and notes mutations. These are carried out afterwards, by itself and
by the other live nodes, whatever they hold. That is right because of what the mutations lead to (`planFrom_run`), and
because none are noted for a sequence of which an update fails.

- `Carried`, `Sequenced`: what becomes of a sequence at a master, and of the stores.
- `sequence_all_or_nothing`: so it is for every sequence at every master, and for every frame that is read as one.
-/
import ReplicaKV.Proofs.Statistics
import ReplicaKV.Proofs.Updates

namespace ReplicaKV

namespace Cluster

variable {c c₁ c' : Cluster} {id : NodeId} {n : Node} {s s' : Store} {us : List Update} {sync : Bool}

/-- node id went from store s to store s', and so did every live node that held the same; other nodes that are down keep
their stores -/
structure Carried (c : Cluster) (id : NodeId) (s s' : Store) (c' : Cluster) : Prop where
  own : (c'.nodes.get? id).map Node.store = some s'
  live : ∀ k m, c.nodes.get? k = some m → m.alive = true → m.store = s → (c'.nodes.get? k).map Node.store = some s'
  down : ∀ k m, c.nodes.get? k = some m → m.alive = false → k ≠ id → (c'.nodes.get? k).map Node.store = some m.store

/-- what becomes of a sequence at node id, which leads and whose store is s: all updates are made, or the first one that
fails is refused and no store changes -/
def Sequenced (c : Cluster) (id : NodeId) (s : Store) (us : List Update) (outcome : Except Refusal Unit)
    (c' : Cluster) : Prop :=
  match us.foldlM Update.run? s with
  | some s' => outcome = .ok () ∧ Carried c id s s' c' ∧
      c'.tally.entries = c.tally.entries + us.countP Update.changes
  | none => ∃ before u after s', us = before ++ u :: after ∧ before.foldlM Update.run? s = some s' ∧
      u.run? s' = none ∧ outcome = .error u.refusal ∧
      (∀ k, (c'.nodes.get? k).map Node.store = (c.nodes.get? k).map Node.store) ∧ c'.tally.entries = c.tally.entries

theorem Carried.of_quiet (h : Quiet c c₁) (hc : Carried c₁ id s s' c') : Carried c id s s' c' where
  own := hc.own
  live k m hm ha hs := by
    obtain ⟨m₁, hm₁, hst⟩ := h.node' hm
    exact hc.live k m₁ hm₁ ((congrArg Standing.alive hst).trans ha) ((congrArg Standing.store hst).trans hs)
  down k m hm ha hk := by
    obtain ⟨m₁, hm₁, hst⟩ := h.node' hm
    rw [hc.down k m₁ hm₁ ((congrArg Standing.alive hst).trans ha) hk]
    exact congrArg some (congrArg Standing.store hst)

/-- what was counted before does not matter -/
theorem Sequenced.of_quiet {outcome : Except Refusal Unit} (h : Quiet c c₁)
    (he : c₁.tally.entries = c.tally.entries) (hs : Sequenced c₁ id s us outcome c') :
    Sequenced c id s us outcome c' := by
  unfold Sequenced at hs ⊢
  split at hs
  · obtain ⟨ho, hcarried, hentries⟩ := hs
    exact ⟨ho, hcarried.of_quiet h, hentries.trans (by rw [he])⟩
  · obtain ⟨before, u, after, s', hus, hbefore, hu, ho, hstores, hentries⟩ := hs
    exact ⟨before, u, after, s', hus, hbefore, hu, ho, fun k => (hstores k).trans (h.stores k), hentries.trans he⟩

/-- mutations that node id passes on lead every live node that held the same to the same -/
theorem carried_commit (hn : (c.nodes.get? id).map Node.store = some s) {ms : List Mutation}
    (hs : s.applyAll ms = s') : Carried c id s s' (c.commit id ms) where
  own := by
    obtain ⟨m, hm, rfl⟩ := Option.map_eq_some_iff.1 hn
    rw [stores_commit, hm]
    simp [hs]
  live k m hm ha he := by
    rw [stores_commit, hm]
    simp [ha, he, hs]
  down k m hm ha hk := by
    rw [stores_commit, hm]
    simp [ha, hk]

/-- a master evaluates a sequence on a copy and carries it out afterwards -/
theorem sequenced_execute (hn : (c.nodes.get? id).map Node.store = some s) (us : List Update) (sync : Bool) :
    Sequenced c id s us (c.execute id s (.sequence us sync)).1 (c.execute id s (.sequence us sync)).2 := by
  have hq := quiet_tallied c (.sequence us sync)
  have hentries : (c.tallied (.sequence us sync)).tally.entries = c.tally.entries := rfl
  refine Sequenced.of_quiet hq hentries ?_
  have hevaluate : (c.tallied (.sequence us sync)).evaluate id s (.sequence us sync) =
      (s.plan us).map fun ms => (ms, ()) := rfl
  have hplan := s.planFrom_run [] us
  unfold Sequenced
  cases hm : us.foldlM Update.run? s with
  | some s' =>
    rw [hm] at hplan
    obtain ⟨ms, hms, happly, hlength⟩ := hplan
    have hms' : s.plan us = .ok ms := hms
    rw [hms'] at hevaluate
    rw [execute_ok hevaluate]
    obtain ⟨applied, htally⟩ := tally_commit (c.tallied (.sequence us sync)) id ms
    refine ⟨rfl, carried_commit ((hq.stores id).trans hn) happly, ?_⟩
    rw [htally, ← hlength]
  | none =>
    rw [hm] at hplan
    obtain ⟨before, u, after, s', hus, hbefore, hu, hr⟩ := hplan
    have hr' : s.plan us = .error u.refusal := hr
    rw [hr'] at hevaluate
    rw [execute_error hevaluate]
    exact ⟨before, u, after, s', hus, hbefore, hu, rfl, fun _ => rfl, rfl⟩

/-- **Sequences are all or nothing.** A node that believes itself master is put a sequence of updates, to be synced or
not. If all of them succeed, made one after the other on its store, then the answer is that they did, its store and that
of every live node that held the same become what they lead to, and the entries grow by the updates that set or delete.
If one fails, the refusal is that of the first one that does, with the key that it is about, and no store changes. The
same holds of any frame that is read as this request, and the reply has that answer. -/
theorem sequence_all_or_nothing (hn : c.nodes.get? id = some n) (hb : n.belief = some id) (us : List Update)
    (sync : Bool) :
    let request := Request.command (.sequence us sync)
    Sequenced c id n.store us (c.respond id n request).1 (c.respond id n request).2 ∧
      ∀ frame, Request.ofFrame? frame = some request → ∃ outcome,
        (c.receive id n frame).1 = Reply.encode .unit outcome ∧
          Sequenced c id n.store us outcome (c.receive id n frame).2 := by
  intro request
  have hown : (c.nodes.get? id).map Node.store = some n.store := by rw [hn]; rfl
  constructor
  · rw [respond_master c id n _ hb]
    exact sequenced_execute hown us sync
  · intro frame hframe
    have hq := quiet_counted c id
    have hexecute := sequenced_execute ((hq.stores id).trans hown) us sync
    refine ⟨((c.counted id).execute id n.store (.sequence us sync)).1, ?_, ?_⟩
    · rw [receive_request_frame hframe, respond_master (c.counted id) id n _ hb]
      rfl
    · rw [receive_request_frame hframe, respond_master (c.counted id) id n _ hb]
      exact hexecute.of_quiet hq rfl

/-- a key that is set, found, deleted and found absent by one sequence, and what the same sequence comes to if it asserts
that the key is still there -/
theorem sequence_all_or_nothing_two_nodes :
    let c := (ofNodes "c" ["a", "b"]).setMaster (some "a")
    let n : Node := { Node.fresh with belief := some "a" }
    let k := "k".toUTF8
    let v := "v".toUTF8
    let good : List Update := [.set k v, .assert k (some v), .delete k, .assert k none, .set v k]
    let bad : List Update := [.set k v, .delete k, .assertExists k, .set v k]
    (good.foldlM Update.run? n.store).map SortedMap.entries = some [(v, k)] ∧ bad.foldlM Update.run? n.store = none ∧
      Sequenced c "a" n.store good (c.respond "a" n (.command (.sequence good true))).1
        (c.respond "a" n (.command (.sequence good true))).2 ∧
      Sequenced c "a" n.store bad (c.respond "a" n (.command (.sequence bad false))).1
        (c.respond "a" n (.command (.sequence bad false))).2 := by
  intro c n k v good bad
  have hn : c.nodes.get? "a" = some n := by
    simp [c, n, setMaster, get?_ofNodes]
  refine ⟨by decide +kernel, ?_, ?_, ?_⟩
  · rw [← Option.isNone_iff_eq_none]
    decide +kernel
  · exact (sequence_all_or_nothing hn rfl good true).1
  · exact (sequence_all_or_nothing hn rfl bad false).1

end Cluster

end ReplicaKV
