/-
What no action on a cluster changes.

- `Small`: every entry of every store fits a frame, with room for a header. Entries come from frames that were read, so
  this stays so whatever bytes are sent (`mutations_small`: what a command puts is no larger than the command).
- `Steady c c'`: the cluster's id, its nodes, whether they are alive and whom they believe in are the same; no sends
  have been made to fail; small stores stay small.
- `steady_network`: every action on a cluster is steady, and so is every call of a client (`Network.Keeps.call`).
-/
import ReplicaKV.Proofs.Cluster.Standing
import ReplicaKV.Proofs.Request.Canonical

namespace ReplicaKV

open ReplicaKV.Frame

/-! ## What a command puts -/

namespace Store

theorem step_put {s : Store} {u : Update} {ms : List Mutation} {k v : Bytes} (h : s.step u = .ok ms)
    (hm : .put k v ∈ ms) : u = .set k v := by
  cases u with
  | set k' v' =>
    cases h
    simpa [eq_comm] using hm
  | delete k' =>
    simp only [step] at h
    split_ifs at h
    cases h
    simp at hm
  | assert k' v' =>
    simp only [step] at h
    cases hc : s.checkValue k' v' with
    | error r => rw [hc] at h; cases h
    | ok x => rw [hc] at h; cases h; simp at hm
  | assertExists k' =>
    simp only [step] at h
    cases hc : s.checkExists k' with
    | error r => rw [hc] at h; cases h
    | ok x => rw [hc] at h; cases h; simp at hm

/-- a sequence puts what its updates set -/
theorem planFrom_put {done ms : List Mutation} {s : Store} {us : List Update} {k v : Bytes}
    (h : planFrom done s us = .ok ms) (hm : .put k v ∈ ms) : .put k v ∈ done ∨ .set k v ∈ us := by
  induction us generalizing done s with
  | nil => cases h; exact .inl (List.mem_reverse.1 hm)
  | cons u us ih =>
    simp only [planFrom] at h
    cases hs : s.step u with
    | error r => rw [hs] at h; cases h
    | ok new =>
      rw [hs] at h
      rcases ih h with hd | hu
      · rcases List.mem_append.1 hd with hn | hd
        · have hset := step_put hs (List.mem_reverse.1 hn)
          exact .inr (hset ▸ List.mem_cons_self)
        · exact .inl hd
      · exact .inr (List.mem_cons_of_mem _ hu)

end Store

theorem Request.size_body (r : Request) : r.body.size = 4 + r.argumentBytes.length := by
  rw [← list_size, list_body, List.length_append, length_lowBytes]

theorem length_optional_some (v : Bytes) : (Frame.optional blob (some v)).length = 5 + v.size := by
  rw [show Frame.optional blob (some v) = flagByte true ++ blob v from rfl, List.length_append, length_blob, flagByte,
    List.length_singleton]
  omega

/-- an item takes its place among the bytes of a list -/
theorem length_le_listing {α : Type} (bytes : α → List UInt8) {l : List α} {v : α} (h : v ∈ l) :
    4 + (bytes v).length ≤ (listing bytes l).length := by
  rw [listing, List.length_append, length_countBytes]
  have := (List.sublist_flatten_of_mem (List.mem_map_of_mem (f := bytes) h)).length_le
  rw [List.flatMap]
  omega

/-- what a command puts is no larger than the command -/
theorem mutations_small {c : Cluster} {id : NodeId} {s : Store} {cmd : Command} {ms : List Mutation}
    {x : cmd.shape.Value} (h : c.evaluate id s cmd = .ok (ms, x)) {k v : Bytes} (hm : .put k v ∈ ms) :
    k.size + v.size + 12 ≤ (Request.command cmd).body.size := by
  rw [Request.size_body]
  cases cmd with
  | set k' v' =>
    cases h
    obtain ⟨rfl, rfl⟩ : k = k' ∧ v = v' := by simpa using hm
    simp only [Request.argumentBytes, Command.bytes, List.length_append, length_blob]
    omega
  | confirm k' v' =>
    simp only [Cluster.evaluate] at h
    cases h
    obtain ⟨rfl, rfl⟩ : k = k' ∧ v = v' := by
      split_ifs at hm
      · simp at hm
      · simpa using hm
    simp only [Request.argumentBytes, Command.bytes, List.length_append, length_blob]
    omega
  | testAndSet k' expected wanted =>
    simp only [Cluster.evaluate] at h
    cases h
    obtain ⟨rfl, rfl⟩ : k = k' ∧ wanted = some v := by
      split_ifs at hm
      · cases wanted with
        | none => simp at hm
        | some w => simpa [eq_comm] using hm
      · simp at hm
    simp only [Request.argumentBytes, Command.bytes, List.length_append, length_blob, length_optional_some]
    omega
  | sequence us sync =>
    simp only [Cluster.evaluate] at h
    cases hp : s.plan us with
    | error r => rw [hp] at h; cases h
    | ok ms' =>
      rw [hp] at h
      cases h
      have hset : .set k v ∈ us := by simpa using Store.planFrom_put hp hm
      have hl := length_le_listing Update.bytes hset
      simp only [Update.bytes, List.length_append, length_lowBytes, length_blob] at hl
      simp only [Request.argumentBytes, Command.bytes]
      omega
  | delete k' =>
    simp only [Cluster.evaluate] at h
    split_ifs at h
    cases h
    simp at hm
  | ping clientId clusterId =>
    simp only [Cluster.evaluate] at h
    split_ifs at h
    cases h
    cases hm
  | userFunction name argument =>
    simp only [Cluster.evaluate] at h
    split_ifs at h
    cases h
    cases hm
  | getKeyCount | expectProgressPossible | statistics => cases h; cases hm

/-! ## Small stores -/

/-- every entry fits a frame, with room for a header -/
def Store.Small (s : Store) : Prop := ∀ p ∈ s.entries, p.1.size + p.2.size + 12 ≤ sizeLimit

namespace Store.Small

variable {s : Store}

theorem apply {m : Mutation} (h : s.Small) (hm : ∀ k v, m = .put k v → k.size + v.size + 12 ≤ sizeLimit) :
    (s.apply m).Small := by
  cases m with
  | put k v =>
    intro p hp
    rcases SortedMap.mem_place hp with rfl | hp
    · exact hm k v rfl
    · exact h p hp
  | remove k => exact fun p hp => h p (List.mem_of_mem_filter hp)

theorem applyAll {ms : List Mutation} (h : s.Small)
    (hm : ∀ k v, .put k v ∈ ms → k.size + v.size + 12 ≤ sizeLimit) : (s.applyAll ms).Small := by
  induction ms generalizing s with
  | nil => exact h
  | cons m ms ih =>
    refine ih (h.apply fun k v hkv => hm k v (hkv ▸ List.mem_cons_self)) ?_
    intro k v hkv
    exact hm k v (List.mem_cons_of_mem _ hkv)

theorem value (h : s.Small) {k v : Bytes} (hv : s.get? k = some v) : v.size + 12 ≤ sizeLimit := by
  have := h _ (SortedMap.get?_eq_some_iff.1 hv)
  simp only at this
  omega

end Store.Small

namespace Cluster

/-- every store is small -/
def Small (c : Cluster) : Prop := ∀ k st, c.standings.get? k = some st → st.store.Small

/-- mutations are counted for nodes of the cluster only -/
def Tallied (c : Cluster) : Prop := ∀ p ∈ c.tally.applied.entries, ∃ st, c.standings.get? p.1 = some st

/-! ## Steady clusters -/

/-- whether nodes are alive, and whom they believe in -/
def posts (c : Cluster) : SortedMap NodeId (Bool × Option NodeId) :=
  c.standings.mapValues fun _ st => (st.alive, st.belief)

/-- the id and the nodes are the same, with their beliefs; no sends have been made to fail, and threads are no slower;
small stores stay small, and mutations are counted for the nodes -/
structure Steady (c c' : Cluster) : Prop where
  id : c'.id = c.id
  posts : c'.posts = c.posts
  reliable : c.Reliable → c'.Reliable
  threads : NoSlower c c'
  small : c.Small → c'.Small
  tallied : c.Tallied → c'.Tallied

variable {c c' c'' : Cluster}

theorem Steady.refl (c : Cluster) : Steady c c := ⟨rfl, rfl, fun h => h, .refl c, fun h => h, fun h => h⟩

theorem Steady.trans (h : Steady c c') (h' : Steady c' c'') : Steady c c'' :=
  ⟨h'.id.trans h.id, h'.posts.trans h.posts, fun hr => h'.reliable (h.reliable hr), h.threads.trans h'.threads,
    fun hs => h'.small (h.small hs), fun ht => h'.tallied (h.tallied ht)⟩

theorem Quiet.steady (h : Quiet c c') : Steady c c' :=
  ⟨h.id, by rw [Cluster.posts, Cluster.posts, h.standings], h.reliable, h.threads,
    fun hs => by rwa [Small, h.standings], fun ht => by rwa [Tallied, h.applied, h.standings]⟩

/-- steady clusters have equally many nodes -/
theorem Steady.size (h : Steady c c') : c'.nodes.size = c.nodes.size := by
  have hsize : ∀ c : Cluster, c.posts.size = c.nodes.size := by
    intro c
    simp only [Cluster.posts, standings, SortedMap.size, SortedMap.mapValues, List.length_map]
  rw [← hsize, ← hsize, h.posts]

theorem keys_counts (ids : List NodeId) (n : Nat) (m : SortedMap NodeId Nat) :
    ∀ p ∈ (ids.foldl (fun m id => m.insert id ((m.get? id).getD 0 + n)) m).entries,
      p.1 ∈ ids ∨ ∃ q ∈ m.entries, q.1 = p.1 := by
  induction ids generalizing m with
  | nil => exact fun p hp => .inr ⟨p, hp, rfl⟩
  | cons id ids ih =>
    intro p hp
    rcases ih _ p hp with hid | ⟨q, hq, he⟩
    · exact .inl (List.mem_cons_of_mem _ hid)
    · rcases SortedMap.mem_place hq with rfl | hq
      · exact .inl (he ▸ List.mem_cons_self)
      · exact .inr ⟨q, hq, he⟩

/-- what is committed is counted for nodes that take it in -/
theorem tallied_commit (c : Cluster) (id : NodeId) (ms : List Mutation) (h : c.Tallied) : (c.commit id ms).Tallied := by
  have hkeep : ∀ k, (∃ st, c.standings.get? k = some st) → ∃ st, (c.commit id ms).standings.get? k = some st := by
    intro k hk
    obtain ⟨st, hst⟩ := hk
    exact ⟨_, by rw [standings_commit, SortedMap.get?_mapValues, hst]; rfl⟩
  intro p hp
  refine hkeep p.1 ?_
  unfold commit at hp
  split_ifs at hp
  · exact h p hp
  · rcases keys_counts _ ms.length c.tally.applied p hp with hid | ⟨q, hq, he⟩
    · obtain ⟨⟨k, n⟩, hn, rfl⟩ := List.mem_map.1 hid
      exact ⟨n.standing, standing_of_node (SortedMap.get?_eq_some_iff.2 (List.mem_of_mem_filter hn))⟩
    · rw [← he]
      exact h q hq

theorem steady_commit (c : Cluster) (id : NodeId) {ms : List Mutation}
    (hm : ∀ k v, .put k v ∈ ms → k.size + v.size + 12 ≤ sizeLimit) : Steady c (c.commit id ms) := by
  refine ⟨id_commit c id ms, ?_, reliable_commit id ms, ?_, ?_, tallied_commit c id ms⟩
  · apply SortedMap.ext_get?
    intro k
    rw [Cluster.posts, Cluster.posts, standings_commit]
    simp only [SortedMap.get?_mapValues, Option.map_map]
    apply Option.map_congr
    intro st _
    simp only [Function.comp_apply, Standing.takeIn]
    split_ifs <;> rfl
  · rw [NoSlower, threads_commit]
    exact NoSlower.refl c
  · intro hs k st hst
    rw [standings_commit, SortedMap.get?_mapValues] at hst
    obtain ⟨st₀, hst₀, rfl⟩ := Option.map_eq_some_iff.1 hst
    unfold Standing.takeIn
    split_ifs
    · exact (hs k st₀ hst₀).applyAll hm
    · exact hs k st₀ hst₀

theorem steady_execute (c : Cluster) (id : NodeId) (s : Store) (cmd : Command)
    (hf : (Request.command cmd).body.size ≤ sizeLimit) : Steady c (c.execute id s cmd).2 := by
  cases h : (c.tallied cmd).evaluate id s cmd with
  | error r => rw [execute_error h]; exact (quiet_tallied c cmd).steady
  | ok x =>
    obtain ⟨ms, v⟩ := x
    rw [execute_ok h]
    exact (quiet_tallied c cmd).steady.trans (steady_commit _ id fun k v hm => (mutations_small h hm).trans hf)

theorem steady_respond (c : Cluster) (id : NodeId) (n : Node) (r : Request) (hf : r.body.size ≤ sizeLimit) :
    Steady c (c.respond id n r).2 := by
  by_cases h : ∃ cmd, r = .command cmd ∧ n.belief = some id
  · obtain ⟨cmd, rfl, hb⟩ := h
    rw [respond_master c id n cmd hb]
    exact steady_execute c id n.store cmd hf
  · exact (quiet_respond c id n r fun cmd hr hb => h ⟨cmd, hr, hb⟩).steady

/-- whatever bytes a node receives -/
theorem steady_receive (c : Cluster) (id : NodeId) (n : Node) (frame : Bytes) : Steady c (c.receive id n frame).2 := by
  unfold receive
  split
  · rename_i r r' h
    exact (quiet_counted c id).steady.trans (steady_respond _ id n r (Request.fits_of_decode h))
  · exact (quiet_counted c id).steady

theorem steady_send (c : Cluster) (id : NodeId) (frame : Bytes) : Steady c (c.send id frame).2 := by
  rcases c.send_received id frame with ⟨hq, -⟩ | ⟨n, -, -, h⟩
  · exact hq.steady
  · rw [h]
    exact (steady_receive c id n frame).trans (quiet_handed _).steady

theorem network_send (id : NodeId) (frame : Bytes) (c : Cluster) :
    network.send id frame c = (((c.send id frame).1.map fun bytes => ⟨bytes, .endOfInput⟩), (c.send id frame).2) := by
  unfold network
  simp only
  rcases c.send id frame with ⟨e | bytes, c'⟩ <;> rfl

/-- **Every action on a cluster is steady.** -/
theorem steady_network : network.Keeps Steady where
  refl := .refl
  trans _ _ _ := .trans
  connect id _ clusterId c := (quiet_connect c id clusterId).steady
  send id frame c := by rw [network_send]; exact steady_send c id frame
  close id c := (quiet_close c id).steady
  note _ c := .refl c

end Cluster

end ReplicaKV
