/-
A client keeps to the nodes of its settings, whatever the nodes claim and whatever its network does.

- `Client.Configured`: the node for dirty reads, the master and the nodes with an open connection are in the settings.
- `Upright`: the settings stay, and a configured client stays configured. `upheld_upright`: every step of a client is
  upright. The ids in answers come in only where the node they name was asked itself, and only nodes of the settings are.
- `call_fails_configured`: so the failures that accuse the settings or the table of connections are never seen, and an
  unknown node is only one that the caller named. `configured_throughout` says both of any calls of a new client.
-/
import ReplicaKV.Proofs.MasterCache
import ReplicaKV.Proofs.Network.Failures

namespace ReplicaKV

namespace Client

/-- the nodes that a client has to do with are nodes of its settings -/
structure Configured (x : Client) : Prop where
  dirtyNode : x.dirtyNode ∈ x.config.nodeIds
  master : ∀ m, x.master = some m → m ∈ x.config.nodeIds
  connected : ∀ id ∈ x.connected, id ∈ x.config.nodeIds

/-- a new client has drawn one of its nodes -/
theorem new_dirtyNode (config : Config) (draws : List Nat) :
    config.nodeIds[min (draws.headD 0) (config.nodeIds.length - 1)]? = some (new config draws).dirtyNode := by
  have hpos : 0 < config.nodeIds.length := by
    have h := config.nodes_isEmpty
    rw [SortedMap.isEmpty, List.isEmpty_eq_false_iff_exists_mem] at h
    obtain ⟨p, hp⟩ := h
    exact List.length_pos_of_mem (List.mem_map_of_mem hp)
  have hi : min (draws.headD 0) (config.nodeIds.length - 1) < config.nodeIds.length := by omega
  simp only [new, List.getElem?_eq_getElem hi, Option.getD_some]

/-- building a client never fails -/
theorem build_eq (config : Config) (draws : List Nat) : build config draws = .ok (new config draws) := by
  simp only [build, new_dirtyNode]
  rfl

theorem configured_new (config : Config) (draws : List Nat) : (new config draws).Configured :=
  ⟨List.mem_of_getElem? (new_dirtyNode config draws), nofun, nofun⟩

end Client

namespace Scene

variable {W : Type} {net : Network W} {s s' s'' : Scene W} {id : NodeId}

/-! ## Steps -/

/-- the settings stay, and a configured client stays configured -/
def Upright (s s' : Scene W) : Prop :=
  s'.client.config = s.client.config ∧ (s.client.Configured → s'.client.Configured)

theorem Upright.refl (s : Scene W) : Upright s s := ⟨rfl, fun h => h⟩

theorem Upright.trans (h : Upright s s') (h' : Upright s' s'') : Upright s s'' :=
  ⟨h'.1.trans h.1, fun hs => h'.2 (h.2 hs)⟩

/-- the same, where node id is in the settings -/
def UprightAt (id : NodeId) (s s' : Scene W) : Prop :=
  s'.client.config = s.client.config ∧ (id ∈ s.client.config.nodeIds → s.client.Configured → s'.client.Configured)

theorem Upright.at (h : Upright s s') (id : NodeId) : UprightAt id s s' := ⟨h.1, fun _ => h.2⟩

theorem UprightAt.trans (h : UprightAt id s s') (h' : UprightAt id s' s'') : UprightAt id s s'' :=
  ⟨h'.1.trans h.1, fun hid hs => h'.2 (h.1 ▸ hid) (h.2 hid hs)⟩

/-- a client with other draws, another clock or another network is as configured as before -/
theorem upright_aside (s : Scene W) (draws : List Nat) (clock : Clock) (w : W) :
    Upright s ⟨{ s.client with draws := draws }, clock, w⟩ :=
  ⟨rfl, fun h => ⟨h.dirtyNode, h.master, h.connected⟩⟩

theorem upright_forget (s : Scene W) : Upright s (s.setMaster none) :=
  ⟨rfl, fun h => ⟨h.dirtyNode, nofun, h.connected⟩⟩

theorem upright_setChannel (id : NodeId) (ch : Stream) (s : Scene W) : UprightAt id s (s.setChannel id ch) := by
  refine ⟨rfl, fun hid h => ⟨h.dirtyNode, h.master, ?_⟩⟩
  intro k hk
  rcases SortedMap.mem_keys_insert.1 hk with rfl | hk
  · exact hid
  · exact h.connected k hk

theorem upright_gaveUp (net : Network W) (id : NodeId) (s : Scene W) : Upright s (s.gaveUp net id) := by
  refine Upright.trans ?_ (upright_forget (s.evict net id))
  unfold evict
  split
  · exact .refl s
  · exact ⟨rfl, fun h => ⟨h.dirtyNode, h.master, fun k hk => h.connected k (SortedMap.mem_keys_of_erase hk)⟩⟩

theorem upright_closeAll (net : Network W) (s : Scene W) : Upright s (s.closeAll net) :=
  ⟨rfl, fun h => ⟨h.dirtyNode, h.master, nofun⟩⟩

/-! ## Requests -/

theorem upright_attempt (net : Network W) (id : NodeId) (l : Location) (frame : Bytes) (s : Scene W) :
    UprightAt id s (s.attempt net id l frame).2 :=
  attempt_keeps (fun s => (Upright.refl s).at id) (fun _ _ _ => .trans)
    (fun s => (upright_aside s s.client.draws s.clock _).at id)
    (fun s => (upright_aside s s.client.draws s.clock _).at id) (fun s ch => upright_setChannel id ch s) s

theorem upright_readReply (net : Network W) (id : NodeId) {α : Type} (decode : Decoder α) (ch : Stream) (s : Scene W) :
    UprightAt id s (s.readReply net id decode ch).2 :=
  readReply_keeps (fun s ch => upright_setChannel id ch s) (fun s => (upright_gaveUp net id s).at id) decode ch s

theorem upright_exchange (net : Network W) (id : NodeId) (frame : Bytes) (shape : Shape) (s : Scene W) :
    Upright s (s.exchange net id frame shape).2 := by
  cases hl : s.client.config.location? id with
  | none => rw [exchange_of_unknown hl]; exact .refl s
  | some l =>
    have hwait : ∀ i (s : Scene W), UprightAt id s (s.waited i) := by
      intro i s
      obtain ⟨draws, clock, h⟩ := waited_eq i s
      rw [h]
      exact (upright_aside s draws clock s.net).at id
    have hd : UprightAt id s (s.dispatch net id l frame (Reply.decoder shape)).2 :=
      dispatch_keeps (fun _ _ _ => .trans) hwait (upright_attempt net id l frame)
        (fun s => (upright_gaveUp net id s).at id) (fun _ ch s' _ => upright_readReply net id _ ch s') s
    rw [exchange_of_location hl]
    exact ⟨hd.1, hd.2 (Config.mem_nodeIds_of_location hl)⟩

/-! ## Looking for the master -/

/-- a node that answers is in the settings -/
theorem mem_nodeIds_of_askMaster {a : Option NodeId} (h : s.askMaster net id = (.ok a, s')) :
    id ∈ s.client.config.nodeIds := by
  cases hl : s.client.config.location? id with
  | none =>
    rw [askMaster, exchange_of_unknown hl] at h
    cases h
  | some l => exact Config.mem_nodeIds_of_location hl

/-- only a node that was asked itself becomes master -/
theorem upright_findMaster (net : Network W) (s : Scene W) : Upright s (s.findMaster net).2 := by
  cases hm : s.client.master with
  | some m => rw [findMaster_of_some hm]; exact .refl s
  | none =>
    obtain ⟨draws, hd⟩ := findMaster_of_none net hm
    have hask : ∀ id (s : Scene W), Upright s (s.askMaster net id).2 := fun id s => upright_exchange net id _ _ s
    rw [hd]
    refine (upright_aside s draws s.clock s.net).trans ?_
    rcases search_cases (R := Upright) .refl (fun _ _ _ => .trans) hask s.client.shuffledNodes.1 _ with
      ⟨m, s₁, s₂, hs, ha, he⟩ | ⟨s', hs, -, he⟩
    · have hasked := hask m s₁
      rw [ha] at hasked
      rw [he]
      refine (hs.trans hasked).trans ⟨rfl, fun h => ⟨h.dirtyNode, ?_, h.connected⟩⟩
      rintro _ ⟨⟩
      exact hasked.1 ▸ mem_nodeIds_of_askMaster ha
    · rw [he]
      exact hs

theorem upright_exchangeWithMaster (net : Network W) (frame : Bytes) (shape : Shape) (s : Scene W) :
    Upright s (s.exchangeWithMaster net frame shape).2 := by
  have hf := upright_findMaster net s
  unfold exchangeWithMaster
  generalize s.findMaster net = x at hf ⊢
  rcases x with ⟨e | m, s₁⟩
  · exact hf
  · exact hf.trans (upright_exchange net m frame shape s₁)

/-! ## Calls -/

/-- every step of a client is upright -/
theorem upheld_upright (net : Network W) : Upheld net (fun _ => True) (Upright (W := W)) where
  refl := .refl
  trans _ _ _ := .trans
  exchange id r s _ := upright_exchange net id r.encode r.shape s
  findMaster := upright_findMaster net
  closeAll := upright_closeAll net
  forget := upright_forget
  aside s draws clock := upright_aside s draws clock s.net

theorem upright_call (net : Network W) (fuel : Nat) (c : Call) (s : Scene W) : Upright s (s.call net fuel c).2 :=
  (upheld_upright net).call fuel c (fun _ _ _ => trivial)
    (fun _ _ _ => ⟨rfl, fun h => ⟨h.dirtyNode, h.master, h.connected⟩⟩)
    (fun _ _ _ hid => ⟨rfl, fun h => ⟨hid, h.master, h.connected⟩⟩) s

theorem upright_turns (net : Network W) (s : Scene W) (ts : List Turn) : Upright s (s.turns net ts) := by
  induction ts generalizing s with
  | nil => exact .refl s
  | cons t ts ih =>
    have hpassed := upright_aside s s.client.draws (s.clock.advance t.passed) s.net
    exact (hpassed.trans (upright_call net t.fuel t.call _)).trans (ih _)

/-- a configured client finds its master among its nodes, and its requests fail only from outside -/
theorem not_astray (h : s.client.Configured) (f : Failure) : ¬s.Astray net f := by
  rintro ⟨m, -, hm, hno⟩
  exact hno (((upright_findMaster net s).2 h).master m hm)

theorem exchangeWithMaster_fails_outside (h : s.client.Configured) {frame : Bytes} {shape : Shape} {f : Failure}
    (hf : (s.exchangeWithMaster net frame shape).1 = .error f) : f.outside = true :=
  (exchangeWithMaster_fails hf).resolve_right (not_astray h f)

/-- a call of a configured client fails from outside, or for its arguments, or for a node that the caller named -/
theorem call_fails_configured (h : s.client.Configured) {fuel : Nat} {c : Call} {f : Failure}
    (hf : (s.call net fuel c).1 = some (.error f)) :
    f.outside = true ∨ (∃ reason, f = .invalidArgument reason) ∨
      ∃ id, f = .unknownNode id ∧ (c = .version (some id) ∨ c = .setDirtyNode id) ∧
        id ∉ s.client.config.nodeIds := by
  cases hc : c.checked? s.client with
  | none =>
    rcases call_unchecked_fails hc hf with hout | hid | hstray
    · exact .inl hout
    · exact .inr (.inr hid)
    · exact absurd hstray (not_astray h f)
  | some r =>
    have hbase : Retried net (Upright s) (Upright s) := (upheld_upright net).retried s
    have hmaster : ∀ s', Upright s s' → Upright s (s'.exchangeWithMaster net r.encode c.shape).2 ∧
        ∀ f, (s'.exchangeWithMaster net r.encode c.shape).1 = .error f → f.outside = true := by
      intro s' hs
      exact ⟨hs.trans (upright_exchangeWithMaster net _ _ s'), fun f => exchangeWithMaster_fails_outside (hs.2 h)⟩
    have hdirty : ∀ s', Upright s s' → Upright s (s'.exchange net s.client.dirtyNode r.encode c.shape).2 ∧
        ∀ f, (s'.exchange net s.client.dirtyNode r.encode c.shape).1 = .error f → f.outside = true := by
      intro s' hs
      refine ⟨hs.trans (upright_exchange net _ _ _ s'), fun f hf => ?_⟩
      exact (exchange_fails hf).resolve_right fun hno => hno.2 (hs.1 ▸ h.dirtyNode)
    rcases call_checked_fails hc hbase hmaster hdirty (.refl s) hf with hout | ⟨m, -, rfl⟩ | ⟨m, -, rfl⟩
    · exact .inl hout
    · exact .inr (.inl ⟨_, rfl⟩)
    · exact .inr (.inl ⟨_, rfl⟩)

/-- a call that names a node which is not in the settings does nothing -/
theorem call_unknown (hid : id ∉ s.client.config.nodeIds) (fuel : Nat) :
    s.call net fuel (.version (some id)) = (some (.error (.unknownNode id)), s) ∧
      s.call net fuel (.setDirtyNode id) = (some (.error (.unknownNode id)), s) := by
  have hl := Config.location_eq_none.2 hid
  constructor
  · simp only [call, ended, version, exchange_of_unknown hl]
    rfl
  · simp only [call, ended, setDirtyNode, hl]
    rfl

/-- **A client keeps to its nodes, and what cannot happen is never reported.** After any calls of a client that was
built, on any network, whatever the nodes claim: the node for dirty reads, the master and the nodes with an open
connection are in the settings. The next call fails neither for the settings nor for want of a connection. It fails for
an unknown node only if it asks for the version of a node that is not in the settings, or would read from it; such a
call always fails so, and leaves the client, the clock and the network as they are. -/
theorem configured_throughout (net : Network W) {config : Config} {draws : List Nat} {x : Client}
    (hx : Client.build config draws = .ok x) (clock : Clock) (w : W) (ts : List Turn) :
    let s := Scene.turns net ⟨x, clock, w⟩ ts
    s.client.config = config ∧ s.client.Configured ∧
      (∀ fuel c f, (s.call net fuel c).1 = some (.error f) →
        (∀ reason, f ≠ .invalidConfig reason) ∧ (∀ id, f ≠ .notConnected id) ∧
          ∀ id, f = .unknownNode id → (c = .version (some id) ∨ c = .setDirtyNode id) ∧ id ∉ config.nodeIds) ∧
      ∀ fuel id, id ∉ config.nodeIds →
        s.call net fuel (.version (some id)) = (some (.error (.unknownNode id)), s) ∧
          s.call net fuel (.setDirtyNode id) = (some (.error (.unknownNode id)), s) := by
  intro s
  have hnew : x = .new config draws := by
    rw [Client.build_eq] at hx
    cases hx
    rfl
  obtain ⟨hconfig, hkept⟩ := upright_turns net ⟨x, clock, w⟩ ts
  have hc : s.client.config = config := hconfig.trans (by rw [hnew]; rfl)
  have hs : s.client.Configured := hkept (by rw [hnew]; exact Client.configured_new config draws)
  refine ⟨hc, hs, ?_, ?_⟩
  · intro fuel c f hf
    rcases call_fails_configured hs hf with hout | ⟨reason, rfl⟩ | ⟨id, rfl, hid, hno⟩
    · refine ⟨?_, ?_, ?_⟩ <;> rintro _ rfl <;> cases hout
    · exact ⟨nofun, nofun, nofun⟩
    · refine ⟨nofun, nofun, ?_⟩
      rintro _ ⟨⟩
      exact ⟨hid, hc ▸ hno⟩
  · intro fuel id hid
    exact call_unknown (hc.symm ▸ hid) fuel

/-- nodes a and b name z, which leads, but which the client does not know: it finds no master, and will not ask z -/
theorem configured_throughout_foreign_master :
    let w := (Cluster.ofNodes "c" ["a", "b", "z"]).setMaster (some "z")
    let ts : List Turn := [⟨.zero, 1, .whoMaster⟩, ⟨.zero, 1, .allowDirtyReads true⟩]
    let s := Scene.turns Cluster.network ⟨.new .ofTwoNodes [1], .start, w⟩ ts
    s.client.connected = ["a", "b"] ∧ s.client.master = none ∧ s.client.dirtyNode = "b" ∧ s.client.Configured ∧
      s.call Cluster.network 1 (.version (some "z")) = (some (.error (.unknownNode "z")), s) := by
  intro w ts s
  have hrun : s.client.connected = ["a", "b"] ∧ s.client.master = none ∧ s.client.dirtyNode = "b" := by decide +kernel
  obtain ⟨-, hs, -, hunknown⟩ := configured_throughout Cluster.network (Client.build_eq .ofTwoNodes [1]) .start w ts
  exact ⟨hrun.1, hrun.2.1, hrun.2.2, hs, (hunknown 1 "z" (by decide)).1⟩

end Scene

end ReplicaKV
