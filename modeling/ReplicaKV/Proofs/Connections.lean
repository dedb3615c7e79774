/-
Connections are accounted for: a node counts those that it opened and those that were closed, and the difference is
held by somebody.

A client closes a connection where a send fails, where a reply cannot be read, where it starts a call over, where it is
told to, and where it is dropped; several of these can hit one connection in turn. On every path a connection leaves the
client's table in the step that closes it, and enters it in the step that opens it.

- `Node.balance`: connections opened, less those closed. `Scene.surplus`: the balance of a node, less the connection
  that a client holds to it.
- `blind_surplus`: no request and nothing else that a client does changes the surplus of any node.
- `Simulation.surplus`: the balance of a node, less the clients and the links that hold a connection to it;
  `step_surplus`: no operation changes it.
- `connections_accounted`: so it is zero for every node, after any events.
-/
import ReplicaKV.Proofs.Simulation

namespace ReplicaKV

/-! ## What a node counts -/

/-- the connections to a node that are open, by its own count -/
def Node.balance (n : Node) : Int := n.opened - n.closed

namespace Cluster

variable {c : Cluster} {id : NodeId}

/-- the balance of a node; none where there is no such node -/
def balance? (c : Cluster) (id : NodeId) : Option Int := (c.nodes.get? id).map Node.balance

/-- a change to one node changes its balance alone -/
theorem balance_adjust (c : Cluster) (id k : NodeId) {f : Node → Node} {d : Int}
    (hf : ∀ n, (f n).balance = n.balance + d) :
    (c.adjust id f).balance? k = (c.balance? k).map fun b => b + if k = id then d else 0 := by
  rw [balance?, adjust, SortedMap.get?_adjust, balance?, Option.map_map]
  split_ifs
  · rw [Option.map_map]
    exact Option.map_congr fun n _ => hf n
  · exact Option.map_congr fun n _ => (Int.add_zero n.balance).symm

theorem balance_kept (c : Cluster) (id : NodeId) {f : Node → Node} (hf : ∀ n, (f n).balance = n.balance) :
    (c.adjust id f).balance? = c.balance? := by
  funext k
  rw [balance_adjust c id k (d := 0) fun n => (hf n).trans (Int.add_zero _).symm]
  simp only [ite_self, Int.add_zero, Option.map_id']

theorem balance_opened (c : Cluster) (id k : NodeId) :
    (c.adjust id fun n => { n with opened := n.opened + 1 }).balance? k =
      (c.balance? k).map fun b => b + if k = id then 1 else 0 := by
  apply balance_adjust
  intro n
  simp only [Node.balance]
  omega

theorem balance_close (c : Cluster) (id k : NodeId) :
    (c.close id).balance? k = (c.balance? k).map fun b => b + if k = id then -1 else 0 := by
  apply balance_adjust
  intro n
  simp only [Node.balance]
  omega

/-- connections closed one after the other -/
theorem balance_closes (c : Cluster) (ids : List NodeId) (k : NodeId) :
    (ids.foldl (fun w id => network.close id w) c).balance? k = (c.balance? k).map fun b => b - (ids.count k : Int) := by
  induction ids generalizing c with
  | nil => simp [Option.map_id']
  | cons id ids ih =>
    have hclose : (network.close id c).balance? k = _ := balance_close c id k
    rw [List.foldl_cons, ih, hclose, Option.map_map]
    apply Option.map_congr
    intro b _
    simp only [Function.comp_apply, List.count_cons, beq_iff_eq, @eq_comm _ id k]
    split_ifs <;> push_cast <;> omega

theorem balance_handed (c : Cluster) : c.handed.balance? = c.balance? := rfl

theorem balance_commit (c : Cluster) (id : NodeId) (ms : List Mutation) : (c.commit id ms).balance? = c.balance? := by
  funext k
  rw [balance?, get?_commit, Option.map_map, balance?]
  apply Option.map_congr
  intro n _
  simp only [Function.comp_apply]
  split_ifs <;> rfl

theorem balance_execute (c : Cluster) (id : NodeId) (s : Store) (cmd : Command) :
    (c.execute id s cmd).2.balance? = c.balance? := by
  cases h : (c.tallied cmd).evaluate id s cmd with
  | error r => rw [execute_error h]; rfl
  | ok x =>
    obtain ⟨ms, v⟩ := x
    rw [execute_ok h]
    exact balance_commit (c.tallied cmd) id ms

theorem balance_respond (c : Cluster) (id : NodeId) (n : Node) (r : Request) :
    (c.respond id n r).2.balance? = c.balance? := by
  cases r with
  | whoMaster => exact balance_kept c id fun _ => rfl
  | version => rfl
  | query q dirty => simp only [respond]; split_ifs <;> rfl
  | command cmd =>
    by_cases hb : n.belief = some id
    · rw [respond_master c id n cmd hb]
      exact balance_execute c id n.store cmd
    · have hr : c.respond id n (.command cmd) = (.error (notMaster n), c) := if_neg hb
      rw [hr]

theorem balance_receive (c : Cluster) (id : NodeId) (n : Node) (frame : Bytes) :
    (c.receive id n frame).2.balance? = c.balance? := by
  have hcounted : (c.counted id).balance? = c.balance? := balance_kept c id fun _ => rfl
  unfold receive
  cases Request.decode (Frame.start (.ofBytes frame)) with
  | ok r r' => exact (balance_respond _ id n r).trans hcounted
  | error e r' => exact hcounted

/-- whatever bytes are sent, no connection is opened or closed -/
theorem balance_send (c : Cluster) (id : NodeId) (frame : Bytes) : (c.send id frame).2.balance? = c.balance? := by
  rcases c.send_outcome id frame with ⟨n, -, hs⟩ | ⟨e, hs, -⟩ | ⟨e, n, -, -, -, hs⟩
  · rcases c.hand_cases id (c.receive id n frame) with ⟨-, h⟩ | ⟨-, h⟩ | ⟨-, e, h⟩
    · simp only [hs, h, balance_handed, balance_receive]
    · simp only [hs, h, balance_handed, balance_receive]
    · simp only [hs, h, balance_handed]
  · rw [hs]
  · rw [hs]
    exact balance_kept c id fun _ => rfl

end Cluster

/-! ## What a client holds -/

/-- the client holds a connection to the node -/
def Client.holds (x : Client) (id : NodeId) : Bool := x.channels.contains id

namespace Scene

variable {s : Scene Cluster} {id : NodeId}

/-- the balance of a node, less the connection that the client holds to it -/
def surplus (s : Scene Cluster) (id : NodeId) : Option Int :=
  (s.net.balance? id).map fun b => b - (s.client.holds id).toNat

theorem holds_setChannel (s : Scene Cluster) (id k : NodeId) (ch : Stream) :
    (s.setChannel id ch).client.holds k = (k = id || s.client.holds k) := by
  simp only [Client.holds, setChannel, SortedMap.contains, SortedMap.get?_insert, Std.compare_eq_iff_eq]
  split_ifs with hk <;> simp [hk]

/-- what is delivered on a connection does not matter -/
theorem surplus_setChannel (h : s.client.holds id = true) (ch : Stream) : (s.setChannel id ch).surplus = s.surplus := by
  funext k
  have hk : (k = id || s.client.holds k) = s.client.holds k := by
    by_cases hk : k = id
    · rw [hk, h, Bool.or_true]
    · rw [decide_eq_false hk, Bool.false_or]
  rw [surplus, holds_setChannel, hk]
  rfl

theorem surplus_send (id : NodeId) (s : Scene Cluster) (frame : Bytes) :
    (⟨s.client, s.clock, (Cluster.network.send id frame s.net).2⟩ : Scene Cluster).surplus = s.surplus := by
  rw [Cluster.network_send]
  funext k
  rw [surplus, Cluster.balance_send]
  rfl

/-- a connection that is opened is held -/
theorem channel_surplus (id : NodeId) (l : Location) (s : Scene Cluster) :
    (s.channel Cluster.network id l).2.surplus = s.surplus ∧
      ∀ ch, (s.channel Cluster.network id l).1 = .ok ch → (s.channel Cluster.network id l).2.client.holds id = true := by
  unfold channel
  cases hch : s.client.channels.get? id with
  | some ch => exact ⟨rfl, fun _ _ => by rw [Client.holds, SortedMap.contains, hch]; rfl⟩
  | none =>
    have hconnect : Cluster.network.connect id l s.client.config.clusterId s.net =
        s.net.connect id s.client.config.clusterId := rfl
    rcases s.net.connect_cases id s.client.config.clusterId with ⟨e, c', he, hc⟩ | ⟨-, hok⟩
    · simp only [hconnect, he]
      refine ⟨?_, fun _ h => nomatch h⟩
      rcases hc with rfl | rfl <;> rfl
    · simp only [hconnect, hok]
      refine ⟨?_, fun _ _ => by rw [holds_setChannel, decide_eq_true rfl, Bool.true_or]⟩
      have hnot : s.client.holds id = false := by rw [Client.holds, SortedMap.contains, hch]; rfl
      funext k
      rw [surplus, surplus, holds_setChannel]
      simp only [setChannel, Cluster.balance_opened, Cluster.balance_handed, Option.map_map]
      apply Option.map_congr
      intro b _
      by_cases hk : k = id
      · simp [hk, hnot]
      · simp [hk]

theorem attempt_surplus (id : NodeId) (l : Location) (frame : Bytes) (s : Scene Cluster) :
    (s.attempt Cluster.network id l frame).2.surplus = s.surplus ∧
      ∀ ch, (s.attempt Cluster.network id l frame).1 = .ok ch →
        (s.attempt Cluster.network id l frame).2.client.holds id = true := by
  obtain ⟨hsame, hheld⟩ := channel_surplus id l s
  unfold attempt
  generalize s.channel Cluster.network id l = x at hsame hheld ⊢
  rcases x with ⟨e | ch, s₁⟩
  · exact ⟨hsame, fun _ h => nomatch h⟩
  · have hsend := surplus_send id s₁ frame
    simp only
    generalize Cluster.network.send id frame s₁.net = y at hsend ⊢
    rcases y with ⟨e | d, w⟩
    · exact ⟨hsend.trans hsame, fun _ h => nomatch h⟩
    · have hholds : (⟨s₁.client, s₁.clock, w⟩ : Scene Cluster).client.holds id = true := hheld ch rfl
      refine ⟨((surplus_setChannel hholds _).trans hsend).trans hsame, fun _ _ => ?_⟩
      rw [holds_setChannel, decide_eq_true rfl, Bool.true_or]

/-- a connection that is given up is closed, if there was one -/
theorem surplus_evict (id : NodeId) (s : Scene Cluster) : (s.evict Cluster.network id).surplus = s.surplus := by
  unfold evict
  cases hch : s.client.channels.get? id with
  | none => rfl
  | some ch =>
    have hclose : ∀ k, (Cluster.network.close id s.net).balance? k = _ := Cluster.balance_close s.net id
    funext k
    simp only [surplus, hclose, Client.holds, SortedMap.contains, SortedMap.get?_erase, Std.compare_eq_iff_eq,
      Option.map_map]
    apply Option.map_congr
    intro b _
    by_cases hk : k = id
    · simp [hk, hch, Int.sub_eq_add_neg]
    · simp [hk]

theorem readReply_surplus {α : Type} (decode : Decoder α) (ch : Stream) (h : s.client.holds id = true) :
    (s.readReply Cluster.network id decode ch).2.surplus = s.surplus := by
  unfold readReply
  rcases decode ch with ⟨(r | e) | v, ch'⟩
  · exact surplus_setChannel h _
  · exact surplus_evict id s
  · exact surplus_setChannel h _

theorem dispatch_surplus (id : NodeId) (l : Location) (frame : Bytes) {α : Type} (decode : Decoder α)
    (s : Scene Cluster) : (s.dispatch Cluster.network id l frame decode).2.surplus = s.surplus := by
  have hwait : ∀ i (s : Scene Cluster), (s.waited i).surplus = s.surplus := by
    intro i s
    obtain ⟨draws, clock, hw⟩ := waited_eq i s
    rw [hw]
    rfl
  -- the reply is read on a connection that is held
  have hread : ∀ (s : Scene Cluster) ch s', s.attempt Cluster.network id l frame = (.ok ch, s') →
      (s'.readReply Cluster.network id decode ch).2.surplus = s'.surplus := by
    intro s ch s' ha
    have hheld := (attempt_surplus id l frame s).2
    rw [ha] at hheld
    exact readReply_surplus decode ch (hheld ch rfl)
  have htrans : ∀ s s' s'' : Scene Cluster, s'.surplus = s.surplus → s''.surplus = s'.surplus →
      s''.surplus = s.surplus := fun _ _ _ h h' => h'.trans h
  exact dispatch_keeps htrans hwait (fun s => (attempt_surplus id l frame s).1) (surplus_evict id) hread s

theorem exchange_surplus (id : NodeId) (frame : Bytes) (shape : Shape) (s : Scene Cluster) :
    (s.exchange Cluster.network id frame shape).2.surplus = s.surplus :=
  exchange_keeps (R := fun s s' => s'.surplus = s.surplus) rfl (fun _ _ _ h h' => h'.trans h) (fun _ _ => rfl)
    fun l _ => dispatch_surplus id l frame (Reply.decoder shape) s

/-- a client that closes everything closes what it holds -/
theorem closeAll_surplus (s : Scene Cluster) : (s.closeAll Cluster.network).surplus = s.surplus := by
  funext k
  have hmem : k ∈ s.client.channels.keys ↔ s.client.holds k = true :=
    SortedMap.mem_keys_iff.trans Option.isSome_iff_exists.symm
  have hcount : s.client.connected.count k = (s.client.holds k).toNat := by
    rw [Client.connected, s.client.channels.nodup_keys.count]
    split_ifs with h
    · rw [hmem.1 h]
      rfl
    · rw [Bool.eq_false_of_not_eq_true fun ht => h (hmem.2 ht)]
      rfl
  have hnone : (s.closeAll Cluster.network).client.holds k = false := rfl
  have hnet : (s.closeAll Cluster.network).net.balance? k = _ := Cluster.balance_closes s.net s.client.connected k
  rw [surplus, hnone, hnet, hcount, Option.map_map, surplus]
  exact Option.map_congr fun b _ => Int.sub_zero _

/-- **Nothing that a client does changes the surplus of a node.** -/
theorem blind_surplus : Blind Cluster.network (fun _ => True) fun s s' => s'.surplus = s.surplus where
  refl _ := rfl
  trans _ _ _ h h' := h'.trans h
  exchange id r s _ := exchange_surplus id r.encode r.shape s
  whoMaster := trivial
  closeAll := closeAll_surplus
  setMaster _ _ := rfl
  aside _ _ _ := rfl

theorem call_surplus (fuel : Nat) (c : Call) (s : Scene Cluster) :
    (s.call Cluster.network fuel c).2.surplus = s.surplus :=
  blind_surplus.upheld.call fuel c (fun _ _ _ => trivial) (fun _ _ _ => rfl) (fun _ _ _ _ => rfl) s

end Scene

/-! ## What links hold -/

/-- the link is an open connection to the node -/
def Link.opens (l : Link) (id : NodeId) : Bool := l.isOpen && l.node = id

/-- how many links are open connections to the node -/
def openLinks (links : SortedMap String Link) (id : NodeId) : Nat := links.entries.countP fun p => p.2.opens id

section

variable {links : SortedMap String Link} {name : String} {l : Link}

theorem openLinks_insert (links : SortedMap String Link) (name : String) (l : Link) (id : NodeId) :
    openLinks (links.insert name l) id = openLinks (links.erase name) id + (l.opens id).toNat := by
  rw [openLinks, (links.insert_perm name l).countP_eq, List.countP_cons, openLinks]
  cases l.opens id <;> rfl

theorem openLinks_of_some (h : links.get? name = some l) (id : NodeId) :
    openLinks links id = openLinks (links.erase name) id + (l.opens id).toNat := by
  rw [← openLinks_insert, SortedMap.insert_self h]

/-- a link that goes on to the same node, open or closed as it was -/
theorem openLinks_replace (h : links.get? name = some l) {l' : Link} (hl : l'.opens = l.opens) :
    openLinks (links.insert name l') = openLinks links := by
  funext id
  rw [openLinks_insert, openLinks_of_some h, hl]

end

/-! ## Clients and links together -/

namespace Simulation

variable {s s' : Simulation}

/-- how many clients hold a connection to the node -/
def holders (s : Simulation) (id : NodeId) : Nat := s.clients.countP fun x => x.any (·.holds id)

/-- the balance of a node, less the connections that clients and links hold to it -/
def surplus (s : Simulation) (id : NodeId) : Option Int :=
  (s.cluster.balance? id).map fun b => b - s.holders id - openLinks s.links id

theorem surplus_eq (hb : s'.cluster.balance? = s.cluster.balance?) (hc : s'.clients = s.clients)
    (hl : openLinks s'.links = openLinks s.links) : s'.surplus = s.surplus := by
  funext id
  rw [surplus, surplus, hb, hl, holders, hc, holders]

theorem countP_set {α : Type} (p : α → Bool) {l : List α} {i : Nat} {x : α} (h : l[i]? = some x) (y : α) :
    (l.set i y).countP p + (p x).toNat = l.countP p + (p y).toNat := by
  obtain ⟨hi, rfl⟩ := List.getElem?_eq_some_iff.1 h
  have hx : l.countP p = (l.eraseIdx i).countP p + (p l[i]).toNat := by
    rw [← (List.getElem_cons_eraseIdx_perm hi).countP_eq p, List.countP_cons]
    cases p l[i] <;> rfl
  have hy : (l.set i y).countP p = (l.eraseIdx i).countP p + (p y).toNat := by
    rw [(List.set_perm_cons_eraseIdx hi y).countP_eq p, List.countP_cons]
    cases p y <;> rfl
  omega

/-- a client acts, and is there afterwards or has dropped all it held -/
theorem surplus_acted {i : Nat} {x : Client} (hx : s.client? i = some x) {y : Scene Cluster}
    (hy : y.surplus = (s.scene x).surplus) {v : Option Client} (hv : ∀ id, v.any (·.holds id) = y.client.holds id)
    (k : Clock) : ({ s with cluster := y.net, clock := k, clients := s.clients.set i v } : Simulation).surplus =
      s.surplus := by
  funext id
  have hset := countP_set (fun x => x.any (·.holds id)) (Option.join_eq_some_iff.1 hx) v
  have hid := congrFun hy id
  simp only [Scene.surplus, scene] at hid
  simp only [hv, Option.any_some] at hset
  simp only [surplus, holders]
  cases hb : s.cluster.balance? id with
  | none =>
    rw [hb] at hid
    rw [Option.map_eq_none_iff.1 hid]
    rfl
  | some b =>
    rw [hb] at hid
    obtain ⟨b', hb', he⟩ := Option.map_eq_some_iff.1 hid
    rw [hb', Option.map_some, Option.map_some, Option.some_inj]
    simp only at he
    omega

/-- a link that is closed is closed at its node, if it was open; nothing is open under its name afterwards -/
theorem surplus_closed (s : Simulation) (name : String) :
    (s.closed name).surplus = s.surplus ∧
      ∀ id, openLinks ((s.closed name).links.erase name) id = openLinks (s.closed name).links id := by
  unfold closed
  cases hl : s.links.get? name with
  | none => exact ⟨rfl, fun id => by rw [SortedMap.erase_of_absent hl]⟩
  | some l =>
    simp only
    split_ifs with ho
    · refine ⟨?_, ?_⟩
      · funext id
        simp only [surplus, holders, Cluster.balance_close, Option.map_map, openLinks_insert, openLinks_of_some hl]
        apply Option.map_congr
        intro b _
        by_cases hid : id = l.node
        · simp only [hid, Link.opens, decide_true, Bool.and_true, Bool.toNat_false, Nat.add_zero, if_true,
            Function.comp_apply, ho, Bool.toNat_true]
          omega
        · simp [Link.opens, hid, Ne.symm hid]
      · intro id
        have hnow : (s.links.insert name { l with isOpen := false, stream := ⟨ByteArray.empty, 0, linkClosed⟩ }).get? name
            = some { l with isOpen := false, stream := ⟨ByteArray.empty, 0, linkClosed⟩ } := by
          rw [SortedMap.get?_insert, if_pos Std.compare_self]
        exact (openLinks_of_some hnow id).symm
    · refine ⟨rfl, fun id => ?_⟩
      rw [openLinks_of_some hl, Link.opens, Bool.eq_false_of_not_eq_true ho]
      rfl

/-- a change from outside opens and closes nothing -/
theorem surplus_control (s : Simulation) (id : NodeId) {f : Cluster → Cluster}
    (hf : (f s.cluster).balance? = s.cluster.balance?) : (s.control id f).2.surplus = s.surplus := by
  unfold control
  split_ifs
  · exact surplus_eq hf rfl rfl
  · rfl

theorem surplus_withLink (s : Simulation) (name : String) {f : Link → Answer × Simulation}
    (hf : ∀ l, s.links.get? name = some l → (f l).2.surplus = s.surplus) :
    (s.withLink name f).2.surplus = s.surplus := by
  unfold withLink
  cases hl : s.links.get? name with
  | none => rfl
  | some l => exact hf l hl

/-- what is left to read on a link does not matter -/
theorem surplus_setStream {name : String} {l : Link} (h : s.links.get? name = some l) (r : Stream) :
    (s.setStream name l r).surplus = s.surplus :=
  surplus_eq rfl rfl (openLinks_replace h rfl)

/-- a connection that nobody holds yet -/
theorem surplus_opened (s : Simulation) (id k : NodeId) :
    ({ s with cluster := s.cluster.adjust id fun n => { n with opened := n.opened + 1 } } : Simulation).surplus k =
      (s.surplus k).map fun b => b + if k = id then 1 else 0 := by
  simp only [surplus, holders, Cluster.balance_opened, Option.map_map]
  apply Option.map_congr
  intro b _
  simp only [Function.comp_apply]
  omega

/-- a link takes a connection, where nothing is open under its name -/
theorem surplus_link {name : String} (h : ∀ id, openLinks (s.links.erase name) id = openLinks s.links id) (l : Link)
    (k : NodeId) :
    ({ s with links := s.links.insert name l } : Simulation).surplus k =
      (s.surplus k).map fun b => b - ((l.opens k).toNat : Int) := by
  simp only [surplus, holders, openLinks_insert, h, Option.map_map]
  apply Option.map_congr
  intro b _
  simp only [Function.comp_apply]
  omega

theorem surplus_openLink (fuel : Nat) (s : Simulation) (name : String) (id : NodeId) (clusterId : String) :
    (s.step fuel (.openLink name id clusterId)).2.surplus = s.surplus := by
  simp only [step]
  rcases s.cluster.connect_cases id clusterId with ⟨e, c', he, hc⟩ | ⟨-, hok⟩
  · rw [he]
    rcases hc with rfl | rfl <;> rfl
  · rw [hok]
    funext k
    -- the node counts the connection, what was open under this name is closed, and the link takes its place
    obtain ⟨hclosed, hnone⟩ := surplus_closed
      { s with cluster := s.cluster.handed.adjust id fun n => { n with opened := n.opened + 1 } } name
    have hopened := surplus_opened { s with cluster := s.cluster.handed } id k
    have hhanded : ({ s with cluster := s.cluster.handed } : Simulation).surplus = s.surplus := rfl
    rw [← hclosed, hhanded] at hopened
    simp only
    rw [surplus_link hnone, hopened, Option.map_map]
    refine (Option.map_congr fun b _ => ?_).trans Option.map_id'
    by_cases hk : k = id
    · simp [Link.opens, hk]
    · simp [Link.opens, hk, Ne.symm hk]

theorem step_surplus (fuel : Nat) (s : Simulation) (op : Op) : (s.step fuel op).2.surplus = s.surplus := by
  cases op with
  | call i c =>
    simp only [step]
    cases hx : s.client? i with
    | none => rfl
    | some x =>
      exact surplus_acted hx (Scene.call_surplus fuel c (s.scene x)) (fun id => rfl) _
  | dropClient i =>
    simp only [step]
    cases hx : s.client? i with
    | none => rfl
    | some x => exact surplus_acted hx (Scene.closeAll_surplus (s.scene x)) (fun id => rfl) s.clock
  | setMaster m =>
    refine surplus_eq ?_ rfl rfl
    funext k
    simp only [step, Cluster.balance?, Cluster.setMaster, SortedMap.get?_mapValues, Option.map_map]
    rfl
  | setBelief id m => exact surplus_control s id (Cluster.balance_kept s.cluster id fun _ => rfl)
  | setAlive id alive => exact surplus_control s id (Cluster.balance_kept s.cluster id fun _ => rfl)
  | failSends id count => exact surplus_control s id (Cluster.balance_kept s.cluster id fun _ => rfl)
  | setThreads threads => rfl
  | counters id => simp only [step]; cases s.cluster.nodes.get? id <;> rfl
  | contents id => rfl
  | advance d => rfl
  | openLink name id clusterId => exact surplus_openLink fuel s name id clusterId
  | sendOn name frame =>
    refine surplus_withLink s name fun l hl => ?_
    split_ifs
    · rfl
    · have hsend := Cluster.balance_send s.cluster l.node frame
      generalize s.cluster.send l.node frame = x at hsend ⊢
      rcases x with ⟨e | bytes, c⟩
      · exact surplus_eq hsend rfl rfl
      · exact surplus_eq hsend rfl (openLinks_replace hl rfl)
  | decodeFrom name shape =>
    refine surplus_withLink s name fun l hl => ?_
    split <;> exact surplus_setStream hl _
  | readFrom name n =>
    refine surplus_withLink s name fun l hl => ?_
    split_ifs
    · rfl
    · exact surplus_setStream hl _
  | closeLink name => exact (surplus_closed s name).1
  | dropLink name =>
    obtain ⟨hclosed, hnone⟩ := surplus_closed s name
    rw [← hclosed]
    exact surplus_eq rfl rfl (funext hnone)

/-- a client that comes in holds nothing -/
theorem happen_surplus (s : Simulation) (e : Happening) : (s.happen e).surplus = s.surplus := by
  cases e with
  | operate fuel op => exact step_surplus fuel s op
  | arrive config draws =>
    funext id
    have hnew : (Client.new config draws).holds id = false := rfl
    simp only [surplus, happen, holders, List.countP_append, List.countP_singleton, Option.any_some, hnew,
      Bool.false_eq_true, if_false, Nat.add_zero]

theorem after_surplus (s : Simulation) (es : List Happening) : (s.after es).surplus = s.surplus := by
  induction es using List.reverseRecOn with
  | nil => rfl
  | append_singleton es e ih => rw [after_concat, happen_surplus, ih]

theorem surplus_initial (clusterId : String) {ids : List NodeId} {id : NodeId} (h : id ∈ ids) :
    (initial clusterId ids []).surplus id = some 0 := by
  have hn : (initial clusterId ids []).cluster.nodes.get? id = some .fresh :=
    (Cluster.get?_ofNodes clusterId ids id).trans (if_pos h)
  rw [surplus, Cluster.balance?, hn]
  rfl

/-- **Connections are accounted for.** After any events, a node has opened as many connections as were closed, and those
that some client or some link holds, and a client holds at most one to it. Once all clients are gone and no link is open,
it has opened as many as were closed. -/
theorem connections_accounted (clusterId : String) (ids : List NodeId) (es : List Happening) {id : NodeId} (h : id ∈ ids) :
    let s := (initial clusterId ids []).after es
    ∃ n, s.cluster.nodes.get? id = some n ∧
      n.opened = n.closed + (s.clients.countP fun x => x.any fun x => x.channels.contains id) +
        (s.links.entries.countP fun p => p.2.isOpen && p.2.node = id) ∧
      ((∀ x ∈ s.clients, x = none) → (∀ p ∈ s.links.entries, p.2.isOpen = false) → n.opened = n.closed) := by
  intro s
  have hzero : s.surplus id = some 0 := (congrFun (after_surplus _ es) id).trans (surplus_initial clusterId h)
  obtain ⟨b, hb, hbal⟩ := Option.map_eq_some_iff.1 hzero
  obtain ⟨n, hn, rfl⟩ := Option.map_eq_some_iff.1 hb
  have hcount : n.opened = n.closed + s.holders id + openLinks s.links id := by
    rw [Node.balance] at hbal
    omega
  refine ⟨n, hn, hcount, ?_⟩
  intro hclients hlinks
  have hholders : s.holders id = 0 := by
    rw [holders, List.countP_eq_zero]
    intro x hx
    rw [hclients x hx]
    exact nofun
  have hopen : openLinks s.links id = 0 := by
    rw [openLinks, List.countP_eq_zero]
    intro p hp
    rw [Link.opens, hlinks p hp]
    exact nofun
  omega

/-- a send that fails in the middle of a call, and a link that is opened twice; then the node stops, and everything is
dropped -/
theorem connections_accounted_through_faults :
    let es : List Happening := [.arrive .ofTwoNodes [], .operate 2 (.setMaster (some "a")),
      .operate 2 (.call 0 .getKeyCount), .operate 2 (.openLink "l" "a" "c"), .operate 2 (.openLink "l" "a" "c"),
      .operate 2 (.failSends "a" 1), .operate 2 (.call 0 .getKeyCount)]
    let ends : List Happening := [.operate 2 (.setAlive "a" false), .operate 2 (.dropLink "l"), .operate 2 (.dropClient 0)]
    let s := (initial "c" ["a", "b"] []).after es
    let s' := (initial "c" ["a", "b"] []).after (es ++ ends)
    (∃ n, s.cluster.nodes.get? "a" = some n ∧ n.opened = 4 ∧
      n.opened = n.closed + (s.clients.countP fun x => x.any fun x => x.channels.contains "a") +
        (s.links.entries.countP fun p => p.2.isOpen && p.2.node = "a")) ∧
    ∃ n, s'.cluster.nodes.get? "a" = some n ∧ (∀ x ∈ s'.clients, x = none) ∧
      (∀ p ∈ s'.links.entries, p.2.isOpen = false) ∧ n.opened = n.closed := by
  intro es ends
  have hmem : "a" ∈ ["a", "b"] := by decide
  have held := connections_accounted "c" ["a", "b"] es hmem
  have dropped := connections_accounted "c" ["a", "b"] (es ++ ends) hmem
  have hrun : (((initial "c" ["a", "b"] []).after es).cluster.nodes.get? "a").map Node.opened = some 4 ∧
      ((initial "c" ["a", "b"] []).after (es ++ ends)).clients.all Option.isNone = true ∧
      (((initial "c" ["a", "b"] []).after (es ++ ends)).links.entries.all fun p => !p.2.isOpen) = true := by
    decide +kernel
  -- nothing more of the run is looked at
  generalize (initial "c" ["a", "b"] []).after es = s at held hrun ⊢
  generalize (initial "c" ["a", "b"] []).after (es ++ ends) = s' at dropped hrun ⊢
  obtain ⟨hopened, hclients, hlinks⟩ := hrun
  obtain ⟨n, hn, hcount, -⟩ := held
  obtain ⟨n', hn', -, hequal⟩ := dropped
  have hfour : n.opened = 4 := by
    rw [hn] at hopened
    exact Option.some.inj hopened
  have hgone : ∀ x ∈ s'.clients, x = none := fun x hx => Option.isNone_iff_eq_none.1 (List.all_eq_true.1 hclients x hx)
  have hshut : ∀ p ∈ s'.links.entries, p.2.isOpen = false := by
    intro p hp
    simpa using List.all_eq_true.1 hlinks p hp
  exact ⟨⟨n, hn, hfour, hcount⟩, n', hn', hgone, hshut, hequal hgone hshut⟩

end Simulation

end ReplicaKV
