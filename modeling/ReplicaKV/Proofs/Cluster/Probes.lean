/-
Whom a client asks while it looks for the master of a cluster, and what comes of it.

- `probes c k`: how many questions about the master node k has answered. `askMaster_counted`: a question is answered by
  the node to which it is put, which counts it, or by none.
- `told s id`: what the client is told by node id. `Receptive s`: then that is what it is told (`askMaster_told`).
- `Questioned asked s s'`: questions were put to these nodes, and nothing else has happened. `questioned_scan`: so it is
  in every search, whatever it ends in.
- `scan_failed`: a search that fails scans every node, and asks whomever one of them names.
- `discovery_exact`: a master is found exactly where there is one; otherwise every live node is asked once, and once more
  for each other live node that believes in it.
-/
import ReplicaKV.Proofs.Cluster.Discovery
import ReplicaKV.Proofs.Network.Survey

namespace ReplicaKV

namespace Cluster

variable {c c' c'' : Cluster} {id : NodeId} {n : Node}

/-- how many questions about the master node k has answered -/
def probes (c : Cluster) (k : NodeId) : Nat := ((c.nodes.get? k).map Node.probes).getD 0

theorem probes_adjust (c : Cluster) (id : NodeId) {f : Node → Node} (hf : ∀ n, (f n).probes = n.probes) :
    (c.adjust id f).probes = c.probes := by
  funext k
  rw [probes, probes, map_adjust c id hf]

theorem probes_handed (c : Cluster) : c.handed.probes = c.probes := rfl

/-- a node that is there counts one more question -/
theorem probes_answered (hn : c.nodes.get? id = some n) (k : NodeId) :
    (c.adjust id fun n => { n with probes := n.probes + 1 }).probes k = c.probes k + if k = id then 1 else 0 := by
  rw [probes, probes, adjust, SortedMap.get?_adjust]
  by_cases hk : k = id
  · rw [if_pos hk, if_pos hk, hk, hn]
    rfl
  · rw [if_neg hk, if_neg hk]
    rfl

/-- nothing that decides an answer has changed, and no question about the master was answered -/
structure Unasked (c c' : Cluster) : Prop where
  quiet : c.Quiet c'
  probes : c'.probes = c.probes

theorem Unasked.refl (c : Cluster) : Unasked c c := ⟨.refl c, rfl⟩

theorem Unasked.trans (h : Unasked c c') (h' : Unasked c' c'') : Unasked c c'' :=
  ⟨h.quiet.trans h'.quiet, h'.probes.trans h.probes⟩

theorem unasked_connect (c : Cluster) (id : NodeId) (clusterId : String) :
    Unasked c (c.connect id clusterId).2 := by
  refine ⟨quiet_connect c id clusterId, ?_⟩
  rcases c.connect_cases id clusterId with ⟨e, c', h, rfl | rfl⟩ | ⟨-, h⟩
  · rw [h]
  · rw [h]
    rfl
  · rw [h]
    exact probes_adjust c.handed id fun _ => rfl

theorem unasked_close (c : Cluster) (id : NodeId) : Unasked c (c.close id) :=
  ⟨quiet_close c id, probes_adjust c id fun _ => rfl⟩

/-- a send that fails asks nothing, unless a node answers it too late -/
theorem probes_send_error (hh : c.handling ≠ .late) {frame : Bytes} {e : Fault}
    (h : c.send id frame = (.error e, c')) : c'.probes = c.probes := by
  rcases c.send_outcome id frame with ⟨n, -, hs⟩ | ⟨e', hs, -⟩ | ⟨e', n, -, -, -, hs⟩
  · rcases c.hand_cases id (c.receive id n frame) with ⟨-, hr⟩ | ⟨hl, -⟩ | ⟨-, e', hr⟩
    · cases (hs.trans hr).symm.trans h
    · exact absurd hl hh
    · cases (hs.trans hr).symm.trans h
      rfl
  · cases hs.symm.trans h
    rfl
  · cases hs.symm.trans h
    exact probes_adjust c id fun _ => rfl

/-- a node that receives the question who is master counts it -/
theorem probes_receive (hn : c.nodes.get? id = some n) (k : NodeId) :
    (c.receive id n (Request.encode .whoMaster)).2.probes k = c.probes k + if k = id then 1 else 0 := by
  have hcounted : (c.counted id).nodes.get? id = some { n with requests := n.requests + 1 } := by
    rw [counted, adjust, SortedMap.get?_adjust, if_pos rfl, hn]
    rfl
  have hsame : (c.counted id).probes = c.probes := probes_adjust c id fun _ => rfl
  rw [receive_request Request.fair_whoMaster, ← hsame]
  exact probes_answered hcounted k

end Cluster

namespace Scene

variable {s s' s'' : Scene Cluster} {id : NodeId}

/-! ## One question -/

theorem unasked_channel (id : NodeId) (l : Location) (s : Scene Cluster) :
    s.net.Unasked (s.channel Cluster.network id l).2.net :=
  channel_keeps (R := fun s s' => s.net.Unasked s'.net) (fun _ => .refl _) (fun _ _ _ => .trans)
    (fun s => Cluster.unasked_connect s.net id s.client.config.clusterId) (fun _ _ => .refl _) s

theorem unasked_gaveUp (id : NodeId) (s : Scene Cluster) : s.net.Unasked (s.gaveUp Cluster.network id).net := by
  unfold gaveUp evict
  cases s.client.channels.get? id with
  | none => exact .refl _
  | some ch => exact Cluster.unasked_close s.net id

theorem unasked_waited (i : Nat) (s : Scene Cluster) : s.net.Unasked (s.waited i).net := by
  obtain ⟨draws, clock, h⟩ := waited_eq i s
  rw [h]
  exact .refl _

/-- an attempt fails unnoticed, or the node receives the frame -/
theorem attempt_received (id : NodeId) (l : Location) (frame : Bytes) {s : Scene Cluster} (hp : s.net.Punctual) :
    (∃ e s', s.attempt Cluster.network id l frame = (.error e, s') ∧ s.net.Unasked s'.net) ∨
      ∃ ch s' c n, s.attempt Cluster.network id l frame = (.ok ch, s') ∧ s.net.Unasked c ∧ c.Reaches id n ∧
        s'.net = (c.receive id n frame).2.handed := by
  have hc := unasked_channel id l s
  unfold attempt
  generalize s.channel Cluster.network id l = x at hc ⊢
  rcases x with ⟨e | ch, s₁⟩
  · exact .inl ⟨e, s₁, rfl, hc⟩
  · have hnever : s₁.net.handling ≠ .late := (hc.quiet.threads.punctual hp).handling
    simp only [Cluster.network_send]
    rcases Cluster.send_cases s₁.net id frame with ⟨e, w, hs, hq, -⟩ | ⟨n, hr, -, hs⟩ | ⟨n, -, hlate, -⟩
    · rw [hs]
      exact .inl ⟨e, _, rfl, hc.trans ⟨hq, Cluster.probes_send_error hnever hs⟩⟩
    · rw [hs]
      exact .inr ⟨_, _, s₁.net, n, rfl, hc, hr, rfl⟩
    · exact absurd hlate hnever

theorem unasked_failed {l : Location} {frame : Bytes} (s : Scene Cluster) (e : Fault) (s' : Scene Cluster)
    (h : s.attempt Cluster.network id l frame = (.error e, s')) (hp : s.net.Punctual) :
    s.net.Unasked (s'.gaveUp Cluster.network id).net := by
  rcases attempt_received id l frame hp with ⟨e', s'', h', hu⟩ | ⟨ch, s'', c, n, h', -⟩
  · rw [h] at h'
    cases h'
    exact hu.trans (unasked_gaveUp id s')
  · rw [h] at h'
    cases h'

theorem probes_readReply (id : NodeId) {α : Type} (decode : Decoder α) (ch : Stream) (s : Scene Cluster) :
    (s.readReply Cluster.network id decode ch).2.net.probes = s.net.probes := by
  rcases readReply_trace Cluster.network id decode ch s with ⟨ch', h⟩ | h
  · rw [h]
    rfl
  · rw [h]
    exact (unasked_gaveUp id s).probes

/-- a question is answered by the live node of the client's to which it is put, which counts it; or by none -/
theorem askMaster_counted (id : NodeId) {s : Scene Cluster} (hp : s.net.Punctual) :
    ((∃ f, (s.askMaster Cluster.network id).1 = .error f) ∧
        (s.askMaster Cluster.network id).2.net.probes = s.net.probes) ∨
      (id ∈ s.client.config.nodeIds ∧ ∃ belief, s.net.posts.get? id = some (true, belief)) ∧
        ∀ k, (s.askMaster Cluster.network id).2.net.probes k = s.net.probes k + if k = id then 1 else 0 := by
  unfold askMaster
  cases hl : s.client.config.location? id with
  | none =>
    rw [exchange_of_unknown hl]
    exact .inl ⟨⟨_, rfl⟩, rfl⟩
  | some l =>
    rw [exchange_of_location hl]
    have htrans : ∀ s s' s'' : Scene Cluster, (s.net.Punctual → s.net.Unasked s'.net) →
        (s'.net.Punctual → s'.net.Unasked s''.net) → s.net.Punctual → s.net.Unasked s''.net :=
      fun _ _ _ h h' hp => (h hp).trans (h' ((h hp).quiet.threads.punctual hp))
    rcases dispatch_cases htrans (fun i s _ => unasked_waited i s) unasked_failed (Reply.decoder .optText) s with
      ⟨e, s', hd, hu, -⟩ | ⟨s₁, ch, s₂, hu, ha, hd⟩
    · rw [hd]
      exact .inl ⟨⟨_, rfl⟩, (hu hp).probes⟩
    · replace hu := hu hp
      rcases attempt_received id l _ (hu.quiet.threads.punctual hp) with
        ⟨e', s'', h', -⟩ | ⟨ch', s'', c, n, h', hu', hr, hnet⟩
      · rw [ha] at h'
        cases h'
      · rw [ha] at h'
        cases h'
        have hall := hu.trans hu'
        have hpost : s.net.posts.get? id = some (true, n.belief) := by
          rw [← hall.quiet.steady.posts, Cluster.post_of_standing (Cluster.standing_of_node hr.1), hr.2.1]
        refine .inr ⟨⟨Config.mem_nodeIds_of_location hl, n.belief, hpost⟩, fun k => ?_⟩
        rw [hd]
        calc (s₂.readReply Cluster.network id (Reply.decoder .optText) ch).2.net.probes k
          _ = s₂.net.probes k := by rw [probes_readReply]
          _ = c.probes k + if k = id then 1 else 0 := by rw [hnet, Cluster.probes_handed, Cluster.probes_receive hr.1]
          _ = s.net.probes k + if k = id then 1 else 0 := by rw [hall.probes]

/-! ## What the client is told -/

/-- what the client is told by node id when it asks who is master: the belief of a live node of its own -/
def told (s : Scene Cluster) (id : NodeId) : Option (Option NodeId) :=
  if id ∈ s.client.config.nodeIds then
    match s.net.posts.get? id with
    | some (true, belief) => some belief
    | _ => none
  else none

theorem told_eq_some {belief : Option NodeId} :
    s.told id = some belief ↔ id ∈ s.client.config.nodeIds ∧ s.net.posts.get? id = some (true, belief) := by
  unfold told
  split_ifs with hid
  · rcases s.net.posts.get? id with _ | ⟨_ | _, b⟩ <;> simp [hid]
  · simp [hid]

/-- nothing is left to read, no send is about to fail, threads answer in time, the cluster is the client's, and ids fit
the frames that carry them -/
structure Receptive (s : Scene Cluster) : Prop where
  clean : s.Clean
  reliable : s.net.Reliable
  timely : s.net.Timely
  cluster : s.client.config.clusterId = s.net.id
  fits : s.net.Fits

theorem Receptive.attentive (h : s.Receptive) : s.logged.Attentive := ⟨h.clean, h.fits.named⟩

theorem Receptive.hosted (h : s.Receptive) : s.logged.Hosted := ⟨h.cluster, h.reliable, h.timely, h.fits⟩

/-- questions were put to these nodes, those of them that answer counted them, and nothing else has happened -/
structure Questioned (asked : List NodeId) (s s' : Scene Cluster) : Prop where
  receptive : s'.Receptive
  told : s'.told = s.told
  probes : ∀ k, s'.net.probes k = s.net.probes k + if (s.told k).isSome then asked.count k else 0

theorem Receptive.questioned (h : s.Receptive) : Questioned [] s s := ⟨h, rfl, fun k => by simp⟩

theorem Questioned.trans {asked asked' : List NodeId} (h : Questioned asked s s') (h' : Questioned asked' s' s'') :
    Questioned (asked ++ asked') s s'' where
  receptive := h'.receptive
  told := h'.told.trans h.told
  probes k := by
    rw [h'.probes, h.probes, h.told, List.count_append]
    split_ifs <;> omega

/-- what the client draws, and whom it believes to be master, is of no account to those whom it asks -/
theorem Questioned.aside {asked : List NodeId} (h : Questioned asked s s') {c : Client}
    (hc : c.config = s'.client.config) (hch : c.channels = s'.client.channels) :
    Questioned asked s ⟨c, s'.clock, s'.net⟩ where
  receptive := ⟨fun id ch hid => h.receptive.clean id ch (hch ▸ hid), h.receptive.reliable, h.receptive.timely,
    hc ▸ h.receptive.cluster, h.receptive.fits⟩
  told := by
    rw [← h.told]
    funext k
    simp only [Scene.told, hc]
  probes := h.probes

theorem askMaster_logged (id : NodeId) (s : Scene Cluster) :
    s.askMaster Cluster.network id = through Recorded.world (s.logged.askMaster Cluster.watched id) :=
  exchange_map Cluster.network.seen_recorded id (Request.encode .whoMaster) .optText s.logged

/-- a live node of the client's tells it -/
theorem askMaster_answered (h : s.Receptive) {belief : Option NodeId} (ht : s.told id = some belief) :
    (s.askMaster Cluster.network id).1 = .ok belief := by
  obtain ⟨hid, hp⟩ := told_eq_some.1 ht
  rw [askMaster_logged]
  exact askMaster_live h.attentive h.hosted hp hid

/-- a question changes nothing in what the client is told -/
theorem askMaster_receptive (h : s.Receptive) (id : NodeId) :
    (s.askMaster Cluster.network id).2.Receptive ∧ (s.askMaster Cluster.network id).2.told = s.told := by
  have hcalm := (askMaster_calm id h.attentive).1
  have hhosted := hcalm.hosted h.hosted
  rw [askMaster_logged]
  refine ⟨⟨hcalm.clean h.clean, hhosted.reliable, hhosted.timely, hhosted.cluster, hhosted.fits⟩, ?_⟩
  have hconfig : (s.logged.askMaster Cluster.watched id).2.client.config = s.client.config := hcalm.config
  have hposts : (s.logged.askMaster Cluster.watched id).2.net.world.posts = s.net.posts := hcalm.quiet.steady.posts
  funext k
  simp only [told, map, hconfig, hposts]

/-- the client is told by the node that it asks -/
theorem askMaster_told (h : s.Receptive) (id : NodeId) :
    (s.askMaster Cluster.network id).1.toOption = s.told id ∧
      Questioned [id] s (s.askMaster Cluster.network id).2 := by
  obtain ⟨hreceptive, htold⟩ := askMaster_receptive h id
  rcases askMaster_counted id h.timely.punctual with ⟨⟨f, hf⟩, hprobes⟩ | ⟨⟨hid, belief, hp⟩, hprobes⟩
  · -- nobody answers: there is no live node of the client's
    have hnone : s.told id = none := by
      cases ht : s.told id with
      | none => rfl
      | some belief =>
        have := hf.symm.trans (askMaster_answered h ht)
        cases this
    refine ⟨by rw [hf, hnone]; rfl, hreceptive, htold, fun k => ?_⟩
    rw [hprobes, List.count_singleton]
    by_cases hk : id = k
    · simp [← hk, hnone]
    · simp [hk]
  · have ht : s.told id = some belief := told_eq_some.2 ⟨hid, hp⟩
    refine ⟨by rw [askMaster_answered h ht, ht]; rfl, hreceptive, htold, fun k => ?_⟩
    rw [hprobes, List.count_singleton]
    by_cases hk : k = id
    · simp [hk, ht]
    · simp [hk, Ne.symm hk]

/-! ## The search -/

/-- a scanned node is asked, and so is the one that it names -/
theorem inquire_told (h : s.Receptive) (id : NodeId) :
    Questioned (s.inquire Cluster.network id).1.asked s (s.inquire Cluster.network id).2.2 ∧
      ((s.inquire Cluster.network id).2.1 = none → (s.inquire Cluster.network id).1 = ⟨id, (s.told id).join⟩) := by
  obtain ⟨htold, hq⟩ := askMaster_told h id
  unfold inquire
  generalize s.askMaster Cluster.network id = x at htold hq ⊢
  rcases x with ⟨e | _ | claimed, s₁⟩
  · exact ⟨hq, fun _ => by rw [← htold]; rfl⟩
  · exact ⟨hq, fun _ => by rw [← htold]; rfl⟩
  · simp only
    by_cases hself : claimed = id
    · rw [if_pos hself]
      exact ⟨hq, fun hnone => nomatch hnone⟩
    · rw [if_neg hself]
      exact ⟨hq.trans (askMaster_told hq.receptive claimed).2, fun _ => by rw [← htold]; rfl⟩

/-- nodes are questioned in the whole of a search, whatever it ends in -/
theorem questioned_scan (h : s.Receptive) (ids : List NodeId) :
    Questioned ((s.scan Cluster.network ids).1.flatMap Inquiry.asked) s (s.scan Cluster.network ids).2.2 := by
  induction ids generalizing s with
  | nil => exact h.questioned
  | cons id rest ih =>
    have hq := (inquire_told h id).1
    unfold scan
    generalize s.inquire Cluster.network id = x at hq ⊢
    rcases x with ⟨q, _ | m, s₁⟩
    · exact hq.trans (ih hq.receptive)
    · simp only [List.flatMap_cons, List.flatMap_nil, List.append_nil]
      exact hq.aside rfl rfl

/-- a search that fails scans every node, and asks whomever it is told of -/
theorem scan_failed (h : s.Receptive) (ids : List NodeId) {f : Failure}
    (hf : (s.scan Cluster.network ids).2.1 = .error f) :
    (s.scan Cluster.network ids).1 = ids.map fun id => ⟨id, (s.told id).join⟩ := by
  induction ids generalizing s with
  | nil => rfl
  | cons id rest ih =>
    obtain ⟨hq, hinquiry⟩ := inquire_told h id
    unfold scan at hf ⊢
    generalize s.inquire Cluster.network id = x at hq hinquiry hf ⊢
    rcases x with ⟨q, _ | m, s₁⟩
    · obtain rfl := hinquiry rfl
      simp only
      rw [ih hq.receptive hf, hq.told]
      rfl
    · cases hf

/-- how often node k is asked, when every node is scanned and all that are named are asked -/
theorem count_asked (named : NodeId → Option NodeId) (ids : List NodeId) (k : NodeId) :
    ((ids.map fun id => (⟨id, named id⟩ : Inquiry)).flatMap Inquiry.asked).count k =
      ids.count k + ids.countP fun id => named id = some k := by
  induction ids with
  | nil => rfl
  | cons id rest ih =>
    have hone : (Inquiry.asked ⟨id, named id⟩).count k =
        (if id = k then 1 else 0) + if named id = some k then 1 else 0 := by
      rw [Inquiry.asked, List.count_cons]
      cases named id with
      | none => simp
      | some m => by_cases hm : m = k <;> simp [hm, Nat.add_comm]
    rw [List.map_cons, List.flatMap_cons, List.count_append, ih, hone, List.count_cons, List.countP_cons]
    simp only [beq_iff_eq, decide_eq_true_eq]
    omega

/-- a search that fails asks every live node of the client's once, and once more for each that believes in it -/
theorem survey_failed (h : s.Receptive) {f : Failure} (hf : (s.survey Cluster.network).2.1 = .error f) {k : NodeId}
    (hk : k ∈ s.client.config.nodeIds) (hlive : (s.told k).isSome) :
    (s.survey Cluster.network).2.2.net.probes k =
      s.net.probes k + (1 + s.client.config.nodeIds.countP fun id => (s.told id).join = some k) := by
  obtain ⟨draws, hs⟩ := survey_eq Cluster.network s
  have hperm := s.client.shuffledNodes_perm
  have haside := h.questioned.aside (c := { s.client with draws := draws }) rfl rfl
  have hq := haside.trans (questioned_scan haside.receptive s.client.shuffledNodes.1)
  have hone : s.client.config.nodeIds.count k = 1 :=
    List.count_eq_one_of_mem (SortedMap.nodup_keys _) hk
  rw [hs] at hf
  rw [hs, hq.probes, if_pos hlive, List.nil_append, scan_failed haside.receptive _ hf, count_asked, haside.told,
    hperm.count_eq, hperm.countP_eq, hone]

/-- where no node of the client's leads, those that believe in one of them are others -/
theorem countP_others {ids : List NodeId} (hids : ∀ id ∈ ids, id ∈ s.client.config.nodeIds ∧ ¬s.net.Leads id)
    (k : NodeId) : ids.countP (fun id => (s.told id).join = some k) =
      ids.countP fun id => id ≠ k ∧ s.net.posts.get? id = some (true, some k) := by
  have hone : ∀ id ∈ ids, (s.told id).join = some k ↔ id ≠ k ∧ s.net.posts.get? id = some (true, some k) := by
    intro id hid
    rw [Option.join_eq_some_iff, told_eq_some]
    refine ⟨fun ⟨_, hpost⟩ => ⟨?_, hpost⟩, fun ⟨_, hpost⟩ => ⟨(hids id hid).1, hpost⟩⟩
    rintro rfl
    exact (hids id hid).2 hpost
  exact List.countP_congr fun id hid => by simpa using hone id hid

/-! ## Discovery -/

theorem findMaster_logged (s : Scene Cluster) :
    s.findMaster Cluster.network = through Recorded.world (s.logged.findMaster Cluster.watched) :=
  findMaster_map Cluster.network.seen_recorded s.logged

/-- **Discovery finds a master exactly where there is one, and asks exactly whom it should.** Let nothing be left to read
for a client that does not know the master, whatever its settings, its open connections and its draws; let the cluster be
the client's, with any beliefs and any dead nodes, and ids that fit the frames that carry them.

What the client finds is a node of its own that is alive and believes itself master, and it believes in it then; it fails
only for want of a master, and then believes in none. Where no send is about to fail, and the threads of the nodes answer
in time, it finds one exactly if one of its nodes leads; otherwise each live node of its own has answered one question,
and one more for each other live node of the client's that believes in it. The nodes are scanned in some order, with at
most two questions for each; those to nodes of the client's are all the requests that are made. -/
theorem discovery_exact (s : Scene Cluster) (hnone : s.client.master = none) (hclean : s.Clean)
    (hcluster : s.client.config.clusterId = s.net.id) (hfits : s.net.Fits) :
    let found := s.findMaster Cluster.network
    let inquiries := (s.survey Cluster.network).1
    let ids := s.client.config.nodeIds
    (∀ m, found.1 = .ok m → m ∈ ids ∧ s.net.Leads m ∧ found.2.client.master = some m) ∧
      (∀ f, found.1 = .error f → f = .noMaster ∧ found.2.client.master = none) ∧
      (s.net.Reliable → s.net.Timely → ((∃ m, found.1 = .ok m) ↔ ∃ m ∈ ids, s.net.Leads m)) ∧
      (s.net.Reliable → s.net.Timely → (∀ m ∈ ids, ¬s.net.Leads m) →
        ∀ k ∈ ids, ∀ belief, s.net.posts.get? k = some (true, belief) → found.2.net.probes k = s.net.probes k +
          (1 + ids.countP fun id => id ≠ k ∧ s.net.posts.get? id = some (true, some k))) ∧
      (∃ order, order.Perm ids ∧ inquiries.map Inquiry.scanned <+: order) ∧
      (inquiries.flatMap Inquiry.asked).length ≤ 2 * inquiries.length ∧
      requested (s.logged.findMaster Cluster.watched).2.net.log = questions ids (inquiries.flatMap Inquiry.asked) := by
  intro found inquiries ids
  have hattentive : s.logged.Attentive := ⟨hclean, hfits.named⟩
  have hsought := findMaster_sought hattentive hnone
  have hlogged : found = through Recorded.world (s.logged.findMaster Cluster.watched) := findMaster_logged s
  have hsurvey : (s.survey Cluster.network).2 = found := survey_findMaster Cluster.network hnone
  have hsound : ∀ m, found.1 = .ok m → m ∈ ids ∧ s.net.Leads m ∧ found.2.client.master = some m := by
    intro m hm
    rw [hlogged] at hm ⊢
    obtain ⟨hmaster, hid, hleads⟩ := hsought.found m hm
    exact ⟨hid, hleads, hmaster⟩
  refine ⟨hsound, fun f hf => findMaster_failed hf, ?_, ?_, scanned_survey _ s, Inquiry.length_asked_le inquiries, ?_⟩
  · intro hreliable htimely
    constructor
    · rintro ⟨m, hm⟩
      obtain ⟨hid, hleads, -⟩ := hsound m hm
      exact ⟨m, hid, hleads⟩
    · rintro ⟨m, hid, hleads⟩
      obtain ⟨w, hw, -⟩ := findMaster_found hattentive ⟨hcluster, hreliable, htimely, hfits⟩ hleads hid hnone
      exact ⟨w, by rw [hlogged]; exact hw⟩
  · intro hreliable htimely hlost k hk belief hp
    have hreceptive : s.Receptive := ⟨hclean, hreliable, htimely, hcluster, hfits⟩
    obtain ⟨f, hf⟩ : ∃ f, found.1 = .error f := by
      cases hfound : found.1 with
      | error f => exact ⟨f, rfl⟩
      | ok m =>
        obtain ⟨hid, hleads, -⟩ := hsound m hfound
        exact absurd hleads (hlost m hid)
    have htold : s.told k = some belief := told_eq_some.2 ⟨hk, hp⟩
    rw [← hsurvey] at hf ⊢
    rw [← countP_others (fun id hid => ⟨hid, hlost id hid⟩) k]
    exact survey_failed hreceptive hf hk (by rw [htold]; rfl)
  · have hmap : inquiries = (s.logged.survey Cluster.watched).1 :=
      congrArg Prod.fst (survey_map Cluster.network.seen_recorded s.logged)
    rw [hmap, ← survey_findMaster Cluster.watched hnone]
    exact (noted_survey Cluster.network s.logged).trans (List.append_nil _)

/-- node a believes in b, and b in a master that the client does not have -/
theorem discovery_exact_unknown_master :
    let w := Cluster.ofNodes "c" ["a", "b", "z"] |>.setMaster (some "z") |>.setBelief "a" (some "b")
    let s : Scene Cluster := ⟨.new Config.ofTwoNodes [1], .start, w⟩
    let found := s.findMaster Cluster.network
    found.1 = .error .noMaster ∧ found.2.client.master = none ∧ found.2.net.probes "a" = 1 ∧
      found.2.net.probes "b" = 2 := by
  intro w s found
  have hids : s.client.config.nodeIds = ["a", "b"] := by decide +kernel
  have hreliable : w.Reliable := by decide +kernel
  have htimely : w.Timely := by decide +kernel
  have hlost : ∀ m ∈ ["a", "b"], ¬w.Leads m := by decide +kernel
  have hposts : w.posts.get? "a" = some (true, some "b") ∧ w.posts.get? "b" = some (true, some "z") := by
    decide +kernel
  obtain ⟨hsound, hfailed, -, hprobes, -⟩ :=
    discovery_exact s rfl (fun _ _ h => nomatch h) rfl (by decide +kernel)
  rw [hids] at hsound hprobes
  obtain ⟨f, hf⟩ : ∃ f, found.1 = .error f := by
    cases hfound : found.1 with
    | error f => exact ⟨f, rfl⟩
    | ok m => exact absurd (hsound m hfound).2.1 (hlost m (hsound m hfound).1)
  obtain ⟨rfl, hmaster⟩ := hfailed f hf
  have ha := hprobes hreliable htimely hlost "a" (by decide) _ hposts.1
  have hb := hprobes hreliable htimely hlost "b" (by decide) _ hposts.2
  refine ⟨hf, hmaster, ha.trans ?_, hb.trans ?_⟩
  · decide +kernel
  · decide +kernel

end Scene

end ReplicaKV
