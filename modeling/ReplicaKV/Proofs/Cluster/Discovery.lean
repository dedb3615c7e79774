/-
Looking for the master of a cluster.

- `Attentive s`: nothing is left to read, and names are short. Then every answer about the master can be read back.
- `Ready s`: stores are small too. Then every answer that is no list can be read back (`Served.counted`). A request that
  no master carries out leaves all calm (`Served.calm`).
- `Leads c m`: node m is alive and believes itself master.
- `Sought`, `search_calm`: looking for the master is calm. It fails only for want of one, and what it finds is a node
  of the client's that leads.
- `Hosted s`: the cluster is the client's, no send is about to fail, threads answer in time, and ids fit the frames that
  carry them. Then a live node of the client's says whom it believes in (`askMaster_live`).
- `search_found`, `findMaster_found`: where a node of the client's leads, a master is found in any order.
-/
import ReplicaKV.Proofs.Cluster.Exchange

namespace ReplicaKV

open ReplicaKV.Frame

namespace Cluster

variable {c c' : Cluster}

/-- node id is alive and believes itself master -/
def Leads (c : Cluster) (id : NodeId) : Prop := c.posts.get? id = some (true, some id)

/-- the ids of the cluster and of its nodes fit the frames that carry them -/
structure Fits (c : Cluster) : Prop where
  id : 12 + c.id.utf8ByteSize ≤ sizeLimit
  names : ∀ k p, c.posts.get? k = some p →
    9 + k.utf8ByteSize ≤ sizeLimit ∧ ∀ m, p.2 = some m → 9 + m.utf8ByteSize ≤ sizeLimit

instance (c : Cluster) (id : NodeId) : Decidable (c.Leads id) :=
  inferInstanceAs (Decidable (c.posts.get? id = some (true, some id)))

instance (c : Cluster) : Decidable c.Fits :=
  decidable_of_iff (12 + c.id.utf8ByteSize ≤ sizeLimit ∧ ∀ e ∈ c.posts.entries,
      9 + e.1.utf8ByteSize ≤ sizeLimit ∧ ∀ m ∈ e.2.2, 9 + m.utf8ByteSize ≤ sizeLimit)
    ⟨fun h => ⟨h.1, fun k p hp => h.2 (k, p) (SortedMap.get?_eq_some_iff.1 hp)⟩,
      fun h => ⟨h.id, fun e he => h.names e.1 e.2 (SortedMap.get?_eq_some_iff.2 he)⟩⟩

theorem Fits.named (h : c.Fits) : c.Named := by
  have hlt : ∀ n, 9 + n ≤ sizeLimit → n < nameLimit := by
    intro n hn
    unfold sizeLimit at hn; unfold nameLimit; omega
  intro k p hp
  obtain ⟨hk, hb⟩ := h.names k p hp
  exact ⟨hlt _ hk, fun m hm => hlt _ (hb m hm)⟩

theorem Steady.leads (h : Steady c c') {id : NodeId} (hl : c.Leads id) : c'.Leads id := by
  rwa [Leads, h.posts]

theorem Steady.leads_iff (h : Steady c c') (id : NodeId) : c'.Leads id ↔ c.Leads id := by
  rw [Leads, Leads, h.posts]

theorem Steady.fits (h : Steady c c') (hf : c.Fits) : c'.Fits :=
  ⟨by rw [h.id]; exact hf.id, by rw [h.posts]; exact hf.names⟩

theorem leads_of_node {id : NodeId} {n : Node} (hn : c.nodes.get? id = some n) (ha : n.alive = true)
    (hb : n.belief = some id) : c.Leads id := by
  rw [Leads, post_of_standing (standing_of_node hn), ha, hb]

theorem node_of_post {id : NodeId} {alive : Bool} {belief : Option NodeId}
    (h : c.posts.get? id = some (alive, belief)) :
    ∃ n, c.nodes.get? id = some n ∧ n.alive = alive ∧ n.belief = belief := by
  rw [posts, SortedMap.get?_mapValues] at h
  obtain ⟨st, hst, he⟩ := Option.map_eq_some_iff.1 h
  obtain ⟨n, hn, rfl⟩ := node_of_standing hst
  exact ⟨n, hn, congrArg Prod.fst he, congrArg Prod.snd he⟩

theorem Leads.node {id : NodeId} (h : c.Leads id) :
    ∃ n, c.nodes.get? id = some n ∧ n.alive = true ∧ n.belief = some id :=
  node_of_post h

end Cluster

open Cluster (watched)

namespace Scene

variable {s s' : Scene (Recorded Cluster)} {id : NodeId}

/-- nothing is left to read, and names are short -/
structure Attentive (s : Scene (Recorded Cluster)) : Prop where
  clean : s.Clean
  named : s.net.world.Named

theorem Calm.attentive (h : Calm s s') (hs : s.Attentive) : s'.Attentive :=
  ⟨h.clean hs.clean, h.quiet.steady.named hs.named⟩

/-- nothing is left to read, names are short and stores are small -/
structure Ready (s : Scene (Recorded Cluster)) : Prop where
  clean : s.Clean
  named : s.net.world.Named
  small : s.net.world.Small

theorem Ready.attentive (h : s.Ready) : s.Attentive := ⟨h.clean, h.named⟩

theorem Calm.ready (h : Calm s s') (hs : s.Ready) : s'.Ready :=
  ⟨h.clean hs.clean, h.quiet.steady.named hs.named, h.quiet.steady.small hs.small⟩

/-! ## Answers of a node that was reached -/

namespace Served

variable {r : Request} {out : Except Failure r.shape.Value} {c : Cluster} {n : Node}

/-- the cluster that answers is the one of the scene, but for counters -/
theorem quiet (h : Served s id r out s' c n) : s.net.world.Quiet (c.counted id) :=
  h.before.trans (Cluster.quiet_counted c id)

theorem standing (h : Served s id r out s' c n) : s.net.world.standings.get? id = some n.standing := by
  rw [← h.before.standings]
  exact Cluster.standing_of_node h.reaches.1

theorem counted_standing (h : Served s id r out s' c n) : (c.counted id).standings.get? id = some n.standing := by
  rw [h.quiet.standings, h.standing]

/-- the answer can be read back -/
theorem counted (h : Served s id r out s' c n) (hs : s.Ready) (hr : r.Fair) (hl : r.Lists → s.net.world.Countable) :
    Reply.Counted r.shape ((c.counted id).respond id n r).1 :=
  Cluster.respond_counted h.counted_standing (h.quiet.steady.named hs.named) (h.quiet.steady.small hs.small) hr.fits
    fun hL => h.quiet.countable (hl hL)

/-- what the node believes can be read back -/
theorem counted_whoMaster {out : Except Failure Request.whoMaster.shape.Value} (h : Served s id .whoMaster out s' c n)
    (hs : s.Attentive) : Reply.Counted Request.whoMaster.shape ((c.counted id).respond id n .whoMaster).1 :=
  fun _ ht => ((h.quiet.steady.named hs.named).belief h.counted_standing ht).trans (by decide)

/-- a request that no master carries out leaves all calm -/
theorem calm (h : Served s id r out s' c n) (hc : Reply.Counted r.shape ((c.counted id).respond id n r).1)
    (hq : ∀ cmd, r = .command cmd → n.belief ≠ some id) : Calm s s' where
  config := h.config
  quiet := (h.quiet.trans (Cluster.quiet_respond _ id n r hq)).trans h.after
  evaluations hp := by
    have hnone : c.carriedOut id n r = [] := by
      cases r with
      | command cmd => exact if_neg (hq cmd rfl)
      | whoMaster | version | query => rfl
    rw [h.evaluations hp, hnone, List.nil_append]
  clean _ := (h.settled hc).1

end Served

/-! ## The question who is master -/

/-- asking a node is calm; an answer is what the node, alive and one of the client's, believes -/
theorem askMaster_calm (id : NodeId) (hs : s.Attentive) :
    Calm s (s.askMaster watched id).2 ∧
      ∀ a, (s.askMaster watched id).1 = .ok a →
        id ∈ s.client.config.nodeIds ∧ s.net.world.posts.get? id = some (true, a) := by
  unfold askMaster
  rcases exchange_cases Request.fair_whoMaster (.inr Request.still_whoMaster) hs.clean id with ⟨f, hf, -, hcalm⟩ | ⟨c, n, h⟩
  · refine ⟨hcalm, ?_⟩
    intro a ha
    have := hf.symm.trans ha
    cases this
  · have hc := h.counted_whoMaster hs
    refine ⟨h.calm hc fun _ hcmd => (nomatch hcmd), fun a ha => ⟨?_, ?_⟩⟩
    · by_contra hid
      have hl : s.client.config.location? id = none := by
        cases hl : s.client.config.location? id with
        | none => rfl
        | some l => exact absurd (Config.mem_nodeIds_of_location hl) hid
      rw [exchange_of_unknown hl] at ha
      cases ha
    · have hpost := Cluster.post_of_standing h.standing
      rcases (h.settled hc).2 with hout | ⟨reason, hout⟩
      · -- the answer is the belief of the node
        have hb : n.belief = a := Except.ok.inj (hout.symm.trans ha)
        rw [hpost, h.reaches.2.1, hb]
      · have := hout.symm.trans ha
        cases this

/-- where a search may lead: all is calm, it fails only for want of a master, and what it finds is a node of the
client's that leads -/
structure Sought (s : Scene (Recorded Cluster)) (x : Except Failure NodeId × Scene (Recorded Cluster)) : Prop where
  calm : Calm s x.2
  failed : ∀ f, x.1 = .error f → f = .noMaster
  found : ∀ m, x.1 = .ok m → x.2.client.master = some m ∧ m ∈ s.client.config.nodeIds ∧ s.net.world.Leads m

namespace Sought

variable {s₁ : Scene (Recorded Cluster)} {x : Except Failure NodeId × Scene (Recorded Cluster)} {m : NodeId}

/-- what is found later is found in a cluster that has not changed -/
theorem after (h₁ : Calm s s₁) (h : Sought s₁ x) : Sought s x where
  calm := h₁.trans h.calm
  failed := h.failed
  found m hm := by
    obtain ⟨hmaster, hid, hl⟩ := h.found m hm
    exact ⟨hmaster, h₁.config ▸ hid, (h₁.quiet.steady.leads_iff m).1 hl⟩

theorem confirmed (h₁ : Calm s s₁) (hid : m ∈ s.client.config.nodeIds) (hl : s.net.world.Leads m) :
    Sought s (.ok m, s₁.setMaster (some m)) where
  calm := h₁.trans (calm_setMaster _ s₁)
  failed _ hf := nomatch hf
  found w hw := by
    cases hw
    exact ⟨rfl, hid, hl⟩

end Sought

/-- the questions of a search are calm -/
theorem search_asks (ids : List NodeId) (hs : s.Attentive) :
    (∃ m s₁ s₂, Calm s s₁ ∧ s₁.askMaster watched m = (.ok (some m), s₂) ∧
        s.search watched ids = (.ok m, s₂.setMaster (some m))) ∨
      ∃ s', Calm s s' ∧ (∀ id ∈ ids, ∃ s₁, Calm s s₁ ∧ (s₁.askMaster watched id).1 ≠ .ok (some id)) ∧
        s.search watched ids = (.error .noMaster, s') := by
  have htrans : ∀ s s' s'' : Scene (Recorded Cluster), (s.Attentive → Calm s s') → (s'.Attentive → Calm s' s'') →
      s.Attentive → Calm s s'' := fun _ _ _ h h' hs => (h hs).trans (h' ((h hs).attentive hs))
  rcases search_cases (fun s _ => .refl s) htrans (fun id _ hs => (askMaster_calm id hs).1) ids s with
    ⟨m, s₁, s₂, hcalm, ha, he⟩ | ⟨s', hcalm, hno, he⟩
  · exact .inl ⟨m, s₁, s₂, hcalm hs, ha, he⟩
  · refine .inr ⟨s', hcalm hs, fun id hid => ?_, he⟩
    obtain ⟨s₁, hcalm₁, hne⟩ := hno id hid
    exact ⟨s₁, hcalm₁ hs, hne⟩

/-- looking for the master leads there -/
theorem search_calm (ids : List NodeId) (hs : s.Attentive) : Sought s (s.search watched ids) := by
  rcases search_asks ids hs with ⟨m, s₁, s₂, hcalm, ha, he⟩ | ⟨s', hcalm, -, he⟩
  · obtain ⟨hcalm', hans⟩ := askMaster_calm m (hcalm.attentive hs)
    rw [ha] at hcalm' hans
    obtain ⟨hid, hpost⟩ := hans _ rfl
    rw [he]
    exact .after hcalm (.confirmed hcalm' hid hpost)
  · rw [he]
    refine ⟨hcalm, ?_, fun m hm => nomatch hm⟩
    intro f hf
    cases hf
    rfl

/-- looking for a master that is not known leads there -/
theorem findMaster_sought (hs : s.Attentive) (hm : s.client.master = none) : Sought s (s.findMaster watched) := by
  obtain ⟨draws, hd⟩ := findMaster_of_none watched hm
  have haside : Calm s ⟨{ s.client with draws := draws }, s.clock, s.net⟩ := calm_aside s _ _ rfl rfl
  rw [hd]
  exact (search_calm s.client.shuffledNodes.1 (haside.attentive hs)).after haside

theorem findMaster_calm (hs : s.Attentive) :
    Calm s (s.findMaster watched).2 ∧ ∀ f, (s.findMaster watched).1 = .error f → f = .noMaster := by
  cases hm : s.client.master with
  | some m => rw [findMaster_of_some hm]; exact ⟨.refl s, fun f hf => nomatch hf⟩
  | none => exact ⟨(findMaster_sought hs hm).calm, (findMaster_sought hs hm).failed⟩

/-! ## A master is found where there is one -/

/-- the cluster is the client's, no send is about to fail, threads answer in time, and ids fit the frames that carry
them -/
structure Hosted (s : Scene (Recorded Cluster)) : Prop where
  cluster : s.client.config.clusterId = s.net.world.id
  reliable : s.net.world.Reliable
  timely : s.net.world.Timely
  fits : s.net.world.Fits

theorem Hosted.steady (h : s.Hosted) (hc : s'.client.config = s.client.config)
    (hs : s.net.world.Steady s'.net.world) : s'.Hosted :=
  ⟨by rw [hc, hs.id, h.cluster], hs.reliable h.reliable, hs.threads.timely h.timely, hs.fits h.fits⟩

theorem Calm.hosted (h : Calm s s') (hs : s.Hosted) : s'.Hosted := hs.steady h.config h.quiet.steady

section

variable {belief : Option NodeId}

theorem Hosted.welcome (h : s.Hosted) (hp : s.net.world.posts.get? id = some (true, belief)) :
    ∃ n, Welcome s id n ∧ n.belief = belief := by
  obtain ⟨n, hn, ha, hb⟩ := Cluster.node_of_post hp
  exact ⟨n, ⟨hn, ha, h.reliable, h.timely, h.cluster, h.fits.id⟩, hb⟩

/-- a request to a live node of the client's is served by it -/
theorem Hosted.served {r : Request} (h : s.Hosted) (hr : r.Fair) (hclean : s.Clean)
    (hp : s.net.world.posts.get? id = some (true, belief)) (hid : id ∈ s.client.config.nodeIds) :
    ∃ c n, n.belief = belief ∧
      Served s id r (s.exchange watched id r.encode r.shape).1 (s.exchange watched id r.encode r.shape).2 c n := by
  obtain ⟨n₀, hw, hb⟩ := h.welcome hp
  obtain ⟨c, n, hserved⟩ := served_of_welcome hr hclean hw hid
  have hst : n.standing = n₀.standing :=
    Option.some.inj (hserved.standing.symm.trans (Cluster.standing_of_node hw.node))
  exact ⟨c, n, (congrArg Standing.belief hst).trans hb, hserved⟩

/-- a live node of the client's says whom it believes in -/
theorem askMaster_live (hs : s.Attentive) (h : s.Hosted) (hp : s.net.world.posts.get? id = some (true, belief))
    (hid : id ∈ s.client.config.nodeIds) : (s.askMaster watched id).1 = .ok belief := by
  obtain ⟨c, n, rfl, hserved⟩ := h.served Request.fair_whoMaster hs.clean hp hid
  have hfit : (Reply.body .optText (.ok n.belief)).size ≤ sizeLimit := by
    rw [← list_size, Reply.list_body_ok, List.length_append, length_lowBytes]
    show 4 + (Frame.optional (fun t : String => blob t.toUTF8) n.belief).length ≤ sizeLimit
    cases hb : n.belief with
    | none => decide
    | some m =>
      have hname := (h.fits.names id _ hp).2 m hb
      rw [show Frame.optional (fun t : String => blob t.toUTF8) (some m) = flagByte true ++ blob m.toUTF8 from rfl,
        List.length_append, length_text]
      simp only [flagByte, List.length_singleton]
      omega
  exact (hserved.told hfit).1

end

/-- a node of the client's that leads, and is asked in the end, is found unless another one is -/
theorem search_found {ids : List NodeId} {m : NodeId} (hs : s.Attentive) (h : s.Hosted) (hl : s.net.world.Leads m)
    (hid : m ∈ s.client.config.nodeIds) (hm : m ∈ ids) : ∃ w, (s.search watched ids).1 = .ok w := by
  rcases search_asks ids hs with ⟨w, s₁, s₂, -, -, he⟩ | ⟨s', -, hno, -⟩
  · exact ⟨w, by rw [he]⟩
  · -- it would have named itself
    obtain ⟨s₁, hcalm, hne⟩ := hno m hm
    have hself :=
      askMaster_live (hcalm.attentive hs) (hcalm.hosted h) (hcalm.quiet.steady.leads hl) (hcalm.config ▸ hid)
    exact absurd hself hne

/-- **A client that does not know the master finds one where one of its nodes leads.** -/
theorem findMaster_found {m : NodeId} (hs : s.Attentive) (h : s.Hosted) (hl : s.net.world.Leads m)
    (hid : m ∈ s.client.config.nodeIds) (hm : s.client.master = none) :
    ∃ w, (s.findMaster watched).1 = .ok w ∧ (s.findMaster watched).2.client.master = some w ∧
      w ∈ s.client.config.nodeIds ∧ s.net.world.Leads w := by
  obtain ⟨draws, hd⟩ := findMaster_of_none watched hm
  have haside : Calm s ⟨{ s.client with draws := draws }, s.clock, s.net⟩ := calm_aside s _ _ rfl rfl
  have hmem : m ∈ s.client.shuffledNodes.1 := s.client.shuffledNodes_perm.mem_iff.2 hid
  obtain ⟨w, hw⟩ := search_found (haside.attentive hs) (haside.hosted h) hl hid hmem
  rw [← hd] at hw
  exact ⟨w, hw, (findMaster_sought hs hm).found w hw⟩

end Scene

end ReplicaKV
