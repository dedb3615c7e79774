/-
Clients that share one master.

- `Cluster.Serves c m store`: every node is alive, believes in m and holds the store; no send is about to fail, threads
  answer in time, and ids fit.
- `Client.Follows`: the client belongs to the cluster, knows m, reads from the master only, has nothing left to read,
  and believes in no other master. `Serving`: a scene of both.
- `Serving.exchange`, `Serving.persist`: a request leads where it leads at m (`Request.Yields`), at once, and every
  node takes in the same mutations.
- `upheld_serving`: whatever else a client does changes no store.
- `Serving.call`: a call does with the stores what it does with the map, and is answered as by the map.
-/
import ReplicaKV.Proofs.SharedMap.Master
import ReplicaKV.Proofs.Failover

namespace ReplicaKV

open ReplicaKV.Frame
open Cluster (watched)

variable {m : NodeId} {store : Store}

namespace Cluster

variable {c c' : Cluster}

/-- every node is alive, believes in m and holds the store, and the cluster can be used -/
structure Serves (c : Cluster) (m : NodeId) (store : Store) : Prop where
  alike : ∀ id st, c.standings.get? id = some st → st = ⟨true, some m, store⟩
  leads : c.Leads m
  reliable : c.Reliable
  timely : c.Timely
  fits : c.Fits
  small : c.Small
  tallied : c.Tallied
  nodes : c.nodes.size < countLimit

theorem Serves.steady (h : c.Serves m store) (hs : Steady c c') {store' : Store}
    (halike : ∀ id st, c'.standings.get? id = some st → st = ⟨true, some m, store'⟩) : c'.Serves m store' where
  alike := halike
  leads := hs.leads h.leads
  reliable := hs.reliable h.reliable
  timely := hs.threads.timely h.timely
  fits := hs.fits h.fits
  small := hs.small h.small
  tallied := hs.tallied h.tallied
  nodes := by rw [hs.size]; exact h.nodes

theorem Serves.quiet (h : c.Serves m store) (hq : Quiet c c') : c'.Serves m store :=
  h.steady hq.steady (by rw [hq.standings]; exact h.alike)

/-- counts have room, if the map has -/
theorem Serves.countable (h : c.Serves m store) (hroom : store.size < countLimit) : c.Countable := by
  refine Roomy.countable ⟨h.fits.named, h.nodes, ?_⟩ h.tallied
  intro k st hst
  rw [h.alike k st hst]
  exact hroom

/-- no other node leads -/
theorem Serves.only (h : c.Serves m store) {w : NodeId} (hw : c.Leads w) : w = m := by
  obtain ⟨n, hn, -, hb⟩ := hw.node
  have hst := h.alike w n.standing (standing_of_node hn)
  apply Option.some.inj
  calc some w = n.belief := hb.symm
    _ = some m := congrArg Standing.belief hst

theorem Serves.store_small (h : c.Serves m store) : store.Small := by
  obtain ⟨n, hn, -, -⟩ := h.leads.node
  have hst := standing_of_node hn
  have hsmall := h.small m n.standing hst
  rwa [h.alike m n.standing hst] at hsmall

/-- every node takes in the same mutations -/
theorem Serves.takeIn (h : c.Serves m store) {ms : List Mutation} (hs : Steady c c')
    (ht : c'.standings = c.standings.mapValues (Standing.takeIn m ms)) : c'.Serves m (store.applyAll ms) := by
  refine h.steady hs ?_
  intro id st hst
  rw [ht, SortedMap.get?_mapValues] at hst
  obtain ⟨st₀, hst₀, rfl⟩ := Option.map_eq_some_iff.1 hst
  rw [h.alike id st₀ hst₀]
  exact if_pos (Bool.or_true _)

end Cluster

/-- a client of the cluster, that knows m and may believe in it as master, but in no other node -/
structure Client.Follows (x : Client) (clusterId : String) (m : NodeId) : Prop where
  cluster : x.config.clusterId = clusterId
  node : m ∈ x.config.nodeIds
  master : x.master = none ∨ x.master = some m
  strict : x.dirtyReads = false
  clean : ∀ id ch, x.channels.get? id = some ch → ch.left = 0

namespace Scene

/-- a client that follows m, in a cluster that m serves -/
structure Serving (m : NodeId) (store : Store) (s : Scene (Recorded Cluster)) : Prop where
  cluster : s.net.world.Serves m store
  client : s.client.Follows s.net.world.id m

variable {s s' : Scene (Recorded Cluster)}

namespace Serving

theorem ready (h : Serving m store s) : s.Ready := ⟨h.client.clean, h.cluster.fits.named, h.cluster.small⟩

theorem hosted (h : Serving m store s) : s.Hosted :=
  ⟨h.client.cluster, h.cluster.reliable, h.cluster.timely, h.cluster.fits⟩

/-- the client still follows m after a modest step that leaves nothing to read -/
theorem follows (h : Serving m store s) (hm : Modest s s') (hid : s'.net.world.id = s.net.world.id) (hc : s'.Clean) :
    s'.client.Follows s'.net.world.id m where
  cluster := by rw [hm.config, hid, h.client.cluster]
  node := hm.config ▸ h.client.node
  master := hm.master.elim .inl fun he => he ▸ h.client.master
  strict := hm.dirtyReads.trans h.client.strict
  clean := hc

/-- m is found at once -/
theorem findMaster (h : Serving m store s) :
    (s.findMaster watched).1 = .ok m ∧ Calm s (s.findMaster watched).2 ∧ Serving m store (s.findMaster watched).2 := by
  cases hm : s.client.master with
  | some w =>
    have hw : w = m := by
      have := h.client.master
      rw [hm] at this
      exact Option.some.inj (this.resolve_left nofun)
    rw [findMaster_of_some hm, hw]
    exact ⟨rfl, .refl s, h⟩
  | none =>
    obtain ⟨w, hw, hmaster, -, hl⟩ := findMaster_found h.ready.attentive h.hosted h.cluster.leads h.client.node hm
    obtain rfl : w = m := h.cluster.only hl
    obtain ⟨hcalm, -⟩ := findMaster_calm h.ready.attentive
    have hseeks : Seeks watched fun s s' => s'.client.dirtyReads = s.client.dirtyReads :=
      ⟨fun _ => rfl, fun _ _ _ h h' => h'.trans h, fun id s => (modest_exchange watched id _ _ s).dirtyReads,
        fun _ _ => rfl, fun _ _ => rfl⟩
    refine ⟨hw, hcalm, h.cluster.quiet hcalm.quiet, ?_, ?_, .inr hmaster, ?_, hcalm.clean h.client.clean⟩
    · rw [hcalm.config, hcalm.quiet.id, h.client.cluster]
    · exact hcalm.config ▸ h.client.node
    · exact (hseeks.findMaster s).trans h.client.strict

variable {r : Request} {o : Except Refusal r.shape.Value} {ms : List Mutation}

/-- a request to m leads where it leads at m -/
theorem exchange (h : Serving m store s) (hr : r.Fair) (hm : r.ForMaster) (hy : r.Yields store o ms)
    (hroom : store.size < countLimit) :
    Serving m (store.applyAll ms) (s.exchange watched m r.encode r.shape).2 ∧
      ((Reply.body r.shape o).size ≤ sizeLimit →
        (s.exchange watched m r.encode r.shape).1 = o.mapError .ofRefusal) ∧
      ∀ f, (s.exchange watched m r.encode r.shape).1 = .error f → f.losesMaster = false := by
  obtain ⟨c, n, hb, hserved⟩ := h.hosted.served hr h.ready.clean h.cluster.leads h.client.node
  have hst : n.standing = ⟨true, some m, store⟩ := h.cluster.alike m n.standing hserved.standing
  obtain ⟨ho, hafter⟩ := hy (c.counted m) m n (congrArg Standing.store hst) hb
  have hcounted := hserved.counted h.ready hr fun _ => h.cluster.countable hroom
  have hsteady := (hserved.quiet.steady.trans (Cluster.steady_respond _ m n r hr.fits)).trans hserved.after.steady
  obtain ⟨hclean, hout⟩ := hserved.settled hcounted
  have hmodest := modest_exchange watched m r.encode r.shape s
  refine ⟨⟨h.cluster.takeIn hsteady ?_, h.follows hmodest hsteady.id hclean⟩, ?_, ?_⟩
  · calc (s.exchange watched m r.encode r.shape).2.net.world.standings
      _ = ((c.counted m).respond m n r).2.standings := hserved.after.standings
      _ = (c.counted m).standings.mapValues (Standing.takeIn m ms) := hafter
      _ = s.net.world.standings.mapValues (Standing.takeIn m ms) := by rw [hserved.quiet.standings]
  · intro hfit
    have := (hserved.told (by rw [ho]; exact hfit)).1
    rwa [ho] at this
  · intro f hf
    rcases hout with hout | ⟨reason, hout⟩
    · rw [hout] at hf
      cases hresp : ((c.counted m).respond m n r).1 with
      | ok v => rw [hresp] at hf; cases hf
      | error f' =>
        rw [hresp] at hf
        cases hf
        exact Cluster.respond_leads hm hb hresp
    · rw [hout] at hf
      cases hf
      rfl

/-- a request for the master is made once, and leads where it leads at m -/
theorem persist (h : Serving m store s) (hr : r.Fair) (hm : r.ForMaster) (hy : r.Yields store o ms)
    (hroom : store.size < countLimit) (hclock : s.clock.tellsMoment = true) (b : Backoff) {fuel : Nat}
    (hfuel : 1 ≤ fuel) :
    ∃ out, (s.persist watched b fuel (exchangeWithMaster watched r.encode r.shape)).1 = some out ∧
      Serving m (store.applyAll ms) (s.persist watched b fuel (exchangeWithMaster watched r.encode r.shape)).2 ∧
      ((Reply.body r.shape o).size ≤ sizeLimit → out = o.mapError .ofRefusal) := by
  obtain ⟨fuel, rfl⟩ : ∃ n, fuel = n + 1 := ⟨fuel - 1, by omega⟩
  obtain ⟨hfound, hcalm, hs₁⟩ := h.findMaster
  rw [Scene.persist, askTime_of_tells hclock, Clock.broken_of_tells hclock, if_neg Bool.false_ne_true, Scene.rounds_succ,
    exchangeWithMaster]
  generalize s.findMaster watched = x at hfound hcalm hs₁ ⊢
  obtain ⟨found, s₁⟩ := x
  obtain rfl : found = .ok m := hfound
  have hex := hs₁.exchange hr hm hy hroom
  simp only
  generalize s₁.exchange watched m r.encode r.shape = y at hex ⊢
  obtain ⟨hs₂, hout, hkept⟩ := hex
  rcases y with ⟨e | v, s₂⟩
  · have hk := hkept e rfl
    simp only [hk, Bool.false_eq_true, if_false]
    exact ⟨_, rfl, hs₂, hout⟩
  · exact ⟨_, rfl, hs₂, hout⟩

end Serving

/-! ## Whatever else a client does -/

theorem Serving.step (h : Serving m store s) (hm : Modest s s') (hq : s.net.world.Quiet s'.net.world)
    (hc : s'.Clean) : Serving m store s' :=
  ⟨h.cluster.quiet hq, h.follows hm hq.id hc⟩

theorem upheld_serving (m : NodeId) (hroom : store.size < countLimit) :
    Upheld watched (Suits true) fun s s' => Serving m store s → Serving m store s' where
  refl _ h := h
  trans _ _ _ h h' hs := h' (h hs)
  exchange id r s hr hs := by
    have hmodest := modest_exchange watched id r.encode r.shape s
    rcases exchange_cases hr.fair (.inl hs.cluster.timely.punctual) hs.ready.clean id with
      ⟨f, -, -, hcalm⟩ | ⟨c, n, hserved⟩
    · exact hs.step hmodest hcalm.quiet (hcalm.clean hs.client.clean)
    · have hclean := (hserved.settled (hserved.counted hs.ready hr.fair fun _ => hs.cluster.countable hroom)).1
      have hq := (hserved.quiet.trans (Cluster.respond_still _ id n (hr.still rfl))).trans hserved.after
      exact hs.step hmodest hq hclean
  findMaster s hs := hs.findMaster.2.2
  closeAll s hs :=
    hs.step ⟨rfl, rfl, .inr rfl⟩ (calm_closeAll s).quiet (clean_closeAll watched s)
  forget s hs := hs.step ⟨rfl, rfl, .inl rfl⟩ (.refl _) hs.client.clean
  aside s draws clock hs := hs.step ⟨rfl, rfl, .inr rfl⟩ (.refl _) hs.client.clean

/-! ## Calls -/

/-- check the arguments of a request, then put it to the master -/
def ask {W : Type} (net : Network W) (fuel : Nat) (r : Request) (s : Scene W) : Outcome r.shape.Value × Scene W :=
  match r.misuse with
  | some m => (some (.error (.invalidArgument m.message)), s)
  | none => s.sendChecked net fuel r fun frame => exchangeWithMaster net frame r.shape

section

variable {W : Type} (net : Network W) {c : Call} {r : Request}

/-- a call that is about the map asks the master -/
theorem call_of_request {s : Scene W} (h : c.request? = some r) (hd : s.client.dirtyReads = false) (fuel : Nat) :
    Answer.ofOutcome (s.call net fuel c).1 = .ofOutcome (s.ask net fuel r).1 ∧
      (s.call net fuel c).2 = (s.ask net fuel r).2 := by
  cases c with
  | query q =>
    cases h
    have hq : s.call net fuel (.query q) = s.ask net fuel (.query q false) := by
      show s.query net fuel q = _
      rw [query, ask, Request.misuse, hd, if_neg Bool.false_ne_true]
      rfl
    rw [hq]
    exact ⟨rfl, rfl⟩
  | getKeyCount | set | confirm | delete | testAndSet | sequence => cases h; exact ⟨rfl, rfl⟩
  | ping | userFunction | expectProgressPossible | statistics | version | whoMaster | allowDirtyReads
  | dirtyReadsAllowed | dirtyNode | setDirtyNode | dropConnections => cases h

/-- a call that is not valid is refused -/
theorem ask_refused (h : c.request? = some r) (hv : c.valid = false) (fuel : Nat) (s : Scene W) :
    ∃ reason, s.ask net fuel r = (some (.error (.invalidArgument reason)), s) := by
  unfold ask
  cases hm : r.misuse with
  | some m => exact ⟨_, rfl⟩
  | none =>
    have hsize : Frame.sizeLimit < r.encode.size := by
      simp only [Call.valid, h, hm, Option.isNone_none, Bool.true_and, decide_eq_false_iff_not] at hv
      omega
    simp only [sendChecked, Request.encodeChecked, if_pos hsize]
    exact ⟨_, rfl⟩

/-- a call that is valid is made -/
theorem ask_valid (h : c.request? = some r) (hv : c.valid = true) (fuel : Nat) (s : Scene W) :
    r.misuse = none ∧ r.Fair ∧ r.ForMaster ∧ s.ask net fuel r =
      s.persist net (.ofConfig s.client.config) fuel (exchangeWithMaster net r.encode r.shape) := by
  simp only [Call.valid, h, Bool.and_eq_true, Option.isNone_iff_eq_none, decide_eq_true_eq] at hv
  obtain ⟨hm, hsize⟩ := hv
  have hchecked : r.encodeChecked = .ok r.encode := if_neg (by omega)
  obtain ⟨hfit, -⟩ := Request.fits_of_checked hchecked
  have hplain : r.clamped = r ∧ r.ForMaster := by
    cases c with
    | query q => cases h; exact ⟨by rw [Request.clamped, clamped_of_query hm], rfl⟩
    | getKeyCount | set | confirm | delete | testAndSet | sequence =>
      cases h
      exact ⟨rfl, fun hstatistics => by cases hstatistics⟩
    | ping | userFunction | expectProgressPossible | statistics | version | whoMaster | allowDirtyReads
    | dirtyReadsAllowed | dirtyNode | setDirtyNode | dropConnections => cases h
  refine ⟨hm, ⟨hfit, hplain.1⟩, hplain.2, ?_⟩
  simp only [ask, hm, sendChecked, hchecked]

end

/-- the map is not asked by a call that makes no request about it -/
theorem perform_of_none {c : Call} (h : c.request? = none) (store : Store) :
    Shared.perform store c = none ∧ Shared.after store c = store := by
  have hperform : Shared.perform store c = none := by
    cases c with
    | query | getKeyCount | set | confirm | delete | testAndSet | sequence => cases h
    | ping | userFunction | expectProgressPossible | statistics | version | whoMaster | allowDirtyReads
    | dirtyReadsAllowed | dirtyNode | setDirtyNode | dropConnections => rfl
  refine ⟨hperform, ?_⟩
  rw [Shared.after, hperform]
  exact ite_self _

namespace Serving

variable {c : Call}

/-- any other call leaves the stores as they are -/
theorem call_of_none (h : Serving m store s) (hroom : store.size < countLimit) (hr : c.request? = none) (fuel : Nat)
    (hreads : c ≠ .allowDirtyReads true) : Serving m store (s.call watched fuel c).2 := by
  have hsuits : ∀ r, c.Sends r → r.Fair → Suits true r := by
    intro r hsends hfair
    have hs := suits_sends hsends hfair
    cases c with
    | set | confirm | delete | testAndSet | sequence => cases hr
    | _ => exact hs
  refine (upheld_serving m hroom).call fuel c hsuits ?_ ?_ s h
  · intro allowed ha s' hs'
    cases allowed with
    | true => exact absurd ha hreads
    | false => exact ⟨hs'.cluster, hs'.client.cluster, hs'.client.node, hs'.client.master, rfl, hs'.client.clean⟩
  · intro _ _ s' _ hs'
    exact hs'.step ⟨rfl, rfl, .inr rfl⟩ (.refl _) hs'.client.clean

/-- what the map answers to a call fits a frame, if it is a refusal or the call writes -/
theorem reply_fits (h : Serving m store s) {r : Request} {o : Except Refusal r.shape.Value} {ms : List Mutation}
    (hagrees : Shared.Agrees r store o ms (Shared.perform store c)) (hm : r.misuse = none)
    (hfits : c.write? = none → (Answer.ofOutcome (some (o.mapError Failure.ofRefusal))).Fits) :
    (Reply.body r.shape o).size ≤ sizeLimit := by
  cases o with
  | error f => exact hagrees.fits hm f rfl
  | ok v =>
    cases hw : c.write? with
    | none => exact hfits hw
    | some cmd => exact Shared.perform_fits (by rw [hw]; rfl) h.cluster.store_small hagrees.result

/-- **A call does with the stores what it does with the map, and is answered as by the map.** -/
theorem call (h : Serving m store s) (hroom : store.size < countLimit) (hclock : s.clock.tellsMoment = true)
    {fuel : Nat} (hfuel : 1 ≤ fuel) (hreads : c ≠ .allowDirtyReads true) :
    Serving m (Shared.after store c) (s.call watched fuel c).2 ∧
      ∀ a store', c.valid = true → Shared.perform store c = some (a, store') → (c.write? = none → a.Fits) →
        .ofOutcome (s.call watched fuel c).1 = a := by
  cases hr : c.request? with
  | none =>
    obtain ⟨hperform, hafter⟩ := perform_of_none hr store
    refine ⟨?_, ?_⟩
    · rw [hafter]
      exact h.call_of_none hroom hr fuel hreads
    · intro a store' _ hp
      rw [hperform] at hp
      cases hp
  | some r =>
    obtain ⟨hanswer, hscene⟩ := call_of_request watched hr h.client.strict fuel
    rw [hanswer, hscene]
    cases hv : c.valid with
    | false =>
      obtain ⟨reason, hask⟩ := ask_refused watched hr hv fuel s
      rw [hask, Shared.after, hv]
      exact ⟨h, fun _ _ hfalse => nomatch hfalse⟩
    | true =>
      obtain ⟨hm, hfair, hfor, hask⟩ := ask_valid watched hr hv fuel s
      obtain ⟨o, ms, hagrees⟩ := Shared.perform_yields hr store
      obtain ⟨out, hout, hserving, htold⟩ :=
        h.persist hfair hfor hagrees.yields hroom hclock (.ofConfig s.client.config) hfuel
      have hafter : Shared.after store c = store.applyAll ms := by
        rw [Shared.after, hv, hagrees.result]
        rfl
      rw [hask, hafter, hout]
      refine ⟨hserving, ?_⟩
      intro a store' _ hp hfits
      rw [hagrees.result] at hp
      cases hp
      rw [htold (h.reply_fits hagrees hm hfits)]

end Serving

end Scene

end ReplicaKV
