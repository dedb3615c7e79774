/-
A client finds its way to a master again, with at most one retry.

Whatever the client believed and whatever it had open, a try that loses the master leaves it without a belief and
without channels. From there a search over its nodes succeeds, in any order, if one of them is alive and believes
itself master, and threads answer in time; and what is found answers.

- `clock_dispatch`, `prompt_seeks`: a client that makes one attempt at a time does not pause between requests.
- `Call.forMaster`: the calls that are put to the master and retried. `call_forMaster`: what such a call does.
- `Recovers`: a call ends, not for want of a master, after no pause or a single one of zero length.
- `failover`: every such call recovers, in every simulation that began with a new cluster.
-/
import ReplicaKV.Proofs.Simulation

namespace ReplicaKV

open Cluster (watched)

/-! ## Calls for the master -/

/-- the requests of calls that are put to the master and retried -/
def Request.ForMaster : Request → Prop
  | query _ dirty => dirty = false
  | command cmd => cmd ≠ .statistics
  | whoMaster | version => False

/-- the call is put to the master and retried -/
def Call.forMaster (dirtyReads : Bool) : Call → Bool
  | ping _ | getKeyCount | set _ _ | confirm _ _ | delete _ | testAndSet _ _ _ | sequence _ _ | userFunction _ _ => true
  | query _ => !dirtyReads
  | _ => false

/-- a refusal of a node that leads says nothing about the master -/
theorem Cluster.respond_leads {c : Cluster} {id : NodeId} {n : Node} {r : Request} (hr : r.ForMaster)
    (hb : n.belief = some id) {f : Refusal} (h : (c.respond id n r).1 = .error f) :
    (Failure.ofRefusal f).losesMaster = false := by
  cases r with
  | query q dirty =>
    simp only [respond, hb, decide_true, Bool.or_true, if_true] at h
    exact (Store.answer_error h).keeps_master
  | command cmd =>
    rw [respond_master c id n cmd hb] at h
    cases he : (c.tallied cmd).evaluate id n.store cmd with
    | ok x => rw [execute_ok he] at h; cases h
    | error f' =>
      rw [execute_error he] at h
      cases h
      exact (evaluate_error he).keeps_master
  | whoMaster | version => exact hr.elim

/-! ## Clocks that tell the moment -/

namespace Clock

variable {k : Clock}

theorem broken_of_tells (h : k.tellsMoment = true) : k.broken = false := by
  simp only [tellsMoment, Bool.and_eq_true, Bool.not_eq_true'] at h
  exact h.1

/-- a clock that tells the moment is not changed by being asked -/
theorem asked_of_tells (h : k.tellsMoment = true) : k.asked = k := by
  have hb := broken_of_tells h
  rw [asked, h, Bool.not_true, ← hb]

/-- no deadline is over when it is set -/
theorem not_late (h : k.tellsMoment = true) (d : Duration) : ¬k.momentAfter d < k.elapsed + .zero := by
  simp only [tellsMoment, Bool.and_eq_true, Bool.not_eq_true', decide_eq_false_iff_not] at h
  have hlast : ¬lastMoment.nanos < k.elapsed.nanos := h.2
  have hzero : (k.elapsed + .zero).nanos = k.elapsed.nanos := Nat.add_zero _
  have hsum : (k.elapsed + d).nanos = k.elapsed.nanos + d.nanos := rfl
  show ¬(k.momentAfter d).nanos < (k.elapsed + .zero).nanos
  rw [momentAfter, hzero]
  split_ifs
  · exact hlast
  · omega

end Clock

theorem Backoff.pause_zero (b : Backoff) : b.pause 0 = .zero := by
  rw [pause, Duration.times, Nat.mul_zero]
  exact if_neg (Nat.not_lt_zero _)

theorem Scene.askTime_of_tells {W : Type} {s : Scene W} (h : s.clock.tellsMoment = true) : s.askTime = s := by
  rw [askTime, Clock.asked_of_tells h]

namespace Scene

section

variable {W : Type} {net : Network W} {s : Scene W}

theorem command_forMaster {P : ∀ α : Type, Outcome α × Scene W → Prop} {fuel : Nat} {cmd : Command}
    (hcmd : cmd ≠ .statistics) (hbad : ∀ α reason, P α (some (.error (.invalidArgument reason)), s))
    (hgood : ∀ r : Request, r.Fair → r.ForMaster →
      P _ (s.persist net (.ofConfig s.client.config) fuel (exchangeWithMaster net r.encode r.shape))) :
    P _ (s.command net fuel cmd) := by
  unfold command
  cases cmd.misuse with
  | some m => exact hbad _ _
  | none =>
    simp only [sendChecked]
    cases he : (Request.command cmd).encodeChecked with
    | error m => exact hbad _ _
    | ok frame =>
      obtain ⟨hfit, rfl⟩ := Request.fits_of_checked he
      exact hgood (.command cmd) ⟨hfit, rfl⟩ hcmd

/-- a call for the master is refused for its arguments, or is a request that is retried -/
theorem call_forMaster {P : ∀ α : Type, Outcome α × Scene W → Prop} {fuel : Nat} {c : Call}
    (hc : c.forMaster s.client.dirtyReads = true)
    (hbad : ∀ α reason, P α (some (.error (.invalidArgument reason)), s))
    (hgood : ∀ r : Request, r.Fair → r.ForMaster →
      P _ (s.persist net (.ofConfig s.client.config) fuel (exchangeWithMaster net r.encode r.shape))) :
    P _ (s.call net fuel c) := by
  have hcommand : ∀ cmd : Command, cmd ≠ .statistics → P _ (s.command net fuel cmd) := fun cmd hcmd =>
    command_forMaster hcmd hbad hgood
  cases c with
  | ping clientId => exact hcommand (.ping clientId s.client.config.clusterId) nofun
  | getKeyCount => exact hcommand .getKeyCount nofun
  | set k v => exact hcommand (.set k v) nofun
  | confirm k v => exact hcommand (.confirm k v) nofun
  | delete k => exact hcommand (.delete k) nofun
  | testAndSet k expected wanted => exact hcommand (.testAndSet k expected wanted) nofun
  | sequence us sync => exact hcommand (.sequence us sync) nofun
  | userFunction name argument => exact hcommand (.userFunction name argument) nofun
  | query q =>
    have hd : s.client.dirtyReads = false := by simpa [Call.forMaster] using hc
    show P _ (s.query net fuel q)
    unfold query
    cases hm : q.misuse with
    | some m => exact hbad _ _
    | none =>
      simp only [hd, Bool.false_eq_true, if_false, sendChecked]
      cases he : (Request.query q false).encodeChecked with
      | error m => exact hbad _ _
      | ok frame =>
        obtain ⟨hfit, rfl⟩ := Request.fits_of_checked he
        exact hgood (.query q false) ⟨hfit, by rw [Request.clamped, clamped_of_query hm]⟩ rfl
  | _ => cases hc

/-! ## One attempt at a time -/

theorem clock_gaveUp (net : Network W) (id : NodeId) (s : Scene W) : (s.gaveUp net id).clock = s.clock := by
  rw [gaveUp, evict]; split <;> rfl

theorem clock_attempt (net : Network W) (id : NodeId) (l : Location) (frame : Bytes) (s : Scene W) :
    (s.attempt net id l frame).2.clock = s.clock :=
  attempt_keeps (R := fun s s' => s'.clock = s.clock) (fun _ => rfl) (fun _ _ _ h h' => h'.trans h) (fun _ => rfl)
    (fun _ => rfl) (fun _ _ => rfl) s

theorem clock_readReply (net : Network W) (id : NodeId) {α : Type} (decode : Decoder α) (ch : Stream) (s : Scene W) :
    (s.readReply net id decode ch).2.clock = s.clock :=
  readReply_keeps (R := fun s s' => s'.clock = s.clock) (fun _ _ => rfl) (clock_gaveUp net id) decode ch s

/-- a single attempt is made without a pause -/
theorem clock_dispatch (h : s.client.config.settings.maxAttempts = 1) (id : NodeId) (l : Location) (frame : Bytes)
    {α : Type} (decode : Decoder α) : (s.dispatch net id l frame decode).2.clock = s.clock := by
  have hw : s.waited 0 = s := if_pos rfl
  have hmore : s.client.config.settings.maxAttempts.toNat - 1 = 0 := by rw [h]; rfl
  have ha := clock_attempt net id l frame s
  rw [dispatch_eq, hmore, attempts_eq, hw]
  generalize s.attempt net id l frame = x at ha ⊢
  rcases x with ⟨e | ch, s₁⟩
  · exact (clock_gaveUp net id s₁).trans ha
  · exact (clock_readReply net id decode ch s₁).trans ha

/-- the settings stay, and a client that makes one attempt at a time does not pause -/
def Prompt (s s' : Scene W) : Prop :=
  s'.client.config = s.client.config ∧ (s.client.config.settings.maxAttempts = 1 → s'.clock = s.clock)

theorem prompt_trans (s s' s'' : Scene W) (h : Prompt s s') (h' : Prompt s' s'') : Prompt s s'' :=
  ⟨h'.1.trans h.1, fun hone => (h'.2 (by rw [h.1]; exact hone)).trans (h.2 hone)⟩

theorem prompt_exchange (id : NodeId) (frame : Bytes) (shape : Shape) (s : Scene W) :
    Prompt s (s.exchange net id frame shape).2 := by
  refine ⟨(modest_exchange net id frame shape s).config, ?_⟩
  intro hone
  cases hl : s.client.config.location? id with
  | none => rw [exchange_of_unknown hl]
  | some l =>
    rw [exchange_of_location hl]
    exact clock_dispatch hone id l frame _

theorem prompt_seeks (net : Network W) : Seeks net Prompt where
  refl _ := ⟨rfl, fun _ => rfl⟩
  trans := prompt_trans
  ask id s := prompt_exchange id _ _ s
  setMaster _ _ := ⟨rfl, fun _ => rfl⟩
  draws _ _ := ⟨rfl, fun _ => rfl⟩

theorem prompt_exchangeWithMaster (net : Network W) (frame : Bytes) (shape : Shape) (s : Scene W) :
    Prompt s (s.exchangeWithMaster net frame shape).2 := by
  have hf := (prompt_seeks net).findMaster s
  unfold exchangeWithMaster
  generalize s.findMaster net = x at hf ⊢
  rcases x with ⟨e | m, s₁⟩
  · exact hf
  · exact prompt_trans _ _ _ hf (prompt_exchange m frame shape s₁)

end

/-! ## The second try -/

variable {s : Scene (Recorded Cluster)} {m : NodeId} {r : Request}

/-- a client without a belief in a master, and with nothing left to read, is answered -/
theorem second_try (hr : r.Fair) (hm : r.ForMaster) (hs : s.Ready) (h : s.Hosted) (hl : s.net.world.Leads m)
    (hid : m ∈ s.client.config.nodeIds) (hnone : s.client.master = none) (f : Failure)
    (hf : (s.exchangeWithMaster watched r.encode r.shape).1 = .error f) : f.losesMaster = false := by
  obtain ⟨w, hw, -, hidw, hlw⟩ := findMaster_found hs.attentive h hl hid hnone
  obtain ⟨hcalm, -⟩ := findMaster_calm hs.attentive
  unfold exchangeWithMaster at hf
  generalize s.findMaster watched = x at hw hcalm hf
  obtain ⟨out, s₁⟩ := x
  obtain rfl : out = .ok w := hw
  have hready := hcalm.ready hs
  obtain ⟨c, n, hb, hserved⟩ :=
    (hcalm.hosted h).served hr hready.clean (hcalm.quiet.steady.leads hlw) (hcalm.config ▸ hidw)
  have hmeasured : Reply.Measured r.shape ((c.counted w).respond w n r).1 := by
    have hn : (c.counted w).standings.get? w = some n.standing := by
      rw [hserved.quiet.standings, hserved.standing]
    refine Cluster.respond_measured hn (hserved.quiet.steady.named hready.named)
      (hserved.quiet.steady.small hready.small) hr.fits ?_
    rintro rfl
    exact hm rfl
  rcases hserved.stays hmeasured f hf with ⟨refusal, hrefusal, rfl⟩ | ⟨reason, rfl⟩
  · exact Cluster.respond_leads hm hb hrefusal
  · rfl

/-- a call ends, not for want of a master, after no pause or a single one of zero length -/
def Recovers {W : Type} (k : Clock) {α : Type} (x : Outcome α × Scene W) : Prop :=
  (∃ out, x.1 = some out ∧ ∀ f, out = .error f → f.losesMaster = false) ∧
    (x.2.clock.slept = k.slept ∨ x.2.clock.slept = .zero :: k.slept)

/-- one retry is enough, and the first one is never too late -/
theorem persist_recovers (hr : r.Fair) (hm : r.ForMaster) (b : Backoff) {fuel : Nat} (hfuel : 2 ≤ fuel)
    (hs : s.net.world.Small) (h : s.Hosted) (hl : s.net.world.Leads m) (hid : m ∈ s.client.config.nodeIds)
    (hone : s.client.config.settings.maxAttempts = 1) (hclock : s.clock.tellsMoment = true) :
    Recovers s.clock (s.persist watched b fuel (exchangeWithMaster watched r.encode r.shape)) := by
  obtain ⟨fuel, rfl⟩ : ∃ n, fuel = n + 2 := ⟨fuel - 2, by omega⟩
  have hbroken := Clock.broken_of_tells hclock
  obtain ⟨-, hprompt⟩ := prompt_exchangeWithMaster watched r.encode r.shape s
  obtain ⟨hconfig, hsteady⟩ :=
    Cluster.steady_network.recorded.blind.upheld.exchangeWithMaster r trivial s
  rw [persist, askTime_of_tells hclock, hbroken, if_neg Bool.false_ne_true, rounds_succ]
  generalize s.exchangeWithMaster watched r.encode r.shape = x at hprompt hconfig hsteady ⊢
  rcases x with ⟨e | v, s₁⟩
  · cases hlost : e.losesMaster with
    | false =>
      simp only [hlost, Bool.false_eq_true, if_false]
      refine ⟨⟨_, rfl, ?_⟩, .inl (congrArg Clock.slept (hprompt hone))⟩
      intro f hf
      cases hf
      exact hlost
    | true =>
      -- the client forgets the master and closes every channel; no time has passed
      have hk : (s₁.reset watched).clock = s.clock := hprompt hone
      have hreset := calm_reset s₁
      have hretry : (s₁.reset watched).askTime = s₁.reset watched := askTime_of_tells (by rw [hk]; exact hclock)
      have hlate : ¬s.clock.momentAfter b.budget < s.clock.elapsed + .zero := Clock.not_late hclock b.budget
      simp only [hlost, if_true, hretry, hk, hbroken, Bool.false_eq_true, if_false, Backoff.pause_zero, if_neg hlate]
      -- the second try
      set s₃ := (s₁.reset watched).sleep .zero with hs₃
      have hsteady₃ : s.net.world.Steady s₃.net.world := hsteady.trans hreset.quiet.steady
      have hconfig₃ : s₃.client.config = s.client.config := hreset.config.trans hconfig
      have hhosted := h.steady hconfig₃ hsteady₃
      have hready : s₃.Ready := ⟨clean_closeAll watched _, hhosted.fits.named, hsteady₃.small hs⟩
      have hfound := second_try hr hm hready hhosted (hsteady₃.leads hl) (hconfig₃ ▸ hid) rfl
      have hslept : (s₃.exchangeWithMaster watched r.encode r.shape).2.clock.slept = .zero :: s.clock.slept := by
        obtain ⟨-, hp⟩ := prompt_exchangeWithMaster watched r.encode r.shape s₃
        rw [hp (by rw [hconfig₃]; exact hone), ← hk]
        rfl
      rw [rounds_succ]
      generalize s₃.exchangeWithMaster watched r.encode r.shape = y at hfound hslept ⊢
      rcases y with ⟨e' | v, s₄⟩
      · have hkept := hfound e' rfl
        simp only [hkept, Bool.false_eq_true, if_false]
        refine ⟨⟨_, rfl, ?_⟩, .inr hslept⟩
        intro f hf
        cases hf
        exact hkept
      · exact ⟨⟨_, rfl, fun f hf => by cases hf⟩, .inr hslept⟩
  · exact ⟨⟨_, rfl, fun f hf => by cases hf⟩, .inl (congrArg Clock.slept (hprompt hone))⟩

end Scene

namespace Simulation

/-- **Failover.** After any operations on a new cluster and its clients: a client that makes one attempt at a time, in
a cluster where no send is about to fail, threads answer in time and one of the client's nodes leads, makes a call for
the master. The call ends, and not for want of a master, after no pause or a single one of zero length. What the client
believes, what it has open, its budget, its backoff and its draws do not matter, nor do the beliefs of other nodes. -/
theorem failover (clusterId : String) (ids : List NodeId) (clients : List (Config × List Nat)) (fuel : Nat)
    (ops : List Op) {i : Nat} {x : Client} (hx : ((initial clusterId ids clients).run fuel ops).client? i = some x)
    (hone : x.config.settings.maxAttempts = 1)
    (hcluster : x.config.clusterId = ((initial clusterId ids clients).run fuel ops).cluster.id)
    (hreliable : ((initial clusterId ids clients).run fuel ops).cluster.Reliable)
    (htimely : ((initial clusterId ids clients).run fuel ops).cluster.Timely)
    (hfits : ((initial clusterId ids clients).run fuel ops).cluster.Fits)
    (hclock : ((initial clusterId ids clients).run fuel ops).clock.tellsMoment = true)
    {m : NodeId} (hm : m ∈ x.config.nodeIds) (hl : ((initial clusterId ids clients).run fuel ops).cluster.Leads m)
    {c : Call} (hc : c.forMaster x.dirtyReads = true) {rounds : Nat} (hrounds : 2 ≤ rounds) :
    let sim := (initial clusterId ids clients).run fuel ops
    let answer := (sim.step rounds (.call i c)).1
    let after := (sim.step rounds (.call i c)).2
    answer ≠ .unfinished ∧ (∀ f, answer = .failure f → f.losesMaster = false) ∧
      (after.clock.slept = sim.clock.slept ∨ after.clock.slept = .zero :: sim.clock.slept) := by
  intro sim answer after
  have hsmall : sim.cluster.Small := small_run fuel ops (Cluster.small_ofNodes clusterId ids)
  have hrecovers : Scene.Recovers sim.clock ((sim.scene x).logged.call watched rounds c) := by
    refine Scene.call_forMaster (P := fun _ => Scene.Recovers sim.clock) hc ?_ ?_
    · intro α reason
      refine ⟨⟨_, rfl, ?_⟩, .inl rfl⟩
      intro f hf
      cases hf
      rfl
    · intro r hr hr'
      exact Scene.persist_recovers hr hr' _ hrounds hsmall ⟨hcluster, hreliable, htimely, hfits⟩ hl hm hone hclock
  have hstep := step_call (s := sim) hx rounds c
  obtain ⟨⟨out, hout, hkept⟩, hslept⟩ := hrecovers
  have hanswer : answer = .ofOutcome (some out) := by
    rw [← hout]
    exact congrArg Prod.fst hstep
  have hafter : after.clock = ((sim.scene x).logged.call watched rounds c).2.clock :=
    congrArg (fun p => p.2.clock) hstep
  refine ⟨?_, ?_, ?_⟩
  · rw [hanswer]
    rcases out with f | v <;> exact nofun
  · intro f hf
    rw [hanswer] at hf
    rcases out with f' | v
    · cases hf
      exact hkept _ rfl
    · cases hf
  · rw [hafter]
    exact hslept

/-- a client that believes in a, which is down, stores something at b -/
theorem failover_after_crash :
    let ops := [.setMaster (some "a"), .call 0 .getKeyCount, .setAlive "a" false, .setBelief "b" (some "b")]
    let sim := (initial "c" ["a", "b"] [(.ofTwoNodes, [])]).run 2 ops
    let answer := (sim.step 2 (.call 0 (.set "k".toUTF8 "v".toUTF8))).1
    let after := (sim.step 2 (.call 0 (.set "k".toUTF8 "v".toUTF8))).2
    answer ≠ .unfinished ∧ (∀ f, answer = .failure f → f.losesMaster = false) ∧
      (after.clock.slept = sim.clock.slept ∨ after.clock.slept = .zero :: sim.clock.slept) := by
  intro ops sim
  -- the run is evaluated once
  have hrun : (sim.client? 0).map (fun x => (x.master, x.config.settings)) =
        some (some "a", Config.ofTwoNodes.settings) ∧
      sim.cluster.id = "c" ∧ sim.cluster.Reliable ∧ sim.cluster.Timely ∧ sim.cluster.Fits ∧ sim.cluster.Leads "b" ∧
      sim.clock.tellsMoment = true := by decide +kernel
  obtain ⟨hsome, hid, hreliable, htimely, hfits, hleads, hclock⟩ := hrun
  obtain ⟨x, hx, he⟩ := Option.map_eq_some_iff.1 hsome
  have hconfig : x.config.settings = Config.ofTwoNodes.settings := congrArg Prod.snd he
  refine failover "c" ["a", "b"] [(.ofTwoNodes, [])] 2 ops hx (by rw [hconfig]; rfl) ?_ hreliable htimely
    hfits hclock (m := "b") ?_ hleads rfl (Nat.le_refl 2)
  · rw [Config.clusterId, hconfig]
    exact hid.symm
  · rw [Config.nodeIds, hconfig]
    decide

end Simulation

end ReplicaKV
