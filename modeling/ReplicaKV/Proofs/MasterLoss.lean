/-
What a client believes once a call has lost the master.

- `call_lost`: on every network, a call that ends in the loss of the master leaves no belief in one, unless it makes its
  request once and a node refuses this for not being master.
- `exchange_refused`: on a cluster, a node that refuses so leaves the belief in it alone if the request reached it at
  the first attempt.
- `lost_master_forgotten`: so the calls that can leave a belief in a master that is lost are two, and they do so exactly
  if the client believed in the node before, its next send was not about to fail, and its thread answered in time.
  `stale_master_kept` is such a call.
-/
import ReplicaKV.Proofs.Simulation

namespace ReplicaKV

open Cluster (watched)

/-- only one kind of refusal loses the master -/
theorem Failure.notMaster_of_refusal {r : Refusal} (h : (ofRefusal r).losesMaster = true) :
    ofRefusal r = .notMaster r.message := by
  obtain ⟨status, message⟩ := r
  cases status <;> first | rfl | cases h

/-- the call makes its request once -/
def Call.single : Call → Bool
  | expectProgressPossible | statistics | version _ => true
  | _ => false

namespace Scene

section

variable {W : Type} {net : Network W} {s : Scene W} {f : Failure} {id : NodeId} {l : Location} {frame : Bytes}
  {shape : Shape}

/-! ## Requests that lose the master -/

theorem readReply_lost {α : Type} {decode : Decoder α} {ch : Stream}
    (h : (s.readReply net id decode ch).1 = .error f) (hl : f.losesMaster = true) :
    (s.readReply net id decode ch).2.client.master = none ∨ ∃ m, f = .notMaster m := by
  unfold readReply at h ⊢
  generalize decode ch = x at h ⊢
  rcases x with ⟨(r | e) | v, ch'⟩
  · cases h
    exact .inr ⟨_, Failure.notMaster_of_refusal hl⟩
  · exact .inl rfl
  · cases h

theorem exchange_lost (h : (s.exchange net id frame shape).1 = .error f) (hl : f.losesMaster = true) :
    (s.exchange net id frame shape).2.client.master = none ∨ ∃ m, f = .notMaster m := by
  cases hloc : s.client.config.location? id with
  | none =>
    rw [exchange_of_unknown hloc] at h
    cases h
    cases hl
  | some l =>
    rw [exchange_of_location hloc] at h ⊢
    have hfail : ∀ s e s', attempt net id l frame s = (.error e, s') → Modest s (s'.gaveUp net id) := modest_failed
    rcases dispatch_cases (R := Modest) (fun _ _ _ => .trans) modest_waited hfail (Reply.decoder shape) s with
      ⟨e, s', hd, -, hm⟩ | ⟨s₁, ch, s₂, -, -, hd⟩
    · rw [hd]
      exact .inl hm
    · rw [hd] at h ⊢
      exact readReply_lost h hl

theorem exchangeWithMaster_lost (h : (s.exchangeWithMaster net frame shape).1 = .error f) (hl : f.losesMaster = true) :
    (s.exchangeWithMaster net frame shape).2.client.master = none ∨ ∃ m, f = .notMaster m := by
  have hf : ∀ e, (s.findMaster net).1 = .error e → (s.findMaster net).2.client.master = none := fun e he =>
    (findMaster_failed he).2
  unfold exchangeWithMaster at h ⊢
  generalize s.findMaster net = x at hf h ⊢
  rcases x with ⟨e | m, s₁⟩
  · exact .inl (hf e rfl)
  · exact exchange_lost h hl

/-! ## Calls that lose the master -/

/-- an action that is retried forgets the master whenever it is lost -/
theorem rounds_lost {α : Type} {action : Act W α} {b : Backoff} {deadline : Duration} {fuel i : Nat}
    (h : (s.rounds net b deadline action fuel i).1 = some (.error f)) (hl : f.losesMaster = true) :
    (s.rounds net b deadline action fuel i).2.client.master = none := by
  induction fuel generalizing i s with
  | zero => cases h
  | succ fuel ih =>
    rw [rounds_succ] at h ⊢
    generalize action s = x at h ⊢
    rcases x with ⟨e | v, s₁⟩
    · cases he : e.losesMaster with
      | false =>
        simp only [he, Bool.false_eq_true, if_false] at h
        cases h
        rw [hl] at he
        cases he
      | true =>
        simp only [he, if_true] at h ⊢
        split_ifs at h ⊢
        · rfl
        · exact ih h
    · cases h

theorem sendChecked_lost {fuel : Nat} {r : Request} {α : Type} {action : Bytes → Act W α}
    (h : (s.sendChecked net fuel r action).1 = some (.error f)) (hl : f.losesMaster = true) :
    (s.sendChecked net fuel r action).2.client.master = none := by
  unfold sendChecked at h ⊢
  cases he : r.encodeChecked with
  | error m =>
    rw [he] at h
    cases h
    cases hl
  | ok frame =>
    simp only [he, persist] at h ⊢
    split_ifs at h ⊢
    exact rounds_lost h hl

theorem command_lost {fuel : Nat} (cmd : Command) (h : (s.command net fuel cmd).1 = some (.error f))
    (hl : f.losesMaster = true) : (s.command net fuel cmd).2.client.master = none := by
  unfold command at h ⊢
  cases hm : cmd.misuse with
  | some m =>
    rw [hm] at h
    cases h
    cases hl
  | none =>
    simp only [hm] at h ⊢
    exact sendChecked_lost h hl

theorem query_lost {fuel : Nat} {q : Query} (h : (s.query net fuel q).1 = some (.error f))
    (hl : f.losesMaster = true) : (s.query net fuel q).2.client.master = none := by
  unfold query at h ⊢
  cases hm : q.misuse with
  | some m =>
    rw [hm] at h
    cases h
    cases hl
  | none =>
    simp only [hm] at h ⊢
    split_ifs at h ⊢
    · exact sendChecked_lost h hl
    · exact sendChecked_lost h hl

/-- whether progress is expected fails as its request does -/
theorem expectProgressPossible_failed (h : (s.expectProgressPossible net).1 = .error f) :
    (s.exchangeWithMaster net (Request.encode (.command .expectProgressPossible)) .flag).1 = .error f ∧
      (s.expectProgressPossible net).2 =
        (s.exchangeWithMaster net (Request.encode (.command .expectProgressPossible)) .flag).2 := by
  unfold expectProgressPossible at h ⊢
  generalize s.exchangeWithMaster net (Request.encode (.command .expectProgressPossible)) .flag = x at h ⊢
  rcases x with ⟨e | v, s₁⟩
  · cases e with
    | noMaster => cases h
    | _ => exact ⟨h, rfl⟩
  · cases h

/-- **A call that loses the master leaves no belief in one.** Only a call that makes its request once can leave it, where
a node refuses the request for not being master. -/
theorem call_lost {fuel : Nat} {c : Call} (h : (s.call net fuel c).1 = some (.error f)) (hl : f.losesMaster = true) :
    (s.call net fuel c).2.client.master = none ∨ c.single = true ∧ ∃ m, f = .notMaster m := by
  cases c with
  | ping clientId => exact .inl (command_lost (.ping clientId s.client.config.clusterId) h hl)
  | getKeyCount => exact .inl (command_lost .getKeyCount h hl)
  | set k v => exact .inl (command_lost (.set k v) h hl)
  | confirm k v => exact .inl (command_lost (.confirm k v) h hl)
  | delete k => exact .inl (command_lost (.delete k) h hl)
  | testAndSet k expected wanted => exact .inl (command_lost (.testAndSet k expected wanted) h hl)
  | sequence us sync => exact .inl (command_lost (.sequence us sync) h hl)
  | userFunction name argument => exact .inl (command_lost (.userFunction name argument) h hl)
  | query q => exact .inl (query_lost h hl)
  | expectProgressPossible =>
    obtain ⟨he, hs⟩ := expectProgressPossible_failed (Option.some.inj h)
    have hstate : (s.call net fuel .expectProgressPossible).2 = (s.expectProgressPossible net).2 := rfl
    rw [hstate, hs]
    exact (exchangeWithMaster_lost he hl).imp_right fun hm => ⟨rfl, hm⟩
  | statistics => exact (exchangeWithMaster_lost (Option.some.inj h) hl).imp_right fun hm => ⟨rfl, hm⟩
  | version id =>
    cases id with
    | some id => exact (exchange_lost (Option.some.inj h) hl).imp_right fun hm => ⟨rfl, hm⟩
    | none => exact (exchangeWithMaster_lost (Option.some.inj h) hl).imp_right fun hm => ⟨rfl, hm⟩
  | whoMaster => exact .inl (findMaster_failed (Option.some.inj h)).2
  | setDirtyNode id =>
    have h' := Option.some.inj h
    simp only [setDirtyNode] at h'
    split at h'
    · cases h'
      cases hl
    · cases h'
  | allowDirtyReads | dirtyReadsAllowed | dirtyNode | dropConnections => cases h

/-! ## Which attempt reaches the node -/

/-- an attempt alone does not touch the belief in a master -/
theorem master_attempt (net : Network W) (id : NodeId) (l : Location) (frame : Bytes) (s : Scene W) :
    (s.attempt net id l frame).2.client.master = s.client.master := by
  have hc : (s.channel net id l).2.client.master = s.client.master := by
    unfold channel
    split
    · rfl
    · rcases net.connect id l s.client.config.clusterId s.net with ⟨e | u, w⟩ <;> rfl
  unfold attempt
  generalize s.channel net id l = x at hc ⊢
  rcases x with ⟨e | ch, s₁⟩
  · exact hc
  · simp only
    rcases net.send id frame s₁.net with ⟨e | d, w⟩ <;> exact hc

/-- a request that did not get through at once leaves no belief in a master -/
theorem dispatch_of_failed {e : Fault} {s' : Scene W} (h : s.attempt net id l frame = (.error e, s')) {α : Type}
    (decode : Decoder α) : (s.dispatch net id l frame decode).2.client.master = none := by
  have hw : s.waited 0 = s := if_pos rfl
  rw [dispatch_eq, attempts_eq, hw, h]
  cases s.client.config.settings.maxAttempts.toNat - 1 with
  | zero => rfl
  | succ more =>
    have hm := (modest_attempts net id l frame more 1 (s'.gaveUp net id)).unknown rfl
    simp only
    generalize (s'.gaveUp net id).attempts net id l frame more 1 = x at hm ⊢
    rcases x with ⟨e | ch, s₁⟩
    · exact hm
    · exact (modest_readReply net id decode ch s₁).unknown hm

end

end Scene

namespace Cluster

variable {c c' : Cluster} {id : NodeId} {clusterId : String}

/-- the next packets, this many, are answered in time -/
def AnswersNext (c : Cluster) : Nat → Prop
  | 0 => True
  | k + 1 => c.handling = .answered ∧ c.handed.AnswersNext k

/-- whether a node can be reached does not depend on how often it was connected to -/
theorem reaches_opened (c : Cluster) (id : NodeId) :
    (∃ n, (c.adjust id fun n => { n with opened := n.opened + 1 }).Reaches id n) ↔ ∃ n, c.Reaches id n := by
  simp only [Reaches, adjust, SortedMap.get?_adjust, if_true, Option.map_eq_some_iff]
  constructor
  · rintro ⟨n', ⟨n, hn, rfl⟩, ha, hf⟩
    exact ⟨n, hn, ha, hf⟩
  · rintro ⟨n, hn, ha, hf⟩
    exact ⟨_, ⟨n, hn, rfl⟩, ha, hf⟩

/-- of the threads, only what becomes of the next packet decides whether a connection is accepted -/
theorem connect_setThreads {threads : List Handling} (h : (c.setThreads threads).handling = c.handling) :
    ((c.setThreads threads).connect id clusterId).1 = (c.connect id clusterId).1 := by
  have hnodes : (c.setThreads threads).nodes = c.nodes := rfl
  have hgreet : ∀ prologue, (c.setThreads threads).greet prologue = c.greet prologue := by
    intro prologue
    unfold greet
    cases Prologue.decode (Frame.start (.ofBytes prologue)) <;> rfl
  unfold connect
  rw [hnodes]
  cases c.nodes.get? id with
  | none => rfl
  | some n =>
    simp only [hand, h, hgreet]
    split_ifs
    · rfl
    · cases c.handling with
      | answered => simp only; split <;> rfl
      | late | dropped | refused => rfl

/-- a node that refuses a connection, although its thread answers in time, refuses it whatever becomes of the packets -/
theorem connect_refused (hh : c.handling = .answered) {e : Fault} (h : (c.connect id clusterId).1 = .error e)
    (threads : List Handling) :
    ∃ e' left, (c.setThreads threads).connect id clusterId = (.error e', c.setThreads left) := by
  rcases (c.setThreads threads).connect_cases id clusterId with ⟨e', c', hc, rfl | rfl⟩ | ⟨ha, hok⟩
  · exact ⟨e', threads, hc⟩
  · exact ⟨e', threads.drop 1, hc⟩
  · have hsame : ((c.setThreads threads).connect id clusterId).1 = (c.connect id clusterId).1 :=
      connect_setThreads (ha.trans hh.symm)
    rw [hok, h] at hsame
    cases hsame

end Cluster

/-- the packets of one attempt to send node id something: the frame, after a handshake if there is no channel -/
def Client.packets (x : Client) (id : NodeId) : Nat := if x.channels.contains id then 1 else 2

namespace Scene

section

variable {s s' : Scene Cluster} {f : Failure} {id : NodeId} {l : Location} {frame : Bytes} {shape : Shape}

/-- there is no channel to the node, and it accepts no connection, however fast its thread is -/
structure Shut (s : Scene Cluster) (id : NodeId) : Prop where
  channel : s.client.channels.get? id = none
  refused : ∀ threads, ∃ e left,
    (s.net.setThreads threads).connect id s.client.config.clusterId = (.error e, s.net.setThreads left)

/-- there is a channel, whether the node can be reached has not changed, and at most the handshake has been answered; or
there is none, and none is accepted or the thread of the node does not answer in time -/
theorem channel_cases (id : NodeId) (l : Location) (s : Scene Cluster) :
    (∃ ch s', s.channel Cluster.network id l = (.ok ch, s') ∧ ((∃ n, s'.net.Reaches id n) ↔ ∃ n, s.net.Reaches id n) ∧
        (s'.net.handling = .answered ↔ s.net.AnswersNext (s.client.packets id))) ∨
      ∃ e s', s.channel Cluster.network id l = (.error e, s') ∧
        (Shut s id ∨ ¬s.net.AnswersNext (s.client.packets id)) := by
  unfold channel Client.packets SortedMap.contains
  cases hch : s.client.channels.get? id with
  | some ch => exact .inl ⟨ch, s, rfl, .rfl, (and_iff_left trivial).symm⟩
  | none =>
    have hconnect : Cluster.network.connect id l s.client.config.clusterId s.net =
        s.net.connect id s.client.config.clusterId := rfl
    rcases s.net.connect_cases id s.client.config.clusterId with ⟨e, c', he, -⟩ | ⟨hh, hok⟩
    · refine .inr ⟨e, _, by simp only [hconnect, he]; rfl, ?_⟩
      by_cases hh : s.net.handling = .answered
      · exact .inl ⟨hch, Cluster.connect_refused hh (congrArg Prod.fst he)⟩
      · exact .inr fun h => hh h.1
    · refine .inl ⟨_, _, by simp only [hconnect, hok]; rfl, s.net.handed.reaches_opened id, ?_⟩
      exact ⟨fun h => ⟨hh, h, trivial⟩, fun h => h.2.1⟩

/-- an attempt succeeds where the node can be reached and its thread answers in time, unless no connection is accepted -/
theorem attempt_reaches (id : NodeId) (l : Location) (frame : Bytes) (s : Scene Cluster) :
    (∃ ch s', s.attempt Cluster.network id l frame = (.ok ch, s') ∧ (∃ n, s.net.Reaches id n) ∧
        s.net.AnswersNext (s.client.packets id)) ∨
      ∃ e s', s.attempt Cluster.network id l frame = (.error e, s') ∧
        (Shut s id ∨ ¬((∃ n, s.net.Reaches id n) ∧ s.net.AnswersNext (s.client.packets id))) := by
  unfold attempt
  rcases channel_cases id l s with ⟨ch, s₁, hch, hr, ht⟩ | ⟨e, s', hch, hshut⟩
  · rw [hch]
    simp only [Cluster.network_send]
    rcases Cluster.send_cases s₁.net id frame with ⟨e, w, hs, -, -, hun⟩ | ⟨n, hn, hh, hs⟩ | ⟨n, -, hh, hs⟩
    · rw [hs]
      refine .inr ⟨_, _, rfl, .inr fun ⟨hreach, hanswered⟩ => ?_⟩
      obtain ⟨n, hn⟩ := hr.2 hreach
      have hno := hun n hn
      rw [ht.2 hanswered] at hno
      cases hno
    · rw [hs]
      exact .inl ⟨_, _, rfl, hr.1 ⟨n, hn⟩, ht.1 hh⟩
    · rw [hs]
      refine .inr ⟨_, _, rfl, .inr fun ⟨_, hanswered⟩ => ?_⟩
      rw [ht.2 hanswered] at hh
      cases hh
  · rw [hch]
    exact .inr ⟨e, s', rfl, hshut.imp_right fun hno h => hno h.2⟩

/-- no attempt gets a node to open what it keeps shut -/
theorem dispatch_shut (h : Shut s id) (l : Location) (frame : Bytes) {α : Type} (decode : Decoder α) :
    ∃ e, (s.dispatch Cluster.network id l frame decode).1 = .error (.transport id e) := by
  have hwait : ∀ i (s : Scene Cluster), Shut s id → Shut (s.waited i) id := by
    intro i s hs
    obtain ⟨draws, clock, hw⟩ := waited_eq i s
    rw [hw]
    exact ⟨hs.channel, hs.refused⟩
  -- at most a packet is handed over
  have hattempt : ∀ s : Scene Cluster, Shut s id →
      ∃ e left, s.attempt Cluster.network id l frame = (.error e, { s with net := s.net.setThreads left }) := by
    intro s hs
    obtain ⟨e, left, he⟩ := hs.refused s.net.threads
    have hconnect : Cluster.network.connect id l s.client.config.clusterId s.net = (.error e, s.net.setThreads left) := he
    refine ⟨e, left, ?_⟩
    simp only [attempt, channel, hs.channel, hconnect]
  have hfail : ∀ (s : Scene Cluster) e s', s.attempt Cluster.network id l frame = (.error e, s') →
      Shut s id → Shut (s'.gaveUp Cluster.network id) id := by
    intro s e s' ha hs
    obtain ⟨e', left, he⟩ := hattempt s hs
    rw [ha] at he
    cases he
    have hgave : ({ s with net := s.net.setThreads left } : Scene Cluster).gaveUp Cluster.network id =
        ({ s with net := s.net.setThreads left } : Scene Cluster).setMaster none := by
      simp only [gaveUp, evict, hs.channel]
    rw [hgave]
    exact ⟨hs.channel, hs.refused⟩
  rcases dispatch_cases (R := fun s s' => Shut s id → Shut s' id) (fun _ _ _ h h' hs => h' (h hs)) hwait hfail decode s
    with ⟨e, s', hd, -, -⟩ | ⟨s₁, ch, s₂, hs₁, ha, -⟩
  · exact ⟨e, by rw [hd]⟩
  · obtain ⟨e, left, he⟩ := hattempt s₁ (hs₁ h)
    rw [ha] at he
    cases he

/-- **A node that refuses a request for not being master leaves the belief in it alone exactly if the request reached it,
and it was heard, at the first attempt.** -/
theorem exchange_refused {message : String} (hm : s.client.master = some id)
    (h : (s.exchange Cluster.network id frame shape).1 = .error (.notMaster message)) :
    (s.exchange Cluster.network id frame shape).2.client.master ≠ none ↔
      (∃ n, s.net.Reaches id n) ∧ s.net.AnswersNext (s.client.packets id) := by
  cases hl : s.client.config.location? id with
  | none =>
    rw [exchange_of_unknown hl] at h
    cases h
  | some l =>
    rw [exchange_of_location hl] at h ⊢
    rcases attempt_reaches id l frame s with ⟨ch, s', ha, hr⟩ | ⟨e, s', ha, hr⟩
    · -- the reply is read, and it is a refusal
      have hmaster : s'.client.master = some id := by
        have := master_attempt Cluster.network id l frame s
        rw [ha] at this
        exact this.trans hm
      rw [dispatch_of_attempt ha] at h ⊢
      refine iff_of_true ?_ hr
      unfold readReply at h ⊢
      generalize Reply.decoder shape ch = x at h ⊢
      rcases x with ⟨(r | e) | v, ch'⟩
      · exact fun hn => nomatch hmaster.symm.trans hn
      · simp only [Failure.ofReadFault] at h
        split at h <;> cases h
      · cases h
    · refine iff_of_false (fun hne => hne (dispatch_of_failed ha (Reply.decoder shape))) ?_
      rcases hr with hshut | hr
      · obtain ⟨e', he⟩ := dispatch_shut hshut l frame (Reply.decoder shape)
        rw [h] at he
        cases he
      · exact hr

end

/-! ## Which calls can be refused -/

variable {s s' : Scene (Recorded Cluster)} {id : NodeId} {r : Request}

/-- what a node answers to a request is not mistaken for a refusal -/
theorem Served.not_refused {out : Except Failure r.shape.Value} {c : Cluster} {n : Node} (h : Served s id r out s' c n)
    (hc : Reply.Counted r.shape ((c.counted id).respond id n r).1) {v : r.shape.Value}
    (hv : ((c.counted id).respond id n r).1 = .ok v) (message : String) : out ≠ .error (.notMaster message) := by
  intro ho
  rcases (h.settled hc).2 with hout | ⟨reason, hout⟩
  · rw [hv, ho] at hout
    cases hout
  · rw [ho] at hout
    cases hout

/-- every node says which version it runs -/
theorem version_not_refused (hs : s.Ready) (id : NodeId) (message : String) :
    (s.exchange watched id (Request.encode .version) .version).1 ≠ .error (.notMaster message) := by
  intro h
  rcases exchange_cases Request.fair_version (.inr Request.still_version) hs.clean id with
    ⟨f, hf, hkind, -⟩ | ⟨c, n, hserved⟩
  · rw [show f = .notMaster message from Except.error.inj (hf.symm.trans h)] at hkind
    rcases hkind with hk | ⟨e, hk⟩ <;> cases hk
  · exact hserved.not_refused (hserved.counted hs Request.fair_version fun hl => hl.elim) rfl message h

/-- the requests of the calls that are put to the master once -/
def Asked (r : Request) : Prop := r = .command .statistics ∨ r = .command .expectProgressPossible

theorem Asked.fair (h : Asked r) : r.Fair := by
  rcases h with rfl | rfl
  · exact Request.fair_statistics
  · exact Request.fair_expectProgressPossible

theorem Asked.still (h : Asked r) : r.Still := by
  rintro cmd rfl
  rcases h with h | h <;> cases h <;> rfl

/-- a node that leads answers them -/
theorem Asked.answered (h : Asked r) (c : Cluster) {n : Node} (hb : n.belief = some id) :
    ∃ v, (c.respond id n r).1 = .ok v := by
  rcases h with rfl | rfl
  · rw [Cluster.respond_master c id n .statistics hb]
    exact ⟨_, rfl⟩
  · rw [Cluster.respond_master c id n .expectProgressPossible hb]
    exact ⟨_, rfl⟩

/-- a master that was just found does not refuse them -/
theorem found_not_refused (hr : Asked r) (hs : s.Ready) (hc : s.net.world.Countable) (hnone : s.client.master = none)
    (message : String) : (s.exchangeWithMaster watched r.encode r.shape).1 ≠ .error (.notMaster message) := by
  intro h
  have hsought := findMaster_sought hs.attentive hnone
  rw [exchangeWithMaster] at h
  generalize s.findMaster watched = x at hsought h
  rcases x with ⟨e | m, s₁⟩
  · rw [hsought.failed e rfl] at h
    cases h
  · obtain ⟨-, -, hleads⟩ := hsought.found m rfl
    have hready := hsought.calm.ready hs
    rcases exchange_cases hr.fair (.inr hr.still) hready.clean m with ⟨f, hf, hkind, -⟩ | ⟨c, n, hserved⟩
    · rw [show f = .notMaster message from Except.error.inj (hf.symm.trans h)] at hkind
      rcases hkind with hk | ⟨e, hk⟩ <;> cases hk
    · obtain ⟨n₀, hn₀, -, hb₀⟩ := (hsought.calm.quiet.steady.leads hleads).node
      have hst : n.standing = n₀.standing :=
        Option.some.inj (hserved.standing.symm.trans (Cluster.standing_of_node hn₀))
      obtain ⟨v, hv⟩ := hr.answered (c.counted m) ((congrArg Standing.belief hst).trans hb₀)
      exact hserved.not_refused (hserved.counted hready hr.fair fun _ => hsought.calm.quiet.countable hc) hv message h

/-- a call that is refused by a node that is not master: it was one of two, and it was put to the master that the client
believed in -/
structure Refused (s : Scene Cluster) (fuel : Nat) (c : Call) (r : Request) (m : NodeId) (message : String) : Prop where
  call : c = .statistics ∨ c = .expectProgressPossible
  master : s.client.master = some m
  refused : (s.exchange Cluster.network m r.encode r.shape).1 = .error (.notMaster message)
  after : (s.call Cluster.network fuel c).2 = (s.exchange Cluster.network m r.encode r.shape).2

section

variable {s : Scene Cluster} {message : String}

theorem asked_refused (hr : Asked r) (hs : s.logged.Ready) (hcount : s.net.Countable)
    (h : (s.exchangeWithMaster Cluster.network r.encode r.shape).1 = .error (.notMaster message)) :
    ∃ m, s.client.master = some m ∧ s.exchangeWithMaster Cluster.network r.encode r.shape =
      s.exchange Cluster.network m r.encode r.shape := by
  cases hm : s.client.master with
  | none =>
    have hmap := exchangeWithMaster_map Cluster.network.seen_recorded r.encode r.shape s.logged
    exact absurd ((congrArg Prod.fst hmap).symm.trans h) (found_not_refused hr hs hcount hm message)
  | some m => exact ⟨m, rfl, by rw [exchangeWithMaster, findMaster_of_some hm]⟩

theorem versionCall_not_refused (hs : s.logged.Ready) (id : Option NodeId) (message : String) :
    (s.version Cluster.network id).1 ≠ .error (.notMaster message) := by
  intro h
  have hseen := Cluster.network.seen_recorded
  cases id with
  | some id =>
    have hmap := exchange_map hseen id (Request.encode .version) .version s.logged
    exact version_not_refused hs id message ((congrArg Prod.fst hmap).symm.trans h)
  | none =>
    have hmap := exchangeWithMaster_map hseen (Request.encode .version) .version s.logged
    obtain ⟨hcalm, hfailed⟩ := findMaster_calm hs.attentive
    have h' := (congrArg Prod.fst hmap).symm.trans h
    unfold exchangeWithMaster at h'
    generalize s.logged.findMaster watched = x at hcalm hfailed h'
    rcases x with ⟨e | m, s₁⟩
    · rw [hfailed e rfl] at h'
      cases h'
    · exact version_not_refused (hcalm.ready hs) m message h'

theorem call_refused (hs : s.logged.Ready) (hcount : s.net.Countable) {fuel : Nat} {c : Call} (hc : c.single = true)
    (h : (s.call Cluster.network fuel c).1 = some (.error (.notMaster message))) :
    ∃ m r, Refused s fuel c r m message := by
  cases c with
  | statistics =>
    have h' : (s.exchangeWithMaster Cluster.network (Request.encode (.command .statistics)) .statistics).1 =
      .error (.notMaster message) := Option.some.inj h
    obtain ⟨m, hm, he⟩ := asked_refused (.inl rfl) hs hcount h'
    exact ⟨m, .command .statistics, .inl rfl, hm, he ▸ h', congrArg Prod.snd he⟩
  | expectProgressPossible =>
    obtain ⟨h', hafter⟩ := expectProgressPossible_failed (Option.some.inj h)
    obtain ⟨m, hm, he⟩ := asked_refused (.inr rfl) hs hcount h'
    exact ⟨m, .command .expectProgressPossible, .inr rfl, hm, he ▸ h', hafter.trans (congrArg Prod.snd he)⟩
  | version id => exact absurd (Option.some.inj h) (versionCall_not_refused hs id message)
  | _ => cases hc

end

end Scene

/-- the failure that an answer is -/
def Answer.failure? : Answer → Option Failure
  | failure f => some f
  | _ => none

theorem Answer.of_failure? {a : Answer} {f : Failure} (h : a.failure? = some f) : a = failure f := by
  cases a with
  | failure => cases h; rfl
  | _ => cases h

theorem Answer.failure_of_outcome {shape : Shape} {o : Option (Except Failure shape.Value)} {f : Failure}
    (h : ofOutcome o = failure f) : o = some (.error f) := by
  rcases o with _ | f' | v
  · cases h
  · cases h
    rfl
  · cases h

namespace Simulation

/-- **When a call that loses the master leaves a belief in it.** After any operations on a new cluster and its clients:
a call ends in the loss of the master. If the client believes in a master afterwards, it is the one it believed in
before. And it does so exactly if the call was for statistics or for the expected progress, the node refused it for not
being master, and that node could be reached at once: it was alive, its next send was not about to fail, and its thread
answered in time. After every other loss nothing is believed, so the next call for the master looks for it. -/
theorem lost_master_forgotten (clusterId : String) (ids : List NodeId) (clients : List (Config × List Nat))
    (fuel : Nat) (ops : List Op) (hroom : RoomAlong fuel (initial clusterId ids clients) ops) {i : Nat} {x : Client}
    (hx : ((initial clusterId ids clients).run fuel ops).client? i = some x) {rounds : Nat} {c : Call} {f : Failure}
    (hf : (((initial clusterId ids clients).run fuel ops).step rounds (.call i c)).1 = .failure f)
    (hlost : f.losesMaster = true) :
    let sim := (initial clusterId ids clients).run fuel ops
    ∃ y, (sim.step rounds (.call i c)).2.client? i = some y ∧ (y.master = none ∨ y.master = x.master) ∧
      (y.master ≠ none ↔ (c = .statistics ∨ c = .expectProgressPossible) ∧ (∃ message, f = .notMaster message) ∧
        ∃ m n, x.master = some m ∧ sim.cluster.Reaches m n ∧ sim.cluster.AnswersNext (x.packets m)) := by
  intro sim
  have htidy : sim.Tidy := tidy_run fuel ops (tidy_initial clusterId ids clients) hroom
  have hroomy : sim.cluster.Roomy := hroom ops (List.prefix_refl ops)
  have hready : (sim.scene x).logged.Ready := ⟨htidy.clean i x hx, hroomy.named, htidy.small⟩
  have hcount : (sim.scene x).net.Countable := hroomy.countable htidy.tallied
  have hstep : sim.step rounds (.call i c) = (.ofOutcome ((sim.scene x).call Cluster.network rounds c).1,
      sim.afterScene i ((sim.scene x).call Cluster.network rounds c).2) := by
    have hx' : sim.client? i = some x := hx
    simp only [step, hx']
  have hcall : ((sim.scene x).call Cluster.network rounds c).1 = some (.error f) := by
    apply Answer.failure_of_outcome
    rw [← hf]
    exact (congrArg Prod.fst hstep).symm
  rw [hstep]
  refine ⟨_, client?_afterScene hx _, ?_⟩
  -- the master is forgotten, unless the call was refused for not being put to it
  by_cases hrefused : c.single = true ∧ ∃ message, f = .notMaster message
  · obtain ⟨hsingle, message, rfl⟩ := hrefused
    obtain ⟨m, r, h⟩ := Scene.call_refused hready hcount hsingle hcall
    rw [h.after]
    refine ⟨(Scene.modest_exchange _ m r.encode r.shape _).master, (Scene.exchange_refused h.master h.refused).trans ?_⟩
    constructor
    · rintro ⟨⟨n, hn⟩, ht⟩
      exact ⟨h.call, ⟨message, rfl⟩, m, n, h.master, hn, ht⟩
    · rintro ⟨-, -, m', n, hm', hn, ht⟩
      rw [Option.some.inj (h.master.symm.trans hm')]
      exact ⟨⟨n, hn⟩, ht⟩
  · have hnone := (Scene.call_lost hcall hlost).resolve_right hrefused
    refine ⟨.inl hnone, iff_of_false (fun hne => hne hnone) ?_⟩
    rintro ⟨hc, hmessage, -⟩
    exact hrefused ⟨by rcases hc with rfl | rfl <;> rfl, hmessage⟩

/-- a client asks a for statistics once a is no longer master -/
theorem lost_master_forgotten_statistics :
    let ops := [.setMaster (some "a"), .call 0 .getKeyCount, .setMaster none]
    let sim := (initial "c" ["a", "b"] [(.ofTwoNodes, [])]).run 1 ops
    ∃ x f y, sim.client? 0 = some x ∧ (sim.step 1 (.call 0 .statistics)).1 = .failure f ∧ f.losesMaster = true ∧
      (sim.step 1 (.call 0 .statistics)).2.client? 0 = some y ∧ (y.master = none ∨ y.master = x.master) ∧
      (y.master ≠ none ↔ (Call.statistics = .statistics ∨ Call.statistics = .expectProgressPossible) ∧
        (∃ message, f = .notMaster message) ∧
          ∃ m n, x.master = some m ∧ sim.cluster.Reaches m n ∧ sim.cluster.AnswersNext (x.packets m)) := by
  intro ops sim
  have hrun : RoomAlong 1 (initial "c" ["a", "b"] [(.ofTwoNodes, [])]) ops ∧ (sim.client? 0).isSome = true ∧
      (sim.step 1 (.call 0 .statistics)).1.failure? = some (.notMaster "unknown") := by decide +kernel
  obtain ⟨hroom, hsome, hfail⟩ := hrun
  obtain ⟨x, hx⟩ := Option.isSome_iff_exists.1 hsome
  have hf : (sim.step 1 (.call 0 .statistics)).1 = .failure (.notMaster "unknown") := Answer.of_failure? hfail
  obtain ⟨y, hy, h⟩ := lost_master_forgotten "c" ["a", "b"] [(.ofTwoNodes, [])] 1 ops hroom hx hf rfl
  exact ⟨x, _, y, hx, hf, rfl, hy, h⟩

/-- **A belief in a master that is lost can stay.** The client asks a for statistics once a is no longer master, is told
so, and believes in a as before. -/
theorem stale_master_kept :
    let ops := [.setMaster (some "a"), .call 0 .getKeyCount, .setMaster none]
    let sim := (initial "c" ["a", "b"] [(.ofTwoNodes, [])]).run 1 ops
    (sim.step 1 (.call 0 .statistics)).1.failure? = some (.notMaster "unknown") ∧
      (Failure.notMaster "unknown").losesMaster = true ∧
      ((sim.step 1 (.call 0 .statistics)).2.client? 0).map Client.master = some (some "a") := by
  decide +kernel

end Simulation

end ReplicaKV
