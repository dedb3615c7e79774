/-
A request of a client to a node of a cluster, from a scene in which nothing is left to read.

- `Calm`: nothing has happened that anyone but a counter would notice.
- `Evaluation`, `evaluations`: the commands that masters carried out, as the log of the network tells.
- `Served`: the node received the request once and carried it out if it is master; the client was told the answer, or
  could not read it.
- `exchange_cases`: a request is not answered and all is calm, or it is served; unless it writes and a node does so too
  late. `served_of_welcome`: it is served where a node is alive, sends do not fail, threads answer in time and the cluster
  is the client's.
-/
import ReplicaKV.Proofs.Cluster.Answers
import ReplicaKV.Proofs.Network.Record
import ReplicaKV.Proofs.Prologue

namespace ReplicaKV

open ReplicaKV.Frame

/-! ## The handshake -/

namespace Cluster

variable {c : Cluster} {id : NodeId} {n : Node}

/-- a live node of the client's cluster accepts the client, if its thread answers in time -/
theorem connect_live (hn : c.nodes.get? id = some n) (ha : n.alive = true) (hh : c.handling = .answered)
    (hfit : 12 + c.id.utf8ByteSize ≤ sizeLimit) :
    c.connect id c.id = (.ok (), c.handed.adjust id fun n => { n with opened := n.opened + 1 }) := by
  obtain ⟨r, hd⟩ := Prologue.decode_encode (Prologue.size_body c.id ▸ hfit)
  have hg : c.greet (Prologue.encode c.id) = Reply.encode .unit (.ok ()) := by
    rw [greet, hd]
    simp only [if_true]
    rfl
  obtain ⟨r', hr, -⟩ := Reply.decode_encode (Reply.sound_ok (s := .unit) ()) (by decide)
    (Reply.rest_encode .unit (.ok ()))
  rw [connect, hn]
  simp only [ha, Bool.not_true, Bool.false_eq_true, if_false, hand, hh, hg, hr]

end Cluster

/-! ## The log -/

/-- a command carried out by a node, and the cluster at that moment -/
structure Evaluation where
  node : NodeId
  command : Command
  before : Cluster

namespace Cluster

/-- the command that node id carries out when it is sent the frame -/
def evaluates (c : Cluster) (id : NodeId) (frame : Bytes) : Option Command :=
  match c.nodes.get? id with
  | none => none
  | some n =>
    if n.alive && n.failingSends = 0 && c.handling.taken && n.belief = some id then
      match Request.decode (Frame.start (.ofBytes frame)) with
      | .ok (.command cmd) _ => some cmd
      | _ => none
    else none

/-- what node n, if it is master, carries out for a request -/
def carriedOut (c : Cluster) (id : NodeId) (n : Node) : Request → List Evaluation
  | .command cmd => if n.belief = some id then [⟨id, cmd, c⟩] else []
  | _ => []

end Cluster

/-- the command that was carried out, if one was -/
def Deed.evaluation? : Deed Cluster → Option Evaluation
  | .sent id frame before _ => (before.evaluates id frame).map fun cmd => ⟨id, cmd, before⟩
  | .connected _ _ _ | .closed _ | .ended _ => none

/-- the commands that were carried out, last first -/
def evaluations (log : List (Deed Cluster)) : List Evaluation := log.filterMap Deed.evaluation?

namespace Cluster

variable {c : Cluster} {id : NodeId} {n : Node}

theorem evaluates_of_unreached (h : ∀ n, c.Reaches id n → c.handling.taken = false) (frame : Bytes) :
    c.evaluates id frame = none := by
  unfold evaluates
  cases hn : c.nodes.get? id with
  | none => rfl
  | some n =>
    simp only
    split_ifs with hc
    · simp only [Bool.and_eq_true, decide_eq_true_eq] at hc
      have hno := h n ⟨hn, hc.1.1.1, hc.1.1.2⟩
      rw [hc.1.2] at hno
      cases hno
    · rfl

theorem evaluation_of_reached (h : c.Reaches id n) (ht : c.handling.taken = true) {r : Request} (hr : r.Fair)
    (x : Except Fault Delivery) : (Deed.sent id r.encode c x).evaluation?.toList = c.carriedOut id n r := by
  obtain ⟨hn, ha, hf⟩ := h
  obtain ⟨r', hd, -⟩ := Request.decode_encode hr.fits r.rest_encode
  rw [hr.plain] at hd
  simp only [Deed.evaluation?, evaluates, hn, ha, hf, ht, Bool.true_and, decide_true, decide_eq_true_eq, hd]
  cases r with
  | command cmd =>
    simp only [carriedOut]
    split_ifs <;> rfl
  | whoMaster | version | query => simp only [carriedOut, ite_self, Option.map_none, Option.toList_none]

/-- the network of a cluster, with a log -/
abbrev watched : Network (Recorded Cluster) := network.recorded

end Cluster

open Cluster (watched)

namespace Scene

/-! ## Quiet steps -/

/-- the settings are the same, the cluster is quiet, and nothing is left to read if nothing was; nothing has been
carried out, unless it was a request that writes nothing and came too late -/
structure Calm (s s' : Scene (Recorded Cluster)) : Prop where
  config : s'.client.config = s.client.config
  quiet : s.net.world.Quiet s'.net.world
  evaluations : s.net.world.Punctual → evaluations s'.net.log = evaluations s.net.log
  clean : s.Clean → s'.Clean

variable {s s' s'' : Scene (Recorded Cluster)} {id : NodeId} {l : Location} {frame : Bytes}

theorem Calm.refl (s : Scene (Recorded Cluster)) : Calm s s := ⟨rfl, .refl _, fun _ => rfl, fun h => h⟩

theorem Calm.punctual (h : Calm s s') (hp : s.net.world.Punctual) : s'.net.world.Punctual :=
  h.quiet.threads.punctual hp

theorem Calm.trans (h : Calm s s') (h' : Calm s' s'') : Calm s s'' :=
  ⟨h'.config.trans h.config, h.quiet.trans h'.quiet,
    fun hp => (h'.evaluations (h.punctual hp)).trans (h.evaluations hp), fun hc => h'.clean (h.clean hc)⟩

theorem calm_aside (s : Scene (Recorded Cluster)) (c : Client) (k : Clock) (hc : c.config = s.client.config)
    (hch : c.channels = s.client.channels) : Calm s ⟨c, k, s.net⟩ :=
  ⟨hc, .refl _, fun _ => rfl, fun h id ch hid => h id ch (hch ▸ hid)⟩

theorem calm_setMaster (m : Option NodeId) (s : Scene (Recorded Cluster)) : Calm s (s.setMaster m) :=
  calm_aside s _ _ rfl rfl

theorem calm_waited (i : Nat) (s : Scene (Recorded Cluster)) : Calm s (s.waited i) := by
  obtain ⟨draws, clock, h⟩ := waited_eq i s
  rw [h]
  exact calm_aside s _ _ rfl rfl

theorem calm_evict (id : NodeId) (s : Scene (Recorded Cluster)) : Calm s (s.evict watched id) := by
  refine ⟨?_, ?_, ?_, fun h => h.evict watched id⟩
  · rw [evict]; split <;> rfl
  · unfold evict
    split
    · exact .refl _
    · exact Cluster.quiet_close s.net.world id
  · intro _
    rw [evict]; split <;> rfl

theorem calm_gaveUp (id : NodeId) (s : Scene (Recorded Cluster)) : Calm s (s.gaveUp watched id) :=
  (calm_evict id s).trans (calm_setMaster none _)

theorem calm_closes (ids : List NodeId) (r : Recorded Cluster) :
    r.world.Quiet (ids.foldl (fun w id => watched.close id w) r).world ∧
      evaluations (ids.foldl (fun w id => watched.close id w) r).log = evaluations r.log := by
  induction ids generalizing r with
  | nil => exact ⟨.refl _, rfl⟩
  | cons id ids ih =>
    obtain ⟨hq, he⟩ := ih (watched.close id r)
    exact ⟨(Cluster.quiet_close r.world id).trans hq, he⟩

theorem calm_closeAll (s : Scene (Recorded Cluster)) : Calm s (s.closeAll watched) :=
  ⟨rfl, (calm_closes _ _).1, fun _ => (calm_closes _ _).2, fun _ => clean_closeAll watched s⟩

theorem calm_reset (s : Scene (Recorded Cluster)) : Calm s (s.reset watched) :=
  (calm_setMaster none s).trans (calm_closeAll _)

/-! ## Attempts -/

theorem calm_channel (id : NodeId) (l : Location) (s : Scene (Recorded Cluster)) :
    Calm s (s.channel watched id l).2 ∧ ∀ ch, (s.channel watched id l).1 = .ok ch → s.Clean → ch.left = 0 := by
  unfold channel
  cases hch : s.client.channels.get? id with
  | some ch => exact ⟨.refl s, fun ch' h hc => hc id ch' (by cases h; exact hch)⟩
  | none =>
    have hq := Cluster.quiet_connect s.net.world id s.client.config.clusterId
    simp only [Network.recorded_connect, Cluster.network]
    generalize s.net.world.connect id s.client.config.clusterId = x at hq ⊢
    rcases x with ⟨e | u, w⟩
    · exact ⟨⟨rfl, hq, fun _ => rfl, fun h => h⟩, fun _ h => nomatch h⟩
    · refine ⟨⟨rfl, hq, fun _ => rfl, fun h => h.setChannel id rfl⟩, ?_⟩
      intro ch h _
      cases h; rfl

/-- an attempt that fails: it is calm, or it is calm until the node receives the frame and is not heard -/
theorem attempt_fails {e : Fault} (h : s.attempt watched id l frame = (.error e, s')) :
    Calm s s' ∨ ∃ s₁ n, Calm s s₁ ∧ s₁.net.world.Reaches id n ∧ s₁.net.world.handling = .late ∧
      s' = ⟨s₁.client, s₁.clock, s₁.net.add (.sent id frame s₁.net.world (.error e))
        (s₁.net.world.receive id n frame).2.handed⟩ := by
  have hc := (calm_channel id l s).1
  unfold attempt at h
  generalize s.channel watched id l = x at hc h
  rcases x with ⟨e' | ch, s₁⟩
  · cases h
    exact .inl hc
  · simp only [Network.recorded_send, Cluster.network_send] at h
    rcases Cluster.send_cases s₁.net.world id frame with ⟨e', w, hs, hq, -, hun⟩ | ⟨n, -, -, hs⟩ | ⟨n, hr, hl, hs⟩
    · rw [hs] at h
      simp only [Except.map] at h
      cases h
      refine .inl (hc.trans ⟨rfl, hq, fun _ => ?_, fun h => h⟩)
      simp only [Recorded.add, evaluations, List.filterMap_cons, Deed.evaluation?,
        Cluster.evaluates_of_unreached hun frame, Option.map_none]
    · rw [hs] at h
      simp only [Except.map] at h
      cases h
    · rw [hs] at h
      simp only [Except.map] at h
      cases h
      exact .inr ⟨s₁, n, hc, hr, hl, rfl⟩

/-- a failed attempt is calm, and the client gives up on the channel; unless the request writes, and is answered late -/
theorem attempt_failed {r : Request} (hr : r.Fair) (hq : s.net.world.Punctual ∨ r.Still) {e : Fault}
    (h : s.attempt watched id l r.encode = (.error e, s')) : Calm s (s'.gaveUp watched id) := by
  rcases attempt_fails h with hc | ⟨s₁, n, hc, -, hl, rfl⟩
  · exact hc.trans (calm_gaveUp id _)
  · have hlate : ¬s.net.world.Punctual := fun hp => (hc.punctual hp).handling hl
    have hquiet := Cluster.respond_still (s₁.net.world.counted id) id n (hq.resolve_left hlate)
    refine Calm.trans ?_ (calm_gaveUp id _)
    refine ⟨hc.config, ?_, fun hp => absurd hp hlate, fun h k ch hk => hc.clean h k ch hk⟩
    rw [Cluster.receive_request hr]
    exact ((hc.quiet.trans (Cluster.quiet_counted _ id)).trans hquiet).trans (Cluster.quiet_handed _)

/-- an attempt that succeeds: calm until the node receives the frame; its answer is on the channel -/
theorem attempt_sent {ch : Stream} (h : s.attempt watched id l frame = (.ok ch, s')) :
    ∃ s₁ n, Calm s s₁ ∧ s₁.net.world.Reaches id n ∧ s₁.net.world.handling = .answered ∧
      (s.Clean → ch = ⟨(s₁.net.world.receive id n frame).1, 0, .endOfInput⟩) ∧
      s' = ⟨{ s₁.client with channels := s₁.client.channels.insert id ch }, s₁.clock,
        s₁.net.add (.sent id frame s₁.net.world (.ok ⟨(s₁.net.world.receive id n frame).1, .endOfInput⟩))
          (s₁.net.world.receive id n frame).2.handed⟩ := by
  obtain ⟨hc, hleft⟩ := calm_channel id l s
  unfold attempt at h
  generalize s.channel watched id l = x at hc hleft h
  rcases x with ⟨e' | ch', s₁⟩
  · cases h
  · simp only [Network.recorded_send, Cluster.network_send] at h
    rcases Cluster.send_cases s₁.net.world id frame with ⟨e', w, hs, -⟩ | ⟨n, hr, ha, hs⟩ | ⟨n, -, -, hs⟩
    · rw [hs] at h
      simp only [Except.map] at h
      cases h
    · rw [hs] at h
      simp only [Except.map] at h
      cases h
      refine ⟨s₁, n, hc, hr, ha, ?_, rfl⟩
      intro hclean
      rw [Stream.deliver, if_pos (hleft ch' rfl hclean)]
    · rw [hs] at h
      simp only [Except.map] at h
      cases h

/-! ## Requests -/

/-- node n, at cluster c, received the request and answered it in time; what the client was told, and what it can read.
It received it this once, if no thread is late -/
structure Served (s : Scene (Recorded Cluster)) (id : NodeId) (r : Request) (out : Except Failure r.shape.Value)
    (s' : Scene (Recorded Cluster)) (c : Cluster) (n : Node) : Prop where
  before : s.net.world.Quiet c
  reaches : c.Reaches id n
  config : s'.client.config = s.client.config
  after : ((c.counted id).respond id n r).2.Quiet s'.net.world
  evaluations : s.net.world.Punctual → evaluations s'.net.log = c.carriedOut id n r ++ evaluations s.net.log
  /-- an answer that fits a frame is told -/
  told : (Reply.body r.shape ((c.counted id).respond id n r).1).size ≤ sizeLimit →
    out = ((c.counted id).respond id n r).1.mapError .ofRefusal ∧ s'.Clean
  /-- an answer that can be read back is told, or cannot be read -/
  settled : Reply.Counted r.shape ((c.counted id).respond id n r).1 → s'.Clean ∧
    (out = ((c.counted id).respond id n r).1.mapError .ofRefusal ∨ ∃ reason, out = .error (.protocol reason))
  /-- a failure is the refusal that was answered, or the answer could not be read -/
  stays : Reply.Measured r.shape ((c.counted id).respond id n r).1 → ∀ f, out = .error f →
    (∃ refusal, ((c.counted id).respond id n r).1 = .error refusal ∧ f = .ofRefusal refusal) ∨
      ∃ reason, f = .protocol reason

namespace Served

variable {r : Request} {out : Except Failure r.shape.Value} {c : Cluster} {n : Node}

theorem of_calm (h : Served s' id r out s'' c n) (hs : Calm s s') : Served s id r out s'' c n where
  before := hs.quiet.trans h.before
  reaches := h.reaches
  config := h.config.trans hs.config
  after := h.after
  evaluations hp := (h.evaluations (hs.punctual hp)).trans (congrArg _ (hs.evaluations hp))
  told := h.told
  settled := h.settled
  stays := h.stays

/-- a note of how the request ended changes nothing -/
theorem noted (h : Served s id r out s' c n) (note : Notice) :
    Served s id r out { s' with net := watched.note note s'.net } c n :=
  ⟨h.before, h.reaches, h.config, h.after, h.evaluations, h.told, h.settled, h.stays⟩

end Served

/-- what the client makes of an answer -/
theorem readReply_of_answer {shape : Shape} {o : Except Refusal shape.Value} (hs : Reply.Sound o)
    (s : Scene (Recorded Cluster)) (id : NodeId) (ch : Stream) (hch : ch = .ofBytes (Reply.encode shape o)) :
    ((Reply.body shape o).size ≤ sizeLimit → ∃ ch', ch'.left = 0 ∧
        s.readReply watched id (Reply.decoder shape) ch = (o.mapError .ofRefusal, s.setChannel id ch')) ∧
      (Reply.Counted shape o →
        (∃ ch', ch'.left = 0 ∧
          s.readReply watched id (Reply.decoder shape) ch = (o.mapError .ofRefusal, s.setChannel id ch')) ∨
          ∃ reason, s.readReply watched id (Reply.decoder shape) ch = (.error (.protocol reason), s.gaveUp watched id)) ∧
      (Reply.Measured shape o → ∀ f, (s.readReply watched id (Reply.decoder shape) ch).1 = .error f →
        (∃ refusal, o = .error refusal ∧ f = .ofRefusal refusal) ∨ ∃ reason, f = .protocol reason) := by
  have hread : ∀ r', Reply.decode shape (Frame.start ch) = .ok o r' → r'.stream.rest = [] →
      ∃ ch', ch'.left = 0 ∧
        s.readReply watched id (Reply.decoder shape) ch = (o.mapError .ofRefusal, s.setChannel id ch') := by
    intro r' hd hrest
    refine ⟨r'.stream, by rw [Stream.left_eq, hrest]; rfl, ?_⟩
    rw [readReply, Reply.decoder, hd]
    cases o <;> rfl
  have hbad : ∀ e r', Reply.decode shape (Frame.start ch) = .error e r' → e.kind = .invalidData →
      s.readReply watched id (Reply.decoder shape) ch =
        (.error (.protocol s!"node {id}: {e.text}"), s.gaveUp watched id) := by
    intro e r' hd hk
    rw [readReply, Reply.decoder, hd]
    simp only [Failure.ofReadFault, hk]
    rfl
  subst hch
  refine ⟨?_, ?_, ?_⟩
  · intro hfit
    obtain ⟨r', hd, hrest, -⟩ := Reply.decode_encode hs hfit (Reply.rest_encode shape o)
    exact hread r' hd hrest
  · intro hc
    rcases Reply.decode_settles hs hc (Reply.rest_encode shape o) with ⟨r', hd, hrest, -⟩ | ⟨e, r', hd, hk⟩
    · exact .inl (hread r' hd hrest)
    · exact .inr ⟨_, hbad e r' hd hk⟩
  · intro hm f hf
    rcases Reply.decode_stays hs hm (Reply.rest_encode shape o) with ⟨o', r', hd, ho⟩ | ⟨e, r', hd, hk⟩
    · rw [readReply, Reply.decoder, hd] at hf
      cases o' with
      | ok v => cases hf
      | error refusal =>
        cases hf
        exact .inl ⟨refusal, ho refusal rfl, rfl⟩
    · rw [hbad e r' hd hk] at hf
      cases hf
      exact .inr ⟨_, rfl⟩

/-- reading a reply is quiet, whatever is read -/
theorem readReply_quiet {α : Type} (id : NodeId) (decode : Decoder α) (ch : Stream) (s : Scene (Recorded Cluster)) :
    (s.readReply watched id decode ch).2.client.config = s.client.config ∧
      s.net.world.Quiet (s.readReply watched id decode ch).2.net.world ∧
      evaluations (s.readReply watched id decode ch).2.net.log = evaluations s.net.log := by
  unfold readReply
  rcases decode ch with ⟨(r | e) | v, ch'⟩
  · exact ⟨rfl, .refl _, rfl⟩
  · refine ⟨(calm_gaveUp id s).config, (calm_gaveUp id s).quiet, ?_⟩
    simp only [evict, setMaster]
    split <;> rfl
  · exact ⟨rfl, .refl _, rfl⟩

/-- a fair request that is sent from a clean scene is served -/
theorem served_of_sent {r : Request} (hr : r.Fair) (hclean : s.Clean) {ch : Stream}
    (h : s.attempt watched id l r.encode = (.ok ch, s')) :
    ∃ c n, Served s id r (s'.readReply watched id (Reply.decoder r.shape) ch).1
      (s'.readReply watched id (Reply.decoder r.shape) ch).2 c n := by
  obtain ⟨s₁, n, hcalm, hreach, hanswered, hch, hs'⟩ := attempt_sent h
  have hch := hch hclean
  rw [Cluster.receive_request hr] at hch hs'
  refine ⟨s₁.net.world, n, ?_⟩
  set c := s₁.net.world
  set o := ((c.counted id).respond id n r).1 with ho
  -- the scene after the send: calm but for the node's answer
  have hworld : ((c.counted id).respond id n r).2.Quiet s'.net.world := by
    rw [hs']
    exact Cluster.quiet_handed _
  have hlog : s.net.world.Punctual → evaluations s'.net.log = c.carriedOut id n r ++ evaluations s.net.log := by
    intro hp
    have htaken : c.handling.taken = true := by rw [hanswered]; rfl
    rw [← hcalm.evaluations hp, ← Cluster.evaluation_of_reached hreach htaken hr, hs']
    simp only [Recorded.add, evaluations, List.filterMap_cons]
    split <;> rename_i hd <;> rw [hd] <;> rfl
  have hconfig : s'.client.config = s.client.config := by rw [hs']; exact hcalm.config
  have hothers : ∀ ch', ch'.left = 0 → (s'.setChannel id ch').Clean := by
    intro ch' hleft k x hx
    simp only [hs', setChannel, SortedMap.get?_insert] at hx
    split_ifs at hx
    · cases hx; exact hleft
    · exact hcalm.clean hclean k x hx
  have hgave : (s'.gaveUp watched id).Clean := by
    intro k x hx
    have hmem : s'.client.channels.get? id = some ch := by
      simp only [hs', SortedMap.get?_insert, Std.compare_self, if_true]
    simp only [gaveUp, setMaster, evict, hmem, SortedMap.get?_erase] at hx
    split_ifs at hx with hk
    simp only [hs', SortedMap.get?_insert] at hx
    have hk' : ¬compare k id = .eq := fun hc => hk hc
    rw [if_neg hk'] at hx
    exact hcalm.clean hclean k x hx
  obtain ⟨hrc, hrq, hre⟩ := readReply_quiet id (Reply.decoder r.shape) ch s'
  obtain ⟨hfits, hcounted, hmeasured⟩ := readReply_of_answer (o := o) (Cluster.respond_sound _ id n r) s' id ch hch
  refine ⟨hcalm.quiet, hreach, hrc.trans hconfig, hworld.trans hrq, fun hp => hre.trans (hlog hp), ?_, ?_, hmeasured⟩
  · intro hfit
    obtain ⟨ch', hleft, he⟩ := hfits hfit
    rw [he]
    exact ⟨rfl, hothers ch' hleft⟩
  · intro hc
    rcases hcounted hc with ⟨ch', hleft, he⟩ | ⟨reason, he⟩
    · rw [he]
      exact ⟨hothers ch' hleft, .inl rfl⟩
    · rw [he]
      exact ⟨hgave, .inr ⟨reason, rfl⟩⟩

/-- **A request is not answered and all is calm, or it is served**; unless it writes, and a node does so too late. -/
theorem exchange_cases {r : Request} (hr : r.Fair) (hq : s.net.world.Punctual ∨ r.Still) (hclean : s.Clean)
    (id : NodeId) :
    (∃ f, (s.exchange watched id r.encode r.shape).1 = .error f ∧ (f = .unknownNode id ∨ ∃ e, f = .transport id e) ∧
        Calm s (s.exchange watched id r.encode r.shape).2) ∨
      ∃ c n, Served s id r (s.exchange watched id r.encode r.shape).1
        (s.exchange watched id r.encode r.shape).2 c n := by
  cases hl : s.client.config.location? id with
  | none =>
    rw [exchange_of_unknown hl]
    exact .inl ⟨_, rfl, .inl rfl, .refl s⟩
  | some l =>
    rw [exchange_of_location hl]
    -- every step of the way is calm, if that is so when it is made
    have htrans : ∀ s s' s'' : Scene (Recorded Cluster), (s.net.world.Punctual ∨ r.Still → Calm s s') →
        (s'.net.world.Punctual ∨ r.Still → Calm s' s'') → s.net.world.Punctual ∨ r.Still → Calm s s'' :=
      fun _ _ _ h h' hq => (h hq).trans (h' (hq.imp_left (h hq).punctual))
    rcases dispatch_cases htrans (fun i s _ => calm_waited i s) (fun _ _ _ ha hq => attempt_failed hr hq ha)
      (Reply.decoder r.shape) s with ⟨e, s', hd, hcalm, -⟩ | ⟨s₁, ch, s₂, hcalm, ha, hd⟩
    · rw [hd]
      exact .inl ⟨_, rfl, .inr ⟨e, rfl⟩, (hcalm hq).config, (hcalm hq).quiet, (hcalm hq).evaluations, (hcalm hq).clean⟩
    · rw [hd]
      obtain ⟨c, n, hs⟩ := served_of_sent hr ((hcalm hq).clean hclean) ha
      exact .inr ⟨c, n, (hs.of_calm (hcalm hq)).noted _⟩

/-! ## Welcome clients -/

/-- node id is there to serve the client: alive, in the client's cluster, no send is about to fail, and threads answer
in time -/
structure Welcome (s : Scene (Recorded Cluster)) (id : NodeId) (n : Node) : Prop where
  node : s.net.world.nodes.get? id = some n
  alive : n.alive = true
  reliable : s.net.world.Reliable
  timely : s.net.world.Timely
  cluster : s.client.config.clusterId = s.net.world.id
  fits : 12 + s.net.world.id.utf8ByteSize ≤ sizeLimit

theorem attempt_of_welcome {n : Node} (h : Welcome s id n) (l : Location) (frame : Bytes) :
    ∃ ch s', s.attempt watched id l frame = (.ok ch, s') := by
  -- a channel is open, or the node accepts a connection
  have hch : ∃ ch s₁, s.channel watched id l = (.ok ch, s₁) := by
    unfold channel
    cases s.client.channels.get? id with
    | some ch => exact ⟨ch, s, rfl⟩
    | none =>
      simp only [Network.recorded_connect, Cluster.network, h.cluster,
        Cluster.connect_live h.node h.alive h.timely.handling h.fits]
      exact ⟨_, _, rfl⟩
  obtain ⟨ch, s₁, hch⟩ := hch
  have hcalm : Calm s s₁ := by
    have := (calm_channel id l s).1
    rwa [hch] at this
  obtain ⟨n₁, hn₁, hst⟩ := hcalm.quiet.node' h.node
  have hreach : s₁.net.world.Reaches id n₁ :=
    ⟨hn₁, (congrArg Standing.alive hst).trans h.alive, hcalm.quiet.reliable h.reliable id n₁ hn₁⟩
  rw [attempt, hch]
  simp only [Network.recorded_send, Cluster.network_send]
  have hanswered : s₁.net.world.handling = .answered := (hcalm.quiet.threads.timely h.timely).handling
  rcases Cluster.send_cases s₁.net.world id frame with ⟨e, w, -, -, -, hun⟩ | ⟨n₂, -, -, hs⟩ | ⟨n₂, -, hlate, -⟩
  · have hno := hun n₁ hreach
    rw [hanswered] at hno
    cases hno
  · rw [hs]
    exact ⟨_, _, rfl⟩
  · rw [hanswered] at hlate
    cases hlate

/-- a welcome client is served by a node of its settings -/
theorem served_of_welcome {r : Request} (hr : r.Fair) (hclean : s.Clean) {n₀ : Node} (h : Welcome s id n₀)
    (hid : id ∈ s.client.config.nodeIds) :
    ∃ c n, Served s id r (s.exchange watched id r.encode r.shape).1 (s.exchange watched id r.encode r.shape).2 c n := by
  obtain ⟨l, hl⟩ := Config.location_of_mem_nodeIds hid
  obtain ⟨ch, s', ha⟩ := attempt_of_welcome h l r.encode
  rw [exchange_of_location hl, dispatch_of_attempt ha]
  obtain ⟨c, n, hs⟩ := served_of_sent hr hclean ha
  exact ⟨c, n, hs.noted _⟩

end Scene

end ReplicaKV
