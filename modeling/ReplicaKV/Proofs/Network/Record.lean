/-
A network that remembers what is done to it, and why remembering changes nothing.

- `Network.recorded`: a network together with a log of what was done on it, last first.
- `Network.Seen net' net f`: seen through f, the actions of net' are those of net.
- `Scene.recast`: a scene with its network seen through f, and with another choice of dirty reads for its client.
- `call_recast`: a call on net', seen so, is the same call on net, if it is not concerned with dirty reads. `call_map`:
  any call is, where the choice of dirty reads is the same.
- `call_recorded`: every call ends in the same, and leaves the same client, clock and network, whether it is recorded or
  not.
- `Scene.Adds P s s'`: everything done between two scenes is as P says.
-/
import ReplicaKV.Proofs.Network.Calls

namespace ReplicaKV

/-- something done on a network -/
inductive Deed (W : Type) where
  /-- a connection tried, for clients of the cluster named -/
  | connected (id : NodeId) (clusterId : String) (result : Except Fault Unit)
  /-- a frame sent, with the network as it was before -/
  | sent (id : NodeId) (frame : Bytes) (before : W) (result : Except Fault Delivery)
  | closed (id : NodeId)
  | ended (n : Notice)

structure Recorded (W : Type) where
  world : W
  /-- what was done, last first -/
  log : List (Deed W)

namespace Recorded

variable {W : Type}

/-- a network on which nothing has been done -/
def fresh (w : W) : Recorded W := ⟨w, []⟩

def add (d : Deed W) (w : W) (r : Recorded W) : Recorded W := ⟨w, d :: r.log⟩

end Recorded

variable {W V : Type} {net : Network W} {net' : Network V} {f : V → W}

/-- the network with a log -/
def Network.recorded (net : Network W) : Network (Recorded W) where
  connect id l c r :=
    let (x, w) := net.connect id l c r.world
    (x, r.add (.connected id c x) w)
  send id frame r :=
    let (x, w) := net.send id frame r.world
    (x, r.add (.sent id frame r.world x) w)
  close id r := r.add (.closed id) (net.close id r.world)
  note n r := r.add (.ended n) (net.note n r.world)

@[simp] theorem Network.recorded_connect (id : NodeId) (l : Location) (c : String) (r : Recorded W) :
    net.recorded.connect id l c r = ((net.connect id l c r.world).1,
      r.add (.connected id c (net.connect id l c r.world).1) (net.connect id l c r.world).2) := rfl

@[simp] theorem Network.recorded_send (id : NodeId) (frame : Bytes) (r : Recorded W) :
    net.recorded.send id frame r = ((net.send id frame r.world).1,
      r.add (.sent id frame r.world (net.send id frame r.world).1) (net.send id frame r.world).2) := rfl

@[simp] theorem Network.recorded_close (id : NodeId) (r : Recorded W) :
    net.recorded.close id r = r.add (.closed id) (net.close id r.world) := rfl

/-- what every action on a network keeps is kept when it is recorded -/
theorem Network.Keeps.recorded {R : W → W → Prop} (h : net.Keeps R) :
    net.recorded.Keeps fun r r' => R r.world r'.world where
  refl r := h.refl r.world
  trans _ _ _ := h.trans _ _ _
  connect id l c r := h.connect id l c r.world
  send id frame r := h.send id frame r.world
  close id r := h.close id r.world
  note n r := h.note n r.world

/-- seen through f, net' is net -/
structure Network.Seen (net' : Network V) (net : Network W) (f : V → W) : Prop where
  connect : ∀ id l c v, net.connect id l c (f v) = ((net'.connect id l c v).1, f (net'.connect id l c v).2)
  send : ∀ id frame v, net.send id frame (f v) = ((net'.send id frame v).1, f (net'.send id frame v).2)
  close : ∀ id v, net.close id (f v) = f (net'.close id v)
  note : ∀ n v, net.note n (f v) = f (net'.note n v)

theorem Network.seen_recorded (net : Network W) : net.recorded.Seen net Recorded.world :=
  ⟨fun _ _ _ _ => rfl, fun _ _ _ => rfl, fun _ _ => rfl, fun _ _ => rfl⟩

namespace Scene

/-- a scene with its network seen through f -/
def map (f : V → W) (s : Scene V) : Scene W := ⟨s.client, s.clock, f s.net⟩

/-- the end of an action, with the scene after it seen through f -/
abbrev through {β : Type} (f : V → W) (r : β × Scene V) : β × Scene W := (r.1, r.2.map f)

/-- a way to see a scene: its network through a function, and its client with another choice of dirty reads -/
structure Guise (V W : Type) where
  net : V → W
  reads : Bool → Bool
  node : NodeId → NodeId

end Scene

namespace Client

variable {reads : Bool → Bool} {node : NodeId → NodeId}

/-- a client with another choice of dirty reads -/
def recast (reads : Bool → Bool) (node : NodeId → NodeId) (x : Client) : Client :=
  { x with dirtyReads := reads x.dirtyReads, dirtyNode := node x.dirtyNode }

theorem shuffleFrom_recast (l : List NodeId) (i : Nat) (x : Client) :
    shuffleFrom l i (x.recast reads node) = ((shuffleFrom l i x).1, (shuffleFrom l i x).2.recast reads node) := by
  induction i generalizing l x with
  | zero => rfl
  | succ i ih => exact ih _ (x.draw (i + 1)).2

theorem shuffledNodes_recast (x : Client) :
    (x.recast reads node).shuffledNodes = (x.shuffledNodes.1, x.shuffledNodes.2.recast reads node) :=
  shuffleFrom_recast _ _ x

end Client

namespace Scene

/-- a scene seen in a guise -/
def recast (g : Guise V W) (s : Scene V) : Scene W := ⟨s.client.recast g.reads g.node, s.clock, g.net s.net⟩

/-- the end of an action, with the scene after it seen in a guise -/
abbrev Guise.through {β : Type} (g : Guise V W) (r : β × Scene V) : β × Scene W := (r.1, r.2.recast g)

variable {g : Guise V W}

theorem evict_recast (h : net'.Seen net g.net) (id : NodeId) (s : Scene V) :
    (s.recast g).evict net id = (s.evict net' id).recast g := by
  simp only [evict, recast, Client.recast]
  cases s.client.channels.get? id with
  | none => rfl
  | some ch => simp only [h.close]

theorem foldl_close_map (h : net'.Seen net f) (ids : List NodeId) (v : V) :
    ids.foldl (fun w id => net.close id w) (f v) = f (ids.foldl (fun v id => net'.close id v) v) := by
  induction ids generalizing v with
  | nil => rfl
  | cons id ids ih => rw [List.foldl_cons, List.foldl_cons, h.close, ih]

theorem closeAll_recast (h : net'.Seen net g.net) (s : Scene V) :
    (s.recast g).closeAll net = (s.closeAll net').recast g := by
  have hc : (s.recast g).client.connected = s.client.connected := rfl
  simp only [closeAll, hc]
  simp only [recast, foldl_close_map h]
  rfl

theorem pause_recast (i : Nat) (s : Scene V) : (s.recast g).pause i = (s.pause i).recast g := by
  have hl : (s.recast g).pauseLimit i = s.pauseLimit i := rfl
  simp only [pause, hl]
  split_ifs <;> rfl

theorem channel_recast (h : net'.Seen net g.net) (id : NodeId) (l : Location) (s : Scene V) :
    (s.recast g).channel net id l = g.through (s.channel net' id l) := by
  simp only [channel, recast, Client.recast]
  cases s.client.channels.get? id with
  | some ch => rfl
  | none =>
    simp only [h.connect]
    rcases net'.connect id l s.client.config.clusterId s.net with ⟨_ | _, v⟩ <;> rfl

theorem attempt_recast (h : net'.Seen net g.net) (id : NodeId) (l : Location) (frame : Bytes) (s : Scene V) :
    (s.recast g).attempt net id l frame = g.through (s.attempt net' id l frame) := by
  simp only [attempt, channel_recast h]
  rcases s.channel net' id l with ⟨e | ch, s₁⟩
  · rfl
  · have hsend : net.send id frame (s₁.recast g).net =
        ((net'.send id frame s₁.net).1, g.net (net'.send id frame s₁.net).2) := h.send id frame s₁.net
    simp only [hsend]
    rcases net'.send id frame s₁.net with ⟨_ | _, v⟩ <;> rfl

theorem waited_recast (i : Nat) (s : Scene V) : (s.recast g).waited i = (s.waited i).recast g := by
  simp only [waited, pause_recast]
  split_ifs <;> rfl

theorem gaveUp_recast (h : net'.Seen net g.net) (id : NodeId) (s : Scene V) :
    (s.recast g).gaveUp net id = (s.gaveUp net' id).recast g := by
  simp only [gaveUp, evict_recast h]; rfl

theorem attempts_recast (h : net'.Seen net g.net) (id : NodeId) (l : Location) (frame : Bytes) (more i : Nat)
    (s : Scene V) :
    (s.recast g).attempts net id l frame more i = g.through (s.attempts net' id l frame more i) := by
  induction more generalizing i s with
  | zero =>
    rw [attempts_eq, attempts_eq, waited_recast, attempt_recast h]
    rcases (s.waited i).attempt net' id l frame with ⟨e | ch, s₁⟩
    · simp only [gaveUp_recast h]
    · rfl
  | succ more ih =>
    rw [attempts_eq, attempts_eq, waited_recast, attempt_recast h]
    rcases (s.waited i).attempt net' id l frame with ⟨e | ch, s₁⟩
    · simp only [gaveUp_recast h, ih]
    · rfl

theorem readReply_recast (h : net'.Seen net g.net) (id : NodeId) {α : Type} (decode : Decoder α) (ch : Stream)
    (s : Scene V) : (s.recast g).readReply net id decode ch = g.through (s.readReply net' id decode ch) := by
  simp only [readReply, evict_recast h]
  rcases decode ch with ⟨(r | e) | v, ch'⟩ <;> rfl

theorem dispatch_recast (h : net'.Seen net g.net) (id : NodeId) (l : Location) (frame : Bytes) {α : Type}
    (decode : Decoder α) (s : Scene V) : (s.recast g).dispatch net id l frame decode = g.through (s.dispatch net' id l frame decode) := by
  have hc : (s.recast g).client.config = s.client.config := rfl
  simp only [dispatch_eq, hc, attempts_recast h]
  rcases s.attempts net' id l frame (s.client.config.settings.maxAttempts.toNat - 1) 0 with ⟨e | ch, s₁⟩
  · rfl
  · exact readReply_recast h id decode ch s₁

theorem exchange_recast (h : net'.Seen net g.net) (id : NodeId) (frame : Bytes) (shape : Shape) (s : Scene V) :
    (s.recast g).exchange net id frame shape = g.through (s.exchange net' id frame shape) := by
  have hc : (s.recast g).client.config = s.client.config := rfl
  simp only [exchange, hc]
  cases s.client.config.location? id with
  | none => rfl
  | some l =>
    simp only [dispatch_recast h]
    rcases s.dispatch net' id l frame (Reply.decoder shape) with ⟨r, s₁⟩
    have hn : net.note ⟨id, frame, shape, r⟩ (s₁.recast g).net = g.net (net'.note ⟨id, frame, shape, r⟩ s₁.net) :=
      h.note _ s₁.net
    simp only [hn]; rfl

theorem search_recast (h : net'.Seen net g.net) (ids : List NodeId) (s : Scene V) :
    (s.recast g).search net ids = g.through (s.search net' ids) := by
  induction ids generalizing s with
  | nil => rfl
  | cons id rest ih =>
    simp only [search, askMaster, exchange_recast h]
    rcases s.exchange net' id (Request.encode .whoMaster) .optText with ⟨e | _ | claimed, s₁⟩
    · exact ih s₁
    · exact ih s₁
    · by_cases hc : claimed = id
      · simp only [if_pos hc]; rfl
      · simp only [if_neg hc, exchange_recast h]
        rcases s₁.exchange net' claimed (Request.encode .whoMaster) .optText with ⟨e | _ | confirmed, s₂⟩
        · exact ih s₂
        · exact ih s₂
        · by_cases hd : confirmed = claimed
          · simp only [if_pos hd]; rfl
          · simp only [if_neg hd]; exact ih s₂

theorem findMaster_recast (h : net'.Seen net g.net) (s : Scene V) :
    (s.recast g).findMaster net = g.through (s.findMaster net') := by
  have hm : (s.recast g).client.master = s.client.master := rfl
  have hs : (s.recast g).client.shuffledNodes = _ := s.client.shuffledNodes_recast
  simp only [findMaster, hm, hs]
  cases s.client.master with
  | some m => rfl
  | none => exact search_recast h s.client.shuffledNodes.1 { s with client := s.client.shuffledNodes.2 }

theorem exchangeWithMaster_recast (h : net'.Seen net g.net) (frame : Bytes) (shape : Shape) (s : Scene V) :
    (s.recast g).exchangeWithMaster net frame shape = g.through (s.exchangeWithMaster net' frame shape) := by
  simp only [exchangeWithMaster, findMaster_recast h]
  rcases s.findMaster net' with ⟨e | m, s₁⟩
  · rfl
  · exact exchange_recast h m frame shape s₁

section

variable {α : Type} {action : Act W α} {action' : Act V α}

theorem rounds_recast (h : net'.Seen net g.net) (ha : ∀ s, action (recast g s) = g.through (action' s)) (b : Backoff)
    (deadline : Duration) (fuel i : Nat) (s : Scene V) :
    (s.recast g).rounds net b deadline action fuel i = g.through (s.rounds net' b deadline action' fuel i) := by
  induction fuel generalizing i s with
  | zero => rfl
  | succ fuel ih =>
    simp only [rounds_succ, ha]
    rcases action' s with ⟨e | v, s₁⟩
    · cases hl : e.losesMaster with
      | false => simp only [hl]; rfl
      | true =>
        have hr : (s₁.recast g).reset net = (s₁.reset net').recast g := closeAll_recast h (s₁.setMaster none)
        simp only [hl, if_true, hr]
        set s₂ := s₁.reset net'
        have hb : ((s₂.recast g).askTime).clock = s₂.askTime.clock := rfl
        simp only [hb]
        split_ifs
        · rfl
        · rfl
        · exact ih _ (s₂.askTime.sleep (b.pause i))
    · rfl

theorem persist_recast (h : net'.Seen net g.net) (ha : ∀ s, action (recast g s) = g.through (action' s)) (b : Backoff)
    (fuel : Nat) (s : Scene V) :
    (s.recast g).persist net b fuel action = g.through (s.persist net' b fuel action') := by
  have hb : ((s.recast g).askTime).clock = s.askTime.clock := rfl
  simp only [persist, hb]
  split_ifs
  · rfl
  · exact rounds_recast h ha b _ fuel 0 s.askTime

end

theorem sendChecked_recast (h : net'.Seen net g.net) (fuel : Nat) (r : Request) {α : Type} {action : Bytes → Act W α}
    {action' : Bytes → Act V α} (ha : ∀ frame s, action frame (recast g s) = g.through (action' frame s))
    (s : Scene V) : (s.recast g).sendChecked net fuel r action = g.through (s.sendChecked net' fuel r action') := by
  have hc : (s.recast g).client.config = s.client.config := rfl
  simp only [sendChecked, hc]
  cases r.encodeChecked with
  | error m => rfl
  | ok frame => exact persist_recast h (ha frame) _ fuel s

theorem command_recast (h : net'.Seen net g.net) (fuel : Nat) (c : Command) (s : Scene V) :
    (s.recast g).command net fuel c = g.through (s.command net' fuel c) := by
  simp only [command]
  cases c.misuse with
  | some m => rfl
  | none => exact sendChecked_recast h fuel _ (fun frame s => exchangeWithMaster_recast h frame c.shape s) s

end Scene

/-- the call reads or changes the choice of dirty reads -/
def Call.concernsDirtyReads : Call → Bool
  | query _ | allowDirtyReads _ | dirtyReadsAllowed | dirtyNode | setDirtyNode _ => true
  | _ => false

namespace Scene

/-- **What a network keeps for itself does not matter to a call, nor does the choice of dirty reads**, to a call that is
not concerned with it. -/
theorem call_recast {g : Guise V W} (h : net'.Seen net g.net) (fuel : Nat) {c : Call}
    (hc : c.concernsDirtyReads = false) (s : Scene V) :
    (s.recast g).call net fuel c = g.through (s.call net' fuel c) := by
  cases c with
  | query | allowDirtyReads | dirtyReadsAllowed | dirtyNode | setDirtyNode => cases hc
  | ping clientId => exact command_recast h fuel (.ping clientId s.client.config.clusterId) s
  | getKeyCount => exact command_recast h fuel .getKeyCount s
  | set k v => exact command_recast h fuel (.set k v) s
  | confirm k v => exact command_recast h fuel (.confirm k v) s
  | delete k => exact command_recast h fuel (.delete k) s
  | testAndSet k expected wanted => exact command_recast h fuel (.testAndSet k expected wanted) s
  | sequence us sync => exact command_recast h fuel (.sequence us sync) s
  | userFunction name argument => exact command_recast h fuel (.userFunction name argument) s
  | expectProgressPossible =>
    simp only [call, ended, expectProgressPossible, exchangeWithMaster_recast h]
    generalize s.exchangeWithMaster net' (Request.encode (.command .expectProgressPossible)) .flag = x
    rcases x with ⟨e | v, s₁⟩
    · cases e <;> rfl
    · rfl
  | statistics => simp only [call, ended, statistics, exchangeWithMaster_recast h]
  | version id =>
    cases id with
    | some id => simp only [call, ended, version, exchange_recast h]
    | none => simp only [call, ended, version, exchangeWithMaster_recast h]
  | whoMaster => simp only [call, ended, findMaster_recast h]
  | dropConnections => simp only [call, closeAll_recast h]

/-! ## The same choice of dirty reads -/

theorem exchange_map (h : net'.Seen net f) (id : NodeId) (frame : Bytes) (shape : Shape) (s : Scene V) :
    (s.map f).exchange net id frame shape = through f (s.exchange net' id frame shape) :=
  exchange_recast (g := ⟨f, fun b => b, fun d => d⟩) h id frame shape s

theorem findMaster_map (h : net'.Seen net f) (s : Scene V) :
    (s.map f).findMaster net = through f (s.findMaster net') :=
  findMaster_recast (g := ⟨f, fun b => b, fun d => d⟩) h s

theorem exchangeWithMaster_map (h : net'.Seen net f) (frame : Bytes) (shape : Shape) (s : Scene V) :
    (s.map f).exchangeWithMaster net frame shape = through f (s.exchangeWithMaster net' frame shape) :=
  exchangeWithMaster_recast (g := ⟨f, fun b => b, fun d => d⟩) h frame shape s

theorem query_map (h : net'.Seen net f) (fuel : Nat) (q : Query) (s : Scene V) :
    (s.map f).query net fuel q = through f (s.query net' fuel q) := by
  have hc : (s.map f).client = s.client := rfl
  simp only [query, hc]
  cases q.misuse with
  | some m => rfl
  | none =>
    split_ifs
    · exact sendChecked_recast (g := ⟨f, fun b => b, fun d => d⟩) h fuel _
        (fun frame s' => exchange_map h _ frame q.shape s') s
    · exact sendChecked_recast (g := ⟨f, fun b => b, fun d => d⟩) h fuel _
        (fun frame s' => exchangeWithMaster_map h frame q.shape s') s

/-- **What a network keeps for itself does not matter to a call.** -/
theorem call_map (h : net'.Seen net f) (fuel : Nat) (c : Call) (s : Scene V) :
    (s.map f).call net fuel c = through f (s.call net' fuel c) := by
  cases hc : c.concernsDirtyReads with
  | false => exact call_recast (g := ⟨f, fun b => b, fun d => d⟩) h fuel hc s
  | true =>
    cases c with
    | query q => exact query_map h fuel q s
    | setDirtyNode id =>
      have hclient : (s.map f).client = s.client := rfl
      simp only [call, ended, setDirtyNode, hclient]
      cases s.client.config.location? id <;> rfl
    | allowDirtyReads | dirtyReadsAllowed | dirtyNode => rfl
    | _ => cases hc

/-- the scene with an empty log -/
def logged (s : Scene W) : Scene (Recorded W) := ⟨s.client, s.clock, .fresh s.net⟩

/-- connections closed one after the other, in the log -/
theorem log_closes (net : Network W) (ids : List NodeId) (r : Recorded W) :
    (ids.foldl (fun w id => net.recorded.close id w) r).log = (ids.map .closed).reverse ++ r.log := by
  induction ids generalizing r with
  | nil => rfl
  | cons id ids ih =>
    rw [List.foldl_cons, ih, List.map_cons, List.reverse_cons, List.append_assoc]
    rfl

/-- a call is the same whether it is recorded or not -/
theorem call_recorded (net : Network W) (fuel : Nat) (c : Call) (s : Scene W) :
    s.call net fuel c = through Recorded.world (s.logged.call net.recorded fuel c) :=
  call_map net.seen_recorded fuel c s.logged

/-! ## What is added to a log -/

/-- everything done between two scenes is as P says -/
def Adds (P : Deed W → Prop) (s s' : Scene (Recorded W)) : Prop :=
  ∃ new, s'.net.log = new ++ s.net.log ∧ ∀ d ∈ new, P d

variable {P Q : Deed W → Prop} {s s' s'' : Scene (Recorded W)}

theorem Adds.nothing (h : s'.net.log = s.net.log) : Adds P s s' := ⟨[], h, by simp⟩

theorem Adds.refl (s : Scene (Recorded W)) : Adds P s s := .nothing rfl

theorem Adds.one {d : Deed W} (h : s'.net.log = d :: s.net.log) (hd : P d) : Adds P s s' := ⟨[d], h, by simpa using hd⟩

theorem Adds.trans (h : Adds P s s') (h' : Adds P s' s'') : Adds P s s'' := by
  obtain ⟨new, hl, hd⟩ := h
  obtain ⟨new', hl', hd'⟩ := h'
  refine ⟨new' ++ new, by rw [hl', hl, List.append_assoc], ?_⟩
  intro d hmem
  rcases List.mem_append.1 hmem with hmem | hmem
  · exact hd' d hmem
  · exact hd d hmem

theorem Adds.mono (h : Adds P s s') (hPQ : ∀ d, P d → Q d) : Adds Q s s' := by
  obtain ⟨new, hl, hd⟩ := h
  exact ⟨new, hl, fun d hmem => hPQ d (hd d hmem)⟩

theorem adds_closeAll (hP : ∀ id, P (.closed id)) (s : Scene (Recorded W)) : Adds P s (s.closeAll net.recorded) := by
  refine ⟨_, log_closes net _ _, ?_⟩
  intro d hd
  obtain ⟨id, -, rfl⟩ := List.mem_map.1 (List.mem_reverse.1 hd)
  exact hP id

end Scene

end ReplicaKV
