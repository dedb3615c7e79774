/-
What the operations of a simulation do to its cluster and its clients, and what holds after any of them.

- `initial`: a new cluster, and clients that have done nothing yet.
- `step_cases`: an operation is a client's call, a change from outside, a send on a link, or quiet.
- `Tidy`: stores are small, and nothing is left to read for any client.
- `tidy_run`: so it is after any operations, as long as the counts on the wire have room (`RoomAlong`).
- `Happening`: an operation, or a client that comes in; `after`: what any events lead to.
-/
import ReplicaKV.Proofs.Cluster.Writes

namespace ReplicaKV

open Cluster (watched)

/-- the change that an operation makes to the cluster from outside -/
def Op.control? : Op → Option (Cluster → Cluster)
  | .setMaster m => some fun c => c.setMaster m
  | .setBelief id m => some fun c => c.setBelief id m
  | .setAlive id alive => some fun c => c.setAlive id alive
  | .failSends id count => some fun c => c.failSends id count
  | .setThreads threads => some fun c => c.setThreads threads
  | _ => none

/-- the clients that are left; one may have gone -/
def Op.remaining (clients : List (Option Client)) : Op → List (Option Client)
  | .dropClient i => clients.set i none
  | _ => clients

namespace Cluster

variable {c c' : Cluster}

theorem quiet_closes (c : Cluster) (ids : List NodeId) : Quiet c (ids.foldl (fun w id => network.close id w) c) := by
  induction ids generalizing c with
  | nil => exact .refl c
  | cons id ids ih => exact (quiet_close c id).trans (ih _)

/-- stores stay small where they stay the same -/
theorem Small.of_stores (hs : c.Small)
    (h : ∀ k n', c'.nodes.get? k = some n' → ∃ n, c.nodes.get? k = some n ∧ n'.store = n.store) : c'.Small := by
  intro k st hst
  obtain ⟨n', hn', rfl⟩ := node_of_standing hst
  obtain ⟨n, hn, he⟩ := h k n' hn'
  have hsmall := hs k n.standing (standing_of_node hn)
  rwa [show n'.standing.store = n.standing.store from he]

theorem Small.adjust (hs : c.Small) (id : NodeId) {f : Node → Node} (hf : ∀ n, (f n).store = n.store) :
    (c.adjust id f).Small := by
  apply hs.of_stores
  intro k n' hn'
  rw [Cluster.adjust, SortedMap.get?_adjust] at hn'
  split_ifs at hn'
  · obtain ⟨n, hn, rfl⟩ := Option.map_eq_some_iff.1 hn'
    exact ⟨n, hn, hf n⟩
  · exact ⟨n', hn', rfl⟩

/-- no change from outside touches a store -/
theorem Small.control (hs : c.Small) {op : Op} {f : Cluster → Cluster} (h : op.control? = some f) : (f c).Small := by
  cases op with
  | setMaster m =>
    cases h
    apply hs.of_stores
    intro k n' hn'
    simp only [Cluster.setMaster, SortedMap.get?_mapValues] at hn'
    obtain ⟨n, hn, rfl⟩ := Option.map_eq_some_iff.1 hn'
    exact ⟨n, hn, rfl⟩
  | setBelief | setAlive | failSends => cases h; exact hs.adjust _ fun _ => rfl
  | setThreads => cases h; exact hs
  | _ => cases h

/-- no change from outside adds or removes a node, or counts anything -/
theorem Tallied.control (ht : c.Tallied) {op : Op} {f : Cluster → Cluster} (h : op.control? = some f) :
    (f c).Tallied := by
  have hadjust : ∀ id (g : Node → Node), (c.adjust id g).Tallied := by
    intro id g p hp
    obtain ⟨st, hst⟩ := ht p hp
    obtain ⟨n, hn, -⟩ := node_of_standing hst
    rw [get?_standings, Cluster.adjust, SortedMap.get?_adjust, hn]
    split_ifs <;> exact ⟨_, rfl⟩
  cases op with
  | setMaster m =>
    cases h
    intro p hp
    obtain ⟨st, hst⟩ := ht p hp
    obtain ⟨n, hn, -⟩ := node_of_standing hst
    rw [get?_standings]
    simp only [Cluster.setMaster, SortedMap.get?_mapValues, hn]
    exact ⟨_, rfl⟩
  | setBelief | setAlive | failSends => cases h; exact hadjust _ _
  | setThreads => cases h; exact ht
  | _ => cases h

theorem get?_ofNodes (clusterId : String) (ids : List NodeId) (k : NodeId) :
    (ofNodes clusterId ids).nodes.get? k = if k ∈ ids then some .fresh else none := by
  have hall : ∀ (l : List NodeId) (m : SortedMap NodeId Node),
      ((l.map fun n => (n, Node.fresh)).foldl (fun m p => m.insert p.1 p.2) m).get? k =
        if k ∈ l then some .fresh else m.get? k := by
    intro l
    induction l with
    | nil => exact fun m => rfl
    | cons id l ih =>
      intro m
      rw [List.map_cons, List.foldl_cons, ih, SortedMap.get?_insert]
      by_cases hk : k = id
      · subst hk
        simp only [Std.compare_self, if_true, List.mem_cons_self, ite_self]
      · have hc : ¬compare k id = .eq := fun h => hk (Std.LawfulEqCmp.eq_of_compare h)
        simp only [if_neg hc, List.mem_cons, hk, false_or]
  exact hall ids .empty

/-- a new cluster has counted nothing -/
theorem tallied_ofNodes (clusterId : String) (ids : List NodeId) : (ofNodes clusterId ids).Tallied :=
  fun _ hp => nomatch hp

theorem small_ofNodes (clusterId : String) (ids : List NodeId) : (ofNodes clusterId ids).Small := by
  intro k st hst
  obtain ⟨n, hn, rfl⟩ := node_of_standing hst
  rw [get?_ofNodes] at hn
  split_ifs at hn
  cases hn
  exact fun _ hp => nomatch hp

end Cluster

namespace Simulation

variable {s : Simulation}

/-- a cluster of live nodes without a master, and clients with these settings and draws that have done nothing yet -/
def initial (clusterId : String) (ids : List NodeId) (clients : List (Config × List Nat)) : Simulation :=
  start (.ofNodes clusterId ids) (clients.map fun p => some (.new p.1 p.2))

theorem run_concat (fuel : Nat) (s : Simulation) (ops : List Op) (op : Op) :
    s.run fuel (ops ++ [op]) = ((s.run fuel ops).step fuel op).2 := by
  rw [run, List.foldl_append]
  rfl

theorem client?_set (s : Simulation) (i j : Nat) (v : Option Client) {x : Client}
    (h : ((s.clients.set i v)[j]?).join = some x) : (i = j ∧ v = some x) ∨ (i ≠ j ∧ s.client? j = some x) := by
  rw [List.getElem?_set] at h
  split_ifs at h with hij
  · exact .inl ⟨hij, h⟩
  · cases h
  · exact .inr ⟨hij, h⟩

theorem client?_afterScene {s : Simulation} {i : Nat} {x : Client} (hx : s.client? i = some x) (y : Scene Cluster) :
    (s.afterScene i y).client? i = some y.client := by
  have hi : i < s.clients.length := by
    by_contra hi
    rw [client?, List.getElem?_eq_none (Nat.not_lt.1 hi)] at hx
    cases hx
  rw [client?, afterScene, List.getElem?_set_self hi]
  rfl

theorem quiet_closed (s : Simulation) (name : String) :
    s.cluster.Quiet (s.closed name).cluster ∧ (s.closed name).clients = s.clients ∧
      (s.closed name).clock = s.clock := by
  unfold closed
  split
  · exact ⟨.refl _, rfl, rfl⟩
  · split_ifs
    · exact ⟨Cluster.quiet_close _ _, rfl, rfl⟩
    · exact ⟨.refl _, rfl, rfl⟩

theorem set_absent {l : List (Option Client)} {i : Nat} (h : (l[i]?).join = none) : l.set i none = l := by
  apply List.ext_getElem?
  intro j
  rw [List.getElem?_set]
  split_ifs with hij hlt
  · subst hij
    rw [List.getElem?_eq_getElem hlt] at h ⊢
    exact congrArg some h.symm
  · subst hij
    rw [List.getElem?_eq_none (by omega)]
  · rfl

/-- the operation was no call, the cluster is quiet, and time passed only by the operation itself -/
structure Idle (op : Op) (s s' : Simulation) : Prop where
  absent : ∀ i c, op = .call i c → s.client? i = none
  quiet : s.cluster.Quiet s'.cluster
  clients : s'.clients = op.remaining s.clients
  clock : s'.clock = s.clock ∨ ∃ d, op = .advance d ∧ s'.clock = s.clock.advance d

/-- no operation but a call makes a client what it is -/
theorem client?_of_remaining {op : Op} {s s' : Simulation} (h : s'.clients = op.remaining s.clients) {i : Nat}
    {x : Client} (hx : s'.client? i = some x) : s.client? i = some x := by
  rw [client?, h] at hx
  cases op with
  | dropClient j =>
    rcases client?_set s j i none hx with ⟨-, hv⟩ | ⟨-, hy⟩
    · cases hv
    · exact hy
  | _ => exact hx

theorem control_cases (s : Simulation) (id : NodeId) (f : Cluster → Cluster) :
    (s.control id f).2 = s ∨ (s.control id f).2 = { s with cluster := f s.cluster } := by
  unfold control
  split_ifs
  · exact .inr rfl
  · exact .inl rfl

namespace Idle

variable {op : Op}

/-- an operation that makes no call and drops no client may leave everything as it is -/
theorem refl (s : Simulation) (hcall : ∀ i c, op ≠ .call i c) (hdrop : ∀ i, op ≠ .dropClient i) : Idle op s s := by
  refine ⟨fun i c h => absurd h (hcall i c), .refl _, ?_, .inl rfl⟩
  cases op with
  | dropClient i => exact absurd rfl (hdrop i)
  | _ => rfl

theorem withLink {name : String} {f : Link → Answer × Simulation} (hs : Idle op s s) (hf : ∀ l, Idle op s (f l).2) :
    Idle op s (s.withLink name f).2 := by
  unfold Simulation.withLink
  cases s.links.get? name with
  | none => exact hs
  | some l => exact hf l

/-- a link may be closed after anything that is idle -/
theorem closed {s' : Simulation} (h : Idle op s s') (name : String) : Idle op s (s'.closed name) := by
  obtain ⟨hq, hc, hk⟩ := quiet_closed s' name
  exact ⟨h.absent, h.quiet.trans hq, hc.trans h.clients, by rw [hk]; exact h.clock⟩

/-- links decide nothing here -/
theorem relinked {s' : Simulation} (h : Idle op s s') (links : SortedMap String Link) :
    Idle op s { s' with links := links } := ⟨h.absent, h.quiet, h.clients, h.clock⟩

theorem openLink (fuel : Nat) (s : Simulation) (name : String) (id : NodeId) (clusterId : String) :
    Idle (.openLink name id clusterId) s (s.step fuel (.openLink name id clusterId)).2 := by
  have hq := Cluster.quiet_connect s.cluster id clusterId
  simp only [step]
  generalize s.cluster.connect id clusterId = x at hq ⊢
  rcases x with ⟨e | u, c⟩
  · exact ⟨(fun _ _ hcall => by cases hcall), hq, rfl, .inl rfl⟩
  · have h : Idle (.openLink name id clusterId) s { s with cluster := c } :=
      ⟨(fun _ _ hcall => by cases hcall), hq, rfl, .inl rfl⟩
    exact (h.closed name).relinked _

theorem dropClient (fuel : Nat) (s : Simulation) (i : Nat) : Idle (.dropClient i) s (s.step fuel (.dropClient i)).2 := by
  simp only [step]
  cases hx : s.client? i with
  | none => exact ⟨nofun, .refl _, (set_absent hx).symm, .inl rfl⟩
  | some x => exact ⟨nofun, Cluster.quiet_closes _ _, rfl, .inl rfl⟩

end Idle

/-- a send on a link goes to the node of the link, unless the link is closed or does not exist -/
theorem sendOn_cases (fuel : Nat) (s : Simulation) (name : String) (frame : Bytes) :
    (∃ id, (s.step fuel (.sendOn name frame)).2.cluster = (s.cluster.send id frame).2 ∧
        (s.step fuel (.sendOn name frame)).2.clients = s.clients ∧
        (s.step fuel (.sendOn name frame)).2.clock = s.clock) ∨
      Idle (.sendOn name frame) s (s.step fuel (.sendOn name frame)).2 := by
  have hidle : Idle (.sendOn name frame) s s := .refl s nofun nofun
  simp only [step, withLink]
  cases s.links.get? name with
  | none => exact .inr hidle
  | some l =>
    simp only
    split_ifs
    · exact .inr hidle
    · refine .inl ⟨l.node, ?_⟩
      rcases s.cluster.send l.node frame with ⟨e | bytes, c⟩ <;> exact ⟨rfl, rfl, rfl⟩

/-- **What an operation does**: a client's call, a change from outside, a send on a link, or nothing that an answer
depends on. -/
theorem step_cases (fuel : Nat) (s : Simulation) (op : Op) :
    (∃ i c x, op = .call i c ∧ s.client? i = some x ∧ (s.step fuel op).2 =
        s.afterScene i ((s.scene x).call Cluster.network fuel c).2) ∨
      (∃ f, op.control? = some f ∧ ((s.step fuel op).2 = s ∨ (s.step fuel op).2 = { s with cluster := f s.cluster })) ∨
      (∃ name frame id, op = .sendOn name frame ∧ (s.step fuel op).2.cluster = (s.cluster.send id frame).2 ∧
        (s.step fuel op).2.clients = s.clients ∧ (s.step fuel op).2.clock = s.clock) ∨
      Idle op s (s.step fuel op).2 := by
  cases op with
  | call i c =>
    simp only [step]
    cases hx : s.client? i with
    | none =>
      refine .inr (.inr (.inr ⟨?_, .refl _, rfl, .inl rfl⟩))
      intro j c' he
      cases he
      exact hx
    | some x => exact .inl ⟨i, c, x, rfl, hx, rfl⟩
  | setMaster m => exact .inr (.inl ⟨_, rfl, .inr rfl⟩)
  | setBelief id m => exact .inr (.inl ⟨_, rfl, control_cases s id _⟩)
  | setAlive id alive => exact .inr (.inl ⟨_, rfl, control_cases s id _⟩)
  | failSends id count => exact .inr (.inl ⟨_, rfl, control_cases s id _⟩)
  | setThreads threads => exact .inr (.inl ⟨_, rfl, .inr rfl⟩)
  | sendOn name frame =>
    rcases sendOn_cases fuel s name frame with ⟨id, h⟩ | h
    · exact .inr (.inr (.inl ⟨name, frame, id, rfl, h⟩))
    · exact .inr (.inr (.inr h))
  | dropClient i => exact .inr (.inr (.inr (.dropClient fuel s i)))
  | openLink name id clusterId => exact .inr (.inr (.inr (.openLink fuel s name id clusterId)))
  | closeLink name =>
    have hidle : Idle (.closeLink name) s s := .refl s nofun nofun
    exact .inr (.inr (.inr (hidle.closed name)))
  | dropLink name =>
    have hidle : Idle (.dropLink name) s s := .refl s nofun nofun
    exact .inr (.inr (.inr ((hidle.closed name).relinked _)))
  | advance d => exact .inr (.inr (.inr ⟨nofun, .refl _, rfl, .inr ⟨d, rfl, rfl⟩⟩))
  | contents id => exact .inr (.inr (.inr (.refl s nofun nofun)))
  | counters id =>
    refine .inr (.inr (.inr ?_))
    simp only [step]
    cases s.cluster.nodes.get? id <;> exact ⟨nofun, .refl _, rfl, .inl rfl⟩
  | decodeFrom name shape =>
    refine .inr (.inr (.inr (Idle.withLink (.refl s nofun nofun) ?_)))
    intro l
    split <;> exact ⟨nofun, .refl _, rfl, .inl rfl⟩
  | readFrom name n =>
    refine .inr (.inr (.inr (Idle.withLink (.refl s nofun nofun) ?_)))
    intro l
    split_ifs <;> exact ⟨nofun, .refl _, rfl, .inl rfl⟩

/-- a call, recorded -/
theorem step_call {i : Nat} {x : Client} (hx : s.client? i = some x) (fuel : Nat) (c : Call) :
    s.step fuel (.call i c) = (.ofOutcome ((s.scene x).logged.call watched fuel c).1,
      s.afterScene i (((s.scene x).logged.call watched fuel c).2.map Recorded.world)) := by
  simp only [step, hx]
  rw [Scene.call_recorded]

/-! ## Tidy simulations -/

/-- stores are small, what is counted is counted for nodes, and nothing is left to read for any client -/
structure Tidy (s : Simulation) : Prop where
  small : s.cluster.Small
  tallied : s.cluster.Tallied
  clean : ∀ i x, s.client? i = some x → (s.scene x).Clean

end Simulation

namespace Scene

variable {s : Scene (Recorded Cluster)}

/-- what a call keeps: one that writes may make a store grow, any other one leaves counts as they are -/
structure Kept (counting : Bool) (s : Scene (Recorded Cluster)) : Prop where
  ready : s.Ready
  countable : counting = true → s.net.world.Countable

/-- the requests of a call that writes and lists nothing, or of one that does not write -/
structure Suits (counting : Bool) (r : Request) : Prop where
  fair : r.Fair
  brief : counting = false → ¬r.Lists
  still : counting = true → r.Still

theorem Calm.kept {b : Bool} {s' : Scene (Recorded Cluster)} (h : Calm s s') (hs : Kept b s) :
    Kept b s' :=
  ⟨h.ready hs.ready, fun hb => h.quiet.countable (hs.countable hb)⟩

/-- what a node does with a request, heard or not -/
theorem Kept.received {b : Bool} {r : Request} (hr : Suits b r) (hs : Kept b s) {c : Cluster}
    (hq : s.net.world.Quiet c) (id : NodeId) (n : Node) {s' : Scene (Recorded Cluster)}
    (hafter : (c.respond id n r).2.Quiet s'.net.world) (hclean : s'.Clean) : Kept b s' := by
  have hsteady := (hq.steady.trans (Cluster.steady_respond c id n r hr.fair.fits)).trans hafter.steady
  refine ⟨⟨hclean, hsteady.named hs.ready.named, hsteady.small hs.ready.small⟩, ?_⟩
  intro hb
  exact ((hq.trans (Cluster.respond_still c id n (hr.still hb))).trans hafter).countable (hs.countable hb)

theorem kept_failed {b : Bool} {r : Request} (hr : Suits b r) {id : NodeId} {l : Location} (s : Scene (Recorded Cluster))
    (e : Fault) (s' : Scene (Recorded Cluster)) (h : s.attempt watched id l r.encode = (.error e, s'))
    (hs : Kept b s) : Kept b (s'.gaveUp watched id) := by
  rcases attempt_fails h with hcalm | ⟨s₁, n, hcalm, -, -, rfl⟩
  · exact (hcalm.trans (calm_gaveUp id s')).kept hs
  · refine (calm_gaveUp id _).kept ?_
    have hq := hcalm.quiet.trans (Cluster.quiet_counted s₁.net.world id)
    refine hs.received hr hq id n ?_ fun k ch hk => hcalm.clean hs.ready.clean k ch hk
    rw [Cluster.receive_request hr.fair]
    exact Cluster.quiet_handed _

theorem exchange_kept {b : Bool} {r : Request} (hr : Suits b r) (id : NodeId) (hs : Kept b s) :
    Kept b (s.exchange watched id r.encode r.shape).2 := by
  cases hl : s.client.config.location? id with
  | none =>
    rw [exchange_of_unknown hl]
    exact hs
  | some l =>
    rw [exchange_of_location hl]
    have htrans : ∀ s s' s'' : Scene (Recorded Cluster), (Kept b s → Kept b s') → (Kept b s' → Kept b s'') →
        Kept b s → Kept b s'' := fun _ _ _ h h' hs => h' (h hs)
    rcases dispatch_cases htrans (fun i s => (calm_waited i s).kept) (kept_failed hr) (Reply.decoder r.shape) s with
      ⟨e, s', hd, hkept, -⟩ | ⟨s₁, ch, s₂, hkept, ha, hd⟩
    · rw [hd]
      have hk := hkept hs
      exact ⟨⟨hk.ready.clean, hk.ready.named, hk.ready.small⟩, hk.countable⟩
    · have hk := hkept hs
      obtain ⟨c, n, h⟩ := served_of_sent hr.fair hk.ready.clean ha
      have hl : r.Lists → s₁.net.world.Countable := by
        intro hl
        cases b with
        | true => exact hk.countable rfl
        | false => exact absurd hl (hr.brief rfl)
      have hclean := (h.settled (h.counted hk.ready hr.fair hl)).1
      rw [hd]
      exact hk.received hr h.quiet id n (h.noted _).after fun k x hx => hclean k x hx

theorem blind_kept (b : Bool) :
    Blind watched (Suits b) fun s s' => Kept b s → Kept b s' where
  refl _ h := h
  trans _ _ _ h h' hs := h' (h hs)
  exchange id _ _ hr hs := exchange_kept hr id hs
  whoMaster := ⟨Request.fair_whoMaster, fun _ h => h.elim, fun _ => Request.still_whoMaster⟩
  closeAll s := (calm_closeAll s).kept
  setMaster s m := (calm_setMaster m s).kept
  aside s _ _ := Calm.kept (calm_aside s _ _ rfl rfl)

/-- a call writes, and lists nothing; or it does not write -/
theorem suits_sends {c : Call} {r : Request} (h : c.Sends r) (hr : r.Fair) : Suits c.write?.isNone r := by
  refine ⟨hr, ?_, ?_⟩
  · intro hb
    cases c with
    | set | confirm | delete | testAndSet | sequence => cases h; exact fun hl => hl
    | _ => cases hb
  · intro hb cmd hcmd
    cases c with
    | set | confirm | delete | testAndSet | sequence => cases hb
    | ping => obtain ⟨_, rfl⟩ := h; cases hcmd; rfl
    | query => obtain ⟨_, rfl⟩ := h; cases hcmd
    | getKeyCount | userFunction | expectProgressPossible | statistics => cases h; cases hcmd; rfl
    | version => cases h; cases hcmd
    | _ => cases h

theorem call_kept (fuel : Nat) (c : Call) (hs : Kept c.write?.isNone s) :
    Kept c.write?.isNone (s.call watched fuel c).2 :=
  (blind_kept _).upheld.call fuel c (fun _ => suits_sends) (fun _ _ s' => Calm.kept (calm_aside s' _ _ rfl rfl))
    (fun _ _ s' _ => Calm.kept (calm_aside s' _ _ rfl rfl)) s hs

/-- a call of a client that has nothing left to read leaves nothing to read -/
theorem clean_call {s : Scene Cluster} (fuel : Nat) (c : Call) (hclean : s.Clean) (hsmall : s.net.Small)
    (hc : s.net.Countable) : (s.call Cluster.network fuel c).2.Clean := by
  have hk := call_kept (s := s.logged) fuel c ⟨⟨hclean, hc.named, hsmall⟩, fun _ => hc⟩
  rw [call_recorded]
  exact hk.ready.clean

end Scene

namespace Simulation

variable {s : Simulation}

theorem tidy_step (fuel : Nat) (op : Op) (h : s.Tidy) (hc : s.cluster.Roomy) : (s.step fuel op).2.Tidy := by
  rcases step_cases fuel s op with ⟨i, c, x, -, hx, hs⟩ | ⟨f, hf, hs | hs⟩ | ⟨name, frame, id, -, hs, hcl, -⟩ | hi
  · rw [hs]
    have hsteady := (Cluster.steady_network.call fuel c (s.scene x)).2
    refine ⟨hsteady.small h.small, hsteady.tallied h.tallied, ?_⟩
    intro j y hy
    rcases client?_set s i j _ hy with ⟨-, hv⟩ | ⟨-, hy⟩
    · cases hv
      exact Scene.clean_call fuel c (h.clean i x hx) h.small (hc.countable h.tallied)
    · exact h.clean j y hy
  · rw [hs]; exact h
  · rw [hs]; exact ⟨h.small.control hf, h.tallied.control hf, h.clean⟩
  · have hsteady := Cluster.steady_send s.cluster id frame
    refine ⟨hs ▸ hsteady.small h.small, hs ▸ hsteady.tallied h.tallied, fun j y hy => h.clean j y ?_⟩
    rwa [client?, hcl] at hy
  · exact ⟨hi.quiet.steady.small h.small, hi.quiet.steady.tallied h.tallied,
      fun j y hy => h.clean j y (client?_of_remaining hi.clients hy)⟩

theorem small_step (fuel : Nat) (op : Op) (h : s.cluster.Small) : (s.step fuel op).2.cluster.Small := by
  rcases step_cases fuel s op with ⟨i, c, x, -, -, hs⟩ | ⟨f, hf, hs | hs⟩ | ⟨name, frame, id, -, hs, -, -⟩ | hi
  · rw [hs]; exact (Cluster.steady_network.call fuel c (s.scene x)).2.small h
  · rw [hs]; exact h
  · rw [hs]; exact h.control hf
  · rw [hs]; exact (Cluster.steady_send s.cluster id frame).small h
  · exact hi.quiet.steady.small h

/-- after any operations stores are small -/
theorem small_run (fuel : Nat) (ops : List Op) (h : s.cluster.Small) : (s.run fuel ops).cluster.Small := by
  induction ops using List.reverseRecOn with
  | nil => exact h
  | append_singleton ops op ih => rw [run_concat]; exact small_step fuel op ih

/-- what is said of all that was done up to some moment can be decided, moment by moment -/
instance decidableAlong {P : List Op → Prop} [DecidablePred P] (ops : List Op) :
    Decidable (∀ done, done <+: ops → P done) :=
  decidable_of_iff (∀ done ∈ ops.inits, P done)
    ⟨fun h done hd => h done ((List.mem_inits done ops).2 hd), fun h done hd => h done ((List.mem_inits done ops).1 hd)⟩

/-- the counts on the wire have room, all along -/
def RoomAlong (fuel : Nat) (s : Simulation) (ops : List Op) : Prop :=
  ∀ done, done <+: ops → (s.run fuel done).cluster.Roomy

instance (fuel : Nat) (s : Simulation) (ops : List Op) : Decidable (RoomAlong fuel s ops) := decidableAlong ops

/-- **After any operations nothing is left to read for any client.** -/
theorem tidy_run (fuel : Nat) (ops : List Op) (h : s.Tidy) (hc : RoomAlong fuel s ops) :
    (s.run fuel ops).Tidy := by
  induction ops using List.reverseRecOn with
  | nil => exact h
  | append_singleton ops op ih =>
    rw [run_concat]
    have hpre : ops <+: ops ++ [op] := List.prefix_append _ _
    exact tidy_step fuel op (ih fun done hd => hc done (hd.trans hpre)) (hc ops hpre)

theorem tidy_initial (clusterId : String) (ids : List NodeId) (clients : List (Config × List Nat)) :
    (initial clusterId ids clients).Tidy := by
  refine ⟨Cluster.small_ofNodes clusterId ids, Cluster.tallied_ofNodes clusterId ids, ?_⟩
  intro i x hx
  have hx' : ((clients.map fun p => some (Client.new p.1 p.2))[i]?).join = some x := hx
  rw [List.getElem?_map] at hx'
  cases hp : clients[i]? with
  | none => rw [hp] at hx'; cases hx'
  | some p =>
    rw [hp] at hx'
    cases hx'
    exact fun _ _ h => nomatch h

/-! ## Clients that come in later -/

/-- what can happen to a simulation: an operation, or a client that comes in -/
inductive Happening where
  | operate (fuel : Nat) (op : Op)
  | arrive (config : Config) (draws : List Nat)

/-- a simulation once something has happened; a call that is out of fuel is left in the middle -/
def happen (s : Simulation) : Happening → Simulation
  | .operate fuel op => (s.step fuel op).2
  | .arrive config draws => { s with clients := s.clients ++ [some (.new config draws)] }

/-- a simulation after a list of events -/
def after (s : Simulation) (es : List Happening) : Simulation := es.foldl happen s

theorem after_concat (s : Simulation) (es : List Happening) (e : Happening) :
    s.after (es ++ [e]) = (s.after es).happen e := by
  rw [after, List.foldl_append]
  rfl

end Simulation

end ReplicaKV
