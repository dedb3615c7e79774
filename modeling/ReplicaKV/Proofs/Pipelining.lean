/-
Replies on a link that is sent many frames before any reply is read.

The replies stand in one queue of bytes, and nothing marks where one ends. They are cut apart by their readers alone,
each of which takes the form of payload that its request asks for.

- `Told`: what a node tells in reply to a frame. `Cluster.tells`: so it does, whatever the frame.
- `Traffic`: what was sent and decoded on a link, while anything happens elsewhere.
- `Queued`: what was decoded is what was told, in order, and what is unread are the frames of the rest.
- `Sends`: what becomes of a send, on an open or a closed link.
- `pipelined`: so it is after any events.
-/
import ReplicaKV.Proofs.Cluster.Gate

namespace ReplicaKV

open ReplicaKV.Frame

/-! ## What a node tells -/

/-- a reply: a payload of some form, or a refusal -/
inductive Told where
  | value (shape : Shape) (v : shape.Value)
  | refusal (r : Refusal)

namespace Told

def ofOutcome {shape : Shape} : Except Refusal shape.Value → Told
  | .ok v => value shape v
  | .error r => refusal r

/-- its frame, without the footer -/
def body : Told → Bytes
  | value shape v => Reply.body shape (.ok v)
  | refusal r => Reply.notice r.status.code r.message

def frame (t : Told) : Bytes := finish t.body

/-- what its reader answers -/
def answer : Told → Answer
  | value shape v => .value shape v
  | refusal r => .refusal r

/-- a reader of this form of reply reads it; any reads a refusal -/
def ReadAs (shape : Shape) : Told → Prop
  | value s _ => shape = s
  | refusal r => r.status ≠ .success

theorem frame_ofOutcome {shape : Shape} (o : Except Refusal shape.Value) :
    (ofOutcome o).frame = Reply.encode shape o := by
  rw [Reply.encode_eq]
  cases o <;> rfl

theorem readAs_ofOutcome {shape : Shape} {o : Except Refusal shape.Value} (h : Reply.Sound o) :
    (ofOutcome o).ReadAs shape := by
  cases o with
  | ok v => exact rfl
  | error r => exact h r rfl

/-- a reply that fits is read as what was told, and nothing behind it is touched -/
theorem decode_frame {t : Told} {shape : Shape} {st : Stream} {tail : List UInt8} (ht : t.ReadAs shape)
    (hfit : t.body.size ≤ sizeLimit) (hs : st.rest = t.frame.list ++ tail) :
    ∃ (o : Except Refusal shape.Value) (r' : Reader), Reply.decode shape (start st) = .ok o r' ∧
      (ofOutcome o).answer = t.answer ∧ r'.stream.rest = tail := by
  cases t with
  | value s v =>
    cases ht
    obtain ⟨r', hd, hrest, -⟩ := Reply.decode_encode (Reply.sound_ok v) hfit hs
    exact ⟨.ok v, r', hd, rfl, hrest⟩
  | refusal r =>
    have hsound : Reply.Sound (.error r : Except Refusal shape.Value) := fun r' h => by cases h; exact ht
    obtain ⟨r', hd, hrest, -⟩ := Reply.decode_encode hsound hfit hs
    exact ⟨.error r, r', hd, rfl, hrest⟩

end Told

namespace Cluster

/-- what node id tells, in state n, to whoever sends it a frame -/
def tells (c : Cluster) (id : NodeId) (n : Node) (frame : Bytes) : Told :=
  match Request.decode (start (.ofBytes frame)) with
  | .ok r _ => .ofOutcome ((c.counted id).respond id n r).1
  | .error e _ => .refusal ⟨.unknown, e.text⟩

variable (c : Cluster) (id : NodeId) (n : Node) (frame : Bytes)

theorem receive_tells : (c.receive id n frame).1 = (c.tells id n frame).frame := by
  unfold receive tells
  cases Request.decode (start (.ofBytes frame)) with
  | ok r rest => exact (Told.frame_ofOutcome _).symm
  | error e rest => rfl

/-- a node tells what the request asks for, or refuses -/
theorem tells_readAs {shape : Shape} (h : ∀ r, Request.ofFrame? frame = some r → shape = r.shape) :
    (c.tells id n frame).ReadAs shape := by
  unfold Request.ofFrame? at h
  unfold tells
  cases hd : Request.decode (start (.ofBytes frame)) with
  | error e rest => exact Status.noConfusion
  | ok r rest =>
    rw [hd] at h
    cases h r rfl
    exact Told.readAs_ofOutcome (respond_sound (c.counted id) id n r)

end Cluster

/-- bytes that are delivered stand behind those that are unread -/
theorem Stream.rest_deliver (s : Stream) (b : Bytes) (e : Fault) : (s.deliver b e).rest = s.rest ++ b.list := by
  unfold deliver
  split_ifs with h
  · rw [left_eq] at h
    rw [List.length_eq_zero_iff.1 h]
    exact rest_ofBytes b
  · calc Stream.rest ⟨s.unread ++ b, 0, e⟩
      _ = (s.unread ++ b).list := rest_ofBytes _
      _ = s.unread.list ++ b.list := by simp [Bytes.list]
      _ = s.rest ++ b.list := by rw [list_unread]

/-! ## One operation -/

/-- the link that an operation acts on -/
def Op.link? : Op → Option String
  | .openLink l _ _ | .sendOn l _ | .decodeFrom l _ | .readFrom l _ | .closeLink l | .dropLink l => some l
  | _ => none

namespace Simulation

variable {s : Simulation} {name : String} {l : Link}

theorem links_insert {links : SortedMap String Link} {name' : String} (h : some name' ≠ some name) (l : Link) :
    (links.insert name' l).get? name = links.get? name := by
  rw [SortedMap.get?_insert, if_neg]
  intro hc
  exact h (congrArg some (Std.LawfulEqCmp.eq_of_compare hc).symm)

theorem links_closed {name' : String} (h : some name' ≠ some name) (s : Simulation) :
    (s.closed name').links.get? name = s.links.get? name := by
  unfold closed
  split
  · rfl
  · split_ifs
    · exact links_insert h _
    · rfl

theorem links_control (s : Simulation) (id : NodeId) (f : Cluster → Cluster) : (s.control id f).2.links = s.links := by
  rcases control_cases s id f with h | h <;> rw [h]

/-- a link is left alone by what does not act on it -/
theorem links_step {op : Op} (h : op.link? ≠ some name) (fuel : Nat) (s : Simulation) :
    (s.step fuel op).2.links.get? name = s.links.get? name := by
  cases op with
  | call i c =>
    simp only [step]
    cases s.client? i <;> rfl
  | dropClient i =>
    simp only [step]
    cases s.client? i <;> rfl
  | setMaster m => rfl
  | setBelief id m => exact congrArg (SortedMap.get? · name) (links_control s id _)
  | setAlive id m => exact congrArg (SortedMap.get? · name) (links_control s id _)
  | failSends id m => exact congrArg (SortedMap.get? · name) (links_control s id _)
  | setThreads threads => rfl
  | counters id =>
    simp only [step]
    cases s.cluster.nodes.get? id <;> rfl
  | contents id => rfl
  | advance d => rfl
  | openLink l id clusterId =>
    simp only [step]
    rcases s.cluster.connect id clusterId with ⟨e | u, c⟩
    · rfl
    · exact (links_insert h _).trans (links_closed h _)
  | sendOn l frame =>
    simp only [step, withLink]
    cases s.links.get? l with
    | none => rfl
    | some x =>
      simp only
      split_ifs
      · rfl
      · rcases s.cluster.send x.node frame with ⟨e | bytes, c⟩
        · rfl
        · exact links_insert h _
  | decodeFrom l shape =>
    simp only [step, withLink]
    cases s.links.get? l with
    | none => rfl
    | some x =>
      simp only
      rcases Reply.decode shape (Frame.start x.stream) with ⟨v | r, r'⟩ | ⟨e, r'⟩ <;> exact links_insert h _
  | readFrom l n =>
    simp only [step, withLink]
    cases s.links.get? l with
    | none => rfl
    | some x =>
      simp only
      split_ifs
      · rfl
      · exact links_insert h _
  | closeLink l => exact links_closed h s
  | dropLink l =>
    calc ((s.closed l).links.erase l).get? name
      _ = (s.closed l).links.get? name := by
        rw [SortedMap.get?_erase, if_neg fun hc => h (congrArg some (Std.LawfulEqCmp.eq_of_compare hc).symm)]
      _ = s.links.get? name := links_closed h s

/-- what becomes of a send on a link -/
structure Sends (s : Simulation) (name : String) (l : Link) (frame : Bytes) (answer : Answer) (s' : Simulation) :
    Prop where
  /-- it succeeds on open links to nodes that can be reached and whose threads answer in time -/
  done : answer = .done ↔ l.isOpen = true ∧ (∃ n, s.cluster.Reaches l.node n) ∧ s.cluster.handling = .answered
  /-- then the node receives the frame, and what it tells stands behind what is unread -/
  received : answer = .done → ∃ n, s.cluster.Reaches l.node n ∧
    s'.cluster = (s.cluster.receive l.node n frame).2.handed ∧ ∃ l', s'.links.get? name = some l' ∧ l'.node = l.node ∧
      l'.isOpen = true ∧ l'.stream.rest = l.stream.rest ++ (s.cluster.tells l.node n frame).frame.list
  /-- otherwise nothing is delivered on any link -/
  fault : answer ≠ .done → (∃ e, answer = .fault e) ∧ s' = { s with cluster := s'.cluster }
  /-- on a closed link, or if the node cannot be reached, the cluster is as it was too, but for a failure that was set
  for a live node and spent on an open link -/
  failed : ¬(l.isOpen = true ∧ ∃ n, s.cluster.Reaches l.node n) →
    s'.cluster = s.cluster ∧ (l.isOpen = true → ∀ n, s.cluster.nodes.get? l.node = some n → n.alive = false) ∨
      l.isOpen = true ∧ ∃ n, s.cluster.nodes.get? l.node = some n ∧ n.alive = true ∧ 0 < n.failingSends ∧
        s'.cluster = s.cluster.failSends l.node (n.failingSends - 1)
  /-- a thread that does not answer in time takes the frame late, or not at all -/
  unheard : l.isOpen = true → s.cluster.handling ≠ .answered → ∀ n, s.cluster.Reaches l.node n →
    s'.cluster = if s.cluster.handling = .late then (s.cluster.receive l.node n frame).2.handed else s.cluster.handed

theorem Sends.of_fault {frame : Bytes} {e : Fault} {c : Cluster}
    (hc : c = s.cluster ∧ (l.isOpen = true → ∀ n, s.cluster.nodes.get? l.node = some n → n.alive = false) ∨
      l.isOpen = true ∧ ∃ n, s.cluster.nodes.get? l.node = some n ∧ n.alive = true ∧ 0 < n.failingSends ∧
        c = s.cluster.failSends l.node (n.failingSends - 1)) :
    Sends s name l frame (.fault e) { s with cluster := c } := by
  have hno : l.isOpen = true → ∀ n, ¬s.cluster.Reaches l.node n := by
    rintro ho n ⟨hn, ha, hf⟩
    rcases hc with ⟨-, hdown⟩ | ⟨-, n', hn', -, hf', -⟩
    · rw [hdown ho n hn] at ha
      cases ha
    · cases hn.symm.trans hn'
      omega
  refine ⟨⟨?_, ?_⟩, ?_, fun _ => ⟨⟨e, rfl⟩, rfl⟩, fun _ => hc, fun ho _ n hn => absurd hn (hno ho n)⟩
  · rintro ⟨⟩
  · rintro ⟨ho, ⟨n, hn⟩, -⟩
    exact absurd hn (hno ho n)
  · rintro ⟨⟩

theorem Sends.of_unheard {frame : Bytes} {e : Fault} {c : Cluster} {n : Node} (ho : l.isOpen = true)
    (hreach : s.cluster.Reaches l.node n) (hh : s.cluster.handling ≠ .answered)
    (hc : c = if s.cluster.handling = .late then (s.cluster.receive l.node n frame).2.handed else s.cluster.handed) :
    Sends s name l frame (.fault e) { s with cluster := c } := by
  refine ⟨⟨?_, fun h => absurd h.2.2 hh⟩, ?_, fun _ => ⟨⟨e, rfl⟩, rfl⟩, fun hno => absurd ⟨ho, n, hreach⟩ hno, ?_⟩
  · rintro ⟨⟩
  · rintro ⟨⟩
  · intro _ _ n' hreach'
    obtain rfl : n' = n := Option.some.inj (hreach'.1.symm.trans hreach.1)
    exact hc

/-- every send on a link ends in one of these ways -/
theorem sends (hl : s.links.get? name = some l) (fuel : Nat) (frame : Bytes) :
    Sends s name l frame (s.step fuel (.sendOn name frame)).1 (s.step fuel (.sendOn name frame)).2 := by
  simp only [step, withLink, hl]
  cases ho : l.isOpen with
  | false =>
    simp only [Bool.not_false, if_true]
    refine .of_fault (.inl ⟨rfl, fun h => ?_⟩)
    rw [ho] at h
    cases h
  | true =>
    simp only [Bool.not_true, Bool.false_eq_true, if_false]
    rcases s.cluster.send_outcome l.node frame with ⟨n, hreach, hs⟩ | ⟨e, hs, hdown⟩ | ⟨e, n, hn, ha, hf, hs⟩
    · rw [hs]
      rcases s.cluster.hand_cases l.node (s.cluster.receive l.node n frame) with ⟨hh, he⟩ | ⟨hh, he⟩ | ⟨hh, e, he⟩
      · rw [he]
        let l' : Link := { l with stream := l.stream.deliver (s.cluster.receive l.node n frame).1 .endOfInput }
        have hl' : (s.links.insert name l').get? name = some l' :=
          (SortedMap.get?_insert ..).trans (if_pos Std.compare_self)
        refine ⟨⟨fun _ => ⟨ho, ⟨n, hreach⟩, hh⟩, fun _ => rfl⟩, fun _ => ⟨n, hreach, rfl, l', hl', rfl, ho, ?_⟩,
          fun h => absurd rfl h, fun hno => absurd ⟨ho, n, hreach⟩ hno, fun _ hno => absurd hh hno⟩
        rw [Stream.rest_deliver, Cluster.receive_tells]
      · rw [he]
        exact .of_unheard ho hreach (by rw [hh]; exact Handling.noConfusion) (if_pos hh).symm
      · rw [he]
        have hne : s.cluster.handling ≠ .answered ∧ s.cluster.handling ≠ .late := by
          constructor <;> (intro h; rw [h] at hh; cases hh)
        exact .of_unheard ho hreach hne.1 (if_neg hne.2).symm
    · rw [hs]
      exact .of_fault (.inl ⟨rfl, fun _ => hdown⟩)
    · rw [hs]
      exact .of_fault (.inr ⟨ho, n, hn, ha, hf, rfl⟩)

/-- a decoder that takes the form of the reply in front answers what it tells, and takes the whole of its frame -/
theorem decode_told (hl : s.links.get? name = some l) (fuel : Nat) {shape : Shape} {t : Told} {tail : List UInt8}
    (ht : t.ReadAs shape) (hfit : t.body.size ≤ sizeLimit) (hrest : l.stream.rest = t.frame.list ++ tail) :
    (s.step fuel (.decodeFrom name shape)).1 = t.answer ∧
      ∃ l', (s.step fuel (.decodeFrom name shape)).2.links.get? name = some l' ∧ l'.node = l.node ∧
        l'.isOpen = l.isOpen ∧ l'.stream.rest = tail := by
  obtain ⟨o, r', hd, ho, htail⟩ := Told.decode_frame ht hfit hrest
  have hstep : s.step fuel (.decodeFrom name shape) = ((Told.ofOutcome o).answer, s.setStream name l r'.stream) := by
    simp only [step, withLink, hl, hd]
    cases o <;> rfl
  rw [hstep]
  exact ⟨ho, _, (SortedMap.get?_insert ..).trans (if_pos Std.compare_self), rfl, rfl, htail⟩

/-! ## Many operations -/

/-- a frame that a node received, and the states of the cluster and the node just then -/
structure Sending where
  frame : Bytes
  cluster : Cluster
  node : NodeId
  state : Node

/-- what the node told -/
def Sending.told (m : Sending) : Told := m.cluster.tells m.node m.state m.frame

/-- a frame sent on a link is received by the node of the link -/
def sending? (s : Simulation) (name : String) (frame : Bytes) : Option Sending :=
  match s.links.get? name with
  | none => none
  | some l => (s.cluster.nodes.get? l.node).map fun n => ⟨frame, s.cluster, l.node, n⟩

/-- what an operation sends on a link, if it succeeds -/
def sendings (s : Simulation) (name : String) : Op → Answer → List Sending
  | .sendOn l frame, .done => if l = name then (s.sending? name frame).toList else []
  | _, _ => []

/-- what it decodes from a link: the form that was expected, and the answer -/
def decodings (name : String) : Op → Answer → List (Shape × Answer)
  | .decodeFrom l shape, answer => if l = name then [(shape, answer)] else []
  | _, _ => []

/-- what was sent and decoded on a link, in order, and where that led -/
structure Traffic where
  now : Simulation
  sent : List Sending
  decoded : List (Shape × Answer)

def Traffic.happen (name : String) (h : Traffic) : Happening → Traffic
  | .operate fuel op =>
    ⟨(h.now.step fuel op).2, h.sent ++ h.now.sendings name op (h.now.step fuel op).1,
      h.decoded ++ decodings name op (h.now.step fuel op).1⟩
  | .arrive config draws => { h with now := h.now.happen (.arrive config draws) }

def traffic (s : Simulation) (name : String) (es : List Happening) : Traffic := es.foldl (Traffic.happen name) ⟨s, [], []⟩

/-- on the link, it at most sends or decodes; elsewhere it may do anything -/
def Happening.Polite (name : String) : Happening → Prop
  | .operate _ op =>
    op.link? = some name → (∃ frame, op = .sendOn name frame) ∨ ∃ shape, op = .decodeFrom name shape
  | .arrive _ _ => True

/-- the link is used as it is meant to be -/
structure Orderly (s : Simulation) (name : String) (es : List Happening) : Prop where
  polite : ∀ e ∈ es, e.Polite name
  /-- at no time more is decoded than was sent -/
  behind : ∀ es', es' <+: es → (s.traffic name es').decoded.length ≤ (s.traffic name es').sent.length
  /-- the reply to a request is decoded in the form that the request asks for -/
  forms : ∀ (i : Nat) (d : Shape × Answer) (m : Sending) (r : Request), (s.traffic name es).decoded[i]? = some d →
    (s.traffic name es).sent[i]? = some m → Request.ofFrame? m.frame = some r → d.1 = r.shape
  /-- every reply fits a frame -/
  fits : ∀ m ∈ (s.traffic name es).sent, m.told.body.size ≤ sizeLimit

/-- what was decoded is what was told, in order, and what is unread on the link are the frames of the rest -/
structure Queued (name : String) (id : NodeId) (h : Traffic) : Prop where
  answers : h.decoded.map Prod.snd = (h.sent.take h.decoded.length).map fun m => m.told.answer
  unread : ∃ l, h.now.links.get? name = some l ∧ l.node = id ∧ l.isOpen = true ∧
    l.stream.rest = (h.sent.drop h.decoded.length).flatMap fun m => m.told.frame.list

theorem traffic_concat (s : Simulation) (name : String) (es : List Happening) (e : Happening) :
    s.traffic name (es ++ [e]) = (s.traffic name es).happen name e := by
  rw [traffic, List.foldl_append]
  rfl

/-- what goes over a link leads where its events lead -/
theorem now_traffic (s : Simulation) (name : String) (es : List Happening) : (s.traffic name es).now = s.after es := by
  induction es using List.reverseRecOn with
  | nil => rfl
  | append_singleton es e ih =>
    rw [traffic_concat, after_concat, ← ih]
    cases e <;> rfl

/-- an event adds to what was sent and decoded -/
theorem happen_adds (name : String) (h : Traffic) (e : Happening) :
    h.sent <+: (h.happen name e).sent ∧ h.decoded <+: (h.happen name e).decoded := by
  cases e with
  | operate fuel op => exact ⟨List.prefix_append _ _, List.prefix_append _ _⟩
  | arrive config draws => exact ⟨List.prefix_rfl, List.prefix_rfl⟩

theorem Orderly.init {es : List Happening} {e : Happening} (h : Orderly s name (es ++ [e])) : Orderly s name es := by
  obtain ⟨hsent, hdecoded⟩ := happen_adds name (s.traffic name es) e
  rw [← traffic_concat] at hsent hdecoded
  refine ⟨fun e' he => h.polite e' (List.mem_append_left _ he),
    fun es' hp => h.behind es' (hp.trans (List.prefix_append _ _)), fun i d m r hd hm hr => h.forms i d m r ?_ ?_ hr,
    fun m hm => h.fits m (hsent.subset hm)⟩
  · obtain ⟨hi, rfl⟩ := List.getElem?_eq_some_iff.1 hd
    exact List.prefix_iff_getElem?.1 hdecoded i hi
  · obtain ⟨hi, rfl⟩ := List.getElem?_eq_some_iff.1 hm
    exact List.prefix_iff_getElem?.1 hsent i hi

theorem sendings_aside {op : Op} (h : op.link? ≠ some name) (s : Simulation) (answer : Answer) :
    s.sendings name op answer = [] ∧ decodings name op answer = [] := by
  cases op with
  | sendOn l frame =>
    refine ⟨?_, rfl⟩
    cases answer with
    | done => exact if_neg fun hl => h (congrArg some hl)
    | _ => rfl
  | decodeFrom l shape => exact ⟨rfl, if_neg fun hl => h (congrArg some hl)⟩
  | _ => exact ⟨rfl, rfl⟩

namespace Queued

variable {id : NodeId} {h : Traffic}

/-- what does not act on the link leaves its queue alone -/
theorem aside (hq : Queued name id h) {fuel : Nat} {op : Op} (hop : op.link? ≠ some name) :
    Queued name id (h.happen name (.operate fuel op)) := by
  obtain ⟨hs, hd⟩ := sendings_aside hop h.now (h.now.step fuel op).1
  simp only [Traffic.happen, hs, hd, List.append_nil]
  exact ⟨hq.answers, by rw [links_step hop]; exact hq.unread⟩

/-- a send adds what the node tells at the end, or nothing -/
theorem send (hq : Queued name id h) (hle : h.decoded.length ≤ h.sent.length) (fuel : Nat) (frame : Bytes) :
    Queued name id (h.happen name (.operate fuel (.sendOn name frame))) := by
  obtain ⟨l, hl, rfl, ho, hrest⟩ := hq.unread
  have hsends := sends hl fuel frame
  set answer := (h.now.step fuel (.sendOn name frame)).1 with hanswer
  by_cases hdone : answer = .done
  · obtain ⟨n, hreach, -, l', hl', hnode, ho', hrest'⟩ := hsends.received hdone
    have hadd : h.now.sendings name (.sendOn name frame) answer = [⟨frame, h.now.cluster, l.node, n⟩] := by
      have hsending : h.now.sending? name frame = some ⟨frame, h.now.cluster, l.node, n⟩ := by
        simp only [sending?, hl, hreach.1, Option.map_some]
      rw [hdone, sendings, if_pos rfl, hsending]
      rfl
    simp only [Traffic.happen, ← hanswer, hadd, decodings, List.append_nil]
    refine ⟨?_, l', hl', hnode, ho', ?_⟩
    · rw [List.take_append_of_le_length hle]
      exact hq.answers
    · rw [List.drop_append_of_le_length hle, List.flatMap_append, hrest', hrest]
      simp only [List.flatMap_cons, List.flatMap_nil, List.append_nil, Sending.told]
  · obtain ⟨⟨e, he⟩, hs'⟩ := hsends.fault hdone
    simp only [Traffic.happen, ← hanswer, he, sendings, decodings, List.append_nil]
    refine ⟨hq.answers, l, ?_, rfl, ho, hrest⟩
    rw [hs']
    exact hl

/-- a decoder takes the frame in front, if it takes the form that is asked for -/
theorem decode (hq : Queued name id h) (fuel : Nat) (shape : Shape) {m : Sending}
    (hm : h.sent[h.decoded.length]? = some m) (ht : m.told.ReadAs shape) (hfit : m.told.body.size ≤ sizeLimit) :
    Queued name id (h.happen name (.operate fuel (.decodeFrom name shape))) := by
  obtain ⟨l, hl, rfl, ho, hrest⟩ := hq.unread
  obtain ⟨hlt, rfl⟩ := List.getElem?_eq_some_iff.1 hm
  rw [List.drop_eq_getElem_cons hlt, List.flatMap_cons] at hrest
  obtain ⟨hanswer, l', hl', hnode, ho', hrest'⟩ := decode_told hl fuel ht hfit hrest
  simp only [Traffic.happen, sendings, decodings, if_true, List.append_nil, hanswer]
  refine ⟨?_, l', hl', hnode, ho'.trans ho, ?_⟩
  · rw [List.map_append, hq.answers, List.length_append, List.length_singleton, List.take_add_one, hm, List.map_append]
    rfl
  · rw [List.length_append, List.length_singleton]
    exact hrest'

end Queued

/-- what happens leaves the link in order -/
theorem Queued.happen {id : NodeId} {es : List Happening} {e : Happening} (hq : Queued name id (s.traffic name es))
    (h : Orderly s name (es ++ [e])) : Queued name id (s.traffic name (es ++ [e])) := by
  obtain ⟨hpolite, hbehind, hforms, hfits⟩ := h
  have hle := hbehind es (List.prefix_append _ _)
  have hnext := hbehind (es ++ [e]) List.prefix_rfl
  rw [traffic_concat] at hforms hfits hnext ⊢
  cases e with
  | arrive config draws => exact ⟨hq.answers, hq.unread⟩
  | operate fuel op =>
    by_cases hop : op.link? = some name
    · rcases hpolite _ (List.mem_append_right _ (List.mem_singleton_self _)) hop with ⟨frame, rfl⟩ | ⟨shape, rfl⟩
      · exact hq.send hle fuel frame
      · -- one more is decoded, so one more was sent
        simp only [Traffic.happen, sendings, decodings, if_true, List.append_nil, List.length_append,
          List.length_singleton] at hforms hfits hnext
        have hm := List.getElem?_eq_getElem (Nat.lt_of_succ_le hnext)
        refine hq.decode fuel shape hm ?_ (hfits _ (List.getElem_mem _))
        exact Cluster.tells_readAs _ _ _ _ fun r hr => hforms _ _ _ r List.getElem?_concat_length hm hr
    · exact hq.aside hop

theorem queued {es : List Happening} (hl : s.links.get? name = some l) (ho : l.isOpen = true)
    (hempty : l.stream.unread = ByteArray.empty) (h : Orderly s name es) : Queued name l.node (s.traffic name es) := by
  induction es using List.reverseRecOn with
  | nil =>
    refine ⟨rfl, l, hl, rfl, ho, ?_⟩
    rw [← Stream.list_unread, hempty]
    rfl
  | append_singleton es e ih => exact (ih h.init).happen h

/-- **Replies come back in order.** A link is open, with nothing to read, and then frames of any kind are sent on it and
replies decoded from it, in whatever order, while anything may happen to the cluster and its other users. As long as no
more is decoded than was sent, each in the form that its request asks for, and replies fit a frame, the answers decoded
are what the node told to the frames sent, in order. And what is unread is exactly the frames of the rest: every decoder
took one frame, from its first byte to its last. A send that fails, on any link, adds nothing to what can be read there. If
the link is closed or the node cannot be reached, it leaves the node as it is too; only a failure that was set for a live
node is spent if the link is open. -/
theorem pipelined {es : List Happening} (hl : s.links.get? name = some l) (ho : l.isOpen = true)
    (hempty : l.stream.unread = ByteArray.empty) (h : Orderly s name es) :
    (s.traffic name es).now = s.after es ∧ Queued name l.node (s.traffic name es) ∧
      ∀ (s : Simulation) (name : String) (l : Link) (fuel : Nat) (frame : Bytes), s.links.get? name = some l →
        Sends s name l frame (s.step fuel (.sendOn name frame)).1 (s.step fuel (.sendOn name frame)).2 :=
  ⟨now_traffic s name es, queued hl ho hempty h, fun _ _ _ fuel frame hl => sends hl fuel frame⟩

/-- a question, a frame that is no request, a send that fails, and then two replies are read -/
theorem pipelined_mixed :
    let s := (initial "c" ["a"] []).after [.operate 0 (.openLink "l" "a" "c")]
    let es : List Happening := [.operate 0 (.sendOn "l" Request.whoMaster.encode), .operate 0 (.sendOn "l" ByteArray.empty),
      .operate 0 (.failSends "a" 1), .operate 0 (.sendOn "l" Request.version.encode),
      .operate 0 (.decodeFrom "l" .optText), .operate 0 (.decodeFrom "l" .count)]
    ∃ l, s.links.get? "l" = some l ∧ l.isOpen = true ∧ l.stream.unread = ByteArray.empty ∧ Orderly s "l" es ∧
      (s.traffic "l" es).sent.length = 2 ∧ (s.traffic "l" es).decoded.length = 2 ∧
      Queued "l" l.node (s.traffic "l" es) := by
  intro s es
  have hpaired : ∀ (i : Nat) (a b : Shape), ([.optText, .count] : List Shape)[i]? = some a →
      ([some .optText, none] : List (Option Shape))[i]? = some (some b) → a = b := by
    rintro (_ | _ | i) a b ha hb
    · cases ha; cases hb; rfl
    · cases hb
    · cases ha
  have hrun : ((s.links.get? "l").map fun l => (l.isOpen, l.stream.unread)) = some (true, ByteArray.empty) ∧
      (∀ k ≤ es.length, (s.traffic "l" (es.take k)).decoded.length ≤ (s.traffic "l" (es.take k)).sent.length) ∧
      (s.traffic "l" es).decoded.map Prod.fst = [.optText, .count] ∧
      (s.traffic "l" es).sent.map (fun m => (Request.ofFrame? m.frame).map Request.shape) = [some .optText, none] ∧
      ∀ m ∈ (s.traffic "l" es).sent, m.told.body.size ≤ sizeLimit := by decide +kernel
  obtain ⟨hlink, hcounts, hexpected, hasked, hfits⟩ := hrun
  obtain ⟨l, hl, hopen⟩ := Option.map_eq_some_iff.1 hlink
  obtain ⟨ho, hempty⟩ := Prod.mk.inj hopen
  have hsent : (s.traffic "l" es).sent.length = 2 := by simpa using congrArg List.length hasked
  have hdecoded : (s.traffic "l" es).decoded.length = 2 := by simpa using congrArg List.length hexpected
  have h : Orderly s "l" es := by
    refine ⟨by simp [es, Happening.Polite, Op.link?], fun es' hp => ?_, fun i d m r hd hm hr => ?_, hfits⟩
    · rw [List.prefix_iff_eq_take.1 hp]
      exact hcounts _ hp.length_le
    · refine hpaired i d.1 r.shape ?_ ?_
      · rw [← hexpected, List.getElem?_map, hd, Option.map_some]
      · rw [← hasked, List.getElem?_map, hm, Option.map_some, hr, Option.map_some]
  exact ⟨l, hl, ho, hempty, h, hsent, hdecoded, (pipelined hl ho hempty h).2.1⟩

end Simulation

end ReplicaKV
