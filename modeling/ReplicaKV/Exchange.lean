/-
One request to one node: attempts to send it, then the reply.

- Every attempt uses the open channel, or connects. A failed attempt closes the channel and forgets the master; before
  the next one the client sleeps for a random time of at most the attempt's number times the backoff scale.
- Once a send has succeeded the request is not sent again. A reply that cannot be read closes the channel and forgets
  the master; a refusal leaves both alone.
- `dispatch`: all of that for a node at a known place and any decoder; `exchange`: for a node of the settings and the
  decoder of a reply, with a note of how it ended.
-/
import ReplicaKV.Client

namespace ReplicaKV.Scene

variable {W : Type}

/-- the longest pause before attempt i, in nanoseconds -/
def pauseLimit (s : Scene W) (i : Nat) : Nat :=
  min (s.client.config.settings.backoffScale.times i).nanos 0xffffffffffffffff

/-- sleep before attempt i; where only the zero pause is possible nothing is drawn -/
def pause (i : Nat) (s : Scene W) : Scene W :=
  if s.pauseLimit i = 0 then s.sleep .zero
  else
    let (n, c) := s.client.draw (s.pauseLimit i)
    { s with client := c }.sleep ⟨n⟩

/-- the channel to a node, opened if there is none -/
def channel (net : Network W) (id : NodeId) (l : Location) (s : Scene W) : Except Fault Stream × Scene W :=
  match s.client.channels.get? id with
  | some ch => (.ok ch, s)
  | none =>
    match net.connect id l s.client.config.clusterId s.net with
    | (.error e, w) => (.error e, { s with net := w })
    | (.ok (), w) => (.ok .empty, { s with net := w }.setChannel id .empty)

/-- one attempt to send a frame: the channel with the reply -/
def attempt (net : Network W) (id : NodeId) (l : Location) (frame : Bytes) (s : Scene W) :
    Except Fault Stream × Scene W :=
  match s.channel net id l with
  | (.error e, s) => (.error e, s)
  | (.ok ch, s) =>
    match net.send id frame s.net with
    | (.error e, w) => (.error e, { s with net := w })
    | (.ok d, w) =>
      let ch := ch.deliver d.bytes d.ending
      (.ok ch, { s with net := w }.setChannel id ch)

/-- attempt number i, and after failures up to `more` further ones: the channel with the reply, or the last fault -/
def attempts (net : Network W) (id : NodeId) (l : Location) (frame : Bytes) :
    (more i : Nat) → Scene W → Except Fault Stream × Scene W
  | more, i, s =>
    let s := if i = 0 then s else s.pause i
    match s.attempt net id l frame with
    | (.ok ch, s) => (.ok ch, s)
    | (.error e, s) =>
      let s := (s.evict net id).setMaster none
      match more with
      | 0 => (.error e, s)
      | more + 1 => attempts net id l frame more (i + 1) s

/-- read the reply that stands in the channel to a node -/
def readReply {α : Type} (net : Network W) (id : NodeId) (decode : Decoder α) (ch : Stream) : Act W α := fun s =>
  match decode ch with
  | (.ok v, ch) => (.ok v, s.setChannel id ch)
  | (.error (.server refusal), ch) => (.error (.ofRefusal refusal), s.setChannel id ch)
  | (.error (.io e), _) => (.error (.ofReadFault id e), (s.evict net id).setMaster none)

/-- put a request to a node at a location. At least one attempt must be allowed, and the reply is read from the channel
that stands in the table once the frame was sent. -/
def dispatch {α : Type} (net : Network W) (id : NodeId) (l : Location) (frame : Bytes) (decode : Decoder α) : Act W α :=
  fun s =>
    if s.client.config.settings.maxAttempts = 0 then
      (.error (.invalidConfig "dispatch needs at least one attempt"), s)
    else
      match s.attempts net id l frame (s.client.config.settings.maxAttempts.toNat - 1) 0 with
      | (.error e, s) => (.error (.transport id e), s)
      | (.ok _, s) =>
        match s.client.channels.get? id with
        | some ch => s.readReply net id decode ch
        | none => (.error (.notConnected id), s)

/-- put a request to a node, and say how that ended -/
def exchange (net : Network W) (id : NodeId) (frame : Bytes) (shape : Shape) : Act W shape.Value := fun s =>
  match s.client.config.location? id with
  | none => (.error (.unknownNode id), s)
  | some l =>
    let (r, s) := s.dispatch net id l frame (Reply.decoder shape)
    (r, { s with net := net.note ⟨id, frame, shape, r⟩ s.net })

end ReplicaKV.Scene
