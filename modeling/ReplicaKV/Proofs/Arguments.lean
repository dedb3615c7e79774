/-
The limits on the arguments of calls, and what comes of breaking one.

- `Call.keys`, `Call.values`, `Call.limit?`, `Call.batch`, `Call.names`: the arguments of all calls that have a limit, by
  the limit that they have. `Call.asks?`: the request whose frame has one.
- `Call.Within`: every limit is kept.
- `Misuse.ofKey_eq_none` and its like: a check finds nothing exactly if its limit is kept. `misuse_eq_none`: the checks
  of a call, taken together, miss no argument of it and check nothing else.
- `invalid_arguments`: a call is refused for its arguments exactly if it breaks a limit, and then does nothing.
-/
import ReplicaKV.Proofs.Network.Failures
import ReplicaKV.Proofs.Network.Record

namespace ReplicaKV

/-! ## Limits -/

/-- the keys that a query is given, with prefixes and the bounds of ranges -/
def Query.keys : Query → List Bytes
  | keyExists k | get k | assert k _ | assertExists k => [k]
  | multiGet ks => ks
  | range r | rangeEntries r | revRangeEntries r => r.first.toList ++ r.last.toList
  | keysWithPrefix p _ => [p]

namespace Call

def keys : Call → List Bytes
  | query q => q.keys
  | set k _ | confirm k _ | delete k | testAndSet k _ _ => [k]
  | sequence us _ => us.map Update.key
  | _ => []

/-- the values that a call stores, expects or asserts, and the argument of a user function -/
def values : Call → List Bytes
  | query (.assert _ v) => v.toList
  | set _ v | confirm _ v => [v]
  | testAndSet _ expected wanted => expected.toList ++ wanted.toList
  | sequence us _ => us.filterMap Update.value?
  | userFunction _ argument => argument.toList
  | _ => []

/-- how many elements are wanted at most -/
def limit? : Call → Option UInt32
  | query (.range r) | query (.rangeEntries r) | query (.revRangeEntries r) => r.limit
  | query (.keysWithPrefix _ limit) => limit
  | _ => none

/-- how many keys or updates go together -/
def batch : Call → Nat
  | query (.multiGet ks) => ks.length
  | sequence us _ => us.length
  | _ => 0

/-- the names that must not be empty -/
def names : Call → List String
  | ping clientId => [clientId]
  | userFunction name _ => [name]
  | _ => []

/-- what client x asks for in the call -/
def asks? (x : Client) : Call → Option Request
  | expectProgressPossible => some (.command .expectProgressPossible)
  | statistics => some (.command .statistics)
  | version _ => some .version
  | whoMaster => some .whoMaster
  | c => c.checked? x

/-- every limit is kept when client x makes the call -/
structure Within (x : Client) (c : Call) : Prop where
  keys : ∀ k ∈ c.keys, k.size ≤ keyLimit
  values : ∀ v ∈ c.values, v.size ≤ valueLimit
  limit : ∀ n, c.limit? = some n → n ≤ limitMax
  batch : c.batch ≤ batchLimit
  names : "" ∉ c.names
  frame : ∀ r, c.asks? x = some r → r.encode.size ≤ Frame.sizeLimit

end Call

/-! ## Checks -/

namespace Misuse

theorem when_eq_none {m : Misuse} {b : Bool} : m.when b = none ↔ b = false := by
  cases b <;> simp [when]

theorem ofKey_eq_none {k : Bytes} : ofKey k = none ↔ k.size ≤ keyLimit := by
  simp [ofKey, when_eq_none]

theorem ofValue_eq_none {v : Bytes} : ofValue v = none ↔ v.size ≤ valueLimit := by
  simp [ofValue, when_eq_none]

theorem ofLimit_eq_none {l : Option UInt32} : ofLimit l = none ↔ ∀ n, l = some n → n ≤ limitMax := by
  cases l <;> simp [ofLimit, when_eq_none]

theorem ofBatch_eq_none {n : Nat} : ofBatch n = none ↔ n ≤ batchLimit := by
  simp [ofBatch, when_eq_none]

/-- a check of something optional -/
theorem bind_eq_none {check : Bytes → Option Misuse} {P : Bytes → Prop} (h : ∀ {v}, check v = none ↔ P v)
    {o : Option Bytes} : o.bind check = none ↔ ∀ v ∈ o.toList, P v := by
  cases o <;> simp [h]

theorem ofRange_eq_none {r : KeyRange} :
    ofRange r = none ↔ (∀ k ∈ r.first.toList ++ r.last.toList, k.size ≤ keyLimit) ∧
      ∀ n, r.limit = some n → n ≤ limitMax := by
  simp only [ofRange, Option.orElse_eq_none, bind_eq_none ofKey_eq_none, ofLimit_eq_none, List.mem_append]
  constructor
  · rintro ⟨hf, hl, hn⟩
    exact ⟨fun k hk => hk.elim (hf k) (hl k), hn⟩
  · rintro ⟨hk, hn⟩
    exact ⟨fun k h => hk k (.inl h), fun k h => hk k (.inr h), hn⟩

theorem ofUpdate_eq_none {u : Update} :
    ofUpdate u = none ↔ u.key.size ≤ keyLimit ∧ ∀ v, u.value? = some v → v.size ≤ valueLimit := by
  simp only [ofUpdate, Option.orElse_eq_none, ofKey_eq_none, bind_eq_none ofValue_eq_none, Option.mem_toList]

end Misuse

open Misuse

/-- the checks of a call find nothing exactly if its arguments keep their limits -/
theorem misuse_eq_none {x : Client} {c : Call} {r : Request} (h : c.checked? x = some r) :
    r.misuse = none ↔ (∀ k ∈ c.keys, k.size ≤ keyLimit) ∧ (∀ v ∈ c.values, v.size ≤ valueLimit) ∧
      (∀ n, c.limit? = some n → n ≤ limitMax) ∧ c.batch ≤ batchLimit ∧ "" ∉ c.names := by
  cases c with
  | query q =>
    cases h
    cases q with
    | multiGet ks =>
      simp [Request.misuse, Query.misuse, Call.keys, Query.keys, Call.values, Call.limit?, Call.batch, Call.names,
        ofKey_eq_none, ofBatch_eq_none, and_comm]
    | keyExists | get | assert | assertExists | range | rangeEntries | revRangeEntries | keysWithPrefix =>
      simp [Request.misuse, Query.misuse, Call.keys, Query.keys, Call.values, Call.limit?, Call.batch, Call.names,
        ofKey_eq_none, ofValue_eq_none, ofLimit_eq_none, ofRange_eq_none]
  | sequence us sync =>
    cases h
    have hupdates : us.findSome? ofUpdate = none ↔
        (∀ k ∈ us.map Update.key, k.size ≤ keyLimit) ∧ ∀ v ∈ us.filterMap Update.value?, v.size ≤ valueLimit := by
      simp only [List.findSome?_eq_none_iff, ofUpdate_eq_none, List.forall_mem_map, List.mem_filterMap]
      constructor
      · intro hu
        refine ⟨fun u hmem => (hu u hmem).1, ?_⟩
        rintro v ⟨u, hmem, hv⟩
        exact (hu u hmem).2 v hv
      · rintro ⟨hk, hv⟩ u hmem
        exact ⟨hk u hmem, fun v hval => hv v ⟨u, hmem, hval⟩⟩
    have hm : (Request.command (.sequence us sync)).misuse = none ↔
        us.length ≤ batchLimit ∧ us.findSome? ofUpdate = none := by
      simp only [Request.misuse, Command.misuse, Option.orElse_eq_none, ofBatch_eq_none]
    rw [hm, hupdates]
    constructor
    · rintro ⟨hb, hk, hv⟩
      refine ⟨hk, hv, ?_, hb, List.not_mem_nil⟩
      rintro n ⟨⟩
    · rintro ⟨hk, hv, -, hb, -⟩
      exact ⟨hb, hk, hv⟩
  | ping | getKeyCount | set | confirm | delete | testAndSet | userFunction =>
    cases h
    simp [Request.misuse, Command.misuse, Call.keys, Call.values, Call.limit?, Call.batch, Call.names, ofKey_eq_none,
      ofValue_eq_none, when_eq_none, or_imp, forall_and, and_comm]
  | expectProgressPossible | statistics | version | whoMaster | allowDirtyReads | dirtyReadsAllowed | dirtyNode
  | setDirtyNode | dropConnections => cases h

theorem Call.asks_of_checked {x : Client} {c : Call} {r : Request} (h : c.checked? x = some r) :
    c.asks? x = some r := by
  cases c <;> first | exact h | cases h

/-- the limits of a call are kept exactly if its checks find nothing and its frame is not too large -/
theorem Call.within_iff {x : Client} {c : Call} {r : Request} (h : c.checked? x = some r) :
    c.Within x ↔ r.misuse = none ∧ r.encode.size ≤ Frame.sizeLimit := by
  rw [misuse_eq_none h]
  constructor
  · intro hw
    exact ⟨⟨hw.keys, hw.values, hw.limit, hw.batch, hw.names⟩, hw.frame r (Call.asks_of_checked h)⟩
  · rintro ⟨⟨hk, hv, hl, hb, hn⟩, hf⟩
    refine ⟨hk, hv, hl, hb, hn, fun r' hr => ?_⟩
    rw [Call.asks_of_checked h] at hr
    cases hr
    exact hf

/-- a call that is not checked cannot break a limit -/
theorem Call.within_of_unchecked {x : Client} {c : Call} (h : c.checked? x = none) : c.Within x := by
  have hsmall : ∀ r, c.asks? x = some r → r.encode.size ≤ Frame.sizeLimit := by
    intro r hr
    cases c with
    | expectProgressPossible | statistics | version | whoMaster => cases hr; decide
    | allowDirtyReads | dirtyReadsAllowed | dirtyNode | setDirtyNode | dropConnections => cases hr
    | ping | getKeyCount | query | set | confirm | delete | testAndSet | sequence | userFunction => cases h
  cases c with
  | expectProgressPossible | statistics | version | whoMaster | allowDirtyReads | dirtyReadsAllowed | dirtyNode
  | setDirtyNode | dropConnections => exact ⟨nofun, nofun, nofun, Nat.zero_le _, nofun, hsmall⟩
  | ping | getKeyCount | query | set | confirm | delete | testAndSet | sequence | userFunction => cases h

/-! ## Calls -/

namespace Scene

variable {W : Type}

/-- what comes back from nodes is never that an argument is bad -/
theorem call_of_within (net : Network W) {c : Call} {s : Scene W} (h : c.Within s.client) (fuel : Nat)
    (reason : String) : (s.call net fuel c).1 ≠ some (.error (.invalidArgument reason)) := by
  intro hf
  cases hc : c.checked? s.client with
  | none =>
    rcases call_unchecked_fails hc hf with hout | ⟨id, he, -⟩ | ⟨m, he, -⟩
    · cases hout
    · cases he
    · cases he
  | some r =>
    obtain ⟨hm, hsize⟩ := (Call.within_iff hc).1 h
    have hmaster : ∀ s' : Scene W, True → True ∧ ∀ f,
        (s'.exchangeWithMaster net r.encode c.shape).1 = .error f → f ≠ .invalidArgument reason := by
      refine fun s' _ => ⟨trivial, ?_⟩
      rintro _ he rfl
      rcases exchangeWithMaster_fails he with hout | ⟨m, hno, -⟩
      · cases hout
      · cases hno
    have hdirty : ∀ s' : Scene W, True → True ∧ ∀ f,
        (s'.exchange net s.client.dirtyNode r.encode c.shape).1 = .error f → f ≠ .invalidArgument reason := by
      refine fun s' _ => ⟨trivial, ?_⟩
      rintro _ he rfl
      rcases exchange_fails he with hout | ⟨hno, -⟩
      · cases hout
      · cases hno
    rcases call_checked_fails hc (Retried.always net) hmaster hdirty trivial hf with hne | ⟨m, he, -⟩ | ⟨m, he, -⟩
    · exact hne rfl
    · cases he.symm.trans hm
    · rw [Request.encodeChecked] at he
      split_ifs at he with hl
      omega

/-- a call that breaks a limit ends at once -/
theorem call_of_not_within (net : Network W) {c : Call} {s : Scene W} (h : ¬c.Within s.client) (fuel : Nat) :
    ∃ reason, s.call net fuel c = (some (.error (.invalidArgument reason)), s) := by
  cases hc : c.checked? s.client with
  | none => exact absurd (Call.within_of_unchecked hc) h
  | some r =>
    obtain ⟨way, -, hcall⟩ := call_checked net fuel hc
    rw [Call.within_iff hc] at h
    cases hm : r.misuse with
    | some m => exact ⟨m.message, by simp only [hcall, hm]⟩
    | none =>
      have hl : Frame.sizeLimit < r.encode.size := by
        by_contra hl
        exact h ⟨hm, by omega⟩
      refine ⟨(Misuse.frameTooLarge r.opcode r.encode.size).message, ?_⟩
      simp only [hcall, hm, sendChecked, Request.encodeChecked, if_pos hl]

/-- **A call is refused for its arguments exactly if it breaks a limit, and before anything happens.** For every client,
clock and network: the call ends as an invalid argument if and only if a key, prefix or bound, a value, the number of
elements, of keys or of updates, a name or the frame is not within its limit. Then the client with its draws, the clock
with its pauses and the network are as they were, and the log of what was done on the network is empty. -/
theorem invalid_arguments (net : Network W) (fuel : Nat) (c : Call) (s : Scene W) :
    ((∃ reason, (s.call net fuel c).1 = some (.error (.invalidArgument reason))) ↔ ¬c.Within s.client) ∧
      (¬c.Within s.client → (s.call net fuel c).2 = s ∧ ((logged s).call net.recorded fuel c).2.net.log = []) := by
  refine ⟨⟨?_, ?_⟩, ?_⟩
  · rintro ⟨reason, hf⟩ hw
    exact call_of_within net hw fuel reason hf
  · intro h
    obtain ⟨reason, hcall⟩ := call_of_not_within net h fuel
    exact ⟨reason, congrArg Prod.fst hcall⟩
  · intro h
    obtain ⟨reason, hcall⟩ := call_of_not_within net h fuel
    have h' : ¬c.Within (logged s).client := h
    obtain ⟨reason', hlogged⟩ := call_of_not_within net.recorded h' fuel
    rw [hcall, hlogged]
    exact ⟨rfl, rfl⟩

/-- a value that is wanted is one byte too long, in a cluster that would take it -/
theorem invalid_arguments_wanted :
    let s : Scene Cluster := ⟨.new .ofTwoNodes [], .start, (Cluster.ofNodes "c" ["a", "b"]).setMaster (some "a")⟩
    let c := Call.testAndSet "k".toUTF8 none (some ⟨Array.replicate (valueLimit + 1) 0⟩)
    (∃ reason, (s.call Cluster.network 2 c).1 = some (.error (.invalidArgument reason))) ∧
      (s.call Cluster.network 2 c).2 = s ∧ ((logged s).call Cluster.network.recorded 2 c).2.net.log = [] := by
  intro s c
  have hbroken : ¬c.Within s.client := by
    intro h
    have hsize := h.values ⟨Array.replicate (valueLimit + 1) 0⟩ (by simp [c, Call.values])
    simp [ByteArray.size] at hsize
  obtain ⟨hiff, hnothing⟩ := invalid_arguments Cluster.network 2 c s
  exact ⟨hiff.2 hbroken, hnothing hbroken⟩

end Scene

end ReplicaKV
