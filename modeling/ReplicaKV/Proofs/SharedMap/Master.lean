/-
What a master does with a request that is about the map, whatever else there is in its cluster.

- `Request.Yields`: a master with a store answers the request so, and passes these mutations on.
- `perform_yields`: a request that is about the map yields what the map answers, and mutations that lead to the map
  after it. A refusal fits a frame.
- `perform_fits`: so does the answer to a write.
-/
import ReplicaKV.Proofs.Arguments
import ReplicaKV.Proofs.SharedMap.Spec

namespace ReplicaKV

open ReplicaKV.Frame

theorem Standing.mapValues_takeIn_nil (id : NodeId) (m : SortedMap NodeId Standing) :
    m.mapValues (Standing.takeIn id []) = m := by
  apply SortedMap.ext_get?
  intro k
  rw [SortedMap.get?_mapValues]
  cases m.get? k with
  | none => rfl
  | some st => rw [Option.map_some, takeIn_nil]

/-- a master with this store answers the request with o, and passes the mutations on -/
def Request.Yields (r : Request) (store : Store) (o : Except Refusal r.shape.Value) (ms : List Mutation) : Prop :=
  ∀ (c : Cluster) (id : NodeId) (n : Node), n.store = store → n.belief = some id →
    (c.respond id n r).1 = o ∧ (c.respond id n r).2.standings = c.standings.mapValues (Standing.takeIn id ms)

namespace Request

variable {store : Store}

theorem yields_query (store : Store) (q : Query) (dirty : Bool) :
    (query q dirty).Yields store (store.answer q) [] := by
  intro c id n hs hb
  have hm : (dirty || decide (n.belief = some id)) = true := by rw [hb, decide_eq_true rfl, Bool.or_true]
  have hr : c.respond id n (.query q dirty) = (n.store.answer q, { c with tally := c.tally.countQuery q }) :=
    if_pos hm
  rw [hr, hs, Standing.mapValues_takeIn_nil]
  exact ⟨rfl, rfl⟩

/-- a command that a store decides alone -/
theorem yields_command {cmd : Command} {ms : List Mutation} {v : cmd.shape.Value}
    (h : ∀ (c : Cluster) id, c.evaluate id store cmd = .ok (ms, v)) : (command cmd).Yields store (.ok v) ms := by
  rintro c id n rfl hb
  rw [Cluster.respond_master c id n cmd hb, Cluster.execute_ok (h _ id), Cluster.standings_commit,
    (Cluster.quiet_tallied c cmd).standings]
  exact ⟨rfl, rfl⟩

theorem yields_refused {cmd : Command} {f : Refusal} (h : ∀ (c : Cluster) id, c.evaluate id store cmd = .error f) :
    (command cmd).Yields store (.error f) [] := by
  rintro c id n rfl hb
  rw [Cluster.respond_master c id n cmd hb, Cluster.execute_error (h _ id), Standing.mapValues_takeIn_nil]
  exact ⟨rfl, (Cluster.quiet_tallied c cmd).standings⟩

end Request

/-! ## Refusals are about short keys -/

theorem Query.size_subject {q : Query} (h : q.misuse = none) {k : Bytes} (hk : k ∈ q.subjects) : k.size ≤ keyLimit := by
  cases q with
  | get k' | assertExists k' =>
    rw [List.mem_singleton.1 hk]
    exact Misuse.ofKey_eq_none.1 h
  | assert k' v =>
    rw [List.mem_singleton.1 hk]
    exact Misuse.ofKey_eq_none.1 ((Option.orElse_eq_none _ _).1 h).1
  | multiGet ks =>
    exact Misuse.ofKey_eq_none.1 (List.findSome?_eq_none_iff.1 ((Option.orElse_eq_none _ _).1 h).2 k hk)
  | keyExists | range | rangeEntries | revRangeEntries | keysWithPrefix => cases hk

theorem Command.size_update {us : List Update} {sync : Bool} (h : (sequence us sync).misuse = none) {u : Update}
    (hu : u ∈ us) : u.key.size ≤ keyLimit :=
  (Misuse.ofUpdate_eq_none.1 (List.findSome?_eq_none_iff.1 ((Option.orElse_eq_none _ _).1 h).2 u hu)).1

/-- a refusal about a short key fits a frame -/
theorem Refusal.About.fits {f : Refusal} {k : Bytes} (h : f.About k) (hk : k.size ≤ keyLimit) (shape : Shape) :
    (Reply.body shape (.error f)).size ≤ sizeLimit := by
  have := Utf8.lenient_le k
  rw [← list_size, Reply.list_body_error, List.length_append, length_lowBytes, length_text, h.message]
  unfold keyLimit at hk
  unfold sizeLimit
  omega

/-! ## Requests about the map -/

namespace Shared

variable {store : Store}

/-- the request yields what the map answers, and mutations that lead to the map after it; a refusal fits a frame -/
structure Agrees (r : Request) (store : Store) (o : Except Refusal r.shape.Value) (ms : List Mutation)
    (result : Option (Answer × Store)) : Prop where
  yields : r.Yields store o ms
  result : result = some (.ofOutcome (some (o.mapError .ofRefusal)), store.applyAll ms)
  fits : r.misuse = none → ∀ f, o = .error f → (Reply.body r.shape o).size ≤ sizeLimit

theorem agrees_ok {cmd : Command} {ms : List Mutation} {v : cmd.shape.Value} {result : Option (Answer × Store)}
    (h : ∀ (c : Cluster) id, c.evaluate id store cmd = .ok (ms, v))
    (hr : result = some (.value cmd.shape v, store.applyAll ms)) : Agrees (.command cmd) store (.ok v) ms result :=
  ⟨Request.yields_command h, hr, fun _ _ hf => nomatch hf⟩

theorem agrees_refused {cmd : Command} {f : Refusal} {k : Bytes} {result : Option (Answer × Store)} (hf : f.About k)
    (hk : cmd.misuse = none → k.size ≤ keyLimit) (h : ∀ (c : Cluster) id, c.evaluate id store cmd = .error f)
    (hr : result = some (.failure (.ofRefusal f), store)) : Agrees (.command cmd) store (.error f) [] result := by
  refine ⟨Request.yields_refused h, hr, ?_⟩
  intro hm f' hf'
  cases hf'
  exact hf.fits (hk hm) cmd.shape

theorem agrees_query (store : Store) (q : Query) :
    ∃ o ms, Agrees (.query q false) store o ms (perform store (.query q)) := by
  refine ⟨store.answer q, [], Request.yields_query store q false, ?_, ?_⟩
  · exact congrArg (fun a => some (a, store)) (Store.read_eq store q).symm
  · intro hm f hf
    obtain ⟨k, hk, hf'⟩ := Store.answer_about hf
    rw [hf]
    exact hf'.fits (Query.size_subject hm hk) q.shape

/-- a value that is there already is not stored again, which is no difference to the map -/
theorem agrees_confirm (store : Store) (k v : Bytes) :
    ∃ o ms, Agrees (.command (.confirm k v)) store o ms (perform store (.confirm k v)) := by
  by_cases hv : store.get? k = some v
  · refine ⟨.ok (), [], agrees_ok ?_ ?_⟩
    · intro c id
      simp only [Cluster.evaluate, if_pos hv]
    · rw [perform, SortedMap.insert_self hv]
      rfl
  · refine ⟨.ok (), [.put k v], agrees_ok ?_ rfl⟩
    intro c id
    simp only [Cluster.evaluate, if_neg hv]

theorem agrees_delete (store : Store) (k : Bytes) :
    ∃ o ms, Agrees (.command (.delete k)) store o ms (perform store (.delete k)) := by
  by_cases hk : store.contains k = true
  · refine ⟨.ok (), [.remove k], agrees_ok ?_ ?_⟩
    · intro c id
      simp only [Cluster.evaluate, if_pos hk]
    · rw [perform, if_pos hk]
      rfl
  · refine ⟨.error (Store.absent k), [], agrees_refused (.inl rfl) Misuse.ofKey_eq_none.1 ?_ ?_⟩
    · intro c id
      simp only [Cluster.evaluate, if_neg hk]
    · rw [perform, if_neg hk]
      rfl

theorem agrees_testAndSet (store : Store) (k : Bytes) (expected wanted : Option Bytes) :
    ∃ o ms, Agrees (.command (.testAndSet k expected wanted)) store o ms
      (perform store (.testAndSet k expected wanted)) := by
  by_cases hk : store.get? k = expected
  · cases wanted with
    | some v =>
      refine ⟨.ok (store.get? k), [.put k v], agrees_ok ?_ ?_⟩
      · intro c id
        simp only [Cluster.evaluate, if_pos hk]
      · rw [perform, if_pos hk]
        rfl
    | none =>
      refine ⟨.ok (store.get? k), [.remove k], agrees_ok ?_ ?_⟩
      · intro c id
        simp only [Cluster.evaluate, if_pos hk]
      · rw [perform, if_pos hk]
        rfl
  · refine ⟨.ok (store.get? k), [], agrees_ok ?_ ?_⟩
    · intro c id
      simp only [Cluster.evaluate, if_neg hk]
    · rw [perform, if_neg hk]
      rfl

/-- the updates of a sequence are planned on a copy; one that fails leaves the map as it is -/
theorem agrees_sequence (store : Store) (us : List Update) (sync : Bool) :
    ∃ o ms, Agrees (.command (.sequence us sync)) store o ms (perform store (.sequence us sync)) := by
  have hplan := Store.planFrom_updates store [] us
  cases hm : us.foldlM update store with
  | ok m =>
    rw [hm] at hplan
    obtain ⟨ms, hms, hto⟩ := hplan
    have hms' : store.plan us = .ok ms := hms
    refine ⟨.ok (), ms, agrees_ok ?_ ?_⟩
    · intro c id
      simp only [Cluster.evaluate, hms']
      rfl
    · simp only [perform, hm, hto]
      rfl
  | error f =>
    rw [hm] at hplan
    obtain ⟨r, hr, hf⟩ := hplan
    obtain ⟨u, hu, habout⟩ := Store.planFrom_error hr
    have hr' : store.plan us = .error r := hr
    refine ⟨.error r, [], agrees_refused habout (fun hv => Command.size_update hv hu) ?_ ?_⟩
    · intro c id
      simp only [Cluster.evaluate, hr']
      rfl
    · simp only [perform, hm, hf]

/-- **A master does with a request what the map does with the call.** -/
theorem perform_yields {c : Call} {r : Request} (h : c.request? = some r) (store : Store) :
    ∃ o ms, Agrees r store o ms (perform store c) := by
  cases c with
  | query q => cases h; exact agrees_query store q
  | getKeyCount => cases h; exact ⟨.ok (.ofNat store.size), [], agrees_ok (fun _ _ => rfl) rfl⟩
  | set k v => cases h; exact ⟨.ok (), [.put k v], agrees_ok (fun _ _ => rfl) rfl⟩
  | confirm k v => cases h; exact agrees_confirm store k v
  | delete k => cases h; exact agrees_delete store k
  | testAndSet k expected wanted => cases h; exact agrees_testAndSet store k expected wanted
  | sequence us sync => cases h; exact agrees_sequence store us sync
  | ping | userFunction | expectProgressPossible | statistics | version | whoMaster | allowDirtyReads
  | dirtyReadsAllowed | dirtyNode | setDirtyNode | dropConnections => cases h

/-- the answer to a write fits a frame -/
theorem perform_fits {c : Call} (hw : c.write?.isSome = true) (hs : store.Small) {a : Answer} {m : Store}
    (h : perform store c = some (a, m)) : a.Fits := by
  have hunit : (Answer.value .unit ()).Fits := by
    rw [Answer.Fits, ← list_size, Reply.list_body_ok, List.length_append, length_lowBytes]
    show 4 + ([] : List UInt8).length ≤ sizeLimit
    decide
  cases c with
  | set | confirm => cases h; exact hunit
  | delete k =>
    rw [perform] at h
    split_ifs at h
    · cases h; exact hunit
    · cases h; trivial
  | testAndSet k expected wanted =>
    unfold perform at h
    cases h
    rw [Answer.Fits, ← list_size, Reply.list_body_ok, List.length_append, length_lowBytes]
    show 4 + (Frame.optional blob (store.get? k)).length ≤ sizeLimit
    cases hv : store.get? k with
    | none => decide
    | some old =>
      have := hs.value hv
      rw [length_optional_some]
      omega
  | sequence us sync =>
    simp only [perform] at h
    split at h
    · cases h; exact hunit
    · cases h; trivial
  | _ => cases hw

end Shared

end ReplicaKV
