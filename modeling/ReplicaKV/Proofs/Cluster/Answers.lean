/-
What nodes answer, and that a client can read it.

- `Final r size`: a refusal that says nothing about the master, with a message no longer than a request of that size
  allows. A master refuses in no other way (`answer_error`, `evaluate_error`).
- `Named`, `Countable`: names are shorter than 2 GiB, and there are fewer than 2^32 entries. Lengths and counts on the
  wire have 32 bits, so nothing larger can be told.
- `respond_sound`, `respond_counted`, `respond_measured`: then every answer can be read back (`Reply.decode_settles`,
  `Reply.decode_stays`).
-/
import ReplicaKV.Proofs.Cluster.Steady
import ReplicaKV.Proofs.Reply.RoundTrip

namespace ReplicaKV

open ReplicaKV.Frame

/-! ## Lenient text -/

namespace Utf8

theorem length_lenientFrom (acc : List Char) (skip : Nat) (l : List UInt8) :
    (lenientFrom acc skip l).length ≤ acc.length + l.length := by
  induction l generalizing acc skip with
  | nil => simp [lenientFrom]
  | cons b r ih =>
    cases skip with
    | succ skip => exact (ih acc skip).trans (by simp only [List.length_cons]; omega)
    | zero =>
      simp only [lenientFrom]
      split
      · rename_i ch width _
        exact (ih (ch :: acc) _).trans (by simp only [List.length_cons]; omega)
      · exact (ih ('\uFFFD' :: acc) _).trans (by simp only [List.length_cons]; omega)
      · exact (ih ('\uFFFD' :: acc) _).trans (by simp only [List.length_cons]; omega)

theorem utf8ByteSize_ofList (l : List Char) : (String.ofList l).utf8ByteSize ≤ 4 * l.length := by
  induction l with
  | nil => simp
  | cons c l ih =>
    have hc : String.ofList (c :: l) = String.ofList [c] ++ String.ofList l := by
      rw [← String.ofList_append, List.singleton_append]
    have h1 : (String.ofList [c]).utf8ByteSize = c.utf8Size := by
      rw [← String.singleton_eq_ofList, String.utf8ByteSize_singleton]
    have := c.utf8Size_le_four
    rw [hc, String.utf8ByteSize_append, h1, List.length_cons]
    omega

theorem lenient_le (b : Bytes) : (lenient b).utf8ByteSize ≤ 4 * b.size := by
  have h := length_lenientFrom [] 0 b.list
  rw [list_size] at h
  exact (utf8ByteSize_ofList _).trans (by simp only [List.length_nil] at h; omega)

end Utf8

/-! ## Refusals -/

/-- a refusal that says nothing about the master, to a request of the given size -/
structure Refusal.Final (r : Refusal) (size : Nat) : Prop where
  status : r.status = .notFound ∨ r.status = .assertionFailed ∨ r.status = .wrongCluster ∨
    r.status = .userFunctionFailure
  message : r.message.utf8ByteSize ≤ 4 * size + 32

namespace Refusal.Final

variable {r : Refusal} {size : Nat}

theorem keeps_master (h : r.Final size) : (Failure.ofRefusal r).losesMaster = false := by
  rcases h.status with hs | hs | hs | hs <;> simp [Failure.ofRefusal, hs, Failure.losesMaster]

theorem ne_success (h : r.Final size) : r.status ≠ .success := by
  rcases h.status with hs | hs | hs | hs <;> rw [hs] <;> decide

end Refusal.Final

/-- the key is not there, or an assertion about it does not hold -/
def Refusal.About (r : Refusal) (k : Bytes) : Prop := r = Store.absent k ∨ r = Store.refuted k

theorem Refusal.About.message {r : Refusal} {k : Bytes} (h : r.About k) : r.message = Utf8.lenient k := by
  rcases h with rfl | rfl <;> rfl

theorem Refusal.About.final {r : Refusal} {k : Bytes} {size : Nat} (h : r.About k) (hk : k.size ≤ size) :
    r.Final size := by
  refine ⟨h.imp (fun he => by rw [he]; rfl) fun he => .inl (by rw [he]; rfl), ?_⟩
  have := Utf8.lenient_le k
  rw [h.message]
  omega

/-- the keys that a query may refuse -/
def Query.subjects : Query → List Bytes
  | get k | assert k _ | assertExists k => [k]
  | multiGet ks => ks
  | keyExists _ | range _ | rangeEntries _ | revRangeEntries _ | keysWithPrefix _ _ => []

theorem Query.size_le_of_subject {q : Query} {k : Bytes} (h : k ∈ q.subjects) : k.size ≤ q.bytes.length := by
  cases q with
  | get k' | assertExists k' =>
    rw [List.mem_singleton.1 h, bytes, length_blob]
    omega
  | assert k' v =>
    rw [List.mem_singleton.1 h, bytes, List.length_append, length_blob]
    omega
  | multiGet ks =>
    have hlen : 4 + (blob k).length ≤ (listing blob ks).length := length_le_listing blob h
    rw [length_blob] at hlen
    rw [bytes]
    omega
  | keyExists | range | rangeEntries | revRangeEntries | keysWithPrefix => cases h

theorem Update.size_key_le (u : Update) : u.key.size ≤ u.bytes.length := by
  cases u <;> simp only [key, bytes, List.length_append, length_blob] <;> omega

namespace Store

variable {s : Store}

theorem value_error {k : Bytes} {r : Refusal} (h : s.value k = .error r) : r = absent k := by
  unfold value at h
  split at h
  · cases h
  · cases h; rfl

theorem checkValue_error {k : Bytes} {v : Option Bytes} {r : Refusal} (h : s.checkValue k v = .error r) :
    r = refuted k := by
  unfold checkValue at h
  split_ifs at h
  cases h; rfl

theorem checkExists_error {k : Bytes} {r : Refusal} (h : s.checkExists k = .error r) : r = refuted k := by
  unfold checkExists at h
  split_ifs at h
  cases h; rfl

/-- values are looked up in turn; the first that is absent is refused -/
theorem mapM_value_error {ks : List Bytes} {r : Refusal} (h : ks.mapM s.value = .error r) : ∃ k ∈ ks, r = absent k := by
  induction ks with
  | nil => cases h
  | cons k ks ih =>
    rw [List.mapM_cons] at h
    cases hk : s.value k with
    | error r' =>
      rw [hk] at h
      cases h
      exact ⟨k, List.mem_cons_self, value_error hk⟩
    | ok v =>
      rw [hk] at h
      cases hks : ks.mapM s.value with
      | error r' =>
        rw [hks] at h
        cases h
        obtain ⟨k', hk', hr⟩ := ih hks
        exact ⟨k', List.mem_cons_of_mem _ hk', hr⟩
      | ok vs => rw [hks] at h; cases h

theorem answer_about {q : Query} {r : Refusal} (h : s.answer q = .error r) : ∃ k ∈ q.subjects, r.About k := by
  cases q with
  | get k => exact ⟨k, List.mem_singleton_self k, .inl (value_error h)⟩
  | multiGet ks =>
    obtain ⟨k, hk, hr⟩ := mapM_value_error h
    exact ⟨k, hk, .inl hr⟩
  | assert k v => exact ⟨k, List.mem_singleton_self k, .inr (checkValue_error h)⟩
  | assertExists k => exact ⟨k, List.mem_singleton_self k, .inr (checkExists_error h)⟩
  | keyExists | range | rangeEntries | revRangeEntries | keysWithPrefix => cases h

theorem answer_error {q : Query} {r : Refusal} (h : s.answer q = .error r) : r.Final q.bytes.length := by
  obtain ⟨k, hk, hr⟩ := answer_about h
  exact hr.final (Query.size_le_of_subject hk)

theorem step_error {u : Update} {r : Refusal} (h : s.step u = .error r) : r.About u.key := by
  cases u with
  | set k v => cases h
  | delete k =>
    simp only [step] at h
    split_ifs at h
    cases h
    exact .inl rfl
  | assert k v =>
    simp only [step] at h
    cases hc : s.checkValue k v with
    | error r' =>
      rw [hc] at h
      cases h
      exact .inr (checkValue_error hc)
    | ok x => rw [hc] at h; cases h
  | assertExists k =>
    simp only [step] at h
    cases hc : s.checkExists k with
    | error r' =>
      rw [hc] at h
      cases h
      exact .inr (checkExists_error hc)
    | ok x => rw [hc] at h; cases h

theorem planFrom_error {done : List Mutation} {us : List Update} {r : Refusal} (h : planFrom done s us = .error r) :
    ∃ u ∈ us, r.About u.key := by
  induction us generalizing done s with
  | nil => cases h
  | cons u us ih =>
    simp only [planFrom] at h
    cases hs : s.step u with
    | error r' =>
      rw [hs] at h
      cases h
      exact ⟨u, List.mem_cons_self, step_error hs⟩
    | ok ms =>
      rw [hs] at h
      obtain ⟨u', hu', hr⟩ := ih h
      exact ⟨u', List.mem_cons_of_mem _ hu', hr⟩

end Store

theorem length_text (t : String) : (blob t.toUTF8).length = 4 + t.utf8ByteSize := length_blob _

namespace Cluster

variable {c c' : Cluster} {id : NodeId} {n : Node}

/-- a master's refusal of a command says nothing about the master -/
theorem evaluate_error {s : Store} {cmd : Command} {r : Refusal} (h : c.evaluate id s cmd = .error r) :
    r.Final cmd.bytes.length := by
  cases cmd with
  | ping clientId clusterId =>
    simp only [evaluate] at h
    split_ifs at h
    cases h
    refine ⟨.inr (.inr (.inl rfl)), ?_⟩
    simp only [Command.bytes, List.length_append, length_text]
    omega
  | delete k =>
    simp only [evaluate] at h
    split_ifs at h
    cases h
    have hk : (Store.absent k).About k := .inl rfl
    exact hk.final (by rw [Command.bytes, length_blob]; omega)
  | sequence us sync =>
    simp only [evaluate] at h
    cases hp : s.plan us with
    | ok ms => rw [hp] at h; cases h
    | error r' =>
      rw [hp] at h
      cases h
      obtain ⟨u, hu, hr⟩ := Store.planFrom_error hp
      have hlen := length_le_listing Update.bytes hu
      have hkey := u.size_key_le
      exact hr.final (by rw [Command.bytes]; omega)
  | userFunction name argument =>
    simp only [evaluate] at h
    split_ifs at h
    cases h
    refine ⟨.inr (.inr (.inr rfl)), ?_⟩
    simp only [Command.bytes, List.length_append, length_text]
    have : (s!"unknown user function {name}").utf8ByteSize = 22 + name.utf8ByteSize := by
      rw [String.utf8ByteSize_append]; rfl
    omega
  | set | confirm | testAndSet | getKeyCount | expectProgressPossible | statistics => cases h

end Cluster

/-! ## Values -/

namespace Store

variable {s : Store}

theorem limited_sublist {α : Type} (limit : Option UInt32) (l : List α) : (limited limit l).Sublist l := by
  cases limit with
  | none => exact .refl l
  | some n => exact List.take_sublist _ _

theorem ascending_sublist (r : KeyRange) : (s.ascending r).Sublist s.entries :=
  (limited_sublist _ _).trans List.filter_sublist

theorem descending_sublist (r : KeyRange) : (s.descending r).Sublist s.entries.reverse :=
  (limited_sublist _ _).trans List.filter_sublist

theorem keysWithPrefix_sublist (p : Bytes) (limit : Option UInt32) : (s.keysWithPrefix p limit).Sublist s.keys :=
  (limited_sublist _ _).trans ((List.takeWhile_sublist _).trans (List.dropWhile_sublist _))

theorem value_ok {k v : Bytes} (h : s.value k = .ok v) : s.get? k = some v := by
  unfold value at h
  split at h
  · rename_i w hw
    cases h; exact hw
  · cases h

/-- the values of keys that are all there -/
theorem mapM_value_ok {ks vs : List Bytes} (h : ks.mapM s.value = .ok vs) : vs.map some = ks.map s.get? := by
  induction ks generalizing vs with
  | nil => cases h; rfl
  | cons k ks ih =>
    rw [List.mapM_cons] at h
    cases hk : s.value k with
    | error r => rw [hk] at h; cases h
    | ok v =>
      rw [hk] at h
      cases hks : ks.mapM s.value with
      | error r => rw [hks] at h; cases h
      | ok vs' =>
        rw [hks] at h
        cases h
        rw [List.map_cons, List.map_cons, ih hks, value_ok hk]

theorem length_mapM_value {ks vs : List Bytes} (h : ks.mapM s.value = .ok vs) : vs.length = ks.length := by
  have := congrArg List.length (mapM_value_ok h)
  rwa [List.length_map, List.length_map] at this

theorem size_lt_count {n : Nat} (h : n + 12 ≤ sizeLimit) : n < countLimit := by
  unfold sizeLimit at h; unfold countLimit; omega

theorem Small.key (h : s.Small) {k : Bytes} (hk : k ∈ s.keys) : k.size < countLimit := by
  obtain ⟨p, hp, rfl⟩ := List.mem_map.1 hk
  have := h p hp
  exact size_lt_count (by omega)

theorem Small.pair (h : s.Small) {p : Bytes × Bytes} (hp : p ∈ s.entries) :
    p.1.size < countLimit ∧ p.2.size < countLimit := by
  have := h p hp
  exact ⟨size_lt_count (by omega), size_lt_count (by omega)⟩

/-- what a small store answers has short items -/
theorem answer_measured (hs : s.Small) {q : Query} {v : q.shape.Value} (h : s.answer q = .ok v) :
    q.shape.Measured v := by
  cases q with
  | keyExists | assert | assertExists => trivial
  | get k => exact size_lt_count (hs.value (value_ok h))
  | multiGet ks =>
    intro b hb
    have hmem : some b ∈ ks.map s.get? := mapM_value_ok h ▸ List.mem_map_of_mem hb
    obtain ⟨k, -, hk⟩ := List.mem_map.1 hmem
    exact size_lt_count (hs.value hk)
  | range r =>
    cases h
    intro b hb
    obtain ⟨p, hp, rfl⟩ := List.mem_map.1 hb
    exact (hs.pair ((ascending_sublist r).subset hp)).1
  | rangeEntries r =>
    cases h
    exact fun p hp => hs.pair ((ascending_sublist r).subset hp)
  | revRangeEntries r =>
    cases h
    exact fun p hp => hs.pair (List.mem_reverse.1 ((descending_sublist r).subset hp))
  | keysWithPrefix p limit =>
    cases h
    exact fun b hb => hs.key ((keysWithPrefix_sublist p limit).subset hb)

/-- a store of fewer than 2^32 entries answers with fewer than 2^32 items -/
theorem answer_counted (hs : s.Small) (hn : s.size < countLimit) {q : Query} (hq : q.bytes.length ≤ sizeLimit)
    {v : q.shape.Value} (h : s.answer q = .ok v) : q.shape.Counted v := by
  have hm := answer_measured hs h
  cases q with
  | keyExists | assert | assertExists => trivial
  | get k => exact hm
  | multiGet ks =>
    refine ⟨?_, hm⟩
    have hlen := length_mapM_value h
    have hks := length_le_flatMap blob_pos ks
    rw [Query.bytes, listing, List.length_append] at hq
    unfold sizeLimit at hq; unfold countLimit; omega
  | range r =>
    cases h
    refine ⟨?_, hm⟩
    rw [List.length_map]
    exact (ascending_sublist r).length_le.trans_lt hn
  | rangeEntries r =>
    cases h
    exact ⟨(ascending_sublist r).length_le.trans_lt hn, hm⟩
  | revRangeEntries r =>
    cases h
    refine ⟨(descending_sublist r).length_le.trans_lt ?_, hm⟩
    rwa [List.length_reverse]
  | keysWithPrefix p limit =>
    cases h
    refine ⟨(keysWithPrefix_sublist p limit).length_le.trans_lt ?_, hm⟩
    rwa [← SortedMap.size_eq]

end Store

/-! ## Answers of nodes -/

/-- ids are shorter than this -/
def nameLimit : Nat := 0x80000000

/-- requests whose answers list what may be many things -/
def Request.Lists : Request → Prop
  | query _ _ | command .statistics => True
  | _ => False

namespace Cluster

variable {c c' : Cluster} {id : NodeId} {n : Node}

theorem post_of_standing (h : c.standings.get? id = some n.standing) :
    c.posts.get? id = some (n.alive, n.belief) := by
  rw [posts, SortedMap.get?_mapValues, h]; rfl

/-- the ids of nodes, and those that nodes believe in, are short -/
def Named (c : Cluster) : Prop :=
  ∀ k p, c.posts.get? k = some p → k.utf8ByteSize < nameLimit ∧ ∀ m, p.2 = some m → m.utf8ByteSize < nameLimit

/-- names are short, and counts fit in 32 bits -/
structure Countable (c : Cluster) : Prop where
  named : c.Named
  stores : ∀ k st, c.standings.get? k = some st → st.store.size < countLimit
  applied : c.tally.applied.size < countLimit
  appliers : ∀ p ∈ c.tally.applied.entries, p.1.utf8ByteSize < countLimit

instance (c : Cluster) : Decidable c.Named :=
  decidable_of_iff (∀ e ∈ c.posts.entries, e.1.utf8ByteSize < nameLimit ∧ ∀ m ∈ e.2.2, m.utf8ByteSize < nameLimit)
    ⟨fun h k p hp => h (k, p) (SortedMap.get?_eq_some_iff.1 hp),
      fun h e he => h e.1 e.2 (SortedMap.get?_eq_some_iff.2 he)⟩

/-- names are short, and there are fewer than 2^32 nodes, with fewer than 2^32 entries each -/
structure Roomy (c : Cluster) : Prop where
  named : c.Named
  nodes : c.nodes.size < countLimit
  stores : ∀ k st, c.standings.get? k = some st → st.store.size < countLimit

instance (c : Cluster) : Decidable c.Roomy :=
  decidable_of_iff (c.Named ∧ c.nodes.size < countLimit ∧ ∀ e ∈ c.standings.entries, e.2.store.size < countLimit)
    ⟨fun ⟨hn, hs, he⟩ => ⟨hn, hs, fun k st hst => he (k, st) (SortedMap.get?_eq_some_iff.1 hst)⟩,
      fun h => ⟨h.named, h.nodes, fun e he => h.stores e.1 e.2 (SortedMap.get?_eq_some_iff.2 he)⟩⟩

/-- what is counted for the nodes of the cluster is no more than the nodes -/
theorem Roomy.countable (h : c.Roomy) (ht : c.Tallied) : c.Countable where
  named := h.named
  stores := h.stores
  applied := by
    have hkeys : ∀ k ∈ c.tally.applied.keys, k ∈ c.nodes.keys := by
      intro k hk
      obtain ⟨p, hp, rfl⟩ := List.mem_map.1 hk
      obtain ⟨st, hst⟩ := ht p hp
      obtain ⟨n, hn, -⟩ := node_of_standing hst
      exact SortedMap.mem_keys_iff.2 ⟨n, hn⟩
    calc c.tally.applied.size
      _ ≤ c.nodes.keys.length := SortedMap.size_le_of_keys hkeys
      _ = c.nodes.size := (SortedMap.size_eq c.nodes).symm
      _ < countLimit := h.nodes
  appliers p hp := by
    obtain ⟨st, hst⟩ := ht p hp
    obtain ⟨n, -, rfl⟩ := node_of_standing hst
    exact (h.named p.1 _ (post_of_standing hst)).1.trans (by decide)

theorem Steady.named (h : Steady c c') (hn : c.Named) : c'.Named := by
  rwa [Named, h.posts]

theorem Quiet.countable (h : Quiet c c') (hc : c.Countable) : c'.Countable :=
  ⟨h.steady.named hc.named, by rw [h.standings]; exact hc.stores, by rw [h.applied]; exact hc.applied,
    by rw [h.applied]; exact hc.appliers⟩

theorem Named.name (h : c.Named) (hn : c.standings.get? id = some n.standing) : id.utf8ByteSize < nameLimit :=
  (h id _ (post_of_standing hn)).1

theorem Named.belief (h : c.Named) (hn : c.standings.get? id = some n.standing) {m : NodeId} (hb : n.belief = some m) :
    m.utf8ByteSize < nameLimit :=
  (h id _ (post_of_standing hn)).2 m hb

theorem Small.store (h : c.Small) (hn : c.standings.get? id = some n.standing) : n.store.Small := h id _ hn

theorem notMaster_message (h : c.Named) (hn : c.standings.get? id = some n.standing) :
    (notMaster n).message.utf8ByteSize < nameLimit := by
  unfold notMaster
  cases hb : n.belief with
  | none => simp only [Option.getD_none]; decide
  | some m => exact h.belief hn hb

/-- a refusal has a status of its own -/
theorem respond_sound (c : Cluster) (id : NodeId) (n : Node) (r : Request) : Reply.Sound (c.respond id n r).1 := by
  intro f h
  cases r with
  | whoMaster | version => cases h
  | query q dirty =>
    simp only [respond] at h
    split_ifs at h
    · exact (Store.answer_error h).ne_success
    · cases h; exact Status.noConfusion
  | command cmd =>
    by_cases hb : n.belief = some id
    · rw [respond_master c id n cmd hb] at h
      cases he : (c.tallied cmd).evaluate id n.store cmd with
      | ok x => rw [execute_ok he] at h; cases h
      | error f' => rw [execute_error he] at h; cases h; exact (evaluate_error he).ne_success
    · have hr : c.respond id n (.command cmd) = (.error (notMaster n), c) := if_neg hb
      rw [hr] at h
      cases h; exact Status.noConfusion

/-- what a master answers to a command has short items, and few -/
theorem evaluate_counted {cmd : Command} {ms : List Mutation} {v : cmd.shape.Value}
    (hn : c.standings.get? id = some n.standing) (hnamed : c.Named) (hs : c.Small)
    (hf : (Request.command cmd).body.size ≤ sizeLimit)
    (hl : (Request.command cmd).Lists → c.Countable) (h : c.evaluate id n.store cmd = .ok (ms, v)) :
    cmd.shape.Counted v := by
  rw [Request.size_body] at hf
  have hid := hnamed.name hn
  cases cmd with
  | ping clientId clusterId =>
    simp only [evaluate] at h
    split_ifs at h
    cases h
    simp only [Request.argumentBytes, Command.bytes, List.length_append, length_text] at hf
    simp only [Command.shape, Shape.Counted, String.utf8ByteSize_append]
    have h₁ : (toString "chr sim node ").utf8ByteSize = 13 := rfl
    have h₂ : (toString " greets ").utf8ByteSize = 8 := rfl
    have h₃ : (toString " (version 1.0.0)").utf8ByteSize = 16 := rfl
    have h₄ : (toString id).utf8ByteSize = id.utf8ByteSize := rfl
    have h₅ : (toString clientId).utf8ByteSize = clientId.utf8ByteSize := rfl
    unfold sizeLimit at hf; unfold nameLimit at hid; unfold countLimit
    omega
  | testAndSet k expected wanted =>
    simp only [evaluate] at h
    cases h
    exact fun b hb => Store.size_lt_count ((hs.store hn).value hb)
  | userFunction name argument =>
    simp only [evaluate] at h
    split_ifs at h
    cases h
    intro b hb
    cases hb
    simp only [Request.argumentBytes, Command.bytes, List.length_append, length_optional_some] at hf
    unfold sizeLimit at hf; unfold countLimit
    omega
  | statistics =>
    cases h
    have hc := hl trivial
    refine ⟨?_, ?_⟩
    · rw [Tally.statistics, SortedMap.size, SortedMap.mapValues, List.length_map]
      exact hc.applied
    · intro p hp
      obtain ⟨q, hq, rfl⟩ := List.mem_map.1 hp
      exact hc.appliers q hq
  | set | confirm | delete | sequence | getKeyCount | expectProgressPossible => trivial

/-- the message of a refusal is short -/
theorem respond_refusal (hn : c.standings.get? id = some n.standing) (hnamed : c.Named) {r : Request}
    (hf : r.body.size ≤ sizeLimit) {f : Refusal} (h : (c.respond id n r).1 = .error f) :
    f.message.utf8ByteSize < countLimit := by
  have hfinal : ∀ size, size ≤ sizeLimit → f.Final size → f.message.utf8ByteSize < countLimit := by
    intro size hs hF
    have := hF.message
    unfold sizeLimit at hs; unfold countLimit
    omega
  have hmaster : (notMaster n).message.utf8ByteSize < countLimit :=
    (notMaster_message hnamed hn).trans (by decide)
  rw [Request.size_body] at hf
  cases r with
  | whoMaster | version => cases h
  | query q dirty =>
    simp only [Request.argumentBytes, List.length_append] at hf
    simp only [respond] at h
    split_ifs at h
    · exact hfinal _ (by omega) (Store.answer_error h)
    · cases h; exact hmaster
  | command cmd =>
    simp only [Request.argumentBytes] at hf
    by_cases hb : n.belief = some id
    · rw [respond_master c id n cmd hb] at h
      cases he : (c.tallied cmd).evaluate id n.store cmd with
      | ok x => rw [execute_ok he] at h; cases h
      | error f' =>
        rw [execute_error he] at h
        cases h
        exact hfinal _ (by omega) (evaluate_error he)
    · have hr : c.respond id n (.command cmd) = (.error (notMaster n), c) := if_neg hb
      rw [hr] at h
      cases h; exact hmaster

/-- every answer of a countable cluster can be read back; where the request lists nothing, the cluster need not be
countable -/
theorem respond_counted (hn : c.standings.get? id = some n.standing) (hnamed : c.Named) (hs : c.Small) {r : Request}
    (hf : r.body.size ≤ sizeLimit) (hl : r.Lists → c.Countable) : Reply.Counted r.shape (c.respond id n r).1 := by
  cases ho : (c.respond id n r).1 with
  | error f => exact respond_refusal hn hnamed hf ho
  | ok v =>
    cases r with
    | whoMaster =>
      cases ho
      exact fun t ht => (hnamed.belief hn ht).trans (by decide)
    | version =>
      cases ho
      have hid := hnamed.name hn
      have : (s!"sim node {id}").utf8ByteSize = 9 + id.utf8ByteSize := by
        rw [String.utf8ByteSize_append]; rfl
      show (s!"sim node {id}").utf8ByteSize < countLimit
      unfold nameLimit at hid; unfold countLimit
      omega
    | query q dirty =>
      rw [Request.size_body] at hf
      simp only [Request.argumentBytes, List.length_append] at hf
      simp only [respond] at ho
      split_ifs at ho
      exact Store.answer_counted (hs.store hn) ((hl trivial).stores id _ hn) (by omega) ho
    | command cmd =>
      by_cases hb : n.belief = some id
      · rw [respond_master c id n cmd hb] at ho
        cases he : (c.tallied cmd).evaluate id n.store cmd with
        | error f => rw [execute_error he] at ho; cases ho
        | ok x =>
          obtain ⟨ms, u⟩ := x
          rw [execute_ok he] at ho
          cases ho
          have hq := quiet_tallied c cmd
          exact evaluate_counted (c := c.tallied cmd) hn (hq.steady.named hnamed) (hq.steady.small hs) hf
            (fun h => hq.countable (hl h)) he
      · have hr : c.respond id n (.command cmd) = (.error (notMaster n), c) := if_neg hb
        rw [hr] at ho
        cases ho

/-- every answer has short items, however many there are -/
theorem respond_measured (hn : c.standings.get? id = some n.standing) (hnamed : c.Named) (hs : c.Small) {r : Request}
    (hf : r.body.size ≤ sizeLimit) (hr : r ≠ .command .statistics) : Reply.Measured r.shape (c.respond id n r).1 := by
  by_cases hq : ∃ q dirty, r = .query q dirty
  · obtain ⟨q, dirty, rfl⟩ := hq
    cases ho : (c.respond id n (.query q dirty)).1 with
    | error f => exact respond_refusal hn hnamed hf ho
    | ok v =>
      simp only [respond] at ho
      split_ifs at ho
      exact Store.answer_measured (hs.store hn) ho
  · refine Reply.Counted.measured (respond_counted hn hnamed hs hf ?_)
    intro hl
    cases r with
    | query q dirty => exact absurd ⟨q, dirty, rfl⟩ hq
    | command cmd =>
      cases cmd with
      | statistics => exact absurd rfl hr
      | _ => cases hl
    | whoMaster | version => cases hl

end Cluster

end ReplicaKV
