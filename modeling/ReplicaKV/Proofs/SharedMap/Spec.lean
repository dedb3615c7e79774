/-
The map that clients share, as they see it: no nodes, no frames, no retries. Its keys are ordered as lists of bytes.

- `Shared.read`: what the map answers to every query. `Shared.perform`: what it answers to a call, and the map after it.
- `Shared.step`: the operations of a simulation, of which only valid calls of clients that are there change the map.
- `Answer.Fits`: the reply with this value is not too large.
- `read_eq`: a store answers every query as the map does. Keys with a prefix stand together (`between_prefix`), so that
  skipping to the first one and stopping after the last one finds them all.
- `planFrom_updates`: the mutations of a sequence lead where its updates lead one after the other.
-/
import ReplicaKV.Proofs.Network.Failures
import ReplicaKV.Proofs.Simulation
import ReplicaKV.Proofs.Updates

namespace ReplicaKV

/-- an ordered map, and which clients are there -/
structure Shared where
  map : Store
  present : List Bool

namespace Shared

/-! ## What the map answers -/

def absent (k : Bytes) : Failure := .notFound (Utf8.lenient k)

def refuted (k : Bytes) : Failure := .assertionFailed (Utf8.lenient k)

/-- is a before b, or at b where that counts? -/
def precedes (inclusive : Bool) (a b : Bytes) : Bool :=
  if inclusive then (compare a.list b.list).isLE else (compare a.list b.list).isLT

/-- does k stand between two bounds, each inclusive or not? -/
def between (low : Option Bytes) (lowInclusive : Bool) (high : Option Bytes) (highInclusive : Bool) (k : Bytes) :
    Bool :=
  low.all (fun b => precedes lowInclusive b k) && high.all (fun b => precedes highInclusive k b)

def atMost {α : Type} (limit : Option UInt32) (l : List α) : List α := limit.elim l fun n => l.take n.toNat

/-- the answer to a query -/
def read (m : Store) : Query → Answer
  | .keyExists k => .value .flag (m.contains k)
  | .get k =>
    match m.get? k with
    | some v => .value .bytes v
    | none => .failure (absent k)
  | .multiGet ks =>
    match ks.find? fun k => !m.contains k with
    | some k => .failure (absent k)
    | none => .value .bytesList (ks.filterMap m.get?)
  | .assert k v => if m.get? k = v then .value .unit () else .failure (refuted k)
  | .assertExists k => if m.contains k then .value .unit () else .failure (refuted k)
  | .range r =>
    let found := m.keys.filter (between r.first r.firstInclusive r.last r.lastInclusive)
    .value .bytesList (atMost r.limit found)
  | .rangeEntries r =>
    let found := m.entries.filter fun p => between r.first r.firstInclusive r.last r.lastInclusive p.1
    .value .pairs (atMost r.limit found)
  | .revRangeEntries r =>
    let found := m.entries.filter fun p => between r.last r.lastInclusive r.first r.firstInclusive p.1
    .value .pairs (atMost r.limit found.reverse)
  | .keysWithPrefix p limit => .value .bytesList (atMost limit (m.keys.filter fun k => p.list.isPrefixOf k.list))

/-- one update of a sequence -/
def update (m : Store) : Update → Except Failure Store
  | .set k v => .ok (m.insert k v)
  | .delete k => if m.contains k then .ok (m.erase k) else .error (absent k)
  | .assert k v => if m.get? k = v then .ok m else .error (refuted k)
  | .assertExists k => if m.contains k then .ok m else .error (refuted k)

/-- bind a key, or drop it -/
def put (m : Store) (k : Bytes) : Option Bytes → Store
  | some v => m.insert k v
  | none => m.erase k

/-- the answer to a call that is about the map, and the map after it -/
def perform (m : Store) : Call → Option (Answer × Store)
  | .query q => some (read m q, m)
  | .getKeyCount => some (.value .count (.ofNat m.size), m)
  | .set k v | .confirm k v => some (.value .unit (), m.insert k v)
  | .delete k => some (if m.contains k then (.value .unit (), m.erase k) else (.failure (absent k), m))
  | .testAndSet k expected wanted =>
    some (.value .optBytes (m.get? k), if m.get? k = expected then put m k wanted else m)
  | .sequence us _ =>
    match us.foldlM update m with
    | .ok m' => some (.value .unit (), m')
    | .error f => some (.failure f, m)
  | _ => none

end Shared

/-- the reply with this value is not too large -/
def Answer.Fits : Answer → Prop
  | value shape v => (Reply.body shape (.ok v)).size ≤ Frame.sizeLimit
  | _ => True

/-- the request of a call that is about the map -/
def Call.request? : Call → Option Request
  | query q => some (.query q false)
  | getKeyCount => some (.command .getKeyCount)
  | c => c.write?.map .command

/-- the call is about the map, its arguments are allowed, and its frame is not too large -/
def Call.valid (c : Call) : Bool :=
  match c.request? with
  | some r => r.misuse.isNone && decide (r.encode.size ≤ Frame.sizeLimit)
  | none => false

namespace Shared

/-- a new map, for n clients -/
def initial (n : Nat) : Shared := ⟨.empty, .replicate n true⟩

/-- the map after a call, which is made only if it is valid -/
def after (m : Store) (c : Call) : Store := if c.valid then ((perform m c).map Prod.snd).getD m else m

/-- only calls of clients that are there change the map -/
def step (s : Shared) : Op → Shared
  | .call i c => if s.present[i]? = some true then { s with map := after s.map c } else s
  | .dropClient i => { s with present := s.present.set i false }
  | _ => s

def run (s : Shared) (ops : List Op) : Shared := ops.foldl step s

theorem run_concat (s : Shared) (ops : List Op) (op : Op) : s.run (ops ++ [op]) = (s.run ops).step op := by
  rw [run, List.foldl_append]
  rfl

end Shared

/-! ## Keys with a prefix stand together -/

/-- what is before p does not begin with it -/
theorem not_prefix_of_lt {p k : List UInt8} (h : compare k p = .lt) : ¬p <+: k := by
  induction p generalizing k with
  | nil =>
    cases k with
    | nil => cases h
    | cons b k => rw [List.compare_cons_nil] at h; cases h
  | cons a p ih =>
    cases k with
    | nil => exact fun hp => nomatch List.prefix_nil.1 hp
    | cons b k =>
      rw [List.cons_prefix_cons]
      rintro ⟨rfl, hp⟩
      rw [List.compare_cons_cons, Std.compare_self] at h
      exact ih h hp

/-- what stands between p and something that begins with p begins with p -/
theorem between_prefix {p k k' : List UInt8} (hk : compare k p ≠ .lt) (hlt : compare k k' = .lt) (hp : p <+: k') :
    p <+: k := by
  induction p generalizing k k' with
  | nil => exact List.nil_prefix
  | cons a p ih =>
    cases k with
    | nil => exact absurd (List.compare_nil_cons ..) hk
    | cons b k =>
      cases k' with
      | nil => rw [List.compare_cons_nil] at hlt; cases hlt
      | cons a' k' =>
        obtain ⟨rfl, hp'⟩ := List.cons_prefix_cons.1 hp
        rw [List.compare_cons_cons] at hk hlt
        -- b is neither before a nor after it
        have hab : compare b a = .eq := by
          cases hc : compare b a with
          | eq => rfl
          | lt => rw [hc] at hk; exact absurd rfl hk
          | gt => rw [hc] at hlt; cases hlt
        rw [hab] at hk hlt
        obtain rfl : b = a := Std.LawfulEqCmp.eq_of_compare hab
        exact List.cons_prefix_cons.2 ⟨rfl, ih hk hlt hp'⟩

theorem Bytes.startsWith_eq (k p : Bytes) : startsWith k p = p.list.isPrefixOf k.list := by
  have hp : p.list.length = p.size := Array.length_toList
  have hk : k.list.length = k.size := Array.length_toList
  have htake : list (k.extract 0 p.size) = k.list.take p.list.length := by
    rw [list, ByteArray.data_extract, Array.toList_extract, List.extract_eq_take_drop, hp, Nat.sub_zero, List.drop_zero]
  rw [Bool.eq_iff_iff, List.isPrefixOf_iff_prefix, List.prefix_iff_eq_take, startsWith, Bool.and_eq_true,
    decide_eq_true_eq, decide_eq_true_eq]
  constructor
  · rintro ⟨-, he⟩
    rw [← htake, he]
  · intro he
    refine ⟨?_, list_injective (by rw [htake, ← he])⟩
    have hlen := congrArg List.length he
    rw [List.length_take] at hlen
    omega

section

variable {p : Bytes}

/-- among ascending keys that are not before p, those that begin with p come first -/
theorem takeWhile_prefix {l : List Bytes} (hl : l.Pairwise fun k k' => compare k k' = .lt)
    (hp : ∀ k ∈ l, compare k p ≠ .lt) :
    l.takeWhile (fun k => Bytes.startsWith k p) = l.filter fun k => p.list.isPrefixOf k.list := by
  induction l with
  | nil => rfl
  | cons k l ih =>
    obtain ⟨hk, hl⟩ := List.pairwise_cons.1 hl
    rw [List.takeWhile_cons, List.filter_cons, Bytes.startsWith_eq]
    split_ifs with hpre
    · rw [ih hl fun k' hk' => hp k' (List.mem_cons_of_mem _ hk')]
    · -- nothing after k begins with p, or k would
      refine (List.filter_eq_nil_iff.2 fun k' hk' hpre' => hpre ?_).symm
      rw [List.isPrefixOf_iff_prefix] at hpre' ⊢
      have hge := hp k List.mem_cons_self
      have hlt := hk k' hk'
      rw [Bytes.compare_eq_compare_list] at hge hlt
      exact between_prefix hge hlt hpre'

/-- skipping what is before p and stopping at the first key that does not begin with p finds all that do -/
theorem dropWhile_takeWhile_prefix {l : List Bytes} (hl : l.Pairwise fun k k' => compare k k' = .lt) :
    (l.dropWhile fun k => compare k p = .lt).takeWhile (fun k => Bytes.startsWith k p) =
      l.filter fun k => p.list.isPrefixOf k.list := by
  induction l with
  | nil => rfl
  | cons k l ih =>
    obtain ⟨hk, hl'⟩ := List.pairwise_cons.1 hl
    by_cases hlt : compare k p = .lt
    · have hpre : ¬p.list.isPrefixOf k.list := by
        rw [List.isPrefixOf_iff_prefix]
        rw [Bytes.compare_eq_compare_list] at hlt
        exact not_prefix_of_lt hlt
      rw [List.dropWhile_cons_of_pos (by simpa using hlt), ih hl', List.filter_cons, if_neg hpre]
    · rw [List.dropWhile_cons_of_neg (by simpa using hlt)]
      refine takeWhile_prefix hl ?_
      intro k' hk'
      rcases List.mem_cons.1 hk' with rfl | hk'
      · exact hlt
      · -- p is not after k, and k is before k'
        intro hlt'
        exact hlt (Std.TransCmp.lt_trans (hk k' hk') hlt')

end

/-! ## A store answers as the map does -/

namespace Store

variable (s : Store)

theorem above_eq (b : Option Bytes) (inclusive : Bool) (k : Bytes) :
    above b inclusive k = b.all fun b => Shared.precedes inclusive b k := by
  cases b with
  | none => rfl
  | some b =>
    simp only [above, Option.all_some, Shared.precedes, Bytes.compare_eq_compare_list]
    cases compare b.list k.list <;> cases inclusive <;> rfl

theorem below_eq (b : Option Bytes) (inclusive : Bool) (k : Bytes) :
    below b inclusive k = b.all fun b => Shared.precedes inclusive k b := by
  cases b with
  | none => rfl
  | some b =>
    simp only [below, Option.all_some, Shared.precedes, Bytes.compare_eq_compare_list]
    cases compare k.list b.list <;> cases inclusive <;> rfl

theorem limited_eq {α : Type} (limit : Option UInt32) (l : List α) : limited limit l = Shared.atMost limit l := by
  cases limit <;> rfl

theorem map_atMost {α β : Type} (f : α → β) (limit : Option UInt32) (l : List α) :
    (Shared.atMost limit l).map f = Shared.atMost limit (l.map f) := by
  cases limit with
  | none => rfl
  | some n => exact List.map_take

theorem ascending_eq (r : KeyRange) : s.ascending r = Shared.atMost r.limit
    (s.entries.filter fun p => Shared.between r.first r.firstInclusive r.last r.lastInclusive p.1) := by
  simp only [ascending, limited_eq, above_eq, below_eq, Shared.between]

theorem descending_eq (r : KeyRange) : s.descending r = Shared.atMost r.limit
    (s.entries.filter fun p => Shared.between r.last r.lastInclusive r.first r.firstInclusive p.1).reverse := by
  simp only [descending, limited_eq, above_eq, below_eq, Shared.between, List.filter_reverse, Bool.and_comm]

theorem keysWithPrefix_eq (p : Bytes) (limit : Option UInt32) : s.keysWithPrefix p limit =
    Shared.atMost limit (s.keys.filter fun k => p.list.isPrefixOf k.list) := by
  rw [keysWithPrefix, limited_eq, dropWhile_takeWhile_prefix]
  exact List.pairwise_map.2 s.sorted

theorem mapM_value (ks : List Bytes) : ks.mapM s.value =
    match ks.find? fun k => !s.contains k with
    | some k => .error (absent k)
    | none => .ok (ks.filterMap s.get?) := by
  induction ks with
  | nil => rfl
  | cons k ks ih =>
    rw [List.mapM_cons, ih, value]
    cases hk : s.get? k with
    | none =>
      have hc : s.contains k = false := by rw [SortedMap.contains, hk]; rfl
      simp only [List.find?_cons, hc, Bool.not_false]
      rfl
    | some v =>
      have hc : s.contains k = true := by rw [SortedMap.contains, hk]; rfl
      simp only [List.find?_cons, hc, Bool.not_true, List.filterMap_cons, hk]
      cases ks.find? fun k => !s.contains k <;> rfl

/-- a store answers every query as the map does -/
theorem read_eq (q : Query) : Answer.ofOutcome (some ((s.answer q).mapError .ofRefusal)) = Shared.read s q := by
  cases q with
  | keyExists k => rfl
  | get k =>
    simp only [answer, value, Shared.read]
    cases s.get? k <;> rfl
  | multiGet ks =>
    simp only [answer, mapM_value, Shared.read]
    cases ks.find? fun k => !s.contains k <;> rfl
  | assert k v =>
    simp only [answer, checkValue, Shared.read]
    split_ifs <;> rfl
  | assertExists k =>
    simp only [answer, checkExists, Shared.read]
    split_ifs <;> rfl
  | range r =>
    simp only [answer, ascending_eq, Shared.read, SortedMap.keys, List.filter_map, ← map_atMost]
    rfl
  | rangeEntries r =>
    simp only [answer, ascending_eq, Shared.read]
    rfl
  | revRangeEntries r =>
    simp only [answer, descending_eq, Shared.read]
    rfl
  | keysWithPrefix p limit =>
    simp only [answer, keysWithPrefix_eq, Shared.read]
    rfl

/-! ## Sequences -/

/-- an update of the map is an update of a store, with the refusal as a failure -/
theorem update_eq (u : Update) :
    Shared.update s u = match u.run? s with
      | some s' => .ok s'
      | none => .error (.ofRefusal u.refusal) := by
  cases u with
  | set k v => rfl
  | delete k | assert k v | assertExists k =>
    simp only [Shared.update, Update.run?]
    split_ifs <;> rfl

theorem foldlM_update {s' : Store} {us : List Update} (h : us.foldlM Update.run? s = some s') :
    us.foldlM Shared.update s = .ok s' := by
  induction us generalizing s with
  | nil =>
    cases h
    rfl
  | cons u us ih =>
    rw [List.foldlM_cons] at h ⊢
    obtain ⟨s₁, hu, hus⟩ := Option.bind_eq_some_iff.1 h
    rw [update_eq, hu]
    exact ih s₁ hus

/-- the mutations of a sequence lead where its updates lead one after the other, or the first refusal is the same -/
theorem planFrom_updates (done : List Mutation) (us : List Update) :
    match us.foldlM Shared.update s with
    | .ok s' => ∃ ms, planFrom done s us = .ok (done.reverse ++ ms) ∧ s.applyAll ms = s'
    | .error f => ∃ r, planFrom done s us = .error r ∧ Failure.ofRefusal r = f := by
  have hplan := planFrom_run s done us
  cases hm : us.foldlM Update.run? s with
  | some s' =>
    rw [hm] at hplan
    obtain ⟨ms, hp, happly, -⟩ := hplan
    rw [foldlM_update s hm]
    exact ⟨ms, hp, happly⟩
  | none =>
    rw [hm] at hplan
    obtain ⟨before, u, after, s', hus, hbefore, hu, hr⟩ := hplan
    have hfails : us.foldlM Shared.update s = .error (.ofRefusal u.refusal) := by
      rw [hus, List.foldlM_append, foldlM_update s hbefore]
      show (u :: after).foldlM Shared.update s' = _
      rw [List.foldlM_cons, update_eq, hu]
      rfl
    rw [hfails]
    exact ⟨u.refusal, hr, rfl⟩

end Store

end ReplicaKV
