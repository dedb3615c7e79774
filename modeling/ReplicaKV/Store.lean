/-
The contents of one node, and what can be asked of and done to them.

- `Store.ascending`, `Store.descending`, `Store.keysWithPrefix`: range reads over the entries in key order.
- `Store.answer`: the answer to every query.
- `Store.plan`: the mutations of a sequence of updates, or the refusal of the first one that fails. Each update sees
  the effects of those before it.
-/
import ReplicaKV.Reply

namespace ReplicaKV

abbrev Store := SortedMap Bytes Bytes

/-- a change to one key -/
inductive Mutation where
  | put (key value : Bytes)
  | remove (key : Bytes)
deriving DecidableEq

namespace Store

def apply (s : Store) : Mutation → Store
  | .put k v => s.insert k v
  | .remove k => s.erase k

def applyAll (s : Store) (ms : List Mutation) : Store := ms.foldl apply s

/-- the key is not there -/
def absent (k : Bytes) : Refusal := ⟨.notFound, Utf8.lenient k⟩

/-- an assertion about the key does not hold -/
def refuted (k : Bytes) : Refusal := ⟨.assertionFailed, Utf8.lenient k⟩

def value (s : Store) (k : Bytes) : Except Refusal Bytes :=
  match s.get? k with
  | some v => .ok v
  | none => .error (absent k)

/-- the key has exactly this value, or none -/
def checkValue (s : Store) (k : Bytes) (v : Option Bytes) : Except Refusal Unit :=
  if s.get? k = v then .ok () else .error (refuted k)

def checkExists (s : Store) (k : Bytes) : Except Refusal Unit :=
  if s.contains k then .ok () else .error (refuted k)

/-! ## Range reads -/

/-- is k on the upper side of the bound, if there is one? -/
def above (bound : Option Bytes) (inclusive : Bool) (k : Bytes) : Bool :=
  match bound with
  | none => true
  | some b =>
    match compare b k with
    | .lt => true
    | .eq => inclusive
    | .gt => false

/-- is k on the lower side of the bound, if there is one? -/
def below (bound : Option Bytes) (inclusive : Bool) (k : Bytes) : Bool :=
  match bound with
  | none => true
  | some b =>
    match compare k b with
    | .lt => true
    | .eq => inclusive
    | .gt => false

/-- the first elements of a list, as many as the limit allows -/
def limited {α : Type} (limit : Option UInt32) (l : List α) : List α :=
  match limit with
  | none => l
  | some n => l.take n.toNat

def ascending (s : Store) (r : KeyRange) : List (Bytes × Bytes) :=
  limited r.limit (s.entries.filter fun p => above r.first r.firstInclusive p.1 && below r.last r.lastInclusive p.1)

def descending (s : Store) (r : KeyRange) : List (Bytes × Bytes) :=
  limited r.limit
    (s.entries.reverse.filter fun p => below r.first r.firstInclusive p.1 && above r.last r.lastInclusive p.1)

/-- the keys that begin with p. They stand together, from the first key not below p on. -/
def keysWithPrefix (s : Store) (p : Bytes) (limit : Option UInt32) : List Bytes :=
  limited limit ((s.keys.dropWhile fun k => compare k p = .lt).takeWhile fun k => Bytes.startsWith k p)

/-- the answer to a query -/
def answer (s : Store) : (q : Query) → Except Refusal q.shape.Value
  | .keyExists k => .ok (s.contains k)
  | .get k => s.value k
  | .multiGet ks => ks.mapM s.value
  | .assert k v => s.checkValue k v
  | .assertExists k => s.checkExists k
  | .range r => .ok ((s.ascending r).map Prod.fst)
  | .rangeEntries r => .ok (s.ascending r)
  | .revRangeEntries r => .ok (s.descending r)
  | .keysWithPrefix p limit => .ok (s.keysWithPrefix p limit)

/-! ## Sequences -/

/-- the mutations of one update -/
def step (s : Store) : Update → Except Refusal (List Mutation)
  | .set k v => .ok [.put k v]
  | .delete k => if s.contains k then .ok [.remove k] else .error (absent k)
  | .assert k v => (s.checkValue k v).map fun _ => []
  | .assertExists k => (s.checkExists k).map fun _ => []

/-- the mutations of the updates, after those in done (last first), which led to s -/
def planFrom (done : List Mutation) (s : Store) : List Update → Except Refusal (List Mutation)
  | [] => .ok done.reverse
  | u :: us =>
    match s.step u with
    | .error r => .error r
    | .ok ms => planFrom (ms.reverse ++ done) (s.applyAll ms) us

/-- the mutations of a sequence of updates: all of them, or the refusal of the first update that fails -/
def plan (s : Store) (us : List Update) : Except Refusal (List Mutation) := planFrom [] s us

end Store

end ReplicaKV
