/-
Finite maps kept as lists of pairs in strictly increasing key order. The order is part of the type, so two maps with
the same bindings are the same value, and the list of entries is already the ascending enumeration that range reads
and sorted listings need.

- `insert` replaces the value of a key that is present; `erase` drops it; `adjust` changes it in place.
- `get?_insert`, `get?_erase`: what one write does to every lookup.
-/

namespace ReplicaKV

/-- pairs in strictly increasing key order -/
structure SortedMap (κ : Type) (υ : Type) [Ord κ] where
  entries : List (κ × υ)
  sorted : entries.Pairwise fun p q => compare p.1 q.1 = .lt

namespace SortedMap

variable {κ υ : Type} [Ord κ]

def empty : SortedMap κ υ := ⟨[], List.Pairwise.nil⟩

instance : Inhabited (SortedMap κ υ) := ⟨empty⟩

instance [DecidableEq κ] [DecidableEq υ] : DecidableEq (SortedMap κ υ) := fun a b =>
  if h : a.entries = b.entries then
    .isTrue (by cases a; cases b; cases h; rfl)
  else .isFalse fun e => h (by rw [e])

def keys (m : SortedMap κ υ) : List κ := m.entries.map Prod.fst

def size (m : SortedMap κ υ) : Nat := m.entries.length

def isEmpty (m : SortedMap κ υ) : Bool := m.entries.isEmpty

/-- the value bound to k in a list of pairs -/
def find (k : κ) : List (κ × υ) → Option υ
  | [] => none
  | p :: r => if compare k p.1 = .eq then some p.2 else find k r

def get? (m : SortedMap κ υ) (k : κ) : Option υ := find k m.entries

def contains (m : SortedMap κ υ) (k : κ) : Bool := (m.get? k).isSome

/-- put (k, v) at its place in a list in increasing key order, over an older binding of k -/
def place (k : κ) (v : υ) : List (κ × υ) → List (κ × υ)
  | [] => [(k, v)]
  | p :: r =>
    match compare k p.1 with
    | .lt => (k, v) :: p :: r
    | .eq => (k, v) :: r
    | .gt => p :: place k v r

theorem mem_place {k : κ} {v : υ} {l : List (κ × υ)} {q : κ × υ} (h : q ∈ place k v l) : q = (k, v) ∨ q ∈ l := by
  induction l with
  | nil => simpa [place] using h
  | cons p r ih =>
    simp only [place] at h
    split at h
    · simpa using h
    · rcases List.mem_cons.1 h with h | h
      · exact Or.inl h
      · exact Or.inr (List.mem_cons_of_mem _ h)
    · rcases List.mem_cons.1 h with h | h
      · exact Or.inr (h ▸ List.mem_cons_self)
      · exact (ih h).imp id (List.mem_cons_of_mem _)

theorem place_sorted [Std.TransOrd κ] [Std.LawfulEqOrd κ] (k : κ) (v : υ) {l : List (κ × υ)}
    (h : l.Pairwise fun p q => compare p.1 q.1 = .lt) :
    (place k v l).Pairwise fun p q => compare p.1 q.1 = .lt := by
  induction l with
  | nil => simp [place]
  | cons p r ih =>
    have hp : ∀ q ∈ r, compare p.1 q.1 = .lt := fun _ hq => List.rel_of_pairwise_cons h hq
    simp only [place]
    split
    · rename_i hlt
      refine List.Pairwise.cons (fun q hq => ?_) h
      rcases List.mem_cons.1 hq with rfl | hq
      · exact hlt
      · exact Std.TransCmp.lt_trans hlt (hp q hq)
    · rename_i heq
      have hk : k = p.1 := Std.LawfulEqCmp.eq_of_compare heq
      exact List.Pairwise.cons (fun q hq => hk ▸ hp q hq) (List.Pairwise.of_cons h)
    · rename_i hgt
      refine List.Pairwise.cons (fun q hq => ?_) (ih (List.Pairwise.of_cons h))
      rcases mem_place hq with rfl | hq
      · exact Std.OrientedCmp.lt_of_gt hgt
      · exact hp q hq

/-- bind k to v, replacing what was bound to k -/
def insert [Std.TransOrd κ] [Std.LawfulEqOrd κ] (m : SortedMap κ υ) (k : κ) (v : υ) : SortedMap κ υ :=
  ⟨place k v m.entries, place_sorted k v m.sorted⟩

/-- drop the binding of k, if there is one -/
def erase (m : SortedMap κ υ) (k : κ) : SortedMap κ υ :=
  ⟨m.entries.filter fun p => compare k p.1 ≠ .eq, m.sorted.filter _⟩

/-- change every value, given its key -/
def mapValues {υ' : Type} (m : SortedMap κ υ) (f : κ → υ → υ') : SortedMap κ υ' :=
  ⟨m.entries.map fun p => (p.1, f p.1 p.2), List.pairwise_map.2 m.sorted⟩

/-- change the value of k, if k is bound -/
def adjust (m : SortedMap κ υ) (k : κ) (f : υ → υ) : SortedMap κ υ :=
  m.mapValues fun k' v => if compare k k' = .eq then f v else v

/-- bind every pair of a list in turn; a later pair for a key replaces an earlier one -/
def ofList [Std.TransOrd κ] [Std.LawfulEqOrd κ] (l : List (κ × υ)) : SortedMap κ υ :=
  l.foldl (fun m p => m.insert p.1 p.2) empty

/-! ## Lookups after a write -/

theorem find_place [Std.TransOrd κ] [Std.LawfulEqOrd κ] (k a : κ) (v : υ) (l : List (κ × υ)) :
    find a (place k v l) = if compare a k = .eq then some v else find a l := by
  induction l with
  | nil => rfl
  | cons p r ih =>
    by_cases hak : a = k
    · subst hak
      simp only [place]
      split <;> simp_all [find]
    · have hne : ¬compare a k = .eq := fun e => hak (Std.LawfulEqCmp.eq_of_compare e)
      simp only [place, if_neg hne]
      split <;> simp_all [find]

theorem get?_insert [Std.TransOrd κ] [Std.LawfulEqOrd κ] (m : SortedMap κ υ) (k a : κ) (v : υ) :
    (m.insert k v).get? a = if compare a k = .eq then some v else m.get? a :=
  find_place k a v m.entries

theorem get?_erase [Std.LawfulEqOrd κ] (m : SortedMap κ υ) (k a : κ) :
    (m.erase k).get? a = if compare a k = .eq then none else m.get? a := by
  simp only [get?, erase, Std.compare_eq_iff_eq]
  induction m.entries with
  | nil => simp [find]
  | cons p r ih =>
    by_cases hkp : k = p.1 <;> by_cases hak : a = k <;> simp_all [find]

end SortedMap

end ReplicaKV
