/-
Lookups in sorted maps: which bindings a map has, and what changing its values does to them.

- `get?_eq_some_iff`: a lookup finds exactly the entries.
- `get?_mapValues`, `get?_adjust`: changed values, key by key.
- `insert_perm`: the binding of a key, beside the entries of all other keys.
- `ofList_entries`: a map is what its entries make.
-/
import ReplicaKV.SortedMap
import Mathlib.Tactic

namespace ReplicaKV.SortedMap

variable {κ υ υ' : Type} [Ord κ]

theorem ext_entries {m n : SortedMap κ υ} (h : m.entries = n.entries) : m = n := by
  cases m; cases n; cases h; rfl

@[simp] theorem get?_mapValues [Std.LawfulEqOrd κ] (m : SortedMap κ υ) (f : κ → υ → υ') (k : κ) :
    (m.mapValues f).get? k = (m.get? k).map (f k) := by
  simp only [get?, mapValues]
  induction m.entries with
  | nil => rfl
  | cons p r ih =>
    by_cases hk : compare k p.1 = .eq
    · have hkp : k = p.1 := Std.LawfulEqCmp.eq_of_compare hk
      simp [find, hkp]
    · simp only [List.map_cons, find, if_neg hk, ih]

theorem get?_adjust [DecidableEq κ] [Std.LawfulEqOrd κ] (m : SortedMap κ υ) (a k : κ) (f : υ → υ) :
    (m.adjust a f).get? k = if k = a then (m.get? k).map f else m.get? k := by
  rw [adjust, get?_mapValues]
  by_cases hk : k = a
  · subst hk
    simp only [Std.compare_self, if_true]
  · have hc : ¬compare a k = .eq := fun h => hk (Std.LawfulEqCmp.eq_of_compare h).symm
    simp only [if_neg hc, if_neg hk, Option.map_id']

theorem size_eq (m : SortedMap κ υ) : m.size = m.keys.length := (List.length_map _).symm

theorem get?_eq_some_iff [Std.TransOrd κ] [Std.LawfulEqOrd κ] {m : SortedMap κ υ} {k : κ} {v : υ} :
    m.get? k = some v ↔ (k, v) ∈ m.entries := by
  obtain ⟨l, hl⟩ := m
  simp only [get?]
  induction l with
  | nil => simp [find]
  | cons p r ih =>
    obtain ⟨hp, hr⟩ := List.pairwise_cons.1 hl
    by_cases hk : k = p.1
    · -- the key occurs once
      have hnot : (k, v) ∉ r := by
        intro h
        have := hp _ h
        rw [← hk, Std.compare_self] at this
        cases this
      simp only [find, hk, Std.compare_self, if_true, Option.some.injEq, List.mem_cons]
      constructor
      · rintro rfl; exact .inl rfl
      · rintro (h | h)
        · rw [← h]
        · exact absurd (hk ▸ h) hnot
    · have hc : ¬compare k p.1 = .eq := fun h => hk (Std.LawfulEqCmp.eq_of_compare h)
      have hne : (k, v) ≠ p := fun h => hk (congrArg Prod.fst h)
      simp only [find, if_neg hc, List.mem_cons, hne, false_or]
      exact ih hr

theorem mem_keys_iff [Std.TransOrd κ] [Std.LawfulEqOrd κ] {m : SortedMap κ υ} {k : κ} :
    k ∈ m.keys ↔ ∃ v, m.get? k = some v := by
  simp only [keys, List.mem_map, get?_eq_some_iff]
  constructor
  · rintro ⟨⟨_, v⟩, hp, rfl⟩; exact ⟨v, hp⟩
  · rintro ⟨v, hv⟩; exact ⟨(k, v), hv, rfl⟩

theorem nodup_keys [Std.TransOrd κ] (m : SortedMap κ υ) : m.keys.Nodup := by
  refine (List.pairwise_map.2 m.sorted : m.keys.Pairwise fun k k' => compare k k' = .lt).imp ?_
  intro k k' hlt he
  rw [he, Std.compare_self] at hlt
  cases hlt

theorem nodup_entries [Std.TransOrd κ] (m : SortedMap κ υ) : m.entries.Nodup := .of_map Prod.fst m.nodup_keys

/-- a map whose keys are in a list is no longer than the list -/
theorem size_le_of_keys [Std.TransOrd κ] {m : SortedMap κ υ} {l : List κ} (h : ∀ k ∈ m.keys, k ∈ l) :
    m.size ≤ l.length := by
  rw [size_eq]
  exact (List.subperm_of_subset m.nodup_keys h).length_le

/-- maps with the same lookups are the same -/
theorem ext_get? [Std.TransOrd κ] [Std.LawfulEqOrd κ] {m n : SortedMap κ υ} (h : ∀ k, m.get? k = n.get? k) : m = n := by
  refine ext_entries ?_
  have hirr : ∀ p : κ × υ, ¬compare p.1 p.1 = .lt := fun p hp => by rw [Std.compare_self] at hp; cases hp
  refine List.Perm.eq_of_pairwise ?_ m.sorted n.sorted ?_
  · intro p q _ _ hpq hqp
    exact absurd (Std.TransCmp.lt_trans hpq hqp) (hirr p)
  · refine (List.perm_ext_iff_of_nodup m.nodup_entries n.nodup_entries).2 ?_
    intro p
    obtain ⟨k, v⟩ := p
    rw [← get?_eq_some_iff, ← get?_eq_some_iff, h]

/-! ## Entries after a write -/

section

variable [Std.TransOrd κ] [Std.LawfulEqOrd κ]

/-- what is bound to k stands beside the entries of all other keys -/
theorem insert_perm (m : SortedMap κ υ) (k : κ) (v : υ) :
    (m.insert k v).entries.Perm ((k, v) :: (m.erase k).entries) := by
  have hnot : (k, v) ∉ (m.erase k).entries := by
    rw [← get?_eq_some_iff, get?_erase, if_pos Std.compare_self]
    exact nofun
  refine (List.perm_ext_iff_of_nodup (nodup_entries _) (List.nodup_cons.2 ⟨hnot, nodup_entries _⟩)).2 ?_
  rintro ⟨a, w⟩
  rw [List.mem_cons, ← get?_eq_some_iff, ← get?_eq_some_iff, get?_insert, get?_erase]
  by_cases ha : a = k
  · subst ha
    simp [eq_comm]
  · simp [ha]

theorem mem_keys_insert {m : SortedMap κ υ} {k a : κ} {v : υ} : a ∈ (m.insert k v).keys ↔ a = k ∨ a ∈ m.keys := by
  simp only [mem_keys_iff, get?_insert, Std.compare_eq_iff_eq]
  by_cases ha : a = k
  · simp [ha]
  · simp [ha]

theorem mem_keys_of_erase {m : SortedMap κ υ} {k a : κ} (h : a ∈ (m.erase k).keys) : a ∈ m.keys := by
  obtain ⟨v, hv⟩ := mem_keys_iff.1 h
  rw [get?_erase] at hv
  split_ifs at hv
  exact mem_keys_iff.2 ⟨v, hv⟩

/-- to put what is there already changes nothing -/
theorem insert_self {m : SortedMap κ υ} {k : κ} {v : υ} (h : m.get? k = some v) : m.insert k v = m := by
  apply ext_get?
  intro a
  rw [get?_insert]
  split_ifs with ha
  · rw [Std.LawfulEqCmp.eq_of_compare ha, h]
  · rfl

theorem erase_of_absent {m : SortedMap κ υ} {k : κ} (h : m.get? k = none) : m.erase k = m := by
  apply ext_get?
  intro a
  rw [get?_erase]
  split_ifs with ha
  · rw [Std.LawfulEqCmp.eq_of_compare ha, h]
  · rfl

theorem erase_insert (m : SortedMap κ υ) (k : κ) (v : υ) : (m.insert k v).erase k = m.erase k := by
  apply ext_get?
  intro a
  rw [get?_erase, get?_erase, get?_insert]
  split_ifs <;> rfl

theorem insert_insert (m : SortedMap κ υ) (k : κ) (v w : υ) : (m.insert k v).insert k w = m.insert k w := by
  apply ext_get?
  intro a
  rw [get?_insert, get?_insert, get?_insert]
  split_ifs <;> rfl

end

/-! ## Maps from lists -/

theorem place_last [Std.TransOrd κ] (k : κ) (v : υ) (l : List (κ × υ)) (h : ∀ p ∈ l, compare p.1 k = .lt) :
    place k v l = l ++ [(k, v)] := by
  induction l with
  | nil => rfl
  | cons p r ih =>
    have hk : compare k p.1 = .gt := Std.OrientedCmp.gt_of_lt (h p List.mem_cons_self)
    rw [place, hk, ih fun q hq => h q (List.mem_cons_of_mem _ hq), List.cons_append]

variable [Std.TransOrd κ] [Std.LawfulEqOrd κ]

theorem foldl_insert_entries (m : SortedMap κ υ) (l : List (κ × υ))
    (h : (m.entries ++ l).Pairwise fun p q => compare p.1 q.1 = .lt) :
    (l.foldl (fun m p => m.insert p.1 p.2) m).entries = m.entries ++ l := by
  induction l generalizing m with
  | nil => simp
  | cons p r ih =>
    have hlast : (m.insert p.1 p.2).entries = m.entries ++ [p] :=
      place_last p.1 p.2 m.entries fun q hq => (List.pairwise_append.1 h).2.2 q hq p List.mem_cons_self
    rw [List.foldl_cons, ih]
    · rw [hlast, List.append_assoc, List.singleton_append]
    · rwa [hlast, List.append_assoc, List.singleton_append]

/-- a map is what its entries make, put in one after the other -/
theorem ofList_entries (m : SortedMap κ υ) : ofList m.entries = m :=
  ext_entries (foldl_insert_entries empty m.entries m.sorted)

theorem mem_keys_foldl_insert {l : List (κ × υ)} {m : SortedMap κ υ} {k : κ}
    (h : k ∈ (l.foldl (fun m p => m.insert p.1 p.2) m).keys) : k ∈ m.keys ∨ k ∈ l.map Prod.fst := by
  induction l generalizing m with
  | nil => exact .inl h
  | cons p l ih =>
    rcases ih h with hm | hl
    · rcases mem_keys_insert.1 hm with rfl | hm
      · exact .inr List.mem_cons_self
      · exact .inl hm
    · exact .inr (List.mem_cons_of_mem _ hl)

/-- a map has no more keys than the list that it was made from has pairs -/
theorem size_ofList_le (l : List (κ × υ)) : (ofList l).size ≤ l.length := by
  refine (size_le_of_keys fun k hk => ?_).trans_eq (List.length_map Prod.fst)
  exact (mem_keys_foldl_insert hk).resolve_left List.not_mem_nil

end ReplicaKV.SortedMap
