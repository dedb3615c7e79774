/-
What a sequence of updates comes to, and the mutations that are noted for it.

- `Update.run?`: the store after one update, if it succeeds. `Update.refusal`: how it is refused if not.
- `step_run`, `planFrom_run`: the mutations lead from a store to where the updates lead, asserts left out, and nothing is
  noted for a sequence of which an update fails.
-/
import ReplicaKV.Proofs.Cluster.Standing

namespace ReplicaKV

namespace Update

/-- does the update change the store? -/
def changes : Update → Bool
  | set _ _ | delete _ => true
  | assert _ _ | assertExists _ => false

/-- the store after an update, if it succeeds -/
def run? (s : Store) : Update → Option Store
  | set k v => some (s.insert k v)
  | delete k => if s.contains k then some (s.erase k) else none
  | assert k v => if s.get? k = v then some s else none
  | assertExists k => if s.contains k then some s else none

/-- how an update is refused that fails: a key that is to go is not there, or an assertion does not hold -/
def refusal : Update → Refusal
  | delete k => ⟨.notFound, Utf8.lenient k⟩
  | set k _ | assert k _ | assertExists k => ⟨.assertionFailed, Utf8.lenient k⟩

end Update

namespace Store

/-- the mutations of one update: one if it changes the store, and none if it is an assertion -/
theorem step_run (s : Store) (u : Update) :
    match u.run? s with
    | some s' => ∃ ms, s.step u = .ok ms ∧ s.applyAll ms = s' ∧ ms.length = [u].countP Update.changes
    | none => s.step u = .error u.refusal := by
  cases u with
  | set k v => exact ⟨[.put k v], rfl, rfl, rfl⟩
  | delete k =>
    simp only [Update.run?, step]
    by_cases h : s.contains k = true
    · simp only [if_pos h]
      exact ⟨[.remove k], rfl, rfl, rfl⟩
    · simp only [if_neg h]
      rfl
  | assert k v =>
    simp only [Update.run?, step, checkValue]
    by_cases h : s.get? k = v
    · simp only [if_pos h]
      exact ⟨[], rfl, rfl, rfl⟩
    · simp only [if_neg h]
      rfl
  | assertExists k =>
    simp only [Update.run?, step, checkExists]
    by_cases h : s.contains k = true
    · simp only [if_pos h]
      exact ⟨[], rfl, rfl, rfl⟩
    · simp only [if_neg h]
      rfl

/-- what is noted for a sequence leads where its updates lead, one mutation for each that changes the store; where an
update fails nothing is noted -/
theorem planFrom_run (s : Store) (done : List Mutation) (us : List Update) :
    match us.foldlM Update.run? s with
    | some s' => ∃ ms, planFrom done s us = .ok (done.reverse ++ ms) ∧ s.applyAll ms = s' ∧
        ms.length = us.countP Update.changes
    | none => ∃ before u after s', us = before ++ u :: after ∧ before.foldlM Update.run? s = some s' ∧
        u.run? s' = none ∧ planFrom done s us = .error u.refusal := by
  induction us generalizing done s with
  | nil => exact ⟨[], by rw [planFrom, List.append_nil], rfl, rfl⟩
  | cons u us ih =>
    have hu := step_run s u
    rw [List.foldlM_cons]
    cases hs : u.run? s with
    | none =>
      rw [hs] at hu
      exact ⟨[], u, us, s, rfl, rfl, hs, by simp only [planFrom, hu]⟩
    | some s₁ =>
      rw [hs] at hu
      obtain ⟨ms, hms, hs₁, hlength⟩ := hu
      have hrest := ih s₁ (ms.reverse ++ done)
      have hplan : planFrom done s (u :: us) = planFrom (ms.reverse ++ done) s₁ us := by
        simp only [planFrom, hms, hs₁]
      rw [hplan]
      show match us.foldlM Update.run? s₁ with
        | some s' => _
        | none => _
      cases hm : us.foldlM Update.run? s₁ with
      | none =>
        rw [hm] at hrest
        obtain ⟨before, u', after, s', rfl, hbefore, hfails, hr⟩ := hrest
        refine ⟨u :: before, u', after, s', rfl, ?_, hfails, hr⟩
        rw [List.foldlM_cons, hs]
        exact hbefore
      | some s' =>
        rw [hm] at hrest
        obtain ⟨ms', hp, happly, hlength'⟩ := hrest
        refine ⟨ms ++ ms', ?_, ?_, ?_⟩
        · rw [hp, List.reverse_append, List.reverse_reverse, List.append_assoc]
        · rw [applyAll_append, hs₁, happly]
        · rw [List.length_append, hlength, hlength', ← List.countP_append, List.singleton_append]

end Store

end ReplicaKV
