/-
Readers of frames, piece by piece.

- `Piecewise get`: get is made of raw reads, one after the other, and of nothing else. All readers of this library are.
- `getRaw_cases`: all that a raw read can come to.
- `Piecewise.past`: what was read was read from the bytes that were taken, and the limit on frames was kept.
-/
import ReplicaKV.Proofs.Frame.Format

namespace ReplicaKV.Frame

/-- get is made of raw reads, one after the other. What was read before decides what is read next, what is returned, and
whether the frame is refused. -/
inductive Piecewise : {α : Type} → Read α → Prop
  | pure {α : Type} (v : α) : Piecewise (Pure.pure v : Read α)
  | refuse {α : Type} (text : String) : Piecewise (throw (.invalid text) : Read α)
  | raw (n : Nat) : Piecewise (getRaw n)
  | bind {α β : Type} {g : Read α} {h : α → Read β} (hg : Piecewise g) (hh : ∀ v, Piecewise (h v)) :
      Piecewise (g >>= h)

/-! ## The parts of a frame -/

section

variable {α β : Type}

theorem Piecewise.map {g : Read α} (f : α → β) (hg : Piecewise g) : Piecewise (f <$> g) := by
  rw [← bind_pure_comp]
  exact hg.bind fun v => .pure (f v)

theorem piecewise_u32 : Piecewise getU32 := (Piecewise.raw 4).map _

theorem piecewise_i32 : Piecewise getI32 := piecewise_u32.map _

theorem piecewise_u64 : Piecewise getU64 := (Piecewise.raw 8).map _

theorem piecewise_f64 : Piecewise getF64 := piecewise_u64.map _

theorem piecewise_bool : Piecewise getBool := by
  refine (Piecewise.raw 1).bind fun b => ?_
  generalize littleEndian b.list = x
  rcases x with _ | _ | x
  · exact .pure false
  · exact .pure true
  · exact .refuse _

theorem piecewise_bytes : Piecewise getBytes := by
  refine piecewise_u32.bind fun n => ?_
  by_cases hn : sizeLimit < n.toNat
  · simp only [if_pos hn]
    exact .refuse _
  · simp only [if_neg hn]
    exact .raw n.toNat

theorem piecewise_text : Piecewise getText := by
  refine piecewise_bytes.bind fun b => ?_
  cases Utf8.decode b with
  | ok s => exact .pure s
  | error d => exact .refuse _

variable {get : Read α}

theorem Piecewise.option (h : Piecewise get) : Piecewise (getOption get) := by
  refine piecewise_bool.bind fun present => ?_
  cases present with
  | false => exact .pure none
  | true => exact h.map some

theorem Piecewise.items (h : Piecewise get) (n : Nat) (acc : List α) : Piecewise (getItems get n acc) := by
  induction n generalizing acc with
  | zero => exact .pure acc.reverse
  | succ n ih => exact h.bind fun v => ih (v :: acc)

theorem Piecewise.list (h : Piecewise get) : Piecewise (getList get) := piecewise_u32.bind fun n => h.items n.toNat []

theorem Piecewise.pair {get' : Read β} (h : Piecewise get) (h' : Piecewise get') : Piecewise (getPair get get') :=
  h.bind fun a => h'.bind fun b => .pure (a, b)

end

/-! ## What a read comes to -/

/-- a raw read goes beyond the limit, or beyond the bytes that are there, or takes the next n bytes -/
theorem getRaw_cases (n : Nat) (r : Reader) :
    (∃ text, sizeLimit < r.consumed + n ∧ getRaw n r = .error (.invalid text) r) ∨
    (∃ r', r.consumed + n ≤ sizeLimit ∧ r.stream.left < n ∧ getRaw n r = .error r.stream.ending r' ∧
      r'.stream.rest = []) ∨
    ∃ b r', r.consumed + n ≤ sizeLimit ∧ b.size = n ∧ getRaw n r = .ok b r' ∧ Past r b.list r' := by
  by_cases hfit : sizeLimit < r.consumed + n
  · exact .inl ⟨s!"frame exceeds maximum size {sizeLimit}", hfit, by simp only [getRaw, if_pos hfit]⟩
  · by_cases hn : r.stream.rest.length < n
    · obtain ⟨r', h, hrest⟩ := takeExactly_short hn
      refine .inr (.inl ⟨r', Nat.not_lt.1 hfit, by rwa [Stream.left_eq], ?_, hrest⟩)
      simp only [getRaw, if_neg hfit, h]
    · -- the next n bytes are there
      let b := ofList (r.stream.rest.take n)
      have hb : b.size = n := by
        rw [← list_size]
        exact (List.length_take ..).trans (Nat.min_eq_left (Nat.not_lt.1 hn))
      have hrest : r.stream.rest = b.list ++ r.stream.rest.drop n := (List.take_append_drop _ _).symm
      obtain ⟨r', h, hp⟩ := takes_raw b r _ hrest (by rw [list_size, hb]; exact Nat.not_lt.1 hfit)
      rw [hb] at h
      exact .inr (.inr ⟨b, r', Nat.not_lt.1 hfit, hb, h, hp⟩)

/-! ## What was read -/

variable {α : Type} {get : Read α}

/-- a value was read from the bytes that were taken, and the limit was kept -/
theorem Piecewise.past (h : Piecewise get) {r r' : Reader} {v : α} (e : get r = .ok v r') :
    ∃ bs, Past r bs r' ∧ (r.consumed ≤ sizeLimit → r'.consumed ≤ sizeLimit) := by
  induction h generalizing r r' with
  | pure u =>
    obtain ⟨-, rfl⟩ := pure_inv e
    exact ⟨[], .nil r', fun hr => hr⟩
  | refuse text => exact absurd e throw_inv
  | raw n =>
    rcases getRaw_cases n r with ⟨text, -, he⟩ | ⟨r₁, -, -, he, -⟩ | ⟨b, r₁, hfit, hb, he, hp⟩
    · rw [he] at e; cases e
    · rw [he] at e; cases e
    · rw [he] at e; cases e
      exact ⟨_, hp, fun _ => by rw [hp.consumed, list_size, hb]; exact hfit⟩
  | bind hg hh ihg ihh =>
    obtain ⟨u, r₁, e₁, e₂⟩ := bind_inv e
    obtain ⟨a, p₁, l₁⟩ := ihg e₁
    obtain ⟨b, p₂, l₂⟩ := ihh u e₂
    exact ⟨a ++ b, p₁.trans p₂, fun hr => l₂ (l₁ hr)⟩

end ReplicaKV.Frame
