/-
Reading from a stream that was cut off.

A reader looks at bytes one after the other. So it cannot tell a stream from a longer one until the shorter one is used
up: it takes the same bytes for the same value, or refuses them for the same reason, or meets what lies behind the
shorter stream.

- `Cut t r tail`: t and r are at one place of one frame, and r has the bytes tail behind those that t has left.
- `Agrees`: what a reader may make of a stream and of a longer one; `Forward get`: that is what get makes of them.
- `Piecewise.forward`: so it is with every reader that is made of raw reads.
- `Forward.ended`: a frame cut off before its end is neither read nor refused, it ends too early.
-/
import ReplicaKV.Proofs.Frame.Pieces

namespace ReplicaKV.Frame

/-- r is where t is, with the bytes tail behind those that t has left -/
structure Cut (t r : Reader) (tail : List UInt8) : Prop where
  rest : r.stream.rest = t.stream.rest ++ tail
  consumed : t.consumed = r.consumed
  crc : t.crc = r.crc

/-- what a reader may make of a stream with that ending, and of one that has the bytes tail behind it -/
inductive Agrees {α : Type} (ending : Fault) (tail : List UInt8) :
    EStateM.Result Fault Reader α → EStateM.Result Fault Reader α → Prop
  /-- the shorter stream is used up -/
  | ended (t' : Reader) (x : EStateM.Result Fault Reader α) : Agrees ending tail (.error ending t') x
  /-- both are refused for the same reason -/
  | refused (e : Fault) (t' r' : Reader) : Agrees ending tail (.error e t') (.error e r')
  /-- both give the same value, and are again at one place -/
  | read (v : α) {t' r' : Reader} (cut : Cut t' r' tail) (stays : t'.stream.ending = ending) :
      Agrees ending tail (.ok v t') (.ok v r')

/-- get cannot tell a stream from a longer one before the shorter is used up -/
def Forward {α : Type} (get : Read α) : Prop :=
  ∀ (t r : Reader) (tail : List UInt8), Cut t r tail → Agrees t.stream.ending tail (get t) (get r)

section

variable {α β : Type}

theorem Forward.pure (v : α) : Forward (pure v) := fun _ _ _ hc => .read v hc rfl

theorem Forward.throw (e : Fault) : Forward (throw e : Read α) := fun t r _ _ => .refused e t r

theorem Forward.bind {g : Read α} {h : α → Read β} (hg : Forward g) (hh : ∀ v, Forward (h v)) :
    Forward (g >>= h) := by
  intro t r tail hc
  have first := hg t r tail hc
  cases eg : g t with
  | error e t' =>
    rw [bind_error eg]
    rw [eg] at first
    generalize er : g r = x at first
    cases first with
    | ended => exact .ended t' _
    | refused _ _ r' => rw [bind_error er]; exact .refused e t' r'
  | ok v t' =>
    rw [bind_ok eg]
    rw [eg] at first
    generalize er : g r = x at first
    cases first with
    | read _ cut stays =>
      rw [bind_ok er, ← stays]
      exact hh v _ _ tail cut

end

/-! ## The parts of a frame -/

/-- the next bytes of a stream are the next bytes of a longer one -/
theorem takeExactly_cut {n : Nat} {t r : Reader} {tail : List UInt8} (hc : Cut t r tail) :
    Agrees t.stream.ending tail (takeExactly n t) (takeExactly n r) := by
  by_cases hn : t.stream.rest.length < n
  · obtain ⟨t', h, -⟩ := takeExactly_short hn
    rw [h]
    exact .ended t' _
  · -- the bytes b are there in both
    obtain ⟨b, hb, l, hl⟩ : ∃ b : Bytes, b.size = n ∧ ∃ l, t.stream.rest = b.list ++ l := by
      refine ⟨ofList (t.stream.rest.take n), ?_, t.stream.rest.drop n, (List.take_append_drop _ _).symm⟩
      rw [← list_size]
      exact (List.length_take ..).trans (Nat.min_eq_left (Nat.not_lt.1 hn))
    have hr : r.stream.rest = b.list ++ (l ++ tail) := by rw [hc.rest, hl, List.append_assoc]
    obtain ⟨t', ht, ht₁, ht₂, ht₃, ht₄⟩ := takeExactly_of_rest hl
    obtain ⟨r', hr, hr₁, -, hr₃, hr₄⟩ := takeExactly_of_rest hr
    rw [← hb, ht, hr]
    exact .read b ⟨by rw [hr₁, ht₁], by rw [ht₃, hr₃, hc.consumed], by rw [ht₄, hr₄, hc.crc]⟩ ht₂

theorem forward_raw (n : Nat) : Forward (getRaw n) := by
  intro t r tail hc
  simp only [getRaw, hc.consumed]
  by_cases hfit : sizeLimit < r.consumed + n
  · rw [if_pos hfit, if_pos hfit]
    exact .refused _ t r
  · rw [if_neg hfit, if_neg hfit]
    have h := takeExactly_cut (n := n) hc
    generalize takeExactly n t = x at h
    generalize takeExactly n r = y at h
    cases h with
    | ended t' _ => exact .ended t' _
    | refused e t' r' => exact .refused e t' r'
    | read b cut stays => exact .read b ⟨cut.rest, by rw [cut.consumed], by rw [cut.crc]⟩ stays

variable {α : Type} {get : Read α}

theorem Piecewise.forward (h : Piecewise get) : Forward get := by
  induction h with
  | pure v => exact .pure v
  | refuse text => exact .throw _
  | raw n => exact forward_raw n
  | bind hg hh ihg ihh => exact ihg.bind ihh

/-! ## Whole frames -/

theorem forward_close : Forward close := by
  intro t r tail hc
  have h := takeExactly_cut (n := footerSize) hc
  simp only [close]
  generalize takeExactly footerSize t = x at h
  generalize takeExactly footerSize r = y at h
  cases h with
  | ended t' _ => exact .ended t' _
  | refused e t' r' => exact .refused e t' r'
  | read b cut stays =>
    simp only [cut.crc]
    split_ifs
    · exact .read () cut stays
    · exact .refused _ _ _

theorem Forward.closed (h : Forward get) : Forward (closed get) :=
  h.bind fun v => forward_close.bind fun _ => .pure v

/-- where a frame uses up a stream, the stream cut off before its end ends too early for it -/
theorem Forward.ended (h : Forward get) {s c : Stream} {tail : List UInt8} {v : α} {r' : Reader}
    (hread : get (start s) = .ok v r') (hall : r'.stream.rest = []) (hs : s.rest = c.rest ++ tail) (hcut : tail ≠ []) :
    ∃ t', get (start c) = .error c.ending t' := by
  have hagree := h (start c) (start s) tail ⟨hs, rfl, rfl⟩
  rw [hread] at hagree
  generalize get (start c) = x at hagree
  cases hagree with
  | ended t' _ => exact ⟨t', rfl⟩
  | read _ cut stays =>
    -- the longer stream would have the bytes cut off left over
    have hrest := cut.rest
    rw [hall] at hrest
    exact absurd (List.append_eq_nil_iff.1 hrest.symm).2 hcut

end ReplicaKV.Frame
