/-
Frames whose bits were changed on the way.

- `Caught b`: whatever reads take all of b but its last four bytes, these are refused as bad data.
- `caught_of_register`: so it is unless b leaves the register that every frame leaves.
- `corruption_caught`: so it is with a frame in which a burst of up to 32 bits was changed, wherever it stands.
-/
import ReplicaKV.Proofs.Checksum
import ReplicaKV.Proofs.Frame.Pieces

namespace ReplicaKV.Frame

open ReplicaKV.Checksum

/-- whatever reads take all of the bytes but the last four, these are refused as bad data -/
def Caught (b : Bytes) : Prop :=
  ∀ {α : Type} {get : Read α} {v : α} {r : Reader}, Piecewise get → get (start (.ofBytes b)) = .ok v r →
    r.stream.left = footerSize → ∃ e r', close r = .error e r' ∧ e.kind = .invalidData

/-- every frame leaves one register -/
theorem register_finish (w : Bytes) : register (finish w).list = bitSteps 32 (~~~0) := by
  rw [list_finish, Checksum.ofBytes, extend_eq]
  exact register_closed w.list

/-- bytes that leave another register are no frame, whatever they are read as -/
theorem close_of_register {s : Stream} {bs : List UInt8} {r : Reader} (hp : Past (start s) bs r)
    (hleft : r.stream.left = footerSize) (hne : register s.rest ≠ bitSteps 32 (~~~0)) :
    ∃ e r', close r = .error e r' ∧ e.kind = .invalidData := by
  rcases close_cases r with ⟨r', hshort, -, -⟩ | ⟨footer, r', hrest, ⟨hf, -⟩ | ⟨text, -, he⟩⟩
  · exact absurd hleft hshort.ne
  · -- the footer is the checksum of the bytes before it, and nothing is left behind it
    have hend : r'.stream.rest = [] := by
      rw [Stream.left_eq, hrest, List.length_append, length_lowBytes] at hleft
      exact List.length_eq_zero_iff.1 (Nat.add_left_cancel hleft)
    have hcrc : footer = Checksum.over 0 bs := hf.trans hp.crc
    refine absurd ?_ hne
    have hs : s.rest = bs ++ r.stream.rest := hp.rest
    rw [hs, hrest, hend, List.append_nil, hcrc]
    exact register_closed bs
  · exact ⟨_, r', he, rfl⟩

theorem caught_of_register {b : Bytes} (hne : register b.list ≠ bitSteps 32 (~~~0)) : Caught b := by
  intro α get v r hget e hleft
  obtain ⟨bs, hp, -⟩ := hget.past e
  exact close_of_register hp hleft (by rwa [Stream.rest_ofBytes])

/-- **Corruption is caught.** Where up to 32 bits in a row of a frame were changed, in what it carries, in its footer or
across the two, no reads that take all of it but the last four bytes are followed by a footer that is right. So where one
bit was changed, and its reader takes what stands before the footer, be it for another key, value or number, the frame is
refused as bad data. -/
theorem corruption_caught (w : Bytes) :
    (∀ damaged : Bytes, Burst (finish w).list damaged.list → Caught damaged) ∧
    ∀ (i : Nat) (damaged : Bytes), Flipped i (finish w).list damaged.list →
      ∀ {α : Type} (get : Read α) (v : α), Takes get (damaged.list.take w.size) v → w.size ≤ sizeLimit →
        ∃ e r', closed get (start (.ofBytes damaged)) = .error e r' ∧ e.kind = .invalidData := by
  have other {damaged : Bytes} (h : Burst (finish w).list damaged.list) :
      register damaged.list ≠ bitSteps 32 (~~~0) :=
    register_finish w ▸ h.register_ne
  refine ⟨fun damaged h => caught_of_register (other h), ?_⟩
  intro i damaged h α get v ht hfit
  have hrest : (Stream.ofBytes damaged).rest = damaged.list.take w.size ++ damaged.list.drop w.size := by
    rw [Stream.rest_ofBytes, List.take_append_drop]
  have hsmall : (start (.ofBytes damaged)).consumed + (damaged.list.take w.size).length ≤ sizeLimit := by
    have hlen := List.length_take_le w.size damaged.list
    simp only [start]
    omega
  obtain ⟨r, hread, hp⟩ := ht (start (.ofBytes damaged)) _ hrest hsmall
  have hleft : r.stream.left = footerSize := by
    rw [Stream.left_eq, hp.tail hrest, List.length_drop, h.length, list_size, size_finish]
    omega
  obtain ⟨e, r', hclose, hkind⟩ := close_of_register hp hleft (by rw [Stream.rest_ofBytes]; exact other h.burst)
  exact ⟨e, r', by rw [closed, bind_ok hread, bind_error hclose], hkind⟩

/-- a text and a number, with a bit of the text changed, and with bits changed on both sides of the footer's beginning -/
theorem corruption_caught_hello :
    let w := putU64 42 (putText "hello" ByteArray.empty)
    let get : Read (String × UInt64) := getPair getText getU64
    let flipped := ofList ((finish w).list.modify 5 (· ^^^ 1))
    let across := ofList (((finish w).list.modify 16 (· ^^^ 0xa0)).modify 18 (· ^^^ 0x83))
    (Flipped 40 (finish w).list flipped.list ∧
      ∃ e r', closed get (start (.ofBytes flipped)) = .error e r' ∧ e.kind = .invalidData) ∧
    Burst (finish w).list across.list ∧ Caught across ∧
      ∃ v r, get (start (.ofBytes across)) = .ok v r ∧ r.stream.left = footerSize := by
  intro w get flipped across
  have hflipped : Flipped 40 (finish w).list flipped.list := ⟨by decide +kernel, by decide +kernel, by decide +kernel⟩
  have hacross : Burst (finish w).list across.list :=
    ⟨by decide +kernel, by decide +kernel, 133, by decide +kernel, by decide +kernel⟩
  have htakes : Takes get (flipped.list.take w.size) ("hdllo", 42) := by
    have hbytes : flipped.list.take w.size = blob "hdllo".toUTF8 ++ lowBytes 8 (42 : UInt64).toNat := by decide +kernel
    rw [hbytes]
    exact (format_text.takes "hdllo").bind ((takes_u64 42).map _)
  have hread : (match get (start (.ofBytes across)) with
      | .ok _ r => decide (r.stream.left = footerSize)
      | .error _ _ => false) = true := by decide +kernel
  refine ⟨⟨hflipped, (corruption_caught w).2 40 flipped hflipped get _ htakes (by decide +kernel)⟩, hacross,
    (corruption_caught w).1 across hacross, ?_⟩
  split at hread
  · rename_i v r e
    exact ⟨v, r, e, of_decide_eq_true hread⟩
  · cases hread

end ReplicaKV.Frame
