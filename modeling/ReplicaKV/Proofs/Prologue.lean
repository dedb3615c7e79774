/-
The prologue of a connection.

- `Prologue.body`, `Prologue.read`: a prologue without its footer, written and read.
- `Prologue.delimits`: a prologue that fits a frame is read as the cluster id that it names, and says itself where it
  ends.
-/
import ReplicaKV.Prologue
import ReplicaKV.Proofs.Reply.SelfDelimiting

namespace ReplicaKV.Prologue

open ReplicaKV.Frame

/-- a prologue without the footer -/
def body (clusterId : String) : Bytes := ByteArray.empty |> putU32 magic |> putU32 version |> putText clusterId

theorem list_body (clusterId : String) :
    (body clusterId).list = lowBytes 4 magic.toNat ++ (lowBytes 4 version.toNat ++ blob clusterId.toUTF8) := by
  simp only [body, format_text.writes, format_u32.writes, List.append_assoc]
  rfl

theorem size_body (clusterId : String) : (body clusterId).size = 12 + clusterId.utf8ByteSize := by
  have hblob : (blob clusterId.toUTF8).length = 4 + clusterId.utf8ByteSize := length_blob _
  rw [← list_size, list_body, List.length_append, List.length_append, hblob, length_lowBytes, length_lowBytes]
  omega

/-- a prologue without the footer -/
def read : Read String := do
  let m ← getU32
  if m ≠ magic then throw (.invalid "prologue without magic")
  let v ← getU32
  if v ≠ version then throw (.invalid s!"unsupported protocol version {v.toNat}")
  getText

theorem decode_eq : decode = closed read := by
  rw [decode, closed, read, bind_assoc]
  congr 1; funext m
  by_cases hm : m ≠ magic
  · simp only [if_pos hm]
    rfl
  · simp only [if_neg hm]
    rw [bind_assoc]
    congr 1; funext v
    by_cases hv : v ≠ version
    · simp only [if_pos hv]
      rfl
    · simp only [if_neg hv]

theorem piecewise_read : Piecewise read := by
  refine piecewise_u32.bind fun m => ?_
  by_cases hm : m ≠ magic
  · simp only [if_pos hm]
    exact .refuse _
  · simp only [if_neg hm]
    refine piecewise_u32.bind fun v => ?_
    by_cases hv : v ≠ version
    · simp only [if_pos hv]
      exact .refuse _
    · simp only [if_neg hv]
      exact piecewise_text

theorem takes_read (clusterId : String) : Takes read (body clusterId).list clusterId := by
  rw [list_body]
  refine (takes_u32 magic).bind ?_
  simp only [ne_eq, not_true_eq_false, if_false]
  refine (takes_u32 version).bind ?_
  simp only [not_true_eq_false, if_false]
  exact format_text.takes clusterId

/-- the frame of a prologue is delimited -/
theorem delimits {clusterId : String} (hfit : (body clusterId).size ≤ sizeLimit) :
    Delimits decode (encode clusterId) clusterId :=
  decode_eq ▸ piecewise_read.forward.delimits (takes_read clusterId) hfit

/-- a prologue that fits a frame is read as the cluster id that it names -/
theorem decode_encode {clusterId : String} (hfit : (body clusterId).size ≤ sizeLimit) :
    ∃ r, decode (start (.ofBytes (encode clusterId))) = .ok clusterId r := by
  obtain ⟨r, hread, -⟩ := (delimits hfit).whole ByteArray.empty
  rw [ByteArray.append_empty] at hread
  exact ⟨r, hread⟩

end ReplicaKV.Prologue
