/-
The frame of a reply says itself where it ends, whatever form of payload the reader expects.

A client keeps its channel to a node that refused a request. So the refusal has to be read to its last byte by the
reader of any reply, and not a byte further; otherwise the next reply on the channel would be read from its middle.

- `Frame.Delimits`: a reader of frames reads this one, leaves alone what stands behind it, and of a part of it makes
  nothing.
- `delimits_notice`: a status word and a message are delimited, for the reader of every form of reply. Every refusal is
  such a frame; a node of another make may send a word that no status has.
- `delimited`: the frames of all payloads and of all refusals are delimited.
-/
import ReplicaKV.Proofs.Reply.RoundTrip
import ReplicaKV.Proofs.Request.SelfDelimiting

namespace ReplicaKV

open ReplicaKV.Frame

namespace Frame

/-- get reads the frame as v, and knows where it ends -/
structure Delimits {α : Type} (get : Read α) (frame : Bytes) (v : α) : Prop where
  /-- whatever stands behind the frame is left alone -/
  whole : ∀ rest : Bytes, ∃ r', get (start (.ofBytes (frame ++ rest))) = .ok v r' ∧ r'.stream.unread = rest
  /-- a frame without its end is neither read nor refused -/
  part : ∀ p : Bytes, p.list <+: frame.list → p ≠ frame →
    ∃ r', get (start (.ofBytes p)) = .error .endOfInput r'

/-- a frame that fits is delimited, where its reader looks at bytes one after the other -/
theorem Forward.delimits {α : Type} {get : Read α} {w : Bytes} {v : α} (h : Forward get) (ht : Takes get w.list v)
    (hfit : w.size ≤ sizeLimit) : Delimits (Frame.closed get) (finish w) v := by
  refine ⟨?_, ?_⟩
  · intro rest
    have hs : (Stream.ofBytes (finish w ++ rest)).rest = (finish w).list ++ rest.list := by
      rw [Stream.rest_ofBytes]; simp [Bytes.list]
    obtain ⟨r', hread, hrest, -⟩ := read_frame ht hfit hs
    exact ⟨r', hread, Bytes.list_injective ((Stream.list_unread _).trans hrest)⟩
  · rintro p ⟨tail, htail⟩ hne
    -- alone on a stream, the frame uses it up
    have hs : (Stream.ofBytes (finish w)).rest = (finish w).list ++ [] := by
      rw [Stream.rest_ofBytes, List.append_nil]
    obtain ⟨r', hread, hall, -⟩ := read_frame ht hfit hs
    have hp : (Stream.ofBytes (finish w)).rest = (Stream.ofBytes p).rest ++ tail := by
      rw [Stream.rest_ofBytes, Stream.rest_ofBytes, htail]
    refine h.closed.ended hread hall hp ?_
    rintro rfl
    rw [List.append_nil] at htail
    exact hne (Bytes.list_injective htail)

end Frame

/-! ## Payloads -/

theorem piecewise_version : Piecewise Version.read :=
  piecewise_i32.bind fun _ => piecewise_i32.bind fun _ => piecewise_i32.bind fun _ => piecewise_text.bind fun _ =>
    .pure _

theorem piecewise_statistics : Piecewise Statistics.read :=
  piecewise_f64.bind fun _ => piecewise_f64.bind fun _ => piecewise_u64.bind fun _ => piecewise_u64.bind fun _ =>
    piecewise_u64.bind fun _ => piecewise_u64.bind fun _ => piecewise_u64.bind fun _ => piecewise_u64.bind fun _ =>
      (piecewise_text.pair piecewise_u64).list.bind fun _ => .pure _

theorem Shape.piecewise (s : Shape) : Piecewise s.read := by
  cases s with
  | unit => exact .pure ()
  | flag => exact piecewise_bool
  | count => exact piecewise_u64
  | bytes => exact piecewise_bytes
  | text => exact piecewise_text
  | optBytes => exact piecewise_optBytes
  | optText => exact piecewise_text.option
  | bytesList => exact piecewise_bytes.list
  | pairs => exact (piecewise_bytes.pair piecewise_bytes).list
  | version => exact piecewise_version
  | statistics => exact piecewise_statistics

/-! ## Replies -/

/-- a status word that no status has is read as `unknown` -/
theorem Status.ofCode_of_foreign {w : UInt32} (h : ∀ s : Status, s.code ≠ w) : ofCode w = unknown := by
  have hnone : all.find? (fun s => s.code = w) = none :=
    List.find?_eq_none.2 fun s _ => by simpa using h s
  rw [ofCode, hnone, Option.getD_none]

namespace Reply

variable {s : Shape}

theorem piecewise_read (s : Shape) : Piecewise (read s) := by
  refine piecewise_u32.bind fun w => ?_
  by_cases hw : w = Status.success.code
  · rw [if_pos hw]
    exact s.piecewise.bind fun v => .pure (.ok v : Except Refusal s.Value)
  · rw [if_neg hw]
    exact piecewise_text.bind fun m => .pure (.error ⟨Status.ofCode w, m⟩ : Except Refusal s.Value)

/-- the frame of a payload is delimited -/
theorem delimits_ok {v : s.Value} (hfit : (body s (.ok v)).size ≤ sizeLimit) :
    Delimits (decode s) (ok s v) (.ok v) :=
  decode_eq s ▸ (piecewise_read s).forward.delimits (takes_read _ (sound_ok v)) hfit

/-- a notice is delimited, whatever payload is expected -/
theorem delimits_notice {w : UInt32} {m : String} (hw : w ≠ Status.success.code) (hfit : (notice w m).size ≤ sizeLimit) :
    Delimits (decode s) (finish (notice w m)) (.error ⟨Status.ofCode w, m⟩) :=
  decode_eq s ▸ (piecewise_read s).forward.delimits (takes_notice hw m) hfit

/-- **The frame of a reply says itself where it ends.** A payload of any form is read as it was written. A refusal is
read with its status and message by the reader of any form; a notice whose word no status has is a refusal of unknown
status. What stands behind the frame is left alone, and of a frame without its end nothing is made: the bytes have ended
too early. -/
theorem delimited (s : Shape) :
    (∀ v : s.Value, (body s (.ok v)).size ≤ sizeLimit → Delimits (decode s) (ok s v) (.ok v)) ∧
    (∀ r : Refusal, r.status ≠ .success → (notice r.status.code r.message).size ≤ sizeLimit →
      Delimits (decode s) (refusal r) (.error r)) ∧
    ∀ (w : UInt32) (m : String), (∀ status : Status, status.code ≠ w) → (notice w m).size ≤ sizeLimit →
      Delimits (decode s) (finish (notice w m)) (.error ⟨.unknown, m⟩) := by
  refine ⟨fun v => delimits_ok, ?_, ?_⟩
  · intro r hr hfit
    have h : Delimits (decode s) (refusal r) (.error ⟨Status.ofCode r.status.code, r.message⟩) :=
      delimits_notice (Status.code_ne_success hr) hfit
    rwa [Status.ofCode_code] at h
  · intro w m hw hfit
    have h := delimits_notice (s := s) (hw .success).symm hfit
    rwa [Status.ofCode_of_foreign hw] at h

/-- two entries, a refusal that a reader of entries meets, and a word that no status has -/
theorem delimited_entries :
    let v : List (Bytes × Bytes) := [("a".toUTF8, "1".toUTF8), ("b".toUTF8, ByteArray.empty)]
    (body .pairs (.ok v)).size ≤ sizeLimit ∧ Delimits (decode .pairs) (ok .pairs v) (.ok v) ∧
      (notice Status.notMaster.code "n1").size ≤ sizeLimit ∧
      Delimits (decode .pairs) (refusal ⟨.notMaster, "n1"⟩) (.error ⟨.notMaster, "n1"⟩) ∧
      (∀ status : Status, status.code ≠ 0x42) ∧ (notice 0x42 "n1").size ≤ sizeLimit ∧
      Delimits (decode .pairs) (finish (notice 0x42 "n1")) (.error ⟨.unknown, "n1"⟩) := by
  have foreign : ∀ status : Status, status.code ≠ 0x42 := by intro status; cases status <;> decide
  obtain ⟨payloads, refusals, strangers⟩ := delimited .pairs
  exact ⟨by decide +kernel, payloads _ (by decide +kernel), by decide +kernel,
    refusals _ (by decide) (by decide +kernel), foreign, by decide +kernel,
    strangers _ _ foreign (by decide +kernel)⟩

end Reply

end ReplicaKV
