/-
The frame of a request says itself where it ends.

- `piecewise_read`: a request is read piece by piece. So a node cannot tell a stream from a longer one before the shorter
  is used up (`forward_decode`).
- `self_delimiting`: a frame is read as its request, whatever stands behind it, and that is left alone; a frame cut off
  anywhere before its end ends too early, and so no frame is the beginning of another.
-/
import ReplicaKV.Proofs.Frame.Cut
import ReplicaKV.Proofs.Request.RoundTrip

namespace ReplicaKV

open ReplicaKV.Frame

theorem Stream.list_unread (s : Stream) : s.unread.list = s.rest := by
  have hl : s.data.list.length = s.data.size := list_size s.data
  simp only [unread, rest, Bytes.list, ByteArray.data_extract, Array.toList_extract]
  rw [List.extract_eq_take_drop]
  exact List.take_of_length_le (by rw [List.length_drop, hl])

/-- what was taken from a string, and what is left of it -/
theorem Stream.eq_append_unread {b p : Bytes} {s : Stream} (h : (ofBytes b).rest = p.list ++ s.rest) :
    b = p ++ s.unread := by
  apply Bytes.list_injective
  rw [Bytes.list_append, list_unread, ← h, rest_ofBytes]

/-! ## The parts of requests -/

theorem piecewise_optBytes : Piecewise (getOption getBytes) := piecewise_bytes.option

theorem piecewise_limit : Piecewise getLimit := piecewise_u32.bind fun _ => .pure _

theorem piecewise_range : Piecewise KeyRange.read :=
  piecewise_optBytes.bind fun _ => piecewise_bool.bind fun _ => piecewise_optBytes.bind fun _ =>
    piecewise_bool.bind fun _ => piecewise_limit.bind fun _ => .pure _

theorem piecewise_update : Piecewise Update.read := by
  refine piecewise_u32.bind fun tag => ?_
  split
  · exact piecewise_bytes.bind fun k => piecewise_bytes.bind fun v => .pure (Update.set k v)
  · exact piecewise_bytes.bind fun k => .pure (Update.delete k)
  · exact piecewise_bytes.bind fun k => piecewise_optBytes.bind fun v => .pure (Update.assert k v)
  · exact piecewise_bytes.bind fun k => .pure (Update.assertExists k)
  · exact .refuse _

/-- a word that is no opcode's is refused as bad data -/
theorem Opcode.ofWord_error {w : UInt32} {e : Fault} (h : ofWord w = .error e) : ∃ text, e = .invalid text := by
  unfold ofWord at h
  split_ifs at h
  · cases h; exact ⟨_, rfl⟩
  · split at h
    · cases h
    · cases h; exact ⟨_, rfl⟩

namespace Request

theorem piecewise_query {get : Read Query} (h : Piecewise get) : Piecewise (readQuery get) :=
  piecewise_bool.bind fun dirty => h.bind fun q => .pure (query q dirty)

theorem piecewise_arguments (op : Opcode) : Piecewise (arguments op) := by
  cases op with
  | whoMaster | version | getKeyCount | expectProgressPossible | statistics => exact .pure _
  | keyExists | get | assertExists => exact piecewise_query (piecewise_bytes.map _)
  | multiGet => exact piecewise_query (piecewise_bytes.list.map _)
  | assert => exact piecewise_query (piecewise_bytes.bind fun _ => piecewise_optBytes.bind fun _ => .pure _)
  | range | rangeEntries | revRangeEntries => exact piecewise_query (piecewise_range.map _)
  | keysWithPrefix => exact piecewise_query (piecewise_bytes.bind fun _ => piecewise_limit.bind fun _ => .pure _)
  | ping => exact piecewise_text.bind fun _ => piecewise_text.bind fun _ => .pure _
  | set | confirm => exact piecewise_bytes.bind fun _ => piecewise_bytes.bind fun _ => .pure _
  | delete => exact piecewise_bytes.bind fun _ => .pure _
  | testAndSet =>
    exact piecewise_bytes.bind fun _ => piecewise_optBytes.bind fun _ => piecewise_optBytes.bind fun _ => .pure _
  | sequence | syncedSequence => exact piecewise_update.list.bind fun _ => .pure _
  | userFunction => exact piecewise_text.bind fun _ => piecewise_optBytes.bind fun _ => .pure _

theorem piecewise_read : Piecewise read := by
  refine piecewise_u32.bind fun w => ?_
  cases hop : Opcode.ofWord w with
  | error e =>
    obtain ⟨text, rfl⟩ := Opcode.ofWord_error hop
    exact .refuse text
  | ok op => exact piecewise_arguments op

theorem forward_decode : Forward decode := decode_eq ▸ piecewise_read.forward.closed

/-- a frame cut off before its end ends too early -/
theorem decode_cut {r : Request} {s : Stream} {tail : List UInt8} (hfit : r.body.size ≤ sizeLimit)
    (hs : r.encode.list = s.rest ++ tail) (hcut : tail ≠ []) : ∃ r', decode (start s) = .error s.ending r' := by
  obtain ⟨r', hread, hall, -⟩ := decode_encode hfit r.rest_encode
  exact forward_decode.ended hread hall (r.rest_encode.trans (by rw [List.append_nil, hs])) hcut

/-- **The frame of a request says itself where it ends.** Whatever bytes stand behind it, a node reads the request as it
arrives and leaves these bytes alone. Of the frame without its end a node makes nothing, neither a request nor a fault
of the data: the bytes have ended too early. So no frame is the beginning of a longer one. -/
theorem self_delimiting {r : Request} (hfit : r.body.size ≤ sizeLimit) :
    (∀ rest : Bytes, ∃ r', decode (start (.ofBytes (r.encode ++ rest))) = .ok r.clamped r' ∧ r'.stream.unread = rest) ∧
    (∀ p : Bytes, p.list <+: r.encode.list → p ≠ r.encode →
      ∃ r', decode (start (.ofBytes p)) = .error .endOfInput r') ∧
    ∀ q : Request, q.encode.list <+: r.encode.list → q.encode = r.encode := by
  have hcut : ∀ p : Bytes, p.list <+: r.encode.list → p ≠ r.encode →
      ∃ r', decode (start (.ofBytes p)) = .error .endOfInput r' := by
    rintro p ⟨tail, htail⟩ hne
    refine decode_cut (s := .ofBytes p) hfit (htail.symm.trans (by rw [Stream.rest_ofBytes])) ?_
    rintro rfl
    rw [List.append_nil] at htail
    exact hne (Bytes.list_injective htail)
  refine ⟨?_, hcut, ?_⟩
  · intro rest
    have hs : (Stream.ofBytes (r.encode ++ rest)).rest = r.encode.list ++ rest.list := by
      rw [Stream.rest_ofBytes]; simp [Bytes.list]
    obtain ⟨r', hread, hrest, -⟩ := decode_encode hfit hs
    exact ⟨r', hread, Bytes.list_injective ((Stream.list_unread _).trans hrest)⟩
  · -- the shorter of two frames fits if the longer does, so it would be read and end too early
    intro q hq
    by_contra hne
    have hqfit : q.body.size ≤ sizeLimit := by
      have hlen := hq.length_le
      rw [list_size, list_size, size_encode, size_encode] at hlen
      omega
    obtain ⟨x, hx, -⟩ := decode_encode hqfit q.rest_encode
    obtain ⟨y, hy⟩ := hcut q.encode hq hne
    rw [hx] at hy
    cases hy

/-- a range whose limit is too large for a signed word -/
theorem self_delimiting_range :
    let r := Request.query (.rangeEntries ⟨some "a".toUTF8, true, none, false, some 0xffffffff⟩) true
    r.body.size ≤ sizeLimit ∧
      r.clamped = .query (.rangeEntries ⟨some "a".toUTF8, true, none, false, some 0x7fffffff⟩) true ∧
      (∀ rest : Bytes, ∃ r', decode (start (.ofBytes (r.encode ++ rest))) = .ok r.clamped r' ∧
        r'.stream.unread = rest) ∧
      (∀ p : Bytes, p.list <+: r.encode.list → p ≠ r.encode →
        ∃ r', decode (start (.ofBytes p)) = .error .endOfInput r') ∧
      ∀ q : Request, q.encode.list <+: r.encode.list → q.encode = r.encode :=
  ⟨by decide +kernel, by decide +kernel, self_delimiting (by decide +kernel)⟩

end Request

end ReplicaKV
