/-
A client reads from a reply the outcome that the reply was made from.

- `decode_encode`: a reply that fits a frame is read as its outcome, and nothing behind it is touched.
- `decode_settles`: a reply that may be too long for a frame is read so, or refused as bad data, as long as its lengths
  and counts are below 2^32 (`Reply.Counted`).
- `decode_stays`: a reply is never too short for its reader, and no refusal is read from it but its own, however long
  the lists in it are.
-/
import ReplicaKV.Proofs.Request.RoundTrip
import ReplicaKV.Proofs.SortedMap
import ReplicaKV.Reply

namespace ReplicaKV

open ReplicaKV.Frame

/-! ## Payloads -/

theorem format_version :
    Format Version.put Version.read
      (fun v => lowBytes 4 v.major.toUInt32.toNat ++ (lowBytes 4 v.minor.toUInt32.toNat ++
        (lowBytes 4 v.patch.toUInt32.toNat ++ blob v.info.toUTF8)))
      fun v => v.info.utf8ByteSize < countLimit := by
  refine ⟨?_, ?_, ?_⟩
  · intro v w
    simp only [Version.put, format_i32.writes, format_text.writes, List.append_assoc]
  · intro v
    exact (format_i32.takes v.major).bind <| (format_i32.takes v.minor).bind <|
      (format_i32.takes v.patch).bind ((format_text.takes v.info).last _)
  · intro v hv
    exact (format_i32.settles v.major trivial).bind <| (format_i32.settles v.minor trivial).bind <|
      (format_i32.settles v.patch trivial).bind ((format_text.settles v.info hv).last _)

/-- the applied indexes of nodes -/
abbrev indexBytes (p : String × UInt64) : List UInt8 := blob p.1.toUTF8 ++ lowBytes 8 p.2.toNat

theorem format_indexes :
    Format (putList (putPair putText putU64)) (getList (getPair getText getU64)) (listing indexBytes)
      fun l => l.length < countLimit ∧ ∀ p ∈ l, p.1.utf8ByteSize < countLimit ∧ True :=
  format_list (format_pair format_text format_u64) fun p => by
    simp only [List.length_append, length_blob, length_lowBytes]; omega

theorem format_statistics :
    Format Statistics.put Statistics.read
      (fun s => lowBytes 8 s.start.bits.toNat ++ (lowBytes 8 s.last.bits.toNat ++ (lowBytes 8 s.sets.toNat ++
        (lowBytes 8 s.gets.toNat ++ (lowBytes 8 s.deletes.toNat ++ (lowBytes 8 s.multiGets.toNat ++
        (lowBytes 8 s.sequences.toNat ++ (lowBytes 8 s.entries.toNat ++ listing indexBytes s.applied.entries))))))))
      fun s => s.applied.size < countLimit ∧ ∀ p ∈ s.applied.entries, p.1.utf8ByteSize < countLimit := by
  refine ⟨?_, ?_, ?_⟩
  · intro s w
    simp only [Statistics.put, format_f64.writes, format_u64.writes, format_indexes.writes, List.append_assoc]
  · intro s
    have h := (format_indexes.takes s.applied.entries).last fun l =>
      Statistics.mk s.start s.last s.sets s.gets s.deletes s.multiGets s.sequences s.entries (.ofList l)
    rw [SortedMap.ofList_entries] at h
    exact (format_f64.takes s.start).bind <| (format_f64.takes s.last).bind <| (format_u64.takes s.sets).bind <|
      (format_u64.takes s.gets).bind <| (format_u64.takes s.deletes).bind <| (format_u64.takes s.multiGets).bind <|
      (format_u64.takes s.sequences).bind <| (format_u64.takes s.entries).bind h
  · intro s hs
    have h := (format_indexes.settles s.applied.entries ⟨hs.1, fun p hp => ⟨hs.2 p hp, trivial⟩⟩).last fun l =>
      Statistics.mk s.start s.last s.sets s.gets s.deletes s.multiGets s.sequences s.entries (.ofList l)
    rw [SortedMap.ofList_entries] at h
    exact (format_f64.settles s.start trivial).bind <| (format_f64.settles s.last trivial).bind <|
      (format_u64.settles s.sets trivial).bind <| (format_u64.settles s.gets trivial).bind <|
      (format_u64.settles s.deletes trivial).bind <| (format_u64.settles s.multiGets trivial).bind <|
      (format_u64.settles s.sequences trivial).bind <| (format_u64.settles s.entries trivial).bind h

/-- the bytes of an entry -/
abbrev pairBytes (p : Bytes × Bytes) : List UInt8 := blob p.1 ++ blob p.2

theorem pair_pos (p : Bytes × Bytes) : 0 < (pairBytes p).length := by
  simp only [List.length_append, length_blob]; omega

namespace Shape

/-- the bytes of a payload -/
def payload : (s : Shape) → s.Value → List UInt8
  | unit, _ => []
  | flag, v => flagByte v
  | count, v => lowBytes 8 v.toNat
  | bytes, v => blob v
  | text, v => blob v.toUTF8
  | optBytes, v => optional blob v
  | optText, v => optional (fun t => blob t.toUTF8) v
  | bytesList, v => listing blob v
  | pairs, v => listing pairBytes v
  | version, v => lowBytes 4 v.major.toUInt32.toNat ++ (lowBytes 4 v.minor.toUInt32.toNat ++
      (lowBytes 4 v.patch.toUInt32.toNat ++ blob v.info.toUTF8))
  | statistics, v => lowBytes 8 v.start.bits.toNat ++ (lowBytes 8 v.last.bits.toNat ++ (lowBytes 8 v.sets.toNat ++
      (lowBytes 8 v.gets.toNat ++ (lowBytes 8 v.deletes.toNat ++ (lowBytes 8 v.multiGets.toNat ++
      (lowBytes 8 v.sequences.toNat ++ (lowBytes 8 v.entries.toNat ++ listing indexBytes v.applied.entries)))))))

/-- every length and count in a payload fits in 32 bits -/
def Counted : (s : Shape) → s.Value → Prop
  | unit, _ | flag, _ | count, _ => True
  | bytes, v => v.size < countLimit
  | text, v => v.utf8ByteSize < countLimit
  | optBytes, v => ∀ b ∈ v, b.size < countLimit
  | optText, v => ∀ t ∈ v, t.utf8ByteSize < countLimit
  | bytesList, v => v.length < countLimit ∧ ∀ b ∈ v, b.size < countLimit
  | pairs, v => v.length < countLimit ∧ ∀ p ∈ v, p.1.size < countLimit ∧ p.2.size < countLimit
  | version, v => v.info.utf8ByteSize < countLimit
  | statistics, v => v.applied.size < countLimit ∧ ∀ p ∈ v.applied.entries, p.1.utf8ByteSize < countLimit

theorem format (s : Shape) : Format s.put s.read s.payload s.Counted := by
  cases s with
  | unit => exact ⟨fun _ w => (List.append_nil w.list).symm, fun _ => Takes.pure (), fun _ _ => Settles.pure ()⟩
  | flag => exact format_bool
  | count => exact format_u64
  | bytes => exact format_bytes
  | text => exact format_text
  | optBytes => exact format_optBytes
  | optText => exact format_option format_text
  | bytesList => exact format_bytesList
  | pairs => exact format_list (format_pair format_bytes format_bytes) pair_pos
  | version => exact format_version
  | statistics => exact format_statistics

/-- every length in a payload fits in 32 bits; the counts need not -/
def Measured : (s : Shape) → s.Value → Prop
  | bytesList, v => ∀ b ∈ v, b.size < countLimit
  | pairs, v => ∀ p ∈ v, p.1.size < countLimit ∧ p.2.size < countLimit
  | s, v => s.Counted v

theorem Counted.measured {s : Shape} {v : s.Value} (h : s.Counted v) : s.Measured v := by
  cases s with
  | bytesList | pairs => exact h.2
  | _ => exact h

theorem stays (s : Shape) {v : s.Value} (h : s.Measured v) : Stays s.read (s.payload v) := by
  cases s with
  | bytesList => exact stays_list fun b hb => settles_bytes (h b hb)
  | pairs => exact stays_list fun p hp => (format_pair format_bytes format_bytes).settles p (h p hp)
  | unit | flag | count | bytes | text | optBytes | optText | version | statistics =>
    exact ((format _).settles v h).stays

end Shape

/-! ## Replies -/

theorem Status.ofCode_code (s : Status) : ofCode s.code = s := by cases s <;> rfl

theorem Status.code_ne_success {s : Status} (h : s ≠ success) : s.code ≠ success.code := by
  intro hc
  apply h
  calc s = ofCode s.code := (ofCode_code s).symm
    _ = ofCode success.code := congrArg ofCode hc
    _ = success := ofCode_code success

namespace Reply

variable {s : Shape}

/-- a reply without the footer -/
def body (s : Shape) : Except Refusal s.Value → Bytes
  | .ok v => ByteArray.empty |> putU32 Status.success.code |> s.put v
  | .error r => ByteArray.empty |> putU32 r.status.code |> putText r.message

theorem encode_eq (o : Except Refusal s.Value) : encode s o = finish (body s o) := by cases o <;> rfl

theorem list_body_ok (v : s.Value) : (body s (.ok v)).list = lowBytes 4 Status.success.code.toNat ++ s.payload v := by
  calc (body s (.ok v)).list
    _ = (putU32 Status.success.code ByteArray.empty).list ++ s.payload v := s.format.writes _ _
    _ = lowBytes 4 Status.success.code.toNat ++ s.payload v := by rw [list_first]

/-- a status word and a message, without the footer -/
def notice (w : UInt32) (message : String) : Bytes := ByteArray.empty |> putU32 w |> putText message

theorem list_notice (w : UInt32) (m : String) : (notice w m).list = lowBytes 4 w.toNat ++ blob m.toUTF8 := by
  calc (notice w m).list
    _ = (putU32 w ByteArray.empty).list ++ blob m.toUTF8 := format_text.writes _ _
    _ = lowBytes 4 w.toNat ++ blob m.toUTF8 := by rw [list_first]

theorem list_body_error (r : Refusal) :
    (body s (.error r)).list = lowBytes 4 r.status.code.toNat ++ blob r.message.toUTF8 := list_notice _ _

/-- every length and count in a reply fits in 32 bits -/
def Counted (s : Shape) : Except Refusal s.Value → Prop
  | .ok v => s.Counted v
  | .error r => r.message.utf8ByteSize < countLimit

/-- an outcome that a reply can tell: refusals have a status of their own -/
def Sound (o : Except Refusal s.Value) : Prop := ∀ r, o = .error r → r.status ≠ .success

theorem sound_ok (v : s.Value) : Sound (.ok v : Except Refusal s.Value) := fun _ h => nomatch h

/-- what stands before the footer -/
def read (s : Shape) : Read (Except Refusal s.Value) := do
  let status ← getU32
  if status = Status.success.code then
    let v ← s.read
    return .ok v
  else
    let message ← getText
    return .error ⟨Status.ofCode status, message⟩

theorem decode_eq (s : Shape) : decode s = closed (read s) := by
  rw [decode, closed, read, bind_assoc]
  congr 1; funext status
  split_ifs <;> simp only [bind_assoc, pure_bind]

/-- the reader of any reply takes the whole of a notice -/
theorem takes_notice {w : UInt32} (hw : w ≠ Status.success.code) (m : String) :
    Takes (read s) (notice w m).list (.error ⟨Status.ofCode w, m⟩) := by
  rw [list_notice]
  refine (takes_u32 w).bind ?_
  rw [if_neg hw]
  exact (format_text.takes m).last fun m => (.error ⟨Status.ofCode w, m⟩ : Except Refusal s.Value)

theorem takes_read (o : Except Refusal s.Value) (h : Sound o) : Takes (read s) (body s o).list o := by
  cases o with
  | ok v =>
    rw [list_body_ok]
    refine (takes_u32 Status.success.code).bind ?_
    rw [if_pos rfl]
    exact (s.format.takes v).last _
  | error r =>
    have ht : Takes (read s) (notice r.status.code r.message).list (.error ⟨Status.ofCode r.status.code, r.message⟩) :=
      takes_notice (Status.code_ne_success (h r rfl)) r.message
    rwa [Status.ofCode_code] at ht

theorem settles_read (o : Except Refusal s.Value) (h : Sound o) (hc : Counted s o) :
    Settles (read s) (body s o).list o := by
  cases o with
  | ok v =>
    rw [list_body_ok]
    refine (settles_u32 Status.success.code).bind ?_
    rw [if_pos rfl]
    exact (s.format.settles v hc).last _
  | error r =>
    rw [list_body_error]
    refine (settles_u32 r.status.code).bind ?_
    rw [if_neg (Status.code_ne_success (h r rfl)), Status.ofCode_code]
    exact (format_text.settles r.message hc).last fun message => (.error ⟨r.status, message⟩ : Except Refusal s.Value)

theorem rest_encode (s : Shape) (o : Except Refusal s.Value) :
    (Stream.ofBytes (encode s o)).rest = (encode s o).list ++ [] := by
  rw [Stream.rest_ofBytes, List.append_nil]

/-- **A reply that fits is read as its outcome.** Nothing behind it is touched. -/
theorem decode_encode {o : Except Refusal s.Value} {st : Stream} {tail : List UInt8} (h : Sound o)
    (hfit : (body s o).size ≤ sizeLimit) (hs : st.rest = (encode s o).list ++ tail) :
    ∃ r', decode s (start st) = .ok o r' ∧ r'.stream.rest = tail ∧ r'.stream.ending = st.ending := by
  rw [decode_eq]
  exact read_frame (takes_read o h) hfit (encode_eq o ▸ hs)

/-- **A reply is read as its outcome, or refused as bad data.** -/
theorem decode_settles {o : Except Refusal s.Value} {st : Stream} {tail : List UInt8} (h : Sound o) (hc : Counted s o)
    (hs : st.rest = (encode s o).list ++ tail) :
    (∃ r', decode s (start st) = .ok o r' ∧ r'.stream.rest = tail ∧ r'.stream.ending = st.ending) ∨
      ∃ e r', decode s (start st) = .error e r' ∧ e.kind = .invalidData := by
  rw [decode_eq]
  exact settle_frame (settles_read o h hc) (encode_eq o ▸ hs)

/-- every length in a reply fits in 32 bits -/
def Measured (s : Shape) : Except Refusal s.Value → Prop
  | .ok v => s.Measured v
  | .error r => r.message.utf8ByteSize < countLimit

theorem Counted.measured {o : Except Refusal s.Value} (h : Counted s o) : Measured s o := by
  cases o with
  | ok v => exact Shape.Counted.measured h
  | error r => exact h

/-- where a refusal is read, the status word does not say success -/
theorem status_of_refusal {st : Stream} {r : Refusal} {r' : Reader} (h : decode s (start st) = .ok (.error r) r') :
    ∃ w r₁, getU32 (start st) = .ok w r₁ ∧ w ≠ Status.success.code := by
  rw [decode_eq] at h
  obtain ⟨r₁, h₁, -⟩ := closed_inv h
  obtain ⟨w, r₂, h₂, h₃⟩ := bind_inv h₁
  refine ⟨w, r₂, h₂, ?_⟩
  intro hw
  rw [if_pos hw] at h₃
  obtain ⟨v, r₃, -, h₅⟩ := bind_inv h₃
  cases (pure_inv h₅).1

theorem stays_read_ok {v : s.Value} (h : s.Measured v) : Stays (read s) (body s (.ok v)).list := by
  rw [list_body_ok]
  refine (settles_u32 Status.success.code).bind_stays ?_
  rw [if_pos rfl]
  exact (Shape.stays s h).last _

/-- a payload is read as some payload, or refused as bad data -/
theorem decode_ok_stays {v : s.Value} {st : Stream} {tail : List UInt8} (hm : s.Measured v)
    (hs : st.rest = (encode s (.ok v)).list ++ tail) :
    (∃ v' r', decode s (start st) = .ok (.ok v') r') ∨
      ∃ e r', decode s (start st) = .error e r' ∧ e.kind = .invalidData := by
  have hd : (∃ o r', decode s (start st) = .ok o r') ∨
      ∃ e r', decode s (start st) = .error e r' ∧ e.kind = .invalidData :=
    decode_eq s ▸ stay_frame (stays_read_ok hm) (encode_eq (.ok v) ▸ hs)
  rcases hd with ⟨v' | r, r', e⟩ | he
  · -- the status word says success
    obtain ⟨w, r₁, h₁, hw⟩ := status_of_refusal e
    have hrest : (start st).stream.rest = lowBytes 4 Status.success.code.toNat ++
        (s.payload v ++ (lowBytes 4 (Checksum.ofBytes (body s (.ok v))).toNat ++ tail)) := by
      rw [start, hs, encode_eq, list_finish, list_body_ok, List.append_assoc, List.append_assoc]
    obtain ⟨r₂, h₂, -⟩ := takes_u32 Status.success.code (start st) _ hrest (by simp [start, sizeLimit])
    rw [h₂] at h₁
    cases h₁
    exact absurd rfl hw
  · exact .inl ⟨r, r', e⟩
  · exact .inr he

/-- **A reply is never too short for its reader**, and no refusal is read from it but its own. -/
theorem decode_stays {o : Except Refusal s.Value} {st : Stream} {tail : List UInt8} (h : Sound o) (hm : Measured s o)
    (hs : st.rest = (encode s o).list ++ tail) :
    (∃ o' r', decode s (start st) = .ok o' r' ∧ ∀ r, o' = .error r → o = .error r) ∨
      ∃ e r', decode s (start st) = .error e r' ∧ e.kind = .invalidData := by
  cases o with
  | error r =>
    rcases decode_settles h hm hs with ⟨r', e, -⟩ | he
    · exact .inl ⟨_, r', e, fun _ h => h⟩
    · exact .inr he
  | ok v =>
    rcases decode_ok_stays hm hs with ⟨v', r', e⟩ | he
    · exact .inl ⟨.ok v', r', e, fun _ h => nomatch h⟩
    · exact .inr he

end Reply

end ReplicaKV
