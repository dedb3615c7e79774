/-
A node reads from a frame the request that the frame was made from.

- `Request.clamped`: a request as it arrives. A limit above the largest signed word arrives as that word; all else is
  unchanged (`clamped_of_query`: and so is a limit that a client lets through).
- `decode_encode`: the frame of a request, if it fits, is read as that request, and nothing behind it is touched.
-/
import ReplicaKV.Limits
import ReplicaKV.Proofs.Frame.Format

namespace ReplicaKV

open ReplicaKV.Frame

/-! ## Limits -/

/-- a limit as it arrives -/
def clampLimit : Option UInt32 → Option UInt32
  | none => none
  | some n => some (if limitMax < n then limitMax else n)

def KeyRange.clamped (r : KeyRange) : KeyRange := { r with limit := clampLimit r.limit }

def Query.clamped : Query → Query
  | .range r => .range r.clamped
  | .rangeEntries r => .rangeEntries r.clamped
  | .revRangeEntries r => .revRangeEntries r.clamped
  | .keysWithPrefix p limit => .keysWithPrefix p (clampLimit limit)
  | q => q

/-- a request as it arrives -/
def Request.clamped : Request → Request
  | .query q dirty => .query q.clamped dirty
  | r => r

/-- the word of a limit -/
def limitWord : Option UInt32 → UInt32
  | none => 0xffffffff
  | some n => if limitMax < n then limitMax else n

theorem list_putLimit (l : Option UInt32) (w : Bytes) :
    (putLimit l w).list = w.list ++ lowBytes 4 (limitWord l).toNat := by
  cases l <;> exact list_putLittleEndian _ _ _

theorem takes_limit (l : Option UInt32) : Takes getLimit (lowBytes 4 (limitWord l).toNat) (clampLimit l) := by
  have h := (takes_u32 (limitWord l)).last fun n => if limitMax < n then none else some n
  have hw : (if limitMax < limitWord l then none else some (limitWord l)) = clampLimit l := by
    cases l with
    | none => rfl
    | some n =>
      have hn : ¬limitMax < limitWord (some n) := by
        simp only [limitWord]
        split_ifs with hn
        · exact UInt32.lt_irrefl limitMax
        · exact hn
      rw [if_neg hn]; rfl
  rwa [hw] at h

theorem clampLimit_of_allowed {l : Option UInt32} (h : Misuse.ofLimit l = none) : clampLimit l = l := by
  cases l with
  | none => rfl
  | some n =>
    have hn : ¬limitMax < n := by
      intro hn
      simp [Misuse.ofLimit, Misuse.when, hn] at h
    simp [clampLimit, hn]

theorem clamped_of_range {r : KeyRange} (h : Misuse.ofRange r = none) : r.clamped = r := by
  simp only [Misuse.ofRange, Option.orElse_eq_none] at h
  simp [KeyRange.clamped, clampLimit_of_allowed h.2.2]

/-- the queries that a client lets through arrive as they are -/
theorem clamped_of_query {q : Query} (h : q.misuse = none) : q.clamped = q := by
  cases q with
  | range r | rangeEntries r | revRangeEntries r => simp [Query.clamped, clamped_of_range h]
  | keysWithPrefix p limit =>
    simp only [Query.misuse, Option.orElse_eq_none] at h
    simp [Query.clamped, clampLimit_of_allowed h.2]
  | _ => rfl

/-! ## The parts of requests -/

theorem format_optBytes :
    Format (putOption putBytes) (getOption getBytes) (optional blob) fun o => ∀ b ∈ o, b.size < countLimit :=
  format_option format_bytes

theorem blob_pos (b : Bytes) : 0 < (blob b).length := by rw [length_blob]; omega

theorem format_bytesList :
    Format (putList putBytes) (getList getBytes) (listing blob)
      fun l => l.length < countLimit ∧ ∀ b ∈ l, b.size < countLimit :=
  format_list format_bytes blob_pos

/-- the bytes of a range -/
def KeyRange.bytes (r : KeyRange) : List UInt8 :=
  optional blob r.first ++ (flagByte r.firstInclusive ++ (optional blob r.last ++ (flagByte r.lastInclusive ++
    lowBytes 4 (limitWord r.limit).toNat)))

theorem list_putRange (r : KeyRange) (w : Bytes) : (r.put w).list = w.list ++ r.bytes := by
  simp only [KeyRange.put, KeyRange.bytes, list_putLimit, format_bool.writes, format_optBytes.writes, List.append_assoc]

theorem takes_range (r : KeyRange) : Takes KeyRange.read r.bytes r.clamped :=
  (format_optBytes.takes r.first).bind <| (takes_bool r.firstInclusive).bind <|
    (format_optBytes.takes r.last).bind <| (takes_bool r.lastInclusive).bind <|
      (takes_limit r.limit).last (KeyRange.mk r.first r.firstInclusive r.last r.lastInclusive)

/-- the bytes of an update -/
def Update.bytes (u : Update) : List UInt8 :=
  lowBytes 4 u.tag.toNat ++ match u with
    | .set k v => blob k ++ blob v
    | .delete k | .assertExists k => blob k
    | .assert k v => blob k ++ optional blob v

theorem list_putUpdate (u : Update) (w : Bytes) : (u.put w).list = w.list ++ u.bytes := by
  cases u <;>
    simp only [Update.put, Update.bytes, list_putBytes, format_u32.writes, format_optBytes.writes, List.append_assoc]

theorem takes_update (u : Update) : Takes Update.read u.bytes u := by
  refine (takes_u32 u.tag).bind ?_
  cases u with
  | set k v => exact (takes_bytes k).bind ((takes_bytes v).last _)
  | delete k => exact (takes_bytes k).last _
  | assert k v => exact (takes_bytes k).bind ((format_optBytes.takes v).last _)
  | assertExists k => exact (takes_bytes k).last _

theorem update_pos (u : Update) : 0 < u.bytes.length := by
  simp only [Update.bytes, List.length_append, length_lowBytes]; omega

theorem takes_updates (us : List Update) : Takes (getList Update.read) (listing Update.bytes us) us :=
  takes_list update_pos us fun u _ => takes_update u

/-- the bytes of a query after the dirty flag -/
def Query.bytes : Query → List UInt8
  | keyExists k | get k | assertExists k => blob k
  | multiGet ks => listing blob ks
  | assert k v => blob k ++ optional blob v
  | range r | rangeEntries r | revRangeEntries r => r.bytes
  | keysWithPrefix p limit => blob p ++ lowBytes 4 (limitWord limit).toNat

def Command.bytes : Command → List UInt8
  | ping clientId clusterId => blob clientId.toUTF8 ++ blob clusterId.toUTF8
  | set k v | confirm k v => blob k ++ blob v
  | delete k => blob k
  | testAndSet k expected wanted => blob k ++ (optional blob expected ++ optional blob wanted)
  | sequence us _ => listing Update.bytes us
  | userFunction name argument => blob name.toUTF8 ++ optional blob argument
  | getKeyCount | expectProgressPossible | statistics => []

/-! ## Requests -/

namespace Request

/-- the bytes after the opcode -/
def argumentBytes : Request → List UInt8
  | whoMaster | version => []
  | query q dirty => flagByte dirty ++ q.bytes
  | command c => c.bytes

theorem list_body (r : Request) : r.body.list = lowBytes 4 r.opcode.word.toNat ++ r.argumentBytes := by
  have h := list_first r.opcode.word
  cases r with
  | whoMaster | version => rw [body, h, argumentBytes, List.append_nil]
  | query q dirty =>
    cases q <;>
      simp only [body, argumentBytes, Query.bytes, Query.put, list_putBytes, list_putRange, list_putLimit,
        format_bool.writes, format_optBytes.writes, format_bytesList.writes, h, List.append_assoc]
  | command c =>
    cases c <;>
      simp only [body, argumentBytes, Command.bytes, Command.put, list_putBytes, format_text.writes,
        format_optBytes.writes, list_putList list_putUpdate, h, List.append_assoc, List.append_nil]

theorem takes_query {get : Read Query} {bs : List UInt8} {q : Query} (dirty : Bool) (h : Takes get bs q) :
    Takes (readQuery get) (flagByte dirty ++ bs) (query q dirty) :=
  (takes_bool dirty).bind (h.last _)

/-- the arguments that follow an opcode are read as the writer of that opcode wrote them -/
theorem takes_arguments (r : Request) : Takes (arguments r.opcode) r.argumentBytes r.clamped := by
  cases r with
  | whoMaster | version => exact Takes.pure _
  | query q dirty =>
    cases q with
    | keyExists k | get k | assertExists k => exact takes_query dirty ((takes_bytes k).map _)
    | multiGet ks => exact takes_query dirty ((format_bytesList.takes ks).map _)
    | assert k v => exact takes_query dirty ((takes_bytes k).bind ((format_optBytes.takes v).last _))
    | range r | rangeEntries r | revRangeEntries r => exact takes_query dirty ((takes_range r).map _)
    | keysWithPrefix p limit => exact takes_query dirty ((takes_bytes p).bind ((takes_limit limit).last _))
  | command c =>
    cases c with
    | ping clientId clusterId => exact (format_text.takes clientId).bind ((format_text.takes clusterId).last _)
    | set k v | confirm k v => exact (takes_bytes k).bind ((takes_bytes v).last _)
    | delete k => exact (takes_bytes k).last _
    | testAndSet k expected wanted =>
      exact (takes_bytes k).bind ((format_optBytes.takes expected).bind ((format_optBytes.takes wanted).last _))
    | sequence us sync => cases sync <;> exact (takes_updates us).last _
    | userFunction name argument => exact (format_text.takes name).bind ((format_optBytes.takes argument).last _)
    | getKeyCount | expectProgressPossible | statistics => exact Takes.pure _

theorem ofWord_word (op : Opcode) : Opcode.ofWord op.word = .ok op := by cases op <;> rfl

/-- a request without the footer -/
def read : Read Request := do
  let w ← getU32
  match Opcode.ofWord w with
  | .error e => throw e
  | .ok op => arguments op

theorem decode_eq : decode = closed read := by
  rw [decode, closed, read, bind_assoc]
  congr 1; funext w
  cases Opcode.ofWord w <;> rfl

theorem takes_read (r : Request) : Takes read r.body.list r.clamped := by
  rw [list_body]
  refine (takes_u32 r.opcode.word).bind ?_
  rw [ofWord_word]
  exact takes_arguments r

/-- **A frame is read as the request it was made from.** Nothing behind the frame is touched. -/
theorem decode_encode {r : Request} {s : Stream} {tail : List UInt8} (hfit : r.body.size ≤ sizeLimit)
    (hs : s.rest = r.encode.list ++ tail) :
    ∃ r', decode (start s) = .ok r.clamped r' ∧ r'.stream.rest = tail ∧ r'.stream.ending = s.ending := by
  rw [decode_eq]
  exact read_frame (takes_read r) hfit hs

theorem size_encode (r : Request) : r.encode.size = r.body.size + footerSize := size_finish _

theorem rest_encode (r : Request) : (Stream.ofBytes r.encode).rest = r.encode.list ++ [] := by
  rw [Stream.rest_ofBytes, List.append_nil]

/-- requests with one frame arrive as one request -/
theorem clamped_eq_of_encode {r r' : Request} (hfit : r.body.size ≤ sizeLimit) (h : r.encode = r'.encode) :
    r.clamped = r'.clamped := by
  have hsize : r'.body.size ≤ sizeLimit := by
    have := congrArg ByteArray.size h
    rw [size_encode, size_encode] at this
    omega
  obtain ⟨x, hx, -⟩ := decode_encode hfit r.rest_encode
  obtain ⟨y, hy, -⟩ := decode_encode hsize r'.rest_encode
  rw [h, hy] at hx
  injection hx with hx
  exact hx.symm

theorem eq_whoMaster_of_encode {r : Request} (h : r.encode = encode .whoMaster) : r = .whoMaster := by
  have hr : whoMaster.clamped = r.clamped := clamped_eq_of_encode (by decide) h.symm
  cases r with
  | whoMaster => rfl
  | version | query | command => cases hr

end Request

end ReplicaKV
