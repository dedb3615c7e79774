/-
Writers and readers that agree on a format, and frames built from them.

- `Format put get bytes Counted`: put appends the bytes of a value, and get takes exactly these off again. Where every
  length and count in the value is below 2^32, get is not misled by bytes that do not fit the frame either.
- Options, lists and pairs of formats are formats. `stays_list`: a list is not misled by its items, however many.
- `read_frame`: reading a whole frame, footer included; `settle_frame` and `stay_frame`: the same where it may be too
  long, or its counts wrong.
-/
import ReplicaKV.Proofs.Frame.Reading
import ReplicaKV.Reply

namespace ReplicaKV.Frame

/-- lengths and counts are written in 32 bits -/
def countLimit : Nat := 0x100000000

/-- put appends the bytes of a value, and get takes them off again -/
structure Format {α : Type} (put : α → Bytes → Bytes) (get : Read α) (bytes : α → List UInt8)
    (Counted : α → Prop) : Prop where
  writes : ∀ v w, (put v w).list = w.list ++ bytes v
  takes : ∀ v, Takes get (bytes v) v
  settles : ∀ v, Counted v → Settles get (bytes v) v

/-! ## Words and flags -/

theorem list_push (w : Bytes) (b : UInt8) : Bytes.list (w.push b) = w.list ++ [b] := by
  simp [Bytes.list]

theorem list_putLittleEndian (n v : Nat) (w : Bytes) : (putLittleEndian n v w).list = w.list ++ lowBytes n v := by
  induction n generalizing v w with
  | zero => simp [putLittleEndian, lowBytes]
  | succ n ih => rw [putLittleEndian, ih, list_push, lowBytes, List.append_assoc, List.singleton_append]

theorem format_u32 : Format putU32 getU32 (fun v => lowBytes 4 v.toNat) fun _ => True :=
  ⟨fun _ _ => list_putLittleEndian _ _ _, takes_u32, fun v _ => settles_u32 v⟩

/-- requests and replies begin with a word -/
theorem list_first (v : UInt32) : (putU32 v ByteArray.empty).list = lowBytes 4 v.toNat :=
  (format_u32.writes _ _).trans (List.nil_append _)

theorem format_u64 : Format putU64 getU64 (fun v => lowBytes 8 v.toNat) fun _ => True :=
  ⟨fun _ _ => list_putLittleEndian _ _ _, takes_u64, fun v _ => settles_u64 v⟩

theorem format_i32 : Format putI32 getI32 (fun v => lowBytes 4 v.toUInt32.toNat) fun _ => True := by
  refine ⟨fun _ _ => list_putLittleEndian _ _ _, ?_, ?_⟩
  · intro v
    have h := (takes_u32 v.toUInt32).map UInt32.toInt32
    rwa [Int32.toInt32_toUInt32] at h
  · intro v _
    have h := (settles_u32 v.toUInt32).map UInt32.toInt32
    rwa [Int32.toInt32_toUInt32] at h

theorem format_f64 : Format putF64 getF64 (fun v => lowBytes 8 v.bits.toNat) fun _ => True :=
  ⟨fun _ _ => list_putLittleEndian _ _ _, fun v => (takes_u64 v.bits).map Binary64.mk,
    fun v _ => (settles_u64 v.bits).map Binary64.mk⟩

/-- the byte of a flag -/
def flagByte (v : Bool) : List UInt8 := [if v then 1 else 0]

theorem takes_bool (v : Bool) : Takes getBool (flagByte v) v := by
  have h : Takes getBool (flagByte v ++ []) v := by
    refine Takes.bind (takes_raw (ofList (flagByte v))) ?_
    cases v <;> exact Takes.pure _
  rwa [List.append_nil] at h

theorem settles_bool (v : Bool) : Settles getBool (flagByte v) v :=
  (takes_bool v).settles fun r h => by
    obtain ⟨e, r', he, hk⟩ := getRaw_too_long (n := 1) h
    exact ⟨e, r', bind_error he, hk⟩

theorem format_bool : Format putBool getBool flagByte fun _ => True :=
  ⟨fun _ _ => list_push _ _, takes_bool, fun v _ => settles_bool v⟩

/-! ## Byte strings and text -/

/-- the bytes of a length or count -/
def countBytes (n : Nat) : List UInt8 := lowBytes 4 (UInt32.ofNat n).toNat

theorem list_putCount (n : Nat) (w : Bytes) : (putCount n w).list = w.list ++ countBytes n :=
  list_putLittleEndian _ _ _

theorem length_countBytes (n : Nat) : (countBytes n).length = 4 := length_lowBytes _ _

theorem toNat_count {n : Nat} (h : n < countLimit) : (UInt32.ofNat n).toNat = n :=
  UInt32.toNat_ofNat_of_lt' h

/-- the bytes of a byte string: its length and itself -/
def blob (b : Bytes) : List UInt8 := countBytes b.size ++ b.list

theorem length_blob (b : Bytes) : (blob b).length = 4 + b.size := by
  rw [blob, List.length_append, length_countBytes, list_size]

theorem list_putBytes (b w : Bytes) : (putBytes b w).list = w.list ++ blob b := by
  have h : (putBytes b w).list = (putCount b.size w).list ++ b.list := by
    simp [putBytes, Bytes.list]
  rw [h, list_putCount, blob, List.append_assoc]

theorem takes_bytes (b : Bytes) : Takes getBytes (blob b) b := by
  intro r tail hr hfit
  have hs : b.size < countLimit := by rw [length_blob] at hfit; unfold sizeLimit at hfit; unfold countLimit; omega
  have hread : Takes getBytes (blob b) b := by
    refine (takes_u32 (UInt32.ofNat b.size)).bind ?_
    rw [toNat_count hs]
    have hl : ¬sizeLimit < b.size := by rw [length_blob] at hfit; omega
    simp only [if_neg hl]
    exact takes_raw b
  exact hread r tail hr hfit

theorem settles_bytes {b : Bytes} (h : b.size < countLimit) : Settles getBytes (blob b) b := by
  refine (settles_u32 (UInt32.ofNat b.size)).bind ?_
  rw [toNat_count h]
  by_cases hl : sizeLimit < b.size
  · simp only [if_pos hl]
    exact fun r _ _ => .inr ⟨.invalid s!"byte string length {b.size} too large", r, rfl, rfl⟩
  · simp only [if_neg hl]
    exact settles_raw b

theorem format_bytes : Format putBytes getBytes blob fun b => b.size < countLimit :=
  ⟨list_putBytes, takes_bytes, fun _ => settles_bytes⟩

/-- a text is read back from its bytes -/
theorem decode_toUTF8 (s : String) : Utf8.decode s.toUTF8 = .ok s := by
  have h : String.fromUTF8? s.toUTF8 = some s := dif_pos s.isValidUTF8
  simp only [Utf8.decode, h]

/-- what is read as a text is the bytes of that text -/
theorem toUTF8_of_decode {b : Bytes} {s : String} (h : Utf8.decode b = .ok s) : s.toUTF8 = b := by
  simp only [Utf8.decode, String.fromUTF8?] at h
  split at h
  · rename_i s' hs
    split_ifs at hs
    cases hs; cases h; rfl
  · cases h

theorem format_text : Format putText getText (fun s => blob s.toUTF8) fun s => s.utf8ByteSize < countLimit := by
  refine ⟨fun _ _ => list_putBytes _ _, ?_, ?_⟩
  · intro s
    have h : Takes getText (blob s.toUTF8 ++ []) s := by
      refine (takes_bytes s.toUTF8).bind ?_
      simp only [decode_toUTF8]
      exact Takes.pure s
    rwa [List.append_nil] at h
  · intro s hs
    have h : Settles getText (blob s.toUTF8 ++ []) s := by
      refine Settles.bind (v := s.toUTF8) (settles_bytes hs) ?_
      simp only [decode_toUTF8]
      exact Settles.pure s
    rwa [List.append_nil] at h

/-! ## Options, lists and pairs -/

section

variable {α β : Type} {put : α → Bytes → Bytes} {get : Read α} {bytes : α → List UInt8} {Counted : α → Prop}

/-- the bytes of an optional value -/
def optional (bytes : α → List UInt8) : Option α → List UInt8
  | none => flagByte false
  | some v => flagByte true ++ bytes v

theorem format_option (h : Format put get bytes Counted) :
    Format (putOption put) (getOption get) (optional bytes) fun o => ∀ v ∈ o, Counted v := by
  refine ⟨?_, ?_, ?_⟩
  · intro o w
    cases o with
    | none => exact list_push _ _
    | some v =>
      rw [putOption, h.writes, format_bool.writes, optional, List.append_assoc]
  · intro o
    cases o with
    | none => exact (takes_bool false).bind (Takes.pure none)
    | some v => exact (takes_bool true).bind ((h.takes v).map some)
  · intro o ho
    cases o with
    | none => exact (settles_bool false).bind (Settles.pure none)
    | some v => exact (settles_bool true).bind ((h.settles v (ho v rfl)).map some)

/-- the bytes of a list: its count and the items -/
def listing (bytes : α → List UInt8) (l : List α) : List UInt8 := countBytes l.length ++ l.flatMap bytes

theorem list_putItems (h : ∀ v w, (put v w).list = w.list ++ bytes v) (l : List α) (w : Bytes) :
    (l.foldl (fun w v => put v w) w).list = w.list ++ l.flatMap bytes := by
  induction l generalizing w with
  | nil => simp
  | cons v l ih => rw [List.foldl_cons, ih, h, List.flatMap_cons, List.append_assoc]

theorem list_putList (h : ∀ v w, (put v w).list = w.list ++ bytes v) (l : List α) (w : Bytes) :
    (putList put l w).list = w.list ++ listing bytes l := by
  rw [putList, list_putItems h, list_putCount, listing, List.append_assoc]

theorem takes_items (l acc : List α) (h : ∀ v ∈ l, Takes get (bytes v) v) :
    Takes (getItems get l.length acc) (l.flatMap bytes) (acc.reverse ++ l) := by
  induction l generalizing acc with
  | nil => rw [List.append_nil]; exact Takes.pure _
  | cons v l ih =>
    have hl := ih (v :: acc) fun u hu => h u (List.mem_cons_of_mem _ hu)
    rw [List.reverse_cons, List.append_assoc, List.singleton_append] at hl
    exact (h v List.mem_cons_self).bind hl

theorem settles_items (l acc : List α) (h : ∀ v ∈ l, Settles get (bytes v) v) :
    Settles (getItems get l.length acc) (l.flatMap bytes) (acc.reverse ++ l) := by
  induction l generalizing acc with
  | nil => rw [List.append_nil]; exact Settles.pure _
  | cons v l ih =>
    have hl := ih (v :: acc) fun u hu => h u (List.mem_cons_of_mem _ hu)
    rw [List.reverse_cons, List.append_assoc, List.singleton_append] at hl
    exact (h v List.mem_cons_self).bind hl

/-- items that take a byte or more are no more than their bytes -/
theorem length_le_flatMap (hpos : ∀ v, 0 < (bytes v).length) (l : List α) : l.length ≤ (l.flatMap bytes).length := by
  induction l with
  | nil => simp
  | cons v l ih =>
    have := hpos v
    rw [List.length_cons, List.flatMap_cons, List.length_append]
    omega

theorem takes_list (hpos : ∀ v, 0 < (bytes v).length) (l : List α) (h : ∀ v ∈ l, Takes get (bytes v) v) :
    Takes (getList get) (listing bytes l) l := by
  intro r tail hr hfit
  have hn : l.length < countLimit := by
    have := length_le_flatMap hpos l
    rw [listing, List.length_append, length_countBytes] at hfit
    unfold sizeLimit at hfit; unfold countLimit; omega
  have hread : Takes (getList get) (listing bytes l) l := by
    refine (takes_u32 (UInt32.ofNat l.length)).bind ?_
    rw [toNat_count hn]
    exact takes_items l [] h
  exact hread r tail hr hfit

theorem settles_list {l : List α} (hn : l.length < countLimit) (h : ∀ v ∈ l, Settles get (bytes v) v) :
    Settles (getList get) (listing bytes l) l := by
  refine (settles_u32 (UInt32.ofNat l.length)).bind ?_
  rw [toNat_count hn]
  exact settles_items l [] h

/-- items that are not mistaken for others leave a list that is not misled, whatever its count says -/
theorem stays_list {l : List α} (h : ∀ v ∈ l, Settles get (bytes v) v) : Stays (getList get) (listing bytes l) := by
  refine (settles_u32 (UInt32.ofNat l.length)).bind_stays ?_
  -- the count may be too small, but it is never too large
  have hn : (UInt32.ofNat l.length).toNat ≤ l.length := by
    rw [UInt32.toNat_ofNat']; exact Nat.mod_le _ _
  obtain ⟨n, hn', hle⟩ : ∃ n, (UInt32.ofNat l.length).toNat = n ∧ n ≤ l.length := ⟨_, rfl, hn⟩
  rw [hn', ← List.take_append_drop n l, List.flatMap_append]
  have hs := settles_items (l.take n) [] fun v hv => h v (List.mem_of_mem_take hv)
  rw [List.length_take, Nat.min_eq_left hle] at hs
  exact hs.stays.append _

theorem format_list (h : Format put get bytes Counted) (hpos : ∀ v, 0 < (bytes v).length) :
    Format (putList put) (getList get) (listing bytes) fun l => l.length < countLimit ∧ ∀ v ∈ l, Counted v :=
  ⟨list_putList h.writes, fun l => takes_list hpos l fun v _ => h.takes v,
    fun _ hl => settles_list hl.1 fun v hv => h.settles v (hl.2 v hv)⟩

theorem format_pair {put' : β → Bytes → Bytes} {get' : Read β} {bytes' : β → List UInt8} {Counted' : β → Prop}
    (h : Format put get bytes Counted) (h' : Format put' get' bytes' Counted') :
    Format (putPair put put') (getPair get get') (fun p => bytes p.1 ++ bytes' p.2)
      fun p => Counted p.1 ∧ Counted' p.2 := by
  refine ⟨?_, ?_, ?_⟩
  · intro p w
    rw [putPair, h'.writes, h.writes, List.append_assoc]
  · intro p
    exact (h.takes p.1).bind ((h'.takes p.2).map _)
  · intro p hp
    exact (h.settles p.1 hp.1).bind ((h'.settles p.2 hp.2).map _)

end

/-! ## Whole frames -/

theorem list_finish (w : Bytes) : (finish w).list = w.list ++ lowBytes 4 (Checksum.ofBytes w).toNat :=
  list_putLittleEndian _ _ _

theorem size_finish (w : Bytes) : (finish w).size = w.size + footerSize := by
  rw [← list_size, list_finish, List.length_append, list_size, length_lowBytes, footerSize]

/-- close takes the footer that belongs to what was read -/
theorem close_ok {r : Reader} {tail : List UInt8} (h : r.stream.rest = lowBytes 4 r.crc.toNat ++ tail) :
    ∃ r', close r = .ok () r' ∧ r'.stream.rest = tail ∧ r'.stream.ending = r.stream.ending := by
  obtain ⟨r', e, h₁, h₂, -, h₄⟩ := takeExactly_of_rest (b := ofList (lowBytes 4 r.crc.toNat)) h
  refine ⟨r', ?_, h₁, h₂⟩
  have hs : (ofList (lowBytes 4 r.crc.toNat)).size = footerSize := by
    rw [← list_size]; exact length_lowBytes _ _
  rw [hs] at e
  simp only [close, e, word32, h₄, if_true]

variable {α : Type} {get : Read α}

/-- a reader of everything before the footer -/
def closed (get : Read α) : Read α := do
  let v ← get
  close
  return v

theorem closed_ok {r r' r'' : Reader} {v : α} (h : get r = .ok v r') (h' : close r' = .ok () r'') :
    closed get r = .ok v r'' := by
  rw [closed, bind_ok h, bind_ok h']; rfl

/-- a frame that fits is read whole, and nothing behind it -/
theorem read_frame {w : Bytes} {v : α} {s : Stream} {tail : List UInt8} (ht : Takes get w.list v)
    (hfit : w.size ≤ sizeLimit) (hs : s.rest = (finish w).list ++ tail) :
    ∃ r', closed get (start s) = .ok v r' ∧ r'.stream.rest = tail ∧ r'.stream.ending = s.ending := by
  rw [list_finish, List.append_assoc] at hs
  obtain ⟨r₁, e₁, p₁⟩ := ht (start s) _ hs (by rw [list_size]; simpa [start] using hfit)
  have hcrc : r₁.crc = Checksum.ofBytes w := by rw [p₁.crc, Checksum.ofBytes, Checksum.extend_eq]; rfl
  obtain ⟨r₂, e₂, h₂, h₃⟩ := close_ok (r := r₁) (by rw [p₁.tail hs, hcrc])
  exact ⟨r₂, closed_ok e₁ e₂, h₂, h₃.trans p₁.ending⟩

/-- a frame is read whole, or refused as bad data -/
theorem settle_frame {w : Bytes} {v : α} {s : Stream} {tail : List UInt8} (ht : Settles get w.list v)
    (hs : s.rest = (finish w).list ++ tail) :
    (∃ r', closed get (start s) = .ok v r' ∧ r'.stream.rest = tail ∧ r'.stream.ending = s.ending) ∨
      ∃ e r', closed get (start s) = .error e r' ∧ e.kind = .invalidData := by
  rw [list_finish, List.append_assoc] at hs
  rcases ht (start s) _ hs with ⟨r₁, e₁, p₁⟩ | ⟨e, r₁, e₁, hk⟩
  · have hcrc : r₁.crc = Checksum.ofBytes w := by rw [p₁.crc, Checksum.ofBytes, Checksum.extend_eq]; rfl
    obtain ⟨r₂, e₂, h₂, h₃⟩ := close_ok (r := r₁) (by rw [p₁.tail hs, hcrc])
    exact .inl ⟨r₂, closed_ok e₁ e₂, h₂, h₃.trans p₁.ending⟩
  · exact .inr ⟨e, r₁, by rw [closed, bind_error e₁], hk⟩

/-- there are too few bytes for a footer, or the next four bytes are one, and are compared with the checksum -/
theorem close_cases (r : Reader) :
    (∃ r', r.stream.left < footerSize ∧ close r = .error r.stream.ending r' ∧ r'.stream.rest = []) ∨
    ∃ footer r', r.stream.rest = lowBytes 4 footer.toNat ++ r'.stream.rest ∧
      (footer = r.crc ∧ close r = .ok () r' ∨
        ∃ text, footer ≠ r.crc ∧ close r = .error (.invalid text) r') := by
  by_cases hn : r.stream.rest.length < footerSize
  · obtain ⟨r', h, hrest⟩ := takeExactly_short hn
    refine .inl ⟨r', by rwa [Stream.left_eq], ?_, hrest⟩
    simp only [close, h]
  · let b := ofList (r.stream.rest.take footerSize)
    have hb : b.list.length = 4 :=
      (List.length_take ..).trans (Nat.min_eq_left (Nat.not_lt.1 hn))
    have hrest : r.stream.rest = b.list ++ r.stream.rest.drop footerSize := (List.take_append_drop _ _).symm
    obtain ⟨r', h, hr', -, -, hcrc⟩ := takeExactly_of_rest hrest
    rw [← list_size, hb] at h
    refine .inr ⟨UInt32.ofNat (littleEndian b.list), r', ?_, ?_⟩
    · rw [lowBytes_word32 hb, hr', ← hrest]
    · by_cases hf : UInt32.ofNat (littleEndian b.list) = r.crc
      · exact .inl ⟨hf, by simp only [close, footerSize, h, hcrc, if_pos hf]⟩
      · exact .inr ⟨_, hf, by simp only [close, footerSize, h, hcrc, if_neg hf]; rfl⟩

/-- a frame whose counts may be wrong is read as something, or refused as bad data; it is never too short -/
theorem stay_frame {w : Bytes} {s : Stream} {tail : List UInt8} (ht : Stays get w.list)
    (hs : s.rest = (finish w).list ++ tail) :
    (∃ v r', closed get (start s) = .ok v r') ∨
      ∃ e r', closed get (start s) = .error e r' ∧ e.kind = .invalidData := by
  rw [list_finish, List.append_assoc] at hs
  rcases ht (start s) _ hs with ⟨v, r₁, a, b, e₁, hab, p₁⟩ | ⟨e, r₁, e₁, hk⟩
  · rw [hab, List.append_assoc] at hs
    have hlen : footerSize ≤ r₁.stream.rest.length := by
      rw [p₁.tail hs]
      simp only [List.length_append, length_lowBytes, footerSize]
      omega
    rcases close_cases r₁ with ⟨r₂, hshort, -, -⟩ | ⟨footer, r₂, -, ⟨-, e₂⟩ | ⟨text, -, e₂⟩⟩
    · exact absurd hlen (Nat.not_le.2 (by rwa [← Stream.left_eq]))
    · exact .inl ⟨v, r₂, closed_ok e₁ e₂⟩
    · exact .inr ⟨_, r₂, by rw [closed, bind_ok e₁, bind_error e₂], rfl⟩
  · exact .inr ⟨e, r₁, by rw [closed, bind_error e₁], hk⟩

/-- what is read from a whole frame is what its reader returns before the footer -/
theorem closed_inv {r r' : Reader} {v : α} (h : closed get r = .ok v r') :
    ∃ r₁, get r = .ok v r₁ ∧ close r₁ = .ok () r' := by
  obtain ⟨u, r₁, h₁, h₂⟩ := bind_inv h
  obtain ⟨x, r₂, h₃, h₄⟩ := bind_inv h₂
  obtain ⟨rfl, rfl⟩ := pure_inv h₄
  exact ⟨r₁, h₁, h₃⟩

end ReplicaKV.Frame
