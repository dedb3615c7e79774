/-
What reading the parts of a frame does to a stream whose next bytes are known.

- `Takes get bs v`: where the bytes bs are next and fit the frame, get takes exactly these and returns v.
- `Settles get bs v`: where they are next, get either does that or refuses them as bad data. It never runs out of
  bytes, and it never takes some of them for another value.
- `Stays get bs`: where they are next, get takes some of them from the front, or refuses them as bad data.

Every primitive of the format takes the bytes that the writer of its value appends (`takes_u32`, `takes_bytes`, ...),
and sequences of readers take sequences of bytes (`Takes.bind`, `Settles.bind`). Taking needs nothing but the fit. Not
being misled by bytes that do not fit needs lengths and counts below 2^32: a length is written in 32 bits, whatever it
is.
-/
import ReplicaKV.Frame.Reader
import Mathlib.Tactic

namespace ReplicaKV

theorem Bytes.list_append (a b : Bytes) : (a ++ b).list = a.list ++ b.list := by
  simp only [list, ByteArray.data_append, Array.toList_append]

/-- the bytes not yet read -/
def Stream.rest (s : Stream) : List UInt8 := s.data.list.drop s.pos

theorem Stream.left_eq (s : Stream) : s.left = s.rest.length := by
  simp [Stream.left, Stream.rest, Bytes.list]

theorem Stream.rest_ofBytes (b : Bytes) : (Stream.ofBytes b).rest = b.list := by
  simp [Stream.rest, Stream.ofBytes]

/-- the checksum of a string followed by l, from the checksum of that string -/
def Checksum.over (crc : UInt32) (l : List UInt8) : UInt32 := ~~~(l.foldl Checksum.tableStep (~~~crc))

theorem Checksum.over_append (crc : UInt32) (a b : List UInt8) :
    Checksum.over crc (a ++ b) = Checksum.over (Checksum.over crc a) b := by
  simp [Checksum.over, List.foldl_append]

namespace Frame

/-- r' is what is left of r once the bytes bs were taken off it -/
structure Past (r : Reader) (bs : List UInt8) (r' : Reader) : Prop where
  rest : r.stream.rest = bs ++ r'.stream.rest
  ending : r'.stream.ending = r.stream.ending
  consumed : r'.consumed = r.consumed + bs.length
  crc : r'.crc = Checksum.over r.crc bs

theorem Past.nil (r : Reader) : Past r [] r := ⟨rfl, rfl, rfl, by simp [Checksum.over]⟩

theorem Past.trans {r r' r'' : Reader} {a b : List UInt8} (h : Past r a r') (h' : Past r' b r'') :
    Past r (a ++ b) r'' := by
  refine ⟨?_, h'.ending.trans h.ending, ?_, ?_⟩
  · rw [h.rest, h'.rest, List.append_assoc]
  · rw [h'.consumed, h.consumed, List.length_append, Nat.add_assoc]
  · rw [h'.crc, h.crc, Checksum.over_append]

theorem Past.tail {r r' : Reader} {bs tail : List UInt8} (h : Past r bs r') (hr : r.stream.rest = bs ++ tail) :
    r'.stream.rest = tail :=
  List.append_cancel_left (h.rest.symm.trans hr)

/-- where the bytes bs are next and fit, get takes them and returns v -/
def Takes {α : Type} (get : Read α) (bs : List UInt8) (v : α) : Prop :=
  ∀ (r : Reader) (tail : List UInt8), r.stream.rest = bs ++ tail → r.consumed + bs.length ≤ sizeLimit →
    ∃ r', get r = .ok v r' ∧ Past r bs r'

/-- where the bytes bs are next, get takes them and returns v, or refuses them as bad data -/
def Settles {α : Type} (get : Read α) (bs : List UInt8) (v : α) : Prop :=
  ∀ (r : Reader) (tail : List UInt8), r.stream.rest = bs ++ tail →
    (∃ r', get r = .ok v r' ∧ Past r bs r') ∨ ∃ e r', get r = .error e r' ∧ e.kind = .invalidData

/-- where the bytes bs are next, get takes some of them and no others, or refuses them as bad data -/
def Stays {α : Type} (get : Read α) (bs : List UInt8) : Prop :=
  ∀ (r : Reader) (tail : List UInt8), r.stream.rest = bs ++ tail →
    (∃ v r' a b, get r = .ok v r' ∧ bs = a ++ b ∧ Past r a r') ∨ ∃ e r', get r = .error e r' ∧ e.kind = .invalidData

section

variable {α β : Type}

theorem bind_ok {g : Read α} {h : α → Read β} {r r' : Reader} {v : α} (e : g r = .ok v r') :
    (g >>= h) r = h v r' := by
  simp only [bind, EStateM.bind, e]

theorem bind_error {g : Read α} {h : α → Read β} {r r' : Reader} {f : Fault} (e : g r = .error f r') :
    (g >>= h) r = .error f r' := by
  simp only [bind, EStateM.bind, e]

/-- what a sequence of readers returned, step by step -/
theorem bind_inv {g : Read α} {h : α → Read β} {r r'' : Reader} {u : β} (e : (g >>= h) r = .ok u r'') :
    ∃ v r', g r = .ok v r' ∧ h v r' = .ok u r'' := by
  simp only [bind, EStateM.bind] at e
  cases hg : g r with
  | ok v r' => rw [hg] at e; exact ⟨v, r', rfl, e⟩
  | error f r' => rw [hg] at e; cases e

theorem pure_inv {v u : α} {r r' : Reader} (e : (pure v : Read α) r = .ok u r') : u = v ∧ r' = r := by
  cases e; exact ⟨rfl, rfl⟩

theorem throw_inv {f : Fault} {u : α} {r r' : Reader} : ¬(throw f : Read α) r = .ok u r' := fun e => nomatch e

theorem Takes.pure (v : α) : Takes (pure v) [] v := fun r _ _ _ => ⟨r, rfl, .nil r⟩

theorem Settles.pure (v : α) : Settles (pure v) [] v := fun r _ _ => .inl ⟨r, rfl, .nil r⟩

theorem Takes.bind {g : Read α} {h : α → Read β} {a b : List UInt8} {v : α} {u : β} (hg : Takes g a v)
    (hh : Takes (h v) b u) : Takes (g >>= h) (a ++ b) u := by
  intro r tail hr hfit
  rw [List.length_append] at hfit
  rw [List.append_assoc] at hr
  obtain ⟨r₁, e₁, p₁⟩ := hg r _ hr (by omega)
  obtain ⟨r₂, e₂, p₂⟩ := hh r₁ tail (p₁.tail hr) (by rw [p₁.consumed]; omega)
  exact ⟨r₂, (bind_ok e₁).trans e₂, p₁.trans p₂⟩

theorem Settles.bind {g : Read α} {h : α → Read β} {a b : List UInt8} {v : α} {u : β} (hg : Settles g a v)
    (hh : Settles (h v) b u) : Settles (g >>= h) (a ++ b) u := by
  intro r tail hr
  rw [List.append_assoc] at hr
  rcases hg r _ hr with ⟨r₁, e₁, p₁⟩ | ⟨e, r₁, e₁, hk⟩
  · rcases hh r₁ tail (p₁.tail hr) with ⟨r₂, e₂, p₂⟩ | ⟨e, r₂, e₂, hk⟩
    · exact .inl ⟨r₂, (bind_ok e₁).trans e₂, p₁.trans p₂⟩
    · exact .inr ⟨e, r₂, (bind_ok e₁).trans e₂, hk⟩
  · exact .inr ⟨e, r₁, bind_error e₁, hk⟩

/-- a reader that ends by returning a function of the value it took last -/
theorem Takes.last {g : Read α} {a : List UInt8} {v : α} (f : α → β) (hg : Takes g a v) :
    Takes (g >>= fun v => Pure.pure (f v)) a (f v) := by
  have h : Takes (g >>= fun v => Pure.pure (f v)) (a ++ []) (f v) := hg.bind (Takes.pure (f v))
  rwa [List.append_nil] at h

theorem Settles.last {g : Read α} {a : List UInt8} {v : α} (f : α → β) (hg : Settles g a v) :
    Settles (g >>= fun v => Pure.pure (f v)) a (f v) := by
  have h : Settles (g >>= fun v => Pure.pure (f v)) (a ++ []) (f v) := hg.bind (Settles.pure (f v))
  rwa [List.append_nil] at h

theorem Takes.map {g : Read α} {a : List UInt8} {v : α} (f : α → β) (hg : Takes g a v) : Takes (f <$> g) a (f v) := by
  have h := hg.last f
  rwa [bind_pure_comp] at h

theorem Settles.map {g : Read α} {a : List UInt8} {v : α} (f : α → β) (hg : Settles g a v) :
    Settles (f <$> g) a (f v) := by
  have h := hg.last f
  rwa [bind_pure_comp] at h

theorem Settles.stays {g : Read α} {a : List UInt8} {v : α} (hg : Settles g a v) : Stays g a := by
  intro r tail hr
  rcases hg r tail hr with ⟨r', e, p⟩ | h
  · exact .inl ⟨v, r', a, [], e, (List.append_nil a).symm, p⟩
  · exact .inr h

theorem Settles.bind_stays {g : Read α} {h : α → Read β} {a b : List UInt8} {v : α} (hg : Settles g a v)
    (hh : Stays (h v) b) : Stays (g >>= h) (a ++ b) := by
  intro r tail hr
  rw [List.append_assoc] at hr
  rcases hg r _ hr with ⟨r₁, e₁, p₁⟩ | ⟨e, r₁, e₁, hk⟩
  · rcases hh r₁ tail (p₁.tail hr) with ⟨u, r₂, x, y, e₂, hxy, p₂⟩ | ⟨e, r₂, e₂, hk⟩
    · exact .inl ⟨u, r₂, a ++ x, y, (bind_ok e₁).trans e₂, by rw [hxy, List.append_assoc], p₁.trans p₂⟩
    · exact .inr ⟨e, r₂, (bind_ok e₁).trans e₂, hk⟩
  · exact .inr ⟨e, r₁, bind_error e₁, hk⟩

theorem Stays.last {g : Read α} {a : List UInt8} (f : α → β) (hg : Stays g a) :
    Stays (g >>= fun v => Pure.pure (f v)) a := by
  intro r tail hr
  rcases hg r tail hr with ⟨v, r₁, x, y, e₁, hxy, p₁⟩ | ⟨e, r₁, e₁, hk⟩
  · exact .inl ⟨f v, r₁, x, y, bind_ok e₁, hxy, p₁⟩
  · exact .inr ⟨e, r₁, bind_error e₁, hk⟩

/-- bytes that stay may be followed by bytes that are not looked at -/
theorem Stays.append {g : Read α} {a : List UInt8} (b : List UInt8) (hg : Stays g a) : Stays g (a ++ b) := by
  intro r tail hr
  rw [List.append_assoc] at hr
  rcases hg r _ hr with ⟨v, r₁, x, y, e₁, hxy, p₁⟩ | h
  · exact .inl ⟨v, r₁, x, y ++ b, e₁, by rw [hxy, List.append_assoc], p₁⟩
  · exact .inr h

/-- a reader that takes bytes where they fit, and refuses them where they do not, is not misled by them -/
theorem Takes.settles {g : Read α} {a : List UInt8} {v : α} (hg : Takes g a v)
    (h : ∀ r : Reader, sizeLimit < r.consumed + a.length → ∃ e r', g r = .error e r' ∧ e.kind = .invalidData) :
    Settles g a v := by
  intro r tail hr
  by_cases hfit : r.consumed + a.length ≤ sizeLimit
  · exact .inl (hg r tail hr hfit)
  · exact .inr (h r (by omega))

end

/-! ## Bytes and words -/

theorem take_of_rest {s : Stream} {bs tail : List UInt8} (h : s.rest = bs ++ tail) :
    (s.take bs.length).1.list = bs ∧ (s.take bs.length).2.rest = tail := by
  have hd : s.data.list.drop s.pos = bs ++ tail := h
  have hl : s.data.list.length = s.data.size := Array.length_toList
  constructor
  · simp only [Stream.take, Bytes.list, ByteArray.data_extract, Array.toList_extract]
    rw [List.extract_eq_take_drop, Nat.add_sub_cancel_left, hd, List.take_left]
  · simp only [Stream.take, Stream.rest]
    by_cases hp : s.pos + bs.length ≤ s.data.size
    · rw [Nat.min_eq_left hp, ← List.drop_drop, hd, List.drop_left]
    · -- the stream ends within the bytes, so there are none
      have hlen := congrArg List.length hd
      rw [List.length_drop, List.length_append, hl] at hlen
      rw [Nat.min_eq_right (by omega), List.drop_eq_nil_of_le (by omega)]
      exact (List.eq_nil_of_length_eq_zero (by omega)).symm

theorem list_size (b : Bytes) : b.list.length = b.size := Array.length_toList

theorem takeExactly_of_rest {r : Reader} {b : Bytes} {tail : List UInt8} (h : r.stream.rest = b.list ++ tail) :
    ∃ r', takeExactly b.size r = .ok b r' ∧ r'.stream.rest = tail ∧ r'.stream.ending = r.stream.ending ∧
      r'.consumed = r.consumed ∧ r'.crc = r.crc := by
  obtain ⟨h₁, h₂⟩ := take_of_rest h
  rw [list_size] at h₁ h₂
  have hb : (r.stream.take b.size).1 = b := Bytes.list_injective h₁
  refine ⟨{ r with stream := (r.stream.take b.size).2 }, ?_, h₂, rfl, rfl, rfl⟩
  simp [takeExactly, hb]

/-- a stream with too few bytes is used up -/
theorem takeExactly_short {n : Nat} {r : Reader} (h : r.stream.rest.length < n) :
    ∃ r', takeExactly n r = .error r.stream.ending r' ∧ r'.stream.rest = [] := by
  have hs : (r.stream.take n).1.size < n := by
    rw [← Stream.left_eq, Stream.left] at h
    simp only [Stream.take, ByteArray.size_extract]
    omega
  refine ⟨{ r with stream := (r.stream.take n).2 }, ?_, ?_⟩
  · simp only [takeExactly, if_pos hs]
    rfl
  · have hd : r.stream.data.list.length = r.stream.data.size := list_size _
    have hr : (r.stream.data.list.drop r.stream.pos).length < n := h
    rw [List.length_drop] at hr
    simp only [Stream.take, Stream.rest]
    exact List.drop_eq_nil_of_le (by omega)

theorem getRaw_too_long {n : Nat} {r : Reader} (h : sizeLimit < r.consumed + n) :
    ∃ e r', getRaw n r = .error e r' ∧ e.kind = .invalidData :=
  ⟨.invalid s!"frame exceeds maximum size {sizeLimit}", r, by simp only [getRaw, if_pos h], rfl⟩

theorem takes_raw (b : Bytes) : Takes (getRaw b.size) b.list b := by
  intro r tail hr hfit
  obtain ⟨r', e, h₁, h₂, h₃, h₄⟩ := takeExactly_of_rest hr
  refine ⟨{ r' with consumed := r'.consumed + b.size, crc := Checksum.extend r'.crc b }, ?_, ⟨?_, h₂, ?_, ?_⟩⟩
  · rw [list_size] at hfit
    simp only [getRaw, if_neg (Nat.not_lt.2 hfit), e]
  · rw [hr, h₁]
  · rw [list_size, h₃]
  · rw [Checksum.extend_eq, h₄]; rfl

theorem settles_raw (b : Bytes) : Settles (getRaw b.size) b.list b :=
  (takes_raw b).settles fun _ h => getRaw_too_long (by rwa [list_size] at h)

/-- the low n bytes of a number, least significant first -/
def lowBytes : (n : Nat) → Nat → List UInt8
  | 0, _ => []
  | n + 1, v => UInt8.ofNat v :: lowBytes n (v / 256)

@[simp] theorem length_lowBytes (n v : Nat) : (lowBytes n v).length = n := by
  induction n generalizing v with
  | zero => rfl
  | succ n ih => simp [lowBytes, ih]

theorem littleEndian_lowBytes (n v : Nat) : littleEndian (lowBytes n v) = v % 256 ^ n := by
  induction n generalizing v with
  | zero => simp [lowBytes, littleEndian, Nat.mod_one]
  | succ n ih =>
    have h : (UInt8.ofNat v).toNat = v % 256 := UInt8.toNat_ofNat'
    rw [lowBytes, littleEndian, ih, h, Nat.pow_succ, Nat.mul_comm (256 ^ n), Nat.mod_mul]

/-- bytes are the bytes of their number -/
theorem lowBytes_littleEndian (l : List UInt8) : lowBytes l.length (littleEndian l) = l := by
  induction l with
  | nil => rfl
  | cons b l ih =>
    have hb := b.toNat_lt
    have hlow : UInt8.ofNat (b.toNat + 256 * littleEndian l) = b := by
      apply UInt8.toNat_inj.1
      rw [UInt8.toNat_ofNat']
      omega
    have hhigh : (b.toNat + 256 * littleEndian l) / 256 = littleEndian l := by omega
    rw [littleEndian, List.length_cons, lowBytes, hlow, hhigh, ih]

theorem littleEndian_lt (l : List UInt8) : littleEndian l < 256 ^ l.length := by
  induction l with
  | nil => exact Nat.one_pos
  | cons b l ih =>
    have hb := b.toNat_lt
    rw [littleEndian, List.length_cons, Nat.pow_succ]
    omega

/-- the bytes of a word are those that it was read from -/
theorem lowBytes_word32 {l : List UInt8} (h : l.length = 4) : lowBytes 4 (UInt32.ofNat (littleEndian l)).toNat = l := by
  have hlt := littleEndian_lt l
  rw [h] at hlt
  rw [UInt32.toNat_ofNat_of_lt' hlt, ← h, lowBytes_littleEndian]

/-- the bytes of a list -/
def ofList (l : List UInt8) : Bytes := ⟨l.toArray⟩

theorem takes_word (n v : Nat) : Takes (getRaw n) (lowBytes n v) (ofList (lowBytes n v)) := by
  have h := takes_raw (ofList (lowBytes n v))
  have hs : (ofList (lowBytes n v)).size = n := by rw [← list_size]; exact length_lowBytes n v
  rwa [hs] at h

theorem settles_word (n v : Nat) : Settles (getRaw n) (lowBytes n v) (ofList (lowBytes n v)) :=
  (takes_word n v).settles fun _ h => getRaw_too_long (by rwa [length_lowBytes] at h)

theorem word32 (v : UInt32) : UInt32.ofNat (littleEndian (ofList (lowBytes 4 v.toNat)).list) = v := by
  have hv := v.toNat_lt
  have h : littleEndian (ofList (lowBytes 4 v.toNat)).list = v.toNat := by
    refine (littleEndian_lowBytes 4 v.toNat).trans (Nat.mod_eq_of_lt ?_)
    omega
  rw [h, UInt32.ofNat_toNat]

theorem word64 (v : UInt64) : UInt64.ofNat (littleEndian (ofList (lowBytes 8 v.toNat)).list) = v := by
  have hv := v.toNat_lt
  have h : littleEndian (ofList (lowBytes 8 v.toNat)).list = v.toNat := by
    refine (littleEndian_lowBytes 8 v.toNat).trans (Nat.mod_eq_of_lt ?_)
    omega
  rw [h, UInt64.ofNat_toNat]

theorem takes_u32 (v : UInt32) : Takes getU32 (lowBytes 4 v.toNat) v := by
  have h := (takes_word 4 v.toNat).map fun b => UInt32.ofNat (littleEndian b.list)
  rwa [word32] at h

theorem settles_u32 (v : UInt32) : Settles getU32 (lowBytes 4 v.toNat) v := by
  have h := (settles_word 4 v.toNat).map fun b => UInt32.ofNat (littleEndian b.list)
  rwa [word32] at h

theorem takes_u64 (v : UInt64) : Takes getU64 (lowBytes 8 v.toNat) v := by
  have h := (takes_word 8 v.toNat).map fun b => UInt64.ofNat (littleEndian b.list)
  rwa [word64] at h

theorem settles_u64 (v : UInt64) : Settles getU64 (lowBytes 8 v.toNat) v := by
  have h := (settles_word 8 v.toNat).map fun b => UInt64.ofNat (littleEndian b.list)
  rwa [word64] at h

end Frame

end ReplicaKV
