/-
The grammar of frames, and readers that keep to it.

- `Form`: the forms that parts of a frame have, and `Form.Fits`, the bytes of each form. Lengths and counts are written
  in 32 bits, a flag is the byte 0 or 1, what is optional comes after a flag.
- `Reads get f`: whatever get took, and returned a value for, has the form f.
-/
import ReplicaKV.Proofs.Frame.Spelling

namespace ReplicaKV.Frame

inductive Form where
  | nothing
  /-- any 32-bit word -/
  | word
  /-- this word -/
  | tag (w : UInt32)
  | flag
  | bytes
  | text
  | optional (f : Form)
  | list (f : Form)
  | both (f g : Form)
  | either (f g : Form)

namespace Form

/-- the bytes have the form -/
def Fits : Form → List UInt8 → Prop
  | nothing, l => l = []
  | word, l => l.length = 4
  | tag w, l => l = lowBytes 4 w.toNat
  | flag, l => l = [0] ∨ l = [1]
  | bytes, l => ∃ b : List UInt8, b.length < countLimit ∧ l = lowBytes 4 b.length ++ b
  | text, l => ∃ s : String, s.utf8ByteSize < countLimit ∧ l = lowBytes 4 s.utf8ByteSize ++ Bytes.list s.toUTF8
  | optional f, l => l = [0] ∨ ∃ m, f.Fits m ∧ l = 1 :: m
  | list f, l => ∃ items : List (List UInt8), items.length < countLimit ∧ (∀ m ∈ items, f.Fits m) ∧
      l = lowBytes 4 items.length ++ items.flatten
  | both f g, l => ∃ m n, f.Fits m ∧ g.Fits n ∧ l = m ++ n
  | either f g, l => f.Fits l ∨ g.Fits l

end Form

/-- what get takes for a value has the form f -/
def Reads {α : Type} (get : Read α) (f : Form) : Prop := Spells get fun _ bs => f.Fits bs

section

variable {α β : Type}

theorem Reads.bind {g : Read α} {h : α → Read β} {f f' : Form} (hg : Reads g f) (hh : ∀ v, Reads (h v) f') :
    Reads (g >>= h) (.both f f') :=
  Spells.bind hg fun v a ha => (hh v).mono fun _ b hb => ⟨a, b, ha, hb, rfl⟩

theorem Reads.pure (v : α) : Reads (Pure.pure v) .nothing := Spells.pure rfl

/-- a reader that ends by returning a function of the value it took last -/
theorem Reads.last {g : Read α} {f : Form} (k : α → β) (hg : Reads g f) : Reads (g >>= fun v => Pure.pure (k v)) f :=
  Spells.last k hg fun _ _ ha => ha

theorem Reads.map {g : Read α} {f : Form} (k : α → β) (hg : Reads g f) : Reads (k <$> g) f :=
  Spells.map k hg fun _ _ ha => ha

/-! ## The parts of a frame -/

theorem reads_u32 : Reads getU32 .word := canonical_u32.mono fun _ _ h => h ▸ length_lowBytes 4 _

theorem reads_bool : Reads getBool .flag := by
  refine canonical_bool.mono fun v bs h => ?_
  rw [h]
  cases v
  · exact .inl rfl
  · exact .inr rfl

theorem blob_eq {b : Bytes} (h : b.size < countLimit) : blob b = lowBytes 4 b.list.length ++ b.list := by
  rw [blob, countBytes, toNat_count h, list_size]

theorem reads_bytes : Reads getBytes .bytes :=
  spells_bytes.mono fun b _ h => ⟨b.list, by rw [list_size]; exact h.1, by rw [h.2, blob_eq h.1]⟩

theorem reads_text : Reads getText .text := by
  refine spells_text.mono ?_
  rintro s bs ⟨hs, rfl⟩
  have hsize : s.toUTF8.size = s.utf8ByteSize := rfl
  exact ⟨s, hs, by rw [blob_eq (b := s.toUTF8) hs, list_size, hsize]⟩

variable {get : Read α} {f : Form}

theorem Reads.option (h : Reads get f) : Reads (getOption get) (.optional f) := by
  refine canonical_bool.bind fun present => ?_
  cases present with
  | false => exact .pure (.inl rfl)
  | true => exact (h.map some).mono fun _ m hm => .inr ⟨m, hm, rfl⟩

theorem Reads.list (h : Reads get f) : Reads (getList get) (.list f) := by
  refine (Spells.list h).mono ?_
  rintro l bs ⟨hn, pieces, hp, rfl⟩
  have hlen : l.length = pieces.length := hp.length_eq
  have hfits : ∀ m ∈ pieces, f.Fits m := by
    clear hn hlen
    induction hp with
    | nil => exact nofun
    | cons hm _ ih => exact List.forall_mem_cons.2 ⟨hm, ih⟩
  rw [hlen] at hn ⊢
  exact ⟨pieces, hn, hfits, by rw [countBytes, toNat_count hn]⟩

end

end ReplicaKV.Frame
