/-
What was read, as it is spelt. The converse of `Format`: not what the reader of a value does with the bytes that its
writer appends, but which bytes a reader can have taken for a value, whatever bytes there were.

- `Spells get S`: a value that get returns is spelt, in the sense of S, by the bytes that it took.
- `Canonical get bytes`: every value has one spelling, the bytes that its writer appends. So it is with words, flags, byte
  strings and texts, and with options and lists of what is canonical.
- `closed_spelt`: a whole frame that was read is one that could have been written, over the bytes that were taken.
-/
import ReplicaKV.Proofs.Frame.Pieces

namespace ReplicaKV.Frame

/-- a value that get returns is spelt by the bytes that it took -/
def Spells {α : Type} (get : Read α) (S : α → List UInt8 → Prop) : Prop :=
  ∀ (r : Reader) (v : α) (r' : Reader), get r = .ok v r' → ∃ bs, S v bs ∧ Past r bs r'

/-- every value has one spelling -/
def Canonical {α : Type} (get : Read α) (bytes : α → List UInt8) : Prop := Spells get fun v bs => bs = bytes v

section

variable {α β : Type}

theorem Spells.pure {v : α} {S : α → List UInt8 → Prop} (h : S v []) : Spells (Pure.pure v) S := by
  intro r u r' e
  obtain ⟨rfl, rfl⟩ := pure_inv e
  exact ⟨[], h, .nil r'⟩

theorem Spells.throw {S : α → List UInt8 → Prop} (f : Fault) : Spells (throw f : Read α) S := fun _ _ _ e =>
  absurd e throw_inv

theorem Spells.mono {g : Read α} {S T : α → List UInt8 → Prop} (hg : Spells g S) (h : ∀ v bs, S v bs → T v bs) :
    Spells g T := by
  intro r v r' e
  obtain ⟨bs, hs, hp⟩ := hg r v r' e
  exact ⟨bs, h v bs hs, hp⟩

theorem Piecewise.spells {g : Read α} (h : Piecewise g) : Spells g fun _ _ => True := by
  intro r v r' e
  obtain ⟨bs, hp, -⟩ := h.past e
  exact ⟨bs, trivial, hp⟩

/-- the bytes that were taken are the same, whatever is said of them -/
theorem Spells.and {g : Read α} {S T : α → List UInt8 → Prop} (hs : Spells g S) (ht : Spells g T) :
    Spells g fun v bs => S v bs ∧ T v bs := by
  intro r v r' e
  obtain ⟨bs, h₁, hp⟩ := hs r v r' e
  obtain ⟨bs', h₂, hp'⟩ := ht r v r' e
  obtain rfl : bs = bs' := List.append_cancel_right (hp.rest.symm.trans hp'.rest)
  exact ⟨bs, ⟨h₁, h₂⟩, hp⟩

theorem Spells.bind {g : Read α} {h : α → Read β} {A : α → List UInt8 → Prop} {B : β → List UInt8 → Prop}
    (hg : Spells g A) (hh : ∀ v a, A v a → Spells (h v) fun u b => B u (a ++ b)) : Spells (g >>= h) B := by
  intro r u r' e
  obtain ⟨v, r₁, e₁, e₂⟩ := bind_inv e
  obtain ⟨a, ha, p₁⟩ := hg r v r₁ e₁
  obtain ⟨b, hb, p₂⟩ := hh v a ha r₁ u r' e₂
  exact ⟨a ++ b, hb, p₁.trans p₂⟩

/-- a reader that ends by returning a function of the value it took last -/
theorem Spells.last {g : Read α} {A : α → List UInt8 → Prop} {B : β → List UInt8 → Prop} (f : α → β) (hg : Spells g A)
    (hf : ∀ v a, A v a → B (f v) a) : Spells (g >>= fun v => Pure.pure (f v)) B :=
  hg.bind fun v a ha => .pure (by rw [List.append_nil]; exact hf v a ha)

theorem Spells.map {g : Read α} {A : α → List UInt8 → Prop} {B : β → List UInt8 → Prop} (f : α → β) (hg : Spells g A)
    (hf : ∀ v a, A v a → B (f v) a) : Spells (f <$> g) B := by
  rw [← bind_pure_comp]
  exact hg.last f hf

/-- what has one spelling is followed by what is spelt after it -/
theorem Canonical.bind {g : Read α} {h : α → Read β} {bytes : α → List UInt8} {B : β → List UInt8 → Prop}
    (hg : Canonical g bytes) (hh : ∀ v, Spells (h v) fun u b => B u (bytes v ++ b)) : Spells (g >>= h) B :=
  Spells.bind hg fun v _ ha => ha ▸ hh v

theorem Canonical.last {g : Read α} {bytes : α → List UInt8} {B : β → List UInt8 → Prop} (f : α → β)
    (hg : Canonical g bytes) (hf : ∀ v, B (f v) (bytes v)) : Spells (g >>= fun v => Pure.pure (f v)) B :=
  Spells.last f hg fun v _ ha => ha ▸ hf v

theorem Canonical.map {g : Read α} {bytes : α → List UInt8} {B : β → List UInt8 → Prop} (f : α → β)
    (hg : Canonical g bytes) (hf : ∀ v, B (f v) (bytes v)) : Spells (f <$> g) B :=
  Spells.map f hg fun v _ ha => ha ▸ hf v

end

/-! ## The parts of a frame -/

theorem spells_raw (n : Nat) : Spells (getRaw n) fun b bs => b.size = n ∧ bs = b.list := by
  intro r b r' e
  rcases getRaw_cases n r with ⟨text, -, he⟩ | ⟨r₁, -, -, he, -⟩ | ⟨b₁, r₁, -, hb, he, hp⟩
  · rw [he] at e; cases e
  · rw [he] at e; cases e
  · rw [he] at e; cases e
    exact ⟨_, ⟨hb, rfl⟩, hp⟩

theorem canonical_u32 : Canonical getU32 fun v => lowBytes 4 v.toNat := by
  refine (spells_raw 4).map _ ?_
  rintro b bs ⟨hb, rfl⟩
  exact (lowBytes_word32 ((list_size b).trans hb)).symm

theorem canonical_bool : Canonical getBool flagByte := by
  refine (spells_raw 1).bind ?_
  rintro b bs ⟨hb, rfl⟩
  have hl : b.list.length = 1 := (list_size b).trans hb
  have hlow := lowBytes_littleEndian b.list
  rw [hl] at hlow
  generalize littleEndian b.list = x at hlow ⊢
  rcases x with _ | _ | x
  · exact .pure (by rw [List.append_nil, ← hlow]; rfl)
  · exact .pure (by rw [List.append_nil, ← hlow]; rfl)
  · exact .throw _

/-- the bytes of a count are those of the word -/
theorem countBytes_toNat (n : UInt32) : countBytes n.toNat = lowBytes 4 n.toNat := by
  rw [countBytes, UInt32.ofNat_toNat]

/-- a byte string that was read is shorter than its length can say -/
theorem spells_bytes : Spells getBytes fun b bs => b.size < countLimit ∧ bs = blob b := by
  refine canonical_u32.bind fun n => ?_
  by_cases hn : sizeLimit < n.toNat
  · simp only [if_pos hn]
    exact .throw _
  · simp only [if_neg hn]
    refine (spells_raw n.toNat).mono ?_
    rintro b bs ⟨hb, rfl⟩
    exact ⟨hb ▸ n.toNat_lt, by rw [blob, hb, countBytes_toNat]⟩

theorem canonical_bytes : Canonical getBytes blob := spells_bytes.mono fun _ _ h => h.2

theorem spells_text : Spells getText fun s bs => s.utf8ByteSize < countLimit ∧ bs = blob s.toUTF8 := by
  refine spells_bytes.bind ?_
  rintro b bs ⟨hb, rfl⟩
  cases hs : Utf8.decode b with
  | ok s =>
    obtain rfl : s.toUTF8 = b := toUTF8_of_decode hs
    exact .pure ⟨hb, List.append_nil _⟩
  | error d => exact .throw _

theorem canonical_text : Canonical getText fun s => blob s.toUTF8 := spells_text.mono fun _ _ h => h.2

section

variable {α : Type} {get : Read α} {bytes : α → List UInt8}

theorem Canonical.option (h : Canonical get bytes) : Canonical (getOption get) (optional bytes) := by
  refine canonical_bool.bind fun present => ?_
  cases present with
  | false => exact .pure rfl
  | true => exact h.bind fun v => .pure (by rw [List.append_nil]; rfl)

/-- the items of a list are spelt one after the other -/
theorem spells_items {S : α → List UInt8 → Prop} (h : Spells get S) (n : Nat) (acc : List α) :
    Spells (getItems get n acc) fun l bs => ∃ items pieces, l = acc.reverse ++ items ∧ items.length = n ∧
      List.Forall₂ S items pieces ∧ bs = pieces.flatten := by
  induction n generalizing acc with
  | zero => exact .pure ⟨[], [], (List.append_nil _).symm, rfl, .nil, rfl⟩
  | succ n ih =>
    refine h.bind fun v a ha => (ih (v :: acc)).mono ?_
    rintro l bs ⟨items, pieces, hl, hn, hp, rfl⟩
    refine ⟨v :: items, a :: pieces, ?_, ?_, .cons ha hp, List.flatten_cons.symm⟩
    · rw [hl, List.reverse_cons, List.append_assoc, List.singleton_append]
    · rw [List.length_cons, hn]

theorem Spells.list {S : α → List UInt8 → Prop} (h : Spells get S) :
    Spells (getList get) fun l bs => l.length < countLimit ∧ ∃ pieces, List.Forall₂ S l pieces ∧
      bs = countBytes l.length ++ pieces.flatten := by
  refine canonical_u32.bind fun n => (spells_items h n.toNat []).mono ?_
  rintro l bs ⟨items, pieces, rfl, hn, hp, rfl⟩
  exact ⟨hn.trans_lt n.toNat_lt, pieces, hp, by rw [hn, countBytes_toNat]⟩

theorem Canonical.list (h : Canonical get bytes) : Canonical (getList get) (listing bytes) := by
  refine (Spells.list h).mono ?_
  rintro l bs ⟨-, pieces, hp, rfl⟩
  have hpieces : pieces = l.map bytes := by
    induction hp with
    | nil => rfl
    | cons hv _ ih => rw [List.map_cons, hv, ih]
  rw [listing, hpieces, List.flatMap_def]

end

/-! ## Whole frames -/

/-- the bytes of the whole of a frame: those before the footer, and the footer -/
theorem list_finish_ofList (l : List UInt8) :
    (finish (ofList l)).list = l ++ lowBytes 4 (Checksum.over 0 l).toNat := by
  rw [list_finish, Checksum.ofBytes, Checksum.extend_eq]
  rfl

/-- a whole frame that was read is one that could have been written, over the bytes that were taken -/
theorem closed_spelt {α : Type} {get : Read α} {S : α → List UInt8 → Prop} (hg : Spells get S) {s : Stream} {v : α}
    {r' : Reader} (e : closed get (start s) = .ok v r') :
    ∃ bs r₁, S v bs ∧ get (start s) = .ok v r₁ ∧ Past (start s) bs r₁ ∧
      s.rest = (finish (ofList bs)).list ++ r'.stream.rest := by
  obtain ⟨r₁, h₁, h₂⟩ := closed_inv e
  obtain ⟨bs, hs, hp⟩ := hg _ _ _ h₁
  refine ⟨bs, r₁, hs, h₁, hp, ?_⟩
  rcases close_cases r₁ with ⟨r₂, -, he, -⟩ | ⟨footer, r₂, hrest, ⟨hf, he⟩ | ⟨text, -, he⟩⟩
  · rw [he] at h₂; cases h₂
  · rw [he] at h₂; cases h₂
    have hcrc : footer = Checksum.over 0 bs := hf.trans hp.crc
    calc s.rest = bs ++ r₁.stream.rest := hp.rest
      _ = bs ++ (lowBytes 4 footer.toNat ++ r'.stream.rest) := by rw [hrest]
      _ = (finish (ofList bs)).list ++ r'.stream.rest := by rw [list_finish_ofList, hcrc, List.append_assoc]
  · rw [he] at h₂; cases h₂

end ReplicaKV.Frame
