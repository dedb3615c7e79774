/-
What a reader does with bytes that anybody may have sent.

- `Starved get r`: one of the raw reads of get finds fewer bytes than it needs. Only so do bytes end too early
  (`Piecewise.fault`, `Starved.ended`); whatever else is wrong with them makes them bad data.
- `Quartered item`: a list of such items never has more of them than a quarter of the bytes it was read from, neither
  when it is complete nor when one of them fails, whatever its count says.
- `hostile_input_bounded`: both for the readers of requests, prologues and replies, with a bound on what they take.
-/
import ReplicaKV.Proofs.Prologue
import ReplicaKV.Proofs.Request.Canonical

namespace ReplicaKV

open ReplicaKV.Frame

namespace Frame

/-! ## Faults -/

/-- a raw read needs more bytes than are left, though the limit lets it have them; those before it succeed -/
inductive Starved : {α : Type} → Read α → Reader → Prop
  | raw {n : Nat} {r : Reader} (hfit : r.consumed + n ≤ sizeLimit) (hshort : r.stream.left < n) : Starved (getRaw n) r
  /-- the limit does not count the footer -/
  | footer {r : Reader} (hshort : r.stream.left < footerSize) : Starved close r
  | first {α β : Type} {g : Read α} {h : α → Read β} {r : Reader} (hg : Starved g r) : Starved (g >>= h) r
  | later {α β : Type} {g : Read α} {h : α → Read β} {r r' : Reader} {v : α} (hg : Piecewise g) (e : g r = .ok v r')
      (hh : Starved (h v) r') : Starved (g >>= h) r

section

variable {α : Type} {get : Read α}

theorem Starved.ended {r : Reader} (h : Starved get r) : ∃ r', get r = .error r.stream.ending r' := by
  induction h with
  | @raw n r hfit hshort =>
    rcases getRaw_cases n r with ⟨text, hlong, -⟩ | ⟨r', -, -, he, -⟩ | ⟨b, r', -, hb, -, hp⟩
    · exact absurd hfit (Nat.not_le.2 hlong)
    · exact ⟨r', he⟩
    · rw [Stream.left_eq, hp.rest, List.length_append, list_size, hb] at hshort
      omega
  | @footer r hshort =>
    rcases close_cases r with ⟨r', -, he, -⟩ | ⟨footer, r', hrest, -⟩
    · exact ⟨r', he⟩
    · rw [Stream.left_eq, hrest, List.length_append, length_lowBytes] at hshort
      exact absurd hshort (Nat.not_lt.2 (Nat.le_add_right ..))
  | first hg ih =>
    obtain ⟨r', he⟩ := ih
    exact ⟨r', bind_error he⟩
  | later hg e hh ih =>
    obtain ⟨r₂, he⟩ := ih
    obtain ⟨bs, hp, -⟩ := hg.past e
    exact ⟨r₂, by rw [bind_ok e, he, hp.ending]⟩

/-- what does not end too early is bad data, and the limit is kept -/
theorem Piecewise.fault (h : Piecewise get) {r r' : Reader} {f : Fault} (e : get r = .error f r')
    (hr : r.consumed ≤ sizeLimit) :
    (∃ bs, r.stream.rest = bs ++ r'.stream.rest ∧ r.consumed + bs.length ≤ sizeLimit) ∧
      (f.kind = .invalidData ∨ f = r.stream.ending ∧ Starved get r) := by
  induction h generalizing r r' f with
  | pure v => cases e
  | refuse text =>
    cases e
    exact ⟨⟨[], rfl, hr⟩, .inl rfl⟩
  | raw n =>
    rcases getRaw_cases n r with ⟨text, -, he⟩ | ⟨r₁, hfit, hshort, he, hrest⟩ | ⟨b, r₁, -, -, he, -⟩
    · rw [he] at e; cases e
      exact ⟨⟨[], rfl, hr⟩, .inl rfl⟩
    · rw [he] at e; cases e
      refine ⟨⟨r.stream.rest, by rw [hrest, List.append_nil], ?_⟩, .inr ⟨rfl, .raw hfit hshort⟩⟩
      rw [← Stream.left_eq]
      omega
    · rw [he] at e; cases e
  | @bind _ _ g h hg hh ihg ihh =>
    cases eg : g r with
    | error f' r₁ =>
      rw [bind_error eg] at e; cases e
      obtain ⟨htaken, hfault⟩ := ihg eg hr
      exact ⟨htaken, hfault.imp_right (And.imp_right .first)⟩
    | ok v r₁ =>
      rw [bind_ok eg] at e
      obtain ⟨a, hp, hfit⟩ := hg.past eg
      obtain ⟨⟨bs, hrest, hsize⟩, hfault⟩ := ihh v e (hfit hr)
      refine ⟨⟨a ++ bs, by rw [hp.rest, hrest, List.append_assoc], ?_⟩, ?_⟩
      · rw [hp.consumed] at hsize
        rw [List.length_append]
        omega
      · exact hfault.imp_right (And.imp (·.trans hp.ending) (.later hg eg))

/-- so it is with whole frames; the footer comes on top of the limit -/
theorem Piecewise.fault_closed (h : Piecewise get) {s : Stream} {r' : Reader} {f : Fault}
    (e : closed get (start s) = .error f r') :
    (∃ bs, s.rest = bs ++ r'.stream.rest ∧ bs.length ≤ sizeLimit + footerSize) ∧
      (f.kind = .invalidData ∨ f = s.ending ∧ Starved (closed get) (start s)) := by
  cases eg : get (start s) with
  | error f' r₁ =>
    rw [closed, bind_error eg] at e; cases e
    obtain ⟨⟨bs, hrest, hsize⟩, hfault⟩ := h.fault eg (Nat.zero_le _)
    refine ⟨⟨bs, hrest, ?_⟩, hfault.imp_right (And.imp_right .first)⟩
    rw [start, Nat.zero_add] at hsize
    omega
  | ok v r₁ =>
    obtain ⟨a, hp, hfit⟩ := h.past eg
    have ha : a.length ≤ sizeLimit := by
      have hsize := hfit (Nat.zero_le _)
      rwa [hp.consumed, start, Nat.zero_add] at hsize
    rw [closed, bind_ok eg] at e
    rcases close_cases r₁ with ⟨r₂, hshort, he, hrest⟩ | ⟨footer, r₂, hrest, ⟨-, he⟩ | ⟨text, -, he⟩⟩
    · rw [bind_error he] at e; cases e
      refine ⟨⟨s.rest, by rw [hrest, List.append_nil], ?_⟩, .inr ⟨hp.ending, .later h eg (.first (.footer hshort))⟩⟩
      have hs : s.rest = a ++ r₁.stream.rest := hp.rest
      rw [hs, List.length_append, ← Stream.left_eq]
      omega
    · rw [bind_ok he] at e; cases e
    · rw [bind_error he] at e; cases e
      have hs : s.rest = a ++ r₁.stream.rest := hp.rest
      refine ⟨⟨a ++ lowBytes 4 footer.toNat, by rw [hs, hrest, List.append_assoc], ?_⟩, .inl rfl⟩
      rw [List.length_append, length_lowBytes, footerSize]
      omega

/-! ## Lists -/

/-- a list of n such items takes four bytes for each of them. Where one of them fails, so did those that were read before
it, which are fewer than n. -/
structure Quartered (item : Read α) : Prop where
  whole : ∀ {n : Nat} {r r' : Reader} {l : List α}, getItems item n [] r = .ok l r' →
    l.length = n ∧ r.consumed + 4 * n ≤ r'.consumed
  part : ∀ {n : Nat} {r r' : Reader} {f : Fault}, getItems item n [] r = .error f r' →
    ∃ k l r₁, k < n ∧ getItems item k [] r = .ok l r₁ ∧ l.length = k ∧ r.consumed + 4 * k ≤ r₁.consumed ∧
      item r₁ = .error f r'

/-- get takes four bytes or more -/
abbrev Wordy (get : Read α) : Prop := Spells get fun _ bs => 4 ≤ bs.length

/-- a list that fails does so at one of its items -/
theorem getItems_error {n : Nat} {acc : List α} {r r' : Reader} {f : Fault} (e : getItems get n acc r = .error f r') :
    ∃ k l r₁, k < n ∧ getItems get k acc r = .ok l r₁ ∧ get r₁ = .error f r' := by
  induction n generalizing acc r with
  | zero => cases e
  | succ n ih =>
    cases eg : get r with
    | error f' r₁ =>
      rw [getItems, bind_error eg] at e; cases e
      exact ⟨0, acc.reverse, r, Nat.succ_pos n, rfl, eg⟩
    | ok v r₁ =>
      rw [getItems, bind_ok eg] at e
      obtain ⟨k, l, r₂, hk, hl, hf⟩ := ih e
      exact ⟨k + 1, l, r₂, Nat.succ_lt_succ hk, by rw [getItems, bind_ok eg, hl], hf⟩

/-- what is read before leaves more bytes, not fewer -/
theorem Spells.after {β : Type} {h : α → Read β} {size : β → Nat} (hg : Piecewise get)
    (hh : ∀ v, Spells (h v) fun u bs => size u ≤ bs.length) : Spells (get >>= h) fun u bs => size u ≤ bs.length :=
  Spells.bind hg.spells fun v _ _ => (hh v).mono fun _ _ hbs =>
    (hbs.trans (Nat.le_add_left ..)).trans_eq List.length_append.symm

/-- pieces of four bytes or more are no more than a quarter of them -/
theorem quarter_pieces {l : List α} {pieces : List (List UInt8)}
    (h : List.Forall₂ (fun _ bs => 4 ≤ bs.length) l pieces) : 4 * l.length ≤ pieces.flatten.length := by
  induction h with
  | nil => exact Nat.le_refl 0
  | cons hb _ ih => rw [List.length_cons, List.flatten_cons, List.length_append]; omega

theorem quarter_listing {bytes : α → List UInt8} (h : ∀ v, 4 ≤ (bytes v).length) (l : List α) :
    4 * l.length ≤ (listing bytes l).length := by
  have hpieces : List.Forall₂ (fun _ bs => 4 ≤ bs.length) l (l.map bytes) :=
    List.forall₂_map_right_iff.2 (List.forall₂_same.2 fun v _ => h v)
  rw [listing, List.flatMap_def, List.length_append]
  exact (quarter_pieces hpieces).trans (Nat.le_add_left ..)

theorem Wordy.quartered (h : Wordy get) : Quartered get := by
  have whole {n : Nat} {r r' : Reader} {l : List α} (e : getItems get n [] r = .ok l r') :
      l.length = n ∧ r.consumed + 4 * n ≤ r'.consumed := by
    obtain ⟨bs, ⟨items, pieces, rfl, rfl, hpieces, rfl⟩, hp⟩ := spells_items h n [] r l r' e
    exact ⟨rfl, by rw [hp.consumed]; exact Nat.add_le_add_left (quarter_pieces hpieces) _⟩
  refine ⟨whole, fun e => ?_⟩
  obtain ⟨k, l, r₁, hk, hl, hf⟩ := getItems_error e
  exact ⟨k, l, r₁, hk, hl, (whole hl).1, (whole hl).2, hf⟩

theorem Wordy.list (h : Wordy get) : Spells (getList get) fun l bs => 4 * l.length ≤ bs.length := by
  refine (Spells.list h).mono ?_
  rintro l bs ⟨-, pieces, hpieces, rfl⟩
  rw [List.length_append]
  exact (quarter_pieces hpieces).trans (Nat.le_add_left ..)

theorem wordy_bytes : Wordy getBytes :=
  canonical_bytes.mono fun b bs hb => by rw [hb, length_blob]; exact Nat.le_add_right ..

theorem wordy_text : Wordy getText :=
  canonical_text.mono fun t bs hb => by rw [hb, length_blob]; exact Nat.le_add_right ..

theorem Wordy.pair {β : Type} {get' : Read β} (h : Wordy get) (h' : Piecewise get') : Wordy (getPair get get') := by
  refine Spells.bind h fun v a ha => ?_
  intro r u r' e
  obtain ⟨bs, hp, -⟩ := (h'.bind fun w => .pure (v, w)).past e
  exact ⟨bs, (ha.trans (Nat.le_add_right ..)).trans_eq List.length_append.symm, hp⟩

theorem length_update (u : Update) : 4 ≤ u.bytes.length := by
  rw [Update.bytes.eq_def, List.length_append, length_lowBytes]
  exact Nat.le_add_right ..

theorem wordy_update : Wordy Update.read := canonical_update.mono fun u _ hu => hu ▸ length_update u

/-! ## Whole frames -/

/-- What comes of bytes, whatever they are. With `items` the number of items in what was read. -/
structure Bounded (get : Read α) (items : α → Nat) (b : Bytes) : Prop where
  value : ∀ {v : α} {r' : Reader}, get (start (.ofBytes b)) = .ok v r' →
    ∃ p, b = p ++ r'.stream.unread ∧ p.size ≤ sizeLimit + footerSize ∧ 4 * items v ≤ p.size
  fault : ∀ {f : Fault} {r' : Reader}, get (start (.ofBytes b)) = .error f r' →
    ∃ p, b = p ++ r'.stream.unread ∧ p.size ≤ sizeLimit + footerSize ∧ (f.kind = .invalidData ∨ f = .endOfInput)
  ended : (∃ r', get (start (.ofBytes b)) = .error .endOfInput r') ↔ Starved get (start (.ofBytes b))

theorem bounded_closed {items : α → Nat} (hget : Piecewise get) (hitems : Spells get fun v bs => 4 * items v ≤ bs.length)
    (b : Bytes) : Bounded (closed get) items b := by
  refine ⟨?_, ?_, ?_, ?_⟩
  · intro v r' e
    obtain ⟨bs, r₁, hv, hread, hp, hrest⟩ := closed_spelt hitems e
    obtain ⟨-, -, hfit⟩ := hget.past hread
    have hsize := hfit (Nat.zero_le _)
    rw [hp.consumed, start, Nat.zero_add] at hsize
    have hlen : (finish (ofList bs)).size = bs.length + footerSize := by rw [size_finish, ← list_size]; rfl
    exact ⟨finish (ofList bs), Stream.eq_append_unread hrest, by omega, by omega⟩
  · intro f r' e
    obtain ⟨⟨bs, hrest, hsize⟩, hf⟩ := hget.fault_closed e
    exact ⟨ofList bs, Stream.eq_append_unread hrest, by rwa [← list_size], hf.imp_right And.left⟩
  · rintro ⟨r', e⟩
    rcases (hget.fault_closed e).2 with hk | ⟨-, hs⟩
    · cases hk
    · exact hs
  · exact Starved.ended

end

end Frame

/-! ## Requests, prologues, replies -/

/-- the items of the list in a request -/
def Request.items : Request → Nat
  | query (.multiGet keys) _ => keys.length
  | command (.sequence updates _) => updates.length
  | _ => 0

/-- the items of the list in a reply -/
def Shape.items : (s : Shape) → s.Value → Nat
  | bytesList, v => v.length
  | pairs, v => v.length
  | statistics, v => v.applied.size
  | _, _ => 0

def Reply.items (s : Shape) : Except Refusal s.Value → Nat
  | .ok v => s.items v
  | .error _ => 0

theorem Request.items_le (r : Request) : 4 * r.items ≤ r.argumentBytes.length := by
  cases r with
  | whoMaster | version => exact Nat.zero_le _
  | query q dirty =>
    cases q with
    | multiGet keys =>
      rw [argumentBytes, Query.bytes, List.length_append]
      exact (quarter_listing (fun k => by rw [length_blob]; omega) keys).trans (Nat.le_add_left ..)
    | _ => exact Nat.zero_le _
  | command c =>
    cases c with
    | sequence updates sync => exact quarter_listing length_update updates
    | _ => exact Nat.zero_le _

theorem Request.bounded (b : Bytes) : Bounded decode items b := by
  rw [decode_eq]
  refine bounded_closed piecewise_read (spells_read.mono ?_) b
  rintro r bs ⟨l, -, hl, rfl⟩
  rw [List.length_append, hl.length]
  exact r.items_le.trans (Nat.le_add_left ..)

theorem Shape.spells_items (s : Shape) : Spells s.read fun v bs => 4 * s.items v ≤ bs.length := by
  cases s with
  | bytesList => exact wordy_bytes.list
  | pairs => exact (wordy_bytes.pair piecewise_bytes).list
  | statistics =>
    refine .after piecewise_f64 fun _ => .after piecewise_f64 fun _ => .after piecewise_u64 fun _ =>
      .after piecewise_u64 fun _ => .after piecewise_u64 fun _ => .after piecewise_u64 fun _ =>
      .after piecewise_u64 fun _ => .after piecewise_u64 fun _ =>
      (wordy_text.pair piecewise_u64).list.last _ fun l bs hl => ?_
    exact (Nat.mul_le_mul_left 4 (SortedMap.size_ofList_le l)).trans hl
  | unit | flag | count | bytes | text | optBytes | optText | version =>
    exact (piecewise _).spells.mono fun _ _ _ => Nat.zero_le _

theorem Reply.spells_items (s : Shape) : Spells (read s) fun o bs => 4 * items s o ≤ bs.length := by
  refine .after piecewise_u32 fun w => ?_
  by_cases hw : w = Status.success.code
  · rw [if_pos hw]
    exact s.spells_items.last _ fun _ _ h => h
  · rw [if_neg hw]
    exact piecewise_text.spells.last _ fun _ _ _ => Nat.zero_le _

/-- **Input is bounded, whoever sent it.** Of any bytes the readers of requests, prologues and replies take no more than
a frame may have. What they read in lists is no more than a quarter of that. They fail on bad data, or where a read that
the limit allows finds too few bytes, and there only do they say that the bytes ended too early. (The refusals of a server
are among the replies that were read.) And every list in them, wherever it stands and whatever it counts, has taken four
bytes for each item that it has, if it fails later also. -/
theorem hostile_input_bounded (b : Bytes) :
    Bounded Request.decode Request.items b ∧ Bounded Prologue.decode (fun _ => 0) b ∧
      (∀ s, Bounded (Reply.decode s) (Reply.items s) b) ∧
      Quartered getBytes ∧ Quartered Update.read ∧ Quartered (getPair getBytes getBytes) ∧
      Quartered (getPair getText getU64) := by
  refine ⟨Request.bounded b, ?_, ?_, wordy_bytes.quartered, wordy_update.quartered,
    (wordy_bytes.pair piecewise_bytes).quartered, (wordy_text.pair piecewise_u64).quartered⟩
  · rw [Prologue.decode_eq]
    exact bounded_closed Prologue.piecewise_read (Prologue.piecewise_read.spells.mono fun _ _ _ => Nat.zero_le _) b
  · intro s
    rw [Reply.decode_eq]
    exact bounded_closed (Reply.piecewise_read s) (Reply.spells_items s) b

/-- a list that says it has 2^32 - 1 keys, and ends before the first -/
example : (match Request.decode (start (.ofBytes (ofList (lowBytes 4 0xb1ff0011 ++ [0, 255, 255, 255, 255])))) with
    | .ok _ _ => false
    | .error f _ => decide (f = .endOfInput)) = true := by decide +kernel

end ReplicaKV
