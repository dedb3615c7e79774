/-
The frames that a node reads as requests.

- `Opcode.form`: the arguments that may stand after an opcode, and `Framed`, the frames that there are by the grammar.
- `Request.unlimited?`: where the word of a limit stands that says there is none. It may be any negative one; all else of
  a request is spelt in one way (`Request.spells_arguments`).
- `Request.accepted_canonical`: what a node reads is the frame of the request that it makes of it, but for such a word.
-/
import ReplicaKV.Proofs.Frame.Grammar
import ReplicaKV.Proofs.Request.SelfDelimiting

namespace ReplicaKV

open ReplicaKV.Frame

/-! ## The grammar -/

/-- bounds, each with a flag, and a limit -/
def KeyRange.form : Form := .both (.optional .bytes) (.both .flag (.both (.optional .bytes) (.both .flag .word)))

/-- an update comes after its tag -/
def Update.form : Form :=
  .either (.both (.tag 1) (.both .bytes .bytes)) <|
    .either (.both (.tag 2) .bytes) <|
      .either (.both (.tag 8) (.both .bytes (.optional .bytes))) (.both (.tag 15) .bytes)

/-- the arguments after an opcode; those of a query come after its flag -/
def Opcode.form : Opcode → Form
  | whoMaster | version | getKeyCount | expectProgressPossible | statistics => .nothing
  | keyExists | get | assertExists => .both .flag .bytes
  | multiGet => .both .flag (.list .bytes)
  | assert => .both .flag (.both .bytes (.optional .bytes))
  | range | rangeEntries | revRangeEntries => .both .flag KeyRange.form
  | keysWithPrefix => .both .flag (.both .bytes .word)
  | ping => .both .text .text
  | set | confirm => .both .bytes .bytes
  | delete => .bytes
  | testAndSet => .both .bytes (.both (.optional .bytes) (.optional .bytes))
  | sequence | syncedSequence => .list Update.form
  | userFunction => .both .text (.optional .bytes)

/-- a frame by the grammar: the word of an opcode, its arguments, the checksum -/
def Framed (p : Bytes) : Prop :=
  ∃ (op : Opcode) (l : List UInt8), op.form.Fits l ∧ 4 + l.length ≤ sizeLimit ∧
    p = finish (ofList (lowBytes 4 op.word.toNat ++ l))

theorem reads_optBytes : Reads (getOption getBytes) (.optional .bytes) := reads_bytes.option

theorem reads_limit : Reads getLimit .word := reads_u32.last _

theorem reads_range : Reads KeyRange.read KeyRange.form :=
  reads_optBytes.bind fun _ => reads_bool.bind fun _ => reads_optBytes.bind fun _ => reads_bool.bind fun _ =>
    reads_limit.last _

theorem Update.read_tag {n : UInt32} {get : Read Update} {f : Form} (h : Reads get f) :
    Spells get fun _ bs => (Form.both (.tag n) f).Fits (lowBytes 4 n.toNat ++ bs) :=
  h.mono fun _ bs hbs => ⟨_, bs, rfl, hbs, rfl⟩

theorem reads_update : Reads Update.read Update.form := by
  refine canonical_u32.bind fun tag => ?_
  split
  · exact (Update.read_tag (reads_bytes.bind fun _ => reads_bytes.last _)).mono fun _ _ h => .inl h
  · exact (Update.read_tag (reads_bytes.last _)).mono fun _ _ h => .inr (.inl h)
  · exact (Update.read_tag (reads_bytes.bind fun _ => reads_optBytes.last _)).mono fun _ _ h => .inr (.inr (.inl h))
  · exact (Update.read_tag (reads_bytes.last _)).mono fun _ _ h => .inr (.inr (.inr h))
  · exact .throw _

/-! ## Limits -/

theorem toInt_of_limitMax_lt {v : UInt32} (h : limitMax < v) : v.toInt32.toInt = v.toNat - 2 ^ 32 := by
  have hv := UInt32.lt_iff_toNat_lt.1 h
  simp only [limitMax, UInt32.reduceToNat] at hv
  simp only [Int32.toInt, UInt32.toBitVec_toInt32, BitVec.toInt, UInt32.toNat_toBitVec]
  split_ifs <;> omega

/-- the bytes before a limit, if there is none -/
def limitAfter (front : List UInt8) : Option UInt32 → Option (List UInt8)
  | none => some front
  | some _ => none

/-- bs is bytes, but that after front, if there is a front, the limit may be any negative word -/
def Loose (bytes : List UInt8) (front : Option (List UInt8)) (bs : List UInt8) : Prop :=
  bs = bytes ∨ ∃ f w, front = some f ∧ bytes = f ++ lowBytes 4 (-1 : Int32).toUInt32.toNat ∧ w < (-1 : Int32) ∧
    bs = f ++ lowBytes 4 w.toUInt32.toNat

theorem Loose.append {bytes bs : List UInt8} {front : Option (List UInt8)} (h : Loose bytes front bs) (a : List UInt8) :
    Loose (a ++ bytes) (front.map (a ++ ·)) (a ++ bs) := by
  rcases h with rfl | ⟨f, w, rfl, rfl, hw, rfl⟩
  · exact .inl rfl
  · exact .inr ⟨a ++ f, w, rfl, (List.append_assoc ..).symm, hw, (List.append_assoc ..).symm⟩

theorem Loose.length {bytes bs : List UInt8} {front : Option (List UInt8)} (h : Loose bytes front bs) :
    bs.length = bytes.length := by
  rcases h with rfl | ⟨f, w, -, rfl, -, rfl⟩
  · rfl
  · simp only [List.length_append, length_lowBytes]

theorem spells_limit : Spells getLimit fun l bs => Loose (lowBytes 4 (limitWord l).toNat) (limitAfter [] l) bs := by
  refine canonical_u32.bind fun v => .pure ?_
  rw [List.append_nil]
  by_cases hv : limitMax < v
  · rw [if_pos hv]
    by_cases hne : v = 0xffffffff
    · exact .inl (by rw [hne]; rfl)
    · -- a negative word, and not -1
      have hneNat : v.toNat ≠ 0xffffffff := fun h => hne (UInt32.toNat_inj.1 h)
      have hlt := v.toNat_lt
      refine .inr ⟨[], v.toInt32, rfl, rfl, ?_, by rw [UInt32.toUInt32_toInt32, List.nil_append]⟩
      rw [Int32.lt_iff_toInt_lt, toInt_of_limitMax_lt hv]
      change (v.toNat : Int) - 2 ^ 32 < -1
      omega
  · rw [if_neg hv]
    exact .inl (by rw [limitWord, if_neg hv])

/-! ## Requests -/

/-- the bytes of a range before its limit -/
def KeyRange.front (r : KeyRange) : List UInt8 :=
  optional blob r.first ++ (flagByte r.firstInclusive ++ (optional blob r.last ++ flagByte r.lastInclusive))

/-- the bytes before the limit of a query that may carry one and does not -/
def Query.unlimited? : Query → Option (List UInt8)
  | range r | rangeEntries r | revRangeEntries r => limitAfter r.front r.limit
  | keysWithPrefix p limit => limitAfter (blob p) limit
  | _ => none

/-- the bytes after the opcode and before the limit of a request that may carry one and does not -/
def Request.unlimited? : Request → Option (List UInt8)
  | query q dirty => q.unlimited?.map (flagByte dirty ++ ·)
  | _ => none

/-- the frame of a request, but that after front the limit is w -/
def Request.withLimit (r : Request) (front : List UInt8) (w : Int32) : Bytes :=
  finish (ofList (lowBytes 4 r.opcode.word.toNat ++ (front ++ lowBytes 4 w.toUInt32.toNat)))

theorem map_limitAfter (a front : List UInt8) (l : Option UInt32) :
    (limitAfter front l).map (a ++ ·) = limitAfter (a ++ front) l := by
  cases l <;> rfl

theorem spells_range : Spells KeyRange.read fun r bs => Loose r.bytes (limitAfter r.front r.limit) bs := by
  refine canonical_bytes.option.bind fun first => canonical_bool.bind fun firstInclusive =>
    canonical_bytes.option.bind fun last => canonical_bool.bind fun lastInclusive => spells_limit.bind ?_
  intro limit a ha
  refine .pure ?_
  have h := (((ha.append (flagByte lastInclusive)).append (optional blob last)).append (flagByte firstInclusive)).append
    (optional blob first)
  simp only [map_limitAfter, List.append_nil] at h ⊢
  exact h

theorem canonical_update : Canonical Update.read Update.bytes := by
  refine canonical_u32.bind fun tag => ?_
  split
  · exact canonical_bytes.bind fun k => canonical_bytes.last (Update.set k) fun _ => rfl
  · exact canonical_bytes.last Update.delete fun _ => rfl
  · exact canonical_bytes.bind fun k => canonical_bytes.option.last (Update.assert k) fun _ => rfl
  · exact canonical_bytes.last Update.assertExists fun _ => rfl
  · exact .throw _

/-- a word that was read as an opcode is the word of that opcode -/
theorem Opcode.ofWord_ok {w : UInt32} {op : Opcode} (h : ofWord w = .ok op) : w = op.word := by
  unfold ofWord at h
  split_ifs at h with hmagic
  split at h
  · rename_i op' hop
    cases h
    have hnumber := List.find?_some hop
    rw [decide_eq_true_eq] at hnumber
    rw [word, hnumber, ← not_ne_iff.1 hmagic, ← UInt32.toBitVec_inj, UInt32.toBitVec_or, UInt32.toBitVec_and,
      UInt32.toBitVec_and, ← BitVec.and_or_distrib_left]
    exact BitVec.and_allOnes.symm
  · cases h

namespace Request

/-- a request that the arguments of op make, and the bytes that they were read from -/
abbrev Made (op : Opcode) (r : Request) (bs : List UInt8) : Prop :=
  r.opcode = op ∧ Loose r.argumentBytes r.unlimited? bs

theorem spells_query {op : Opcode} {get : Read Query}
    (h : Spells get fun q bs => q.opcode = op ∧ Loose q.bytes q.unlimited? bs) : Spells (readQuery get) (Made op) := by
  refine canonical_bool.bind fun dirty => h.bind ?_
  rintro q a ⟨hop, ha⟩
  exact .pure ⟨hop, by rw [List.append_nil]; exact ha.append _⟩

/-- of the arguments of a request only a limit that is none is spelt in more ways than one -/
theorem spells_arguments (op : Opcode) : Spells (arguments op) (Made op) := by
  cases op with
  | whoMaster | version | getKeyCount | expectProgressPossible | statistics => exact .pure ⟨rfl, .inl rfl⟩
  | keyExists | get | assertExists => exact spells_query (canonical_bytes.map _ fun _ => ⟨rfl, .inl rfl⟩)
  | multiGet => exact spells_query (canonical_bytes.list.map _ fun _ => ⟨rfl, .inl rfl⟩)
  | assert =>
    exact spells_query (canonical_bytes.bind fun k => canonical_bytes.option.last _ fun _ => ⟨rfl, .inl rfl⟩)
  | range | rangeEntries | revRangeEntries => exact spells_query (spells_range.map _ fun _ _ h => ⟨rfl, h⟩)
  | keysWithPrefix =>
    refine spells_query (canonical_bytes.bind fun p => spells_limit.last _ fun limit a ha => ⟨rfl, ?_⟩)
    have h := ha.append (blob p)
    rw [map_limitAfter, List.append_nil] at h
    exact h
  | ping => exact canonical_text.bind fun _ => canonical_text.last _ fun _ => ⟨rfl, .inl rfl⟩
  | set | confirm => exact canonical_bytes.bind fun _ => canonical_bytes.last _ fun _ => ⟨rfl, .inl rfl⟩
  | delete => exact canonical_bytes.last _ fun _ => ⟨rfl, .inl rfl⟩
  | testAndSet =>
    exact canonical_bytes.bind fun _ => canonical_bytes.option.bind fun _ =>
      canonical_bytes.option.last _ fun _ => ⟨rfl, .inl rfl⟩
  | sequence | syncedSequence => exact canonical_update.list.last _ fun _ => ⟨rfl, .inl rfl⟩
  | userFunction => exact canonical_text.bind fun _ => canonical_bytes.option.last _ fun _ => ⟨rfl, .inl rfl⟩

theorem reads_query {get : Read Query} {f : Form} (h : Reads get f) : Reads (readQuery get) (.both .flag f) :=
  reads_bool.bind fun _ => h.last _

theorem reads_arguments (op : Opcode) : Reads (arguments op) op.form := by
  cases op with
  | whoMaster | version | getKeyCount | expectProgressPossible | statistics => exact .pure _
  | keyExists | get | assertExists => exact reads_query (reads_bytes.map _)
  | multiGet => exact reads_query (reads_bytes.list.map _)
  | assert => exact reads_query (reads_bytes.bind fun _ => reads_optBytes.last _)
  | range | rangeEntries | revRangeEntries => exact reads_query (reads_range.map _)
  | keysWithPrefix => exact reads_query (reads_bytes.bind fun _ => reads_limit.last _)
  | ping => exact reads_text.bind fun _ => reads_text.last _
  | set | confirm => exact reads_bytes.bind fun _ => reads_bytes.last _
  | delete => exact reads_bytes.last _
  | testAndSet => exact reads_bytes.bind fun _ => reads_optBytes.bind fun _ => reads_optBytes.last _
  | sequence | syncedSequence => exact reads_update.list.last _
  | userFunction => exact reads_text.bind fun _ => reads_optBytes.last _

/-- a request is spelt by the word of its opcode and by its arguments, which have the form of that opcode -/
theorem spells_read : Spells read fun r bs => ∃ l, r.opcode.form.Fits l ∧ Loose r.argumentBytes r.unlimited? l ∧
    bs = lowBytes 4 r.opcode.word.toNat ++ l := by
  refine canonical_u32.bind fun w => ?_
  cases hop : Opcode.ofWord w with
  | error e => exact .throw e
  | ok op =>
    refine ((spells_arguments op).and (reads_arguments op)).mono ?_
    rintro r bs ⟨⟨rfl, hl⟩, hf⟩
    exact ⟨bs, hf, hl, by rw [Opcode.ofWord_ok hop]⟩

/-- the bytes of a request, one way or another, are no more and no fewer than those that its writer writes -/
theorem length_spelt {r : Request} {l : List UInt8} (h : Loose r.argumentBytes r.unlimited? l) :
    r.body.size = 4 + l.length := by
  rw [← list_size, list_body, List.length_append, length_lowBytes, h.length]

theorem encode_eq (r : Request) : r.encode = finish (ofList (lowBytes 4 r.opcode.word.toNat ++ r.argumentBytes)) := by
  rw [← list_body]
  rfl

/-- the bytes that were taken for a request: the opcode, the arguments and the checksum, within the limit -/
theorem decode_ok {s : Stream} {r : Request} {r' : Reader} (e : decode (start s) = .ok r r') :
    ∃ l, r.opcode.form.Fits l ∧ Loose r.argumentBytes r.unlimited? l ∧ 4 + l.length ≤ sizeLimit ∧
      s.rest = (finish (ofList (lowBytes 4 r.opcode.word.toNat ++ l))).list ++ r'.stream.rest := by
  rw [decode_eq] at e
  obtain ⟨bs, r₁, ⟨l, hf, hl, rfl⟩, hget, hp, hrest⟩ := closed_spelt spells_read e
  obtain ⟨-, -, hfit⟩ := piecewise_read.past hget
  have hsize := hfit (Nat.zero_le _)
  rw [hp.consumed, List.length_append, length_lowBytes] at hsize
  exact ⟨l, hf, hl, (Nat.zero_add _).symm.trans_le hsize, hrest⟩

/-- what a node reads as a request is the body of one that fits a frame -/
theorem fits_of_decode {s : Stream} {r : Request} {r' : Reader} (e : decode (start s) = .ok r r') :
    r.body.size ≤ sizeLimit := by
  obtain ⟨l, -, hl, hfit, -⟩ := decode_ok e
  rwa [length_spelt hl]

/-- p is the frame of r; or r may have a limit and has none, and p says so by a word below -1, where the frame of r has
-1 and the checksum that goes with it -/
def SpeltAs (r : Request) (p : Bytes) : Prop :=
  p = r.encode ∨ ∃ front w, r.unlimited? = some front ∧ w < (-1 : Int32) ∧ p = r.withLimit front w ∧
    r.encode = r.withLimit front (-1)

theorem spelt_finish {r : Request} {l : List UInt8} (h : Loose r.argumentBytes r.unlimited? l) :
    r.SpeltAs (finish (ofList (lowBytes 4 r.opcode.word.toNat ++ l))) := by
  rcases h with rfl | ⟨front, w, hfront, hr, hw, rfl⟩
  · exact .inl r.encode_eq.symm
  · exact .inr ⟨front, w, hfront, hw, rfl, by rw [encode_eq, hr, withLimit]⟩

/-- two ways to write one request differ in a negative limit -/
theorem SpeltAs.differ {r : Request} {p q : Bytes} (hp : r.SpeltAs p) (hq : r.SpeltAs q) :
    q = p ∨ ∃ front w w', r.unlimited? = some front ∧ w < (0 : Int32) ∧ w' < (0 : Int32) ∧ p = r.withLimit front w ∧
      q = r.withLimit front w' := by
  have below {w : Int32} (h : w < -1) : w < 0 := Int32.lt_trans h (by decide)
  rcases hp with rfl | ⟨front, w, hfront, hw, rfl, hr⟩ <;> rcases hq with rfl | ⟨front', w', hfront', hw', rfl, hr'⟩
  · exact .inl rfl
  · exact .inr ⟨front', -1, w', hfront', by decide, below hw', hr', rfl⟩
  · exact .inr ⟨front, w, -1, hfront, below hw, by decide, rfl, hr⟩
  · obtain rfl : front = front' := Option.some.inj (hfront.symm.trans hfront')
    exact .inr ⟨front, w, w', hfront, below hw, below hw', rfl, rfl⟩

/-- **A node reads a request from no frame but its own.** The bytes p that a node takes for a request r are a frame of
the grammar, and the frame of r but for the word of a limit that is none. So all that two frames of one request can
differ in is a negative limit. -/
theorem accepted_canonical {b : Bytes} {r : Request} {r' : Reader} (e : decode (start (.ofBytes b)) = .ok r r') :
    ∃ p, b = p ++ r'.stream.unread ∧ Framed p ∧ r.SpeltAs p ∧
      ∀ b₂ r₂ p₂, decode (start (.ofBytes b₂)) = .ok r r₂ → b₂ = p₂ ++ r₂.stream.unread →
        p₂ = p ∨ ∃ front w w₂, r.unlimited? = some front ∧ w < (0 : Int32) ∧ w₂ < (0 : Int32) ∧
          p = r.withLimit front w ∧ p₂ = r.withLimit front w₂ := by
  have accepted {b : Bytes} {r' : Reader} (e : decode (start (.ofBytes b)) = .ok r r') :
      ∃ p, b = p ++ r'.stream.unread ∧ Framed p ∧ r.SpeltAs p := by
    obtain ⟨l, hf, hl, hfit, hrest⟩ := decode_ok e
    exact ⟨_, Stream.eq_append_unread hrest, ⟨_, l, hf, hfit, rfl⟩, spelt_finish hl⟩
  obtain ⟨p, hb, hframed, hp⟩ := accepted e
  refine ⟨p, hb, hframed, hp, ?_⟩
  intro b₂ r₂ p₂ e₂ hb₂
  obtain ⟨q, hq, -, hspelt⟩ := accepted e₂
  obtain rfl : q = p₂ := (ByteArray.append_left_inj _).1 (hq.symm.trans hb₂)
  exact hp.differ hspelt

/-- a limit of -2, and a byte behind the frame -/
theorem accepted_canonical_unlimited :
    let r := Request.query (.revRangeEntries ⟨some "k".toUTF8, true, none, false, none⟩) true
    let p := r.withLimit [1, 1, 1, 0, 0, 0, 107, 1, 0, 0] (-2)
    p ≠ r.encode ∧ ∃ r', decode (start (.ofBytes (p ++ ⟨#[7]⟩))) = .ok r r' ∧
      ∃ q, p ++ ⟨#[7]⟩ = q ++ r'.stream.unread ∧ Framed q ∧ r.SpeltAs q ∧
        ∀ b₂ r₂ p₂, decode (start (.ofBytes b₂)) = .ok r r₂ → b₂ = p₂ ++ r₂.stream.unread →
          p₂ = q ∨ ∃ front w w₂, r.unlimited? = some front ∧ w < (0 : Int32) ∧ w₂ < (0 : Int32) ∧
            q = r.withLimit front w ∧ p₂ = r.withLimit front w₂ := by
  intro r p
  have hread : (match decode (start (.ofBytes (p ++ ⟨#[7]⟩))) with
      | .ok v _ => decide (v = r)
      | .error _ _ => false) = true := by decide +kernel
  refine ⟨by decide +kernel, ?_⟩
  split at hread
  · rename_i v r' e
    obtain rfl := of_decide_eq_true hread
    exact ⟨r', e, accepted_canonical e⟩
  · cases hread

end Request

end ReplicaKV
