/-
What settings say, and which settings are accepted.

- `Terms`: what settings say of each thing.
- `Terms.ofCalls`: what a list of edits says, where the last word on each thing holds. `terms_edits`: so it does.
- `Terms.Acceptable`: what accepted settings have to say. `problem_eq_none`: nothing more.
-/
import ReplicaKV.Proofs.SortedMap
import ReplicaKV.Settings

namespace ReplicaKV

namespace Settings

/-- what settings say of each thing that they speak of -/
@[ext] structure Terms where
  clusterId : String
  location : NodeId → Option Location
  maxAttempts : UInt32
  span : Span → Duration

def terms (s : Settings) : Terms := ⟨s.clusterId, s.nodes.get?, s.maxAttempts, s.span⟩

/-! ## Edits -/

/-- what an edit says of a node -/
def Edit.location? (id : NodeId) : Edit → Option Location
  | .node k l => if k = id then some l else none
  | _ => none

/-- what it says of the attempts -/
def Edit.maxAttempts? : Edit → Option UInt32
  | .maxAttempts n => some n
  | _ => none

/-- what it says of a span -/
def Edit.span? (x : Span) : Edit → Option Duration
  | .span y d => if y = x then some d else none
  | _ => none

/-- the usual spans: 200 milliseconds, a minute, five seconds -/
def Span.usual : Span → Duration
  | backoffScale => .ofMillis 200
  | masterRetryBudget => .ofSeconds 60
  | connectTimeout => .ofSeconds 5

/-- the last word of a list of edits, on what f finds in an edit -/
def lastWord {α : Type} (f : Edit → Option α) (es : List Edit) : Option α := es.reverse.findSome? f

theorem lastWord_concat {α : Type} (f : Edit → Option α) (es : List Edit) (e : Edit) :
    lastWord f (es ++ [e]) = (f e).or (lastWord f es) := by
  rw [lastWord, List.reverse_append, List.reverse_singleton, List.singleton_append, List.findSome?_cons]
  cases f e <;> rfl

/-- what edits say together. A thing that none speaks of is as usual; there are no nodes but those given. -/
def Terms.ofCalls (clusterId : String) (es : List Edit) : Terms where
  clusterId := clusterId
  location id := lastWord (Edit.location? id) es
  maxAttempts := (lastWord Edit.maxAttempts? es).getD 1
  span x := (lastWord (Edit.span? x) es).getD x.usual

/-- a node has a location if an edit gave it one -/
theorem isSome_location (clusterId : String) (es : List Edit) (id : NodeId) :
    ((Terms.ofCalls clusterId es).location id).isSome ↔ ∃ l, Edit.node id l ∈ es := by
  simp only [Terms.ofCalls, lastWord, List.findSome?_isSome_iff, List.mem_reverse]
  constructor
  · rintro ⟨e, he, hsome⟩
    cases e with
    | node k l =>
      simp only [Edit.location?] at hsome
      split_ifs at hsome with hk
      · exact ⟨l, hk ▸ he⟩
      · cases hsome
    | _ => cases hsome
  · rintro ⟨l, hl⟩
    exact ⟨_, hl, by simp only [Edit.location?, if_true, Option.isSome_some]⟩

theorem terms_initial (clusterId : String) : (initial clusterId).terms = Terms.ofCalls clusterId [] := by
  refine Terms.ext rfl rfl rfl (funext fun x => ?_)
  cases x <;> rfl

theorem edits_append (s : Settings) (es es' : List Edit) : s.edits (es ++ es') = (s.edits es).edits es' :=
  List.foldl_append

/-- an edit has its say on one thing, and leaves the others as they are -/
theorem terms_edit (s : Settings) (e : Edit) : (s.edit e).terms =
    ⟨s.clusterId, fun id => (e.location? id).or (s.nodes.get? id), e.maxAttempts?.getD s.maxAttempts,
      fun x => (e.span? x).getD (s.span x)⟩ := by
  cases e with
  | node k l =>
    refine Terms.ext rfl (funext fun id => ?_) rfl (funext fun x => by cases x <;> rfl)
    simp only [terms, edit, withNode, SortedMap.get?_insert, Edit.location?, Std.compare_eq_iff_eq]
    by_cases hk : id = k
    · simp [hk]
    · simp [hk, Ne.symm hk]
  | maxAttempts n => exact Terms.ext rfl rfl rfl (funext fun x => by cases x <;> rfl)
  | span y d =>
    refine Terms.ext (by cases y <;> rfl) (by cases y <;> rfl) (by cases y <;> rfl) (funext fun x => ?_)
    cases x <;> cases y <;> rfl

/-- **The last word holds.** -/
theorem terms_edits (clusterId : String) (es : List Edit) :
    ((initial clusterId).edits es).terms = Terms.ofCalls clusterId es := by
  induction es using List.reverseRecOn with
  | nil => exact terms_initial clusterId
  | append_singleton es e ih =>
    obtain ⟨hid, hnodes, hattempts, hspan⟩ := Terms.mk.inj ih
    have hedits : (initial clusterId).edits (es ++ [e]) = ((initial clusterId).edits es).edit e := edits_append _ es [e]
    rw [hedits, terms_edit, hid, hnodes, hattempts, hspan, Terms.ofCalls]
    simp only [lastWord_concat, Option.getD_or]

/-! ## Acceptance -/

/-- what accepted settings have to say -/
structure Terms.Acceptable (t : Terms) : Prop where
  clusterId : t.clusterId ≠ ""
  nodes : ∃ id, (t.location id).isSome
  locations : ∀ id l, t.location id = some l → id ≠ "" ∧ l.host ≠ "" ∧ l.port ≠ 0
  attempts : 1 ≤ t.maxAttempts
  timeout : .zero < t.span .connectTimeout
  spans : ∀ x, ¬.ofSeconds (24 * 60 * 60) < t.span x

theorem Problem.when_eq_none {p : Problem} {b : Bool} : p.when b = none ↔ b = false := by cases b <;> simp [when]

theorem nodeProblem_eq_none {id : NodeId} {l : Location} :
    nodeProblem id l = none ↔ id ≠ "" ∧ l.host ≠ "" ∧ l.port ≠ 0 := by
  simp [nodeProblem, Problem.when_eq_none]

theorem isEmpty_nodes {s : Settings} : s.nodes.isEmpty = false ↔ ∃ id, (s.terms.location id).isSome := by
  rw [SortedMap.isEmpty, List.isEmpty_eq_false_iff_exists_mem]
  simp only [terms, Option.isSome_iff_exists, SortedMap.get?_eq_some_iff, Prod.exists]

/-- **Settings are accepted for what they say.** -/
theorem problem_eq_none {s : Settings} : s.problem = none ↔ s.terms.Acceptable := by
  have hlocations : s.nodes.entries.findSome? (fun p => nodeProblem p.1 p.2) = none ↔
      ∀ id l, s.nodes.get? id = some l → id ≠ "" ∧ l.host ≠ "" ∧ l.port ≠ 0 := by
    simp only [List.findSome?_eq_none_iff, nodeProblem_eq_none, Prod.forall, SortedMap.get?_eq_some_iff]
  have hattempts : decide (s.maxAttempts = 0) = false ↔ 1 ≤ s.maxAttempts := by
    rw [decide_eq_false_iff_not, UInt32.le_iff_toNat_le, ← UInt32.toNat_inj]
    exact Nat.one_le_iff_ne_zero.symm
  have htimeout : decide (s.connectTimeout = .zero) = false ↔ .zero < s.connectTimeout := by
    rw [decide_eq_false_iff_not]
    exact ⟨fun h => Nat.pos_of_ne_zero fun h0 => h (congrArg Duration.mk h0), fun h h0 => by rw [h0] at h; cases h⟩
  have hspans : [Span.backoffScale, .masterRetryBudget, .connectTimeout].findSome?
      (fun x => (Problem.tooLong x (s.span x)).when (longest < s.span x)) = none ↔ ∀ x, ¬longest < s.span x := by
    simp only [List.findSome?_eq_none_iff, Problem.when_eq_none, decide_eq_false_iff_not]
    exact ⟨fun h x => h x (by cases x <;> simp), fun h x _ => h x⟩
  simp only [problem, Option.orElse_eq_none, Problem.when_eq_none, String.isEmpty_eq_false_iff, isEmpty_nodes,
    hlocations, hattempts, htimeout, hspans]
  exact ⟨fun ⟨hid, hn, hl, ha, ht, hs⟩ => ⟨hid, hn, hl, ha, ht, hs⟩,
    fun h => ⟨h.clusterId, h.nodes, h.locations, h.attempts, h.timeout, h.spans⟩⟩

end Settings

end ReplicaKV
