/-
The two ways to a configuration: calls that build one, and settings written down.

- `Settings.accept_eq_ok`: settings are accepted as they are, or not at all.
- `File.calls`: the calls that say what was written down. `File.misgiven`: the first number of seconds that is no span.
- `config_eq`: with such a number nothing is configured; otherwise what is configured is what the calls build.
- `configured_alike`: both ways lead to the same configurations, and to which.
-/
import ReplicaKV.Proofs.Seconds
import ReplicaKV.Proofs.Settings
import ReplicaKV.Settings.Load

namespace ReplicaKV

namespace Settings

theorem accept_eq_ok {s : Settings} {c : Config} : s.accept = .ok c ↔ c.settings = s := by
  unfold accept
  split
  · rename_i h
    constructor
    · rintro ⟨⟩
      rfl
    · rintro rfl
      rfl
  · rename_i p h
    refine ⟨nofun, ?_⟩
    rintro rfl
    cases h.symm.trans c.accepted

theorem accept_isOk (s : Settings) : (∃ c, s.accept = .ok c) ↔ s.terms.Acceptable := by
  rw [← problem_eq_none]
  constructor
  · rintro ⟨c, hc⟩
    exact accept_eq_ok.1 hc ▸ c.accepted
  · intro h
    exact ⟨⟨s, h⟩, accept_eq_ok.2 rfl⟩

def Span.all : List Span := [backoffScale, masterRetryBudget, connectTimeout]

namespace File

variable {f : File}

/-- the number of seconds that was written down for a span -/
def given (f : File) : Span → Option Binary64
  | .backoffScale => f.backoffScale
  | .masterRetryBudget => f.masterRetryBudget
  | .connectTimeout => f.connectTimeout

/-- the calls that say what was written down: one for each node, and one for each value that was given -/
def calls (f : File) : List Edit :=
  f.nodes.entries.map (fun p => .node p.1 p.2) ++ f.maxAttempts.toList.map .maxAttempts ++
    Span.all.filterMap fun x => ((f.given x).bind Duration.ofBinary64?).map (.span x)

/-- a number that was given, if it is no span -/
def misgiven? (v : Option Binary64) : Option Binary64 := v.filter fun n => (Duration.ofBinary64? n).isNone

/-- the first number of seconds that is no span -/
def misgiven (f : File) : Option (Span × Binary64) := Span.all.findSome? fun x => (misgiven? (f.given x)).map (x, ·)

/-- every number of seconds that was given is the value of a span -/
def Converts (f : File) : Prop := ∀ x n, f.given x = some n → ∃ q, n.value? = some q ∧ 0 ≤ q ∧ q < 2 ^ 64

/-- the calls lead to what was written down -/
theorem edits_calls (f : File) : (initial f.clusterId).edits f.calls =
    ⟨f.clusterId, f.nodes, f.maxAttempts.getD 1,
      ((f.given .backoffScale).bind Duration.ofBinary64?).getD Span.backoffScale.usual,
      ((f.given .masterRetryBudget).bind Duration.ofBinary64?).getD Span.masterRetryBudget.usual,
      ((f.given .connectTimeout).bind Duration.ofBinary64?).getD Span.connectTimeout.usual⟩ := by
  have hnodes : ∀ (l : List (NodeId × Location)) (s : Settings),
      s.edits (l.map fun p => .node p.1 p.2) = { s with nodes := l.foldl (fun m p => m.insert p.1 p.2) s.nodes } := by
    intro l
    induction l with
    | nil => exact fun s => rfl
    | cons p l ih => exact fun s => ih (s.edit (.node p.1 p.2))
  have hfirst : (initial f.clusterId).edits (f.nodes.entries.map fun p => .node p.1 p.2) =
      { initial f.clusterId with nodes := f.nodes } := by
    calc (initial f.clusterId).edits (f.nodes.entries.map fun p => .node p.1 p.2)
      _ = { initial f.clusterId with nodes := .ofList f.nodes.entries } := hnodes _ _
      _ = { initial f.clusterId with nodes := f.nodes } := by rw [SortedMap.ofList_entries]
  rw [calls, edits_append, edits_append, hfirst]
  simp only [Span.all, List.filterMap_cons, List.filterMap_nil]
  cases f.maxAttempts <;> cases (f.given .backoffScale).bind Duration.ofBinary64? <;>
    cases (f.given .masterRetryBudget).bind Duration.ofBinary64? <;>
    cases (f.given .connectTimeout).bind Duration.ofBinary64? <;> rfl

theorem misgiven_eq_none : f.misgiven = none ↔ f.Converts := by
  simp only [misgiven, List.findSome?_eq_none_iff, Option.map_eq_none_iff, misgiven?, Option.filter_eq_none_iff,
    Bool.not_eq_true, Option.isNone_eq_false_iff, Duration.isSome_ofBinary64?]
  exact ⟨fun h x => h x (by cases x <;> simp [Span.all]), fun h x _ => h x⟩

theorem duration_eq (x : Span) (v : Option Binary64) (default : Duration) :
    duration x v default = match misgiven? v with
      | some n => .error (.noDuration x n)
      | none => .ok ((v.bind Duration.ofBinary64?).getD default) := by
  cases v with
  | none => rfl
  | some n =>
    rw [duration, misgiven?, Option.filter_some, Option.bind_some]
    cases Duration.ofBinary64? n <;> rfl

/-- **Settings written down are the calls that say the same**, unless a number of seconds is no span. -/
theorem config_eq (f : File) : f.config = match f.misgiven with
    | some (x, n) => .error (.noDuration x n)
    | none => ((initial f.clusterId).edits f.calls).accept.mapError .problem := by
  rw [edits_calls]
  simp only [config, settings, duration_eq, misgiven, Span.all, List.findSome?_cons, List.findSome?_nil, given]
  cases misgiven? f.backoffScale with
  | some n => rfl
  | none =>
    cases misgiven? f.masterRetryBudget with
    | some n => rfl
    | none => cases misgiven? f.connectTimeout <;> rfl

theorem config_eq_ok {c : Config} :
    f.config = .ok c ↔ f.Converts ∧ ((initial f.clusterId).edits f.calls).accept = .ok c := by
  rw [config_eq, ← misgiven_eq_none]
  cases f.misgiven with
  | some p => simp
  | none => cases ((initial f.clusterId).edits f.calls).accept <;> simp [Except.mapError]

/-- a configuration has what was written down, to the nanosecond -/
structure Written (f : File) (c : Config) : Prop where
  clusterId : c.clusterId = f.clusterId
  nodes : c.settings.nodes = f.nodes
  attempts : c.settings.maxAttempts = f.maxAttempts.getD 1
  absent : ∀ x, f.given x = none → c.settings.span x = x.usual
  spans : ∀ x n, f.given x = some n → ∃ q, n.value? = some q ∧ 0 ≤ q ∧ Nearest (q * billion) (c.settings.span x).nanos

theorem written {c : Config} (h : f.config = .ok c) : f.Written c := by
  obtain ⟨hconverts, hbuilt⟩ := config_eq_ok.1 h
  have hsettings := (accept_eq_ok.1 hbuilt).trans (edits_calls f)
  have hspan : ∀ x, c.settings.span x = ((f.given x).bind Duration.ofBinary64?).getD x.usual := by
    intro x
    rw [hsettings]
    cases x <;> rfl
  refine ⟨congrArg Settings.clusterId hsettings, congrArg Settings.nodes hsettings,
    congrArg Settings.maxAttempts hsettings, fun x hx => by rw [hspan, hx]; rfl, fun x n hx => ?_⟩
  obtain ⟨d, hd⟩ := Option.isSome_iff_exists.1 (Duration.isSome_ofBinary64?.2 (hconverts x n hx))
  obtain ⟨q, hq, h0, -, hnear⟩ := Duration.ofBinary64?_eq_some.1 hd
  refine ⟨q, hq, h0, ?_⟩
  rw [hspan, hx, Option.bind_some, hd]
  exact hnear

end File

/-- a configuration is what the calls that built it say, and its nodes are those they gave, in order -/
structure Built (clusterId : String) (es : List Edit) (c : Config) : Prop where
  terms : c.settings.terms = .ofCalls clusterId es
  ascending : c.nodeIds.Pairwise (· < ·)
  nodeIds : ∀ id, id ∈ c.nodeIds ↔ ∃ l, Edit.node id l ∈ es
  location : ∀ id, (c.location? id).isSome ↔ ∃ l, Edit.node id l ∈ es
  contains : ∀ id, c.settings.nodes.contains id ↔ ∃ l, Edit.node id l ∈ es

theorem built {clusterId : String} {es : List Edit} {c : Config}
    (h : ((initial clusterId).edits es).accept = .ok c) : Built clusterId es c := by
  have hterms : c.settings.terms = .ofCalls clusterId es := by rw [accept_eq_ok.1 h, terms_edits]
  have hlocation : ∀ id, (c.location? id).isSome ↔ ∃ l, Edit.node id l ∈ es := by
    intro id
    rw [← isSome_location clusterId es id, ← hterms]
    rfl
  refine ⟨hterms, ?_, fun id => ?_, hlocation, hlocation⟩
  · exact (List.pairwise_map.2 c.settings.nodes.sorted).imp fun h => compareOfLessAndEq_eq_lt.1 h
  · rw [← hlocation, Config.nodeIds, SortedMap.mem_keys_iff, Option.isSome_iff_exists]
    rfl

/-- a connect timeout that is rounded to nothing is refused -/
theorem config_ne_ok_of_timeout {f : File} {n : Binary64} {q : ℚ} (hn : f.connectTimeout = some n)
    (hq : n.value? = some q) (hsmall : q * billion ≤ 1 / 2) (c : Config) : f.config ≠ .ok c := by
  intro h
  obtain ⟨q', hq', h0, hnear⟩ := (File.written h).spans .connectTimeout n hn
  cases hq.symm.trans hq'
  have hzero : Nearest (q * billion) 0 := by
    refine ⟨?_, fun _ => Even.zero⟩
    rw [Nat.cast_zero, sub_zero, abs_of_nonneg (by positivity)]
    exact hsmall
  have hpos : 0 < (c.settings.span .connectTimeout).nanos := (problem_eq_none.1 c.accepted).timeout
  rw [hnear.unique hzero] at hpos
  exact Nat.lt_irrefl 0 hpos

/-- **Both ways lead to the same configurations.** Calls build a configuration exactly if their last words are
acceptable; then it is what they say, and its nodes are those that were given. Settings written down make one exactly if
every number of seconds is the value of a span and the calls that say the same build it; then it has what was written
down. A number that is no span (which NaN, infinite, negative and huge ones are not) is the reason why the whole is
refused, and so is a connect timeout that is no more than half a nanosecond. -/
theorem configured_alike :
    (∀ clusterId es,
      ((∃ c, ((initial clusterId).edits es).accept = .ok c) ↔ (Terms.ofCalls clusterId es).Acceptable) ∧
        ∀ c, ((initial clusterId).edits es).accept = .ok c → Built clusterId es c) ∧
    ∀ f : File,
      (∀ c, f.config = .ok c ↔ f.Converts ∧ ((initial f.clusterId).edits f.calls).accept = .ok c) ∧
      (f.Converts → f.config = ((initial f.clusterId).edits f.calls).accept.mapError .problem) ∧
      (∀ c, f.config = .ok c → f.Written c) ∧
      (¬f.Converts → ∃ x n, f.misgiven = some (x, n) ∧ f.config.mapError Rejection.failure =
        .error (.invalidConfig s!"{x.name} = {n.text} is not a valid duration")) ∧
      ∀ n q, f.connectTimeout = some n → n.value? = some q → q * billion ≤ 1 / 2 → ∀ c, f.config ≠ .ok c := by
  refine ⟨fun clusterId es => ⟨?_, fun c => built⟩,
    fun f => ⟨fun c => File.config_eq_ok, ?_, fun c => File.written, ?_, ?_⟩⟩
  · rw [accept_isOk, terms_edits]
  · intro h
    rw [File.config_eq, File.misgiven_eq_none.2 h]
  · intro h
    obtain ⟨⟨x, n⟩, hxn⟩ := Option.ne_none_iff_exists'.1 (mt File.misgiven_eq_none.1 h)
    refine ⟨x, n, hxn, ?_⟩
    rw [File.config_eq, hxn]
    rfl
  · exact fun n q hn hq hsmall => config_ne_ok_of_timeout hn hq hsmall

/-- a node that is given again, a timeout of 2^-40 seconds, and one that is not a number -/
theorem configured_alike_extremes :
    let es : List Edit := [.node "b" ⟨"h", 0⟩, .node "a" ⟨"h", 2⟩, .node "b" ⟨"h", 3⟩, .span .backoffScale .zero]
    let tiny : File := ⟨"c", .ofList [("a", ⟨"h", 2⟩)], none, none, none, some ⟨0x3d70000000000000⟩⟩
    let odd : File := { tiny with connectTimeout := some (.nan false) }
    (∃ c, ((initial "c").edits es).accept = .ok c ∧ Built "c" es c) ∧ (∀ c, tiny.config ≠ .ok c) ∧ ¬odd.Converts ∧
      odd.config.mapError Rejection.failure =
        .error (.invalidConfig "connect_timeout = NaN is not a valid duration") := by
  intro es tiny odd
  have hsmall : (Binary64.mk 0x3d70000000000000).value? = some (2 ^ 52 * 2 ^ (-92 : ℤ)) := by
    have hm : (Binary64.mk 0x3d70000000000000).magnitude = .finite (2 ^ 52) (-92) := by decide
    have hsign : (Binary64.mk 0x3d70000000000000).negative = false := by decide
    simp only [Binary64.value?, hm, hsign, Bool.false_eq_true, if_false, one_mul, Nat.cast_pow, Nat.cast_ofNat]
  have hodd : ¬odd.Converts := by
    intro h
    obtain ⟨q, hq, -⟩ := h .connectTimeout (.nan false) rfl
    cases hq
  refine ⟨?_, ?_, hodd, ?_⟩
  · let c : Config := ⟨(initial "c").edits es, by decide⟩
    exact ⟨c, accept_eq_ok.2 rfl, (configured_alike.1 "c" es).2 c (accept_eq_ok.2 rfl)⟩
  · exact (configured_alike.2 tiny).2.2.2.2 _ _ rfl hsmall (by norm_num [billion])
  · obtain ⟨x, n, hxn, h⟩ := (configured_alike.2 odd).2.2.2.1 hodd
    have hfirst : odd.misgiven = some (.connectTimeout, .nan false) := by decide
    cases hfirst.symm.trans hxn
    exact h

end Settings

end ReplicaKV
