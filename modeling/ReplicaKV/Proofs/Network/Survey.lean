/-
Whom a client asks while it looks for the master, on every network.

- `inquire`: one node of the search: it is asked, and so is the node that it names, unless it names itself. `Inquiry`
  says who was asked.
- `scan`, `survey`: the search, with the inquiries that it makes. `scan_search`, `survey_findMaster`: it is the search.
- `scanned_survey`: nodes are scanned in some order, and none twice. `length_asked_le`: none leads to more than two
  questions.
- `noted_survey`: the log of a network tells of these questions, but for those to nodes that the client does not have.
-/
import ReplicaKV.Proofs.Network.Trace

namespace ReplicaKV

variable {W : Type}

/-- a node that was scanned, and the node that it named, if that one was asked in turn -/
structure Inquiry where
  scanned : NodeId
  named : Option NodeId

/-- the nodes that were asked who is master -/
def Inquiry.asked (q : Inquiry) : List NodeId := q.scanned :: q.named.toList

theorem Inquiry.length_asked_le (qs : List Inquiry) : (qs.flatMap asked).length ≤ 2 * qs.length := by
  induction qs with
  | nil => exact Nat.le_refl 0
  | cons q qs ih =>
    have hq : q.asked.length ≤ 2 := by
      rcases q with ⟨id, _ | named⟩
      · exact Nat.le_succ 1
      · exact Nat.le_refl 2
    rw [List.flatMap_cons, List.length_append, List.length_cons]
    omega

namespace Scene

variable {net : Network W} {s : Scene W}

/-- scan a node: whom was asked, and the master that was confirmed, if one was -/
def inquire (net : Network W) (id : NodeId) (s : Scene W) : Inquiry × Option NodeId × Scene W :=
  match s.askMaster net id with
  | (.ok (some claimed), s) =>
    if claimed = id then (⟨id, none⟩, some id, s)
    else
      let (answer, s) := s.askMaster net claimed
      (⟨id, some claimed⟩, if answer.toOption = some (some claimed) then some claimed else none, s)
  | (_, s) => (⟨id, none⟩, none, s)

/-- the search for the master among some nodes, with the inquiries that it makes -/
def scan (net : Network W) : List NodeId → Scene W → List Inquiry × Except Failure NodeId × Scene W
  | [], s => ([], .error .noMaster, s)
  | id :: rest, s =>
    match s.inquire net id with
    | (q, some m, s) => ([q], .ok m, s.setMaster (some m))
    | (q, none, s) =>
      let (qs, x) := scan net rest s
      (q :: qs, x)

/-- the search for a master that is not known, with the inquiries that it makes -/
def survey (net : Network W) (s : Scene W) : List Inquiry × Except Failure NodeId × Scene W :=
  let (ids, c) := s.client.shuffledNodes
  scan net ids { s with client := c }

theorem scan_search (net : Network W) (ids : List NodeId) (s : Scene W) : (s.scan net ids).2 = s.search net ids := by
  induction ids generalizing s with
  | nil => rfl
  | cons id rest ih =>
    simp only [scan, inquire, search]
    rcases s.askMaster net id with ⟨e | _ | claimed, s₁⟩
    · exact ih s₁
    · exact ih s₁
    · by_cases hself : claimed = id
      · simp only [if_pos hself]
      · simp only [if_neg hself]
        rcases s₁.askMaster net claimed with ⟨e | _ | confirmed, s₂⟩
        · exact ih s₂
        · exact ih s₂
        · by_cases hconf : confirmed = claimed
          · simp [Except.toOption, hconf]
          · simpa [Except.toOption, hconf] using ih s₂

theorem survey_findMaster (net : Network W) (h : s.client.master = none) : (s.survey net).2 = s.findMaster net := by
  simp only [findMaster, h]
  exact scan_search net _ _

theorem scanned_inquire (net : Network W) (id : NodeId) (s : Scene W) : (s.inquire net id).1.scanned = id := by
  unfold inquire
  rcases s.askMaster net id with ⟨e | _ | claimed, s₁⟩
  · rfl
  · rfl
  · simp only
    split_ifs <;> rfl

/-- nodes are scanned in order -/
theorem scanned_scan (net : Network W) (ids : List NodeId) (s : Scene W) :
    (s.scan net ids).1.map Inquiry.scanned <+: ids := by
  induction ids generalizing s with
  | nil => exact List.prefix_refl []
  | cons id rest ih =>
    have hq := scanned_inquire net id s
    unfold scan
    generalize s.inquire net id = x at hq ⊢
    rcases x with ⟨q, _ | m, s₁⟩
    · exact List.cons_prefix_cons.2 ⟨hq, ih s₁⟩
    · exact List.cons_prefix_cons.2 ⟨hq, List.nil_prefix⟩

/-- the search for a master that is not known is a scan of all nodes, in some order -/
theorem survey_eq (net : Network W) (s : Scene W) : ∃ draws,
    s.survey net = scan net s.client.shuffledNodes.1 ⟨{ s.client with draws := draws }, s.clock, s.net⟩ := by
  obtain ⟨draws, hd⟩ := s.client.shuffledNodes_client
  exact ⟨draws, by rw [survey, ← hd]⟩

theorem scanned_survey (net : Network W) (s : Scene W) :
    ∃ order, order.Perm s.client.config.nodeIds ∧ (s.survey net).1.map Inquiry.scanned <+: order := by
  obtain ⟨draws, hs⟩ := survey_eq net s
  rw [hs]
  exact ⟨_, s.client.shuffledNodes_perm, scanned_scan net _ _⟩

/-! ## The search seen through a network -/

section

variable {V : Type} {net' : Network V} {f : V → W}

theorem inquire_map (h : net'.Seen net f) (id : NodeId) (s : Scene V) :
    (s.map f).inquire net id = ((s.inquire net' id).1, through f (s.inquire net' id).2) := by
  simp only [inquire, askMaster, exchange_map h]
  rcases s.exchange net' id (Request.encode .whoMaster) .optText with ⟨e | _ | claimed, s₁⟩
  · rfl
  · rfl
  · by_cases hself : claimed = id
    · simp only [if_pos hself]
    · simp only [if_neg hself, exchange_map h]
      rfl

theorem scan_map (h : net'.Seen net f) (ids : List NodeId) (s : Scene V) :
    (s.map f).scan net ids = ((s.scan net' ids).1, through f (s.scan net' ids).2) := by
  induction ids generalizing s with
  | nil => rfl
  | cons id rest ih =>
    simp only [scan, inquire_map h]
    rcases s.inquire net' id with ⟨q, _ | m, s₁⟩
    · simp only [ih]
    · rfl

theorem survey_map (h : net'.Seen net f) (s : Scene V) :
    (s.map f).survey net = ((s.survey net').1, through f (s.survey net').2) :=
  scan_map h s.client.shuffledNodes.1 { s with client := s.client.shuffledNodes.2 }

end

/-! ## What the log tells -/

/-- the requests that the log tells of, last first: whom they were put to, and their frames -/
def requested (log : List (Deed W)) : List (NodeId × Bytes) :=
  (log.filterMap Deed.notice?).map fun n => (n.node, n.frame)

/-- the questions about the master that reach the network: those to nodes of the client's, last first -/
def questions (known ids : List NodeId) : List (NodeId × Bytes) :=
  ((ids.filter (· ∈ known)).map fun id => (id, Request.encode .whoMaster)).reverse

theorem questions_append (known ids ids' : List NodeId) :
    questions known (ids ++ ids') = questions known ids' ++ questions known ids := by
  rw [questions, List.filter_append, List.map_append, List.reverse_append]
  rfl

theorem requested_askMaster (net : Network W) (id : NodeId) (s : Scene (Recorded W)) :
    requested (s.askMaster net.recorded id).2.net.log =
      questions s.client.config.nodeIds [id] ++ requested s.net.log := by
  unfold askMaster
  rcases exchange_trace net id (Request.encode .whoMaster) .optText s with ⟨he, hid⟩ | ⟨hid, s₁, w, ht, he⟩
  · rw [he, questions, List.filter_singleton]
    simp only [hid, decide_false]
    rfl
  · obtain ⟨new, hl, hn⟩ := ht.log
    have hnone : new.filterMap Deed.notice? = [] := List.filterMap_eq_nil_iff.2 hn
    have hbefore : s₁.net.log.filterMap Deed.notice? = s.net.log.filterMap Deed.notice? := by
      rw [show s₁.net.log = new ++ s.net.log from hl, List.filterMap_append, hnone, List.nil_append]
    rw [he, questions, List.filter_singleton]
    simp only [hid, decide_true, requested, Recorded.add, List.filterMap_cons, Deed.notice?, hbefore]
    rfl

/-- an inquiry puts its questions, and leaves the settings alone -/
theorem noted_inquire (net : Network W) (id : NodeId) (s : Scene (Recorded W)) :
    (s.inquire net.recorded id).2.2.client.config = s.client.config ∧
      requested (s.inquire net.recorded id).2.2.net.log =
        questions s.client.config.nodeIds (s.inquire net.recorded id).1.asked ++ requested s.net.log := by
  have hconfig := (modest_exchange net.recorded id (Request.encode .whoMaster) .optText s).config
  have hasked := requested_askMaster net id s
  unfold inquire
  change (s.askMaster net.recorded id).2.client.config = s.client.config at hconfig
  generalize s.askMaster net.recorded id = x at hconfig hasked ⊢
  rcases x with ⟨e | _ | claimed, s₁⟩
  · exact ⟨hconfig, hasked⟩
  · exact ⟨hconfig, hasked⟩
  · simp only
    by_cases hself : claimed = id
    · rw [if_pos hself]
      exact ⟨hconfig, hasked⟩
    · rw [if_neg hself]
      have hconfig' := (modest_exchange net.recorded claimed (Request.encode .whoMaster) .optText s₁).config
      refine ⟨hconfig'.trans hconfig, ?_⟩
      have hboth : (⟨id, some claimed⟩ : Inquiry).asked = [id] ++ [claimed] := rfl
      rw [requested_askMaster net claimed s₁, hasked, hconfig, ← List.append_assoc, ← questions_append, hboth]

/-- **The questions of a search are the requests that the log tells of.** -/
theorem noted_scan (net : Network W) (ids : List NodeId) (s : Scene (Recorded W)) :
    requested (s.scan net.recorded ids).2.2.net.log =
      questions s.client.config.nodeIds ((s.scan net.recorded ids).1.flatMap Inquiry.asked) ++ requested s.net.log := by
  induction ids generalizing s with
  | nil => rfl
  | cons id rest ih =>
    obtain ⟨hconfig, hasked⟩ := noted_inquire net id s
    unfold scan
    generalize s.inquire net.recorded id = x at hconfig hasked ⊢
    rcases x with ⟨q, _ | m, s₁⟩
    · simp only [List.flatMap_cons]
      rw [ih s₁, hasked, hconfig, questions_append, List.append_assoc]
    · simp only [List.flatMap_cons, List.flatMap_nil, List.append_nil]
      exact hasked

theorem noted_survey (net : Network W) (s : Scene (Recorded W)) :
    requested (s.survey net.recorded).2.2.net.log =
      questions s.client.config.nodeIds ((s.survey net.recorded).1.flatMap Inquiry.asked) ++ requested s.net.log := by
  obtain ⟨draws, hs⟩ := survey_eq net.recorded s
  rw [hs]
  exact noted_scan net _ _

end Scene

end ReplicaKV
