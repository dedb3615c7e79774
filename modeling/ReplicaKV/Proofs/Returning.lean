/-
Which calls return: all of them where the scale of the pauses is positive, and not all of them where it is zero.

The pauses grow, so they exceed any budget after a number of calls that scale and budget determine. A scale of zero is
accepted too. Then time stands still, unless the calls take some, and a master that never comes is looked for forever.

- `onward_exchange`, `onward_exchangeWithMaster`: time moves forward across requests.
- `persist_bounded`: with a positive scale there are at most `mostCalls` calls. `persist_forever`: with a scale of zero
  there may be any number.
- `calls_return`: so every call returns, on every network, while the clock tells the moment.
- `master_sought_forever`: a client with accepted settings that never gets an answer.
-/
import ReplicaKV.Proofs.Retrying

namespace ReplicaKV

/-- settings with one node and a scale of zero -/
def Config.unpaused : Config where
  settings := { (Settings.initial "c").withNode "a" ⟨"h", 1⟩ with backoffScale := .zero }
  accepted := by decide

namespace Scene

section

variable {W : Type} {net : Network W} {s : Scene W} {id : NodeId} {frame : Bytes} {shape : Shape}

/-! ## Requests move time forward -/

theorem onward_waited (i : Nat) (s : Scene W) : s.clock.Onward (s.waited i).clock := by
  rw [waited, pause]
  split_ifs
  · exact .refl _
  · exact Clock.onward_sleep _ _
  · exact Clock.onward_sleep _ _

theorem onward_dispatch (id : NodeId) (l : Location) (frame : Bytes) {α : Type} (decode : Decoder α) (s : Scene W) :
    s.clock.Onward (s.dispatch net id l frame decode).2.clock := by
  refine dispatch_keeps (R := fun s s' => s.clock.Onward s'.clock) (fun _ _ _ => .trans) onward_waited ?_ ?_ ?_ s
  · intro s
    rw [clock_attempt]
    exact .refl _
  · intro s
    rw [clock_gaveUp]
    exact .refl _
  · intro s ch s' _
    rw [clock_readReply]
    exact .refl _

theorem onward_exchange (net : Network W) (id : NodeId) (frame : Bytes) (shape : Shape) (s : Scene W) :
    s.clock.Onward (s.exchange net id frame shape).2.clock :=
  exchange_keeps (R := fun s s' => s.clock.Onward s'.clock) (.refl _) (fun _ _ _ => .trans) (fun _ _ => .refl _)
    fun l _ => onward_dispatch id l frame _ s

theorem onward_seeks (net : Network W) : Seeks net fun s s' => s.clock.Onward s'.clock where
  refl _ := .refl _
  trans _ _ _ := .trans
  ask id s := onward_exchange net id _ _ s
  setMaster _ _ := .refl _
  draws _ _ := .refl _

theorem onward_exchangeWithMaster (net : Network W) (frame : Bytes) (shape : Shape) (s : Scene W) :
    s.clock.Onward (s.exchangeWithMaster net frame shape).2.clock := by
  have hf := (onward_seeks net).findMaster s
  unfold exchangeWithMaster
  generalize s.findMaster net = x at hf ⊢
  rcases x with ⟨e | m, s₁⟩
  · exact hf
  · exact hf.trans (onward_exchange net m frame shape s₁)

end

/-! ## How many calls there are -/

section

variable {W α : Type} {net : Network W} {b : Backoff} {action : Act W α} {s : Scene W}

/-- where the scale is positive a run comes to its last call, after a number of calls that the policy determines -/
theorem persist_bounded (hb : b.Moderate) (hscale : 0 < b.scale.nanos) (h : s.Forward net b action)
    (hk : s.clock.tellsMoment = true) {fuel : Nat} (hfuel : b.mostCalls ≤ fuel) :
    ∃ n < b.mostCalls, s.Retries net b action n ∧ s.Last net b action n (s.persist net b fuel action) := by
  have hfew : ∀ n, s.Retries net b action n → n < b.mostCalls := fun n hr =>
    Backoff.lt_of_pauses_le (hr.pauses_le h) (Backoff.budget_lt_pauses hscale)
  rcases persist_cases hb h hk fuel with ⟨n, -, hr, hlast⟩ | ⟨hr, -⟩
  · exact ⟨n, hfew n hr, hr, hlast⟩
  · exact absurd (hfew fuel hr) (Nat.not_lt_of_le hfuel)

/-- where the scale is zero, a call that takes no time and always loses the master is made as often as may be -/
theorem persist_forever (hb : b.Moderate) (hscale : b.scale.nanos = 0) (h : s.Timeless net b action)
    (hk : s.clock.tellsMoment = true) (hroom : ¬Clock.lastMoment < s.clock.elapsed + b.budget)
    (hlost : ∀ n, ∃ f, (s.callEnd net b action n).1 = .error f ∧ f.losesMaster = true) (fuel : Nat) :
    s.persist net b fuel action = (none, s.callStart net b action fuel) := by
  rcases h.persist_cases hb hk hroom hlost fuel with ⟨n, -, -, hover, -⟩ | ⟨-, hpending⟩
  · rw [Backoff.pauses, hscale, Nat.zero_mul] at hover
    cases hover
  · exact hpending

/-- a run without a result was stopped by the clock -/
theorem persist_stopped (hb : b.Moderate) (hscale : 0 < b.scale.nanos) (h : s.Forward net b action)
    (hk : s.clock.tellsMoment = true) {fuel : Nat} (hfuel : b.mostCalls ≤ fuel)
    (hnone : (s.persist net b fuel action).1 = none) :
    ∃ n, s.Retries net b action n ∧ (s.callEnd net b action n).2.clock.tellsMoment = false ∧
      Clock.lastMoment < (s.persist net b fuel action).2.clock.elapsed := by
  obtain ⟨n, -, hr, hlast⟩ := persist_bounded hb hscale h hk hfuel
  generalize s.persist net b fuel action = made at hlast hnone ⊢
  cases hlast with
  | settled | spent => cases hnone
  | untold hf hlost hclock => exact ⟨n, hr, hclock, (onward_callEnd h n).late hk hclock⟩

end

/-! ## Calls -/

section

variable {W : Type} {net : Network W} {s : Scene W}

/-- a call returns at once, or it retries an action that only moves time forward, and takes none with one attempt at a
time -/
theorem call_persist (net : Network W) (fuel : Nat) (c : Call) (s : Scene W) :
    (∃ out, (s.call net fuel c).1 = some out) ∨
      ∃ action : Act W c.shape.Value, (∀ x : Scene W, x.clock.Onward (action x).2.clock) ∧
        (∀ x, Prompt x (action x).2) ∧ s.call net fuel c = s.persist net (.ofConfig s.client.config) fuel action := by
  cases hc : c.checked? s.client with
  | none =>
    left
    cases c with
    | expectProgressPossible | statistics | version | whoMaster | setDirtyNode => exact ⟨_, rfl⟩
    | allowDirtyReads | dirtyReadsAllowed | dirtyNode | dropConnections => exact ⟨_, rfl⟩
    | ping | getKeyCount | query | set | confirm | delete | testAndSet | sequence | userFunction => cases hc
  | some r =>
    obtain ⟨way, hway, hcall⟩ := call_checked net fuel hc
    rw [hcall]
    cases r.misuse with
    | some m => exact .inl ⟨_, rfl⟩
    | none =>
      simp only [sendChecked]
      cases r.encodeChecked with
      | error m => exact .inl ⟨_, rfl⟩
      | ok frame =>
        rcases hway with hway | hway
        · refine .inr ⟨way frame, ?_, ?_, rfl⟩
          · rw [hway]
            exact onward_exchangeWithMaster net frame c.shape
          · rw [hway]
            exact prompt_exchangeWithMaster net frame c.shape
        · refine .inr ⟨way frame, ?_, ?_, rfl⟩
          · rw [hway]
            exact onward_exchange net _ frame c.shape
          · rw [hway]
            exact prompt_exchange _ frame c.shape

/-- settings stay from call to call, and so do clocks, apart from the pauses, with one attempt at a time -/
theorem timeless_of_prompt {α : Type} {b : Backoff} {action : Act W α} (h : ∀ x, Prompt x (action x).2)
    (hone : s.client.config.settings.maxAttempts = 1) : s.Timeless net b action := by
  have hconfig : ∀ n, (s.callStart net b action n).client.config = s.client.config := by
    intro n
    induction n with
    | zero => rfl
    | succ n ih => exact (h _).1.trans ih
  intro n
  have hclock : (s.callEnd net b action n).2.clock = (s.callStart net b action n).clock :=
    (h _).2 (by rw [hconfig n]; exact hone)
  rw [hclock]
  exact ⟨rfl, rfl⟩

end

/-! ## A node that is down -/

/-- a client without a master and channels that makes one attempt is refused a connection, and nothing changes -/
theorem exchange_unreached {W : Type} {net : Network W} {s : Scene W} {id : NodeId} {l : Location} {e : Fault}
    (hl : s.client.config.location? id = some l) (hone : s.client.config.settings.maxAttempts = 1)
    (hmaster : s.client.master = none) (hchannels : s.client.channels = .empty)
    (hrefused : net.connect id l s.client.config.clusterId s.net = (.error e, s.net))
    (hnote : ∀ n w, net.note n w = w) (frame : Bytes) (shape : Shape) :
    s.exchange net id frame shape = (.error (.transport id e), s) := by
  have hchannel : s.client.channels.get? id = none := by rw [hchannels]; rfl
  have hwaited : s.waited 0 = s := if_pos rfl
  have hmore : s.client.config.settings.maxAttempts.toNat - 1 = 0 := by rw [hone]; rfl
  have hattempt : s.attempt net id l frame = (.error e, s) := by
    simp only [attempt, channel, hchannel, hrefused]
  have hgaveUp : s.gaveUp net id = s := by
    simp only [gaveUp, evict, hchannel, setMaster, ← hmaster]
  have hdispatch : s.dispatch net id l frame (Reply.decoder shape) = (.error (.transport id e), s) := by
    rw [dispatch_eq, hmore, attempts_eq, hwaited, hattempt]
    simp only [hgaveUp]
  rw [exchange_of_location hl, hdispatch, hnote]

/-- a client of a cluster whose only node is down looks for the master at any moment, in vain -/
theorem exchangeWithMaster_down (k : Clock) (frame : Bytes) (shape : Shape) :
    let s : Scene Cluster := ⟨.new .unpaused [], k, (Cluster.ofNodes "c" ["a"]).setAlive "a" false⟩
    s.exchangeWithMaster Cluster.network frame shape = (.error .noMaster, s) := by
  intro s
  have hdown : s.net.nodes.get? "a" = some { Node.fresh with alive := false } := by
    simp [s, Cluster.setAlive, Cluster.adjust, SortedMap.get?_adjust, Cluster.get?_ofNodes]
  have hrefused : s.net.connect "a" s.client.config.clusterId =
      (.error ⟨.connectionRefused, "node a is down"⟩, s.net) := by
    simp only [Cluster.connect, hdown]
    rfl
  have hl : Config.unpaused.location? "a" = some ⟨"h", 1⟩ := by decide
  have hask : s.askMaster Cluster.network "a" =
      (.error (.transport "a" ⟨.connectionRefused, "node a is down"⟩), s) :=
    exchange_unreached hl rfl rfl rfl hrefused (fun _ _ => rfl) _ _
  have hids : s.client.shuffledNodes = (["a"], s.client) := by
    have hone : Config.unpaused.nodeIds = ["a"] := by decide
    have hone' : s.client.config.nodeIds = ["a"] := hone
    rw [Client.shuffledNodes, hone']
    rfl
  have hfind : s.findMaster Cluster.network = (.error .noMaster, s) := by
    have hnone : s.client.master = none := rfl
    simp only [findMaster, hnone, hids, search, hask]
  simp only [exchangeWithMaster, hfind]

/-! ## Which calls return -/

/-- **Every call returns, where pauses grow.** Take the policy of any accepted settings. If its scale is positive, then
the scale and the budget bound the number of calls that a run makes, whatever the network, and however little time a
call takes. So every call of a client returns, on every network, unless it is too late then for the clock to tell the
moment; and that cannot be if the client makes one attempt at a time and the budget ends before the last moment. If the
scale is zero, then a run that loses the master in no time never returns. -/
theorem calls_return (config : Config) :
    let b := Backoff.ofConfig config
    (0 < b.scale.nanos →
      (∀ (W α : Type) (net : Network W) (action : Act W α) (s : Scene W), s.clock.tellsMoment = true →
        s.Forward net b action → ∀ fuel ≥ b.mostCalls,
          ∃ n < b.mostCalls, s.Retries net b action n ∧ s.Last net b action n (s.persist net b fuel action)) ∧
        ∀ (W : Type) (net : Network W) (s : Scene W) (c : Call), s.client.config = config →
          s.clock.tellsMoment = true → ∀ fuel ≥ b.mostCalls,
            ((s.call net fuel c).1 = none → Clock.lastMoment < (s.call net fuel c).2.clock.elapsed) ∧
              (config.settings.maxAttempts = 1 → ¬Clock.lastMoment < s.clock.elapsed + b.budget →
                ∃ out, (s.call net fuel c).1 = some out)) ∧
      (b.scale.nanos = 0 → ∀ (W α : Type) (net : Network W) (action : Act W α) (s : Scene W),
        s.clock.tellsMoment = true → ¬Clock.lastMoment < s.clock.elapsed + b.budget → s.Timeless net b action →
          (∀ n, ∃ f, (s.callEnd net b action n).1 = .error f ∧ f.losesMaster = true) →
            ∀ fuel, s.persist net b fuel action = (none, s.callStart net b action fuel)) := by
  intro b
  have hb : b.Moderate := Backoff.moderate_ofConfig config
  refine ⟨fun hscale => ⟨?_, ?_⟩, ?_⟩
  · intro W α net action s hk hforward fuel hfuel
    exact persist_bounded hb hscale hforward hk hfuel
  · rintro W net s c rfl hk fuel hfuel
    rcases call_persist net fuel c s with hout | ⟨action, honward, hprompt, hcall⟩
    · refine ⟨?_, fun _ _ => hout⟩
      intro hnone
      obtain ⟨out, hout⟩ := hout
      rw [hnone] at hout
      cases hout
    · rw [hcall]
      have hforward : s.Forward net b action := fun n => honward _
      refine ⟨?_, ?_⟩
      · intro hnone
        obtain ⟨-, -, -, hlate⟩ := persist_stopped hb hscale hforward hk hfuel hnone
        exact hlate
      · intro hone hroom
        by_contra hno
        have hnone : (s.persist net b fuel action).1 = none := by
          rw [← Option.not_isSome_iff_eq_none, Option.isSome_iff_exists]
          exact hno
        obtain ⟨n, hr, huntold, -⟩ := persist_stopped hb hscale hforward hk hfuel hnone
        have htold := (timeless_of_prompt hprompt hone).told hk hroom hr
        rw [huntold] at htold
        cases htold
  · intro hscale W α net action s hk hroom htimeless hlost fuel
    exact persist_forever hb hscale htimeless hk hroom hlost fuel

/-- a client of two nodes without a master returns after 302 calls at the latest; without pauses it would not after any
number of them -/
theorem calls_return_two_nodes :
    let s : Scene Cluster := ⟨.new .ofTwoNodes [], .start, .ofNodes "c" ["a", "b"]⟩
    let unpaused := Backoff.ofConfig .unpaused
    let lost : Act Cluster Unit := fun s => (.error .noMaster, s)
    (Backoff.ofConfig .ofTwoNodes).mostCalls = 302 ∧
      (∃ out, (s.call Cluster.network 302 .getKeyCount).1 = some out) ∧
      s.persist Cluster.network unpaused 302 lost = (none, s.callStart Cluster.network unpaused lost 302) := by
  intro s unpaused lost
  have hfew : (Backoff.ofConfig .ofTwoNodes).mostCalls = 302 := by decide
  obtain ⟨hpaused, -⟩ := calls_return .ofTwoNodes
  obtain ⟨-, hcalls⟩ := hpaused (by decide)
  obtain ⟨-, hreturns⟩ := hcalls Cluster Cluster.network s .getKeyCount rfl (by decide) 302 (Nat.le_of_eq hfew)
  obtain ⟨-, hunpaused⟩ := calls_return .unpaused
  have htimeless : s.Timeless Cluster.network unpaused lost := fun _ => ⟨rfl, rfl⟩
  refine ⟨hfew, hreturns rfl (by decide), ?_⟩
  exact hunpaused rfl Cluster Unit Cluster.network lost s (by decide) (by decide) htimeless
    (fun _ => ⟨.noMaster, rfl, rfl⟩) 302

/-- **A call that never returns.** Settings with a scale of zero are accepted. A client with these, in a cluster whose
only node is down, asks for the number of keys. It looks for the master again and again, as often as it may, and pauses
for no time in between: no number of rounds is enough. -/
theorem master_sought_forever :
    let s : Scene Cluster := ⟨.new .unpaused [], .start, (Cluster.ofNodes "c" ["a"]).setAlive "a" false⟩
    ∀ fuel, (s.call Cluster.network fuel .getKeyCount).1 = none ∧
      (s.call Cluster.network fuel .getKeyCount).2.clock = ⟨.zero, List.replicate fuel .zero, false⟩ := by
  intro s fuel
  let b := Backoff.ofConfig Config.unpaused
  let action := exchangeWithMaster Cluster.network (Request.encode (.command .getKeyCount)) .count
  have hcall : s.call Cluster.network fuel .getKeyCount = s.persist Cluster.network b fuel action := rfl
  have hvain : ∀ k, action { s with clock := k } = (.error .noMaster, { s with clock := k }) := fun k =>
    exchangeWithMaster_down k _ _
  -- nothing but the clock changes from call to call, and it only notes another pause
  have hstart : ∀ n, s.callStart Cluster.network b action n =
      { s with clock := ⟨.zero, List.replicate n .zero, false⟩ } := by
    intro n
    induction n with
    | zero => rfl
    | succ n ih =>
      have hpause : (⟨b.scale.nanos * n⟩ : Duration) = .zero := congrArg Duration.mk (Nat.zero_mul n)
      rw [callStart, ih, hvain, hpause]
      rfl
  have hend : ∀ n, s.callEnd Cluster.network b action n =
      (.error .noMaster, s.callStart Cluster.network b action n) := by
    intro n
    rw [callEnd, hstart n, hvain]
  have htimeless : s.Timeless Cluster.network b action := by
    intro n
    rw [hend n]
    exact ⟨rfl, rfl⟩
  have hlost : ∀ n, ∃ f, (s.callEnd Cluster.network b action n).1 = .error f ∧ f.losesMaster = true := by
    intro n
    rw [hend n]
    exact ⟨.noMaster, rfl, rfl⟩
  have hmade := persist_forever (Backoff.moderate_ofConfig _) rfl htimeless (by decide) (by decide) hlost fuel
  rw [hcall, hmade, hstart]
  exact ⟨rfl, rfl⟩

end Scene

end ReplicaKV
