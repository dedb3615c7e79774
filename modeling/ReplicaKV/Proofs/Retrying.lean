/-
How often a call is made that is retried, when, and how that ends.

A retry waits one scale longer than the one before it, so the pauses after n failures add up to the scale times the n-th
triangular number. No retry starts after the deadline, so there are no more calls than that sum has room in the budget.
With a scale of zero the sum stays zero, and only the call itself can use up the budget.

- `Clock.Onward`: time moves forward. `exchangeWithMaster_onward`: so it does across what clients do.
- `Backoff.pauses`: what the pauses add up to. `pause_capped`: no pause is cut short that the budget has room for.
- `callStart`, `callEnd`: the scene in which each call is made, and what it comes to. `Retries`: n calls lost the master,
  and each was followed by another one. `Last`: how call n is the last one.
- `rounds_callStart`: one round. `persist_cases`: a run comes to its last call, or makes as many calls as it may.
- `retries_within_budget`: what is returned, after which calls and pauses, and exactly how many calls are made that fail
  at once.
-/
import ReplicaKV.Proofs.Failover
import ReplicaKV.Proofs.Network.Failures

namespace ReplicaKV

/-! ## Clocks move forward -/

namespace Clock

variable {k k' k'' : Clock}

/-- time does not go back, and a clock breaks only when it is too late for a moment to be told -/
structure Onward (k k' : Clock) : Prop where
  elapsed : k.elapsed.nanos ≤ k'.elapsed.nanos
  broken : k'.broken = true → k.broken = true ∨ lastMoment < k'.elapsed

theorem Onward.refl (k : Clock) : Onward k k := ⟨Nat.le_refl _, .inl⟩

theorem Onward.trans (h : Onward k k') (h' : Onward k' k'') : Onward k k'' where
  elapsed := Nat.le_trans h.elapsed h'.elapsed
  broken hb := by
    rcases h'.broken hb with hb' | hlate
    · exact (h.broken hb').imp_right fun hlate => Nat.lt_of_lt_of_le hlate h'.elapsed
    · exact .inr hlate

theorem tellsMoment_iff : k.tellsMoment = true ↔ k.broken = false ∧ ¬lastMoment < k.elapsed := by
  simp only [tellsMoment, Bool.and_eq_true, Bool.not_eq_true', decide_eq_false_iff_not]

theorem onward_sleep (k : Clock) (d : Duration) : Onward k (k.sleep d) where
  elapsed := Nat.le_add_right _ _
  broken hb := by
    rcases Bool.or_eq_true_iff.1 hb with hk | hlong
    · exact .inl hk
    · have hmax : Duration.max < k.elapsed + d := by
        simpa [canPass, Duration.add?] using hlong
      have hlast : lastMoment.nanos < Duration.max.nanos := by decide
      exact .inr (Nat.lt_trans hlast hmax)

theorem momentAfter_le (k : Clock) (d : Duration) : (k.momentAfter d).nanos ≤ k.elapsed.nanos + d.nanos := by
  rw [momentAfter]
  split_ifs with h
  · exact Nat.le_of_lt h
  · exact Nat.le_refl _

/-- a clock that told the moment tells it until it is too late for that -/
theorem Onward.late (h : Onward k k') (hk : k.tellsMoment = true) (hk' : k'.tellsMoment = false) :
    lastMoment < k'.elapsed := by
  by_contra hlast
  have hb : k'.broken = true := by
    by_contra hb
    have ht := tellsMoment_iff.2 ⟨Bool.eq_false_of_not_eq_true hb, hlast⟩
    rw [hk'] at ht
    cases ht
  rcases h.broken hb with hbroken | hlate
  · rw [(tellsMoment_iff.1 hk).1] at hbroken
    cases hbroken
  · exact hlast hlate

end Clock

/-! ## Pauses -/

/-- spans of accepted settings are at most a day -/
theorem Config.span_le (c : Config) (x : Settings.Span) : (c.settings.span x).nanos ≤ Settings.longest.nanos :=
  Nat.le_of_not_lt (c.acceptable.spans x)

namespace Backoff

variable {b : Backoff}

/-- scale and budget are at most a day -/
structure Moderate (b : Backoff) : Prop where
  scale : b.scale.nanos ≤ Settings.longest.nanos
  budget : b.budget.nanos ≤ Settings.longest.nanos

theorem moderate_ofConfig (c : Config) : (ofConfig c).Moderate :=
  ⟨c.span_le .backoffScale, c.span_le .masterRetryBudget⟩

/-- all pauses after n failures together, in nanoseconds -/
def pauses (b : Backoff) (n : Nat) : Nat := b.scale.nanos * (n * (n - 1) / 2)

theorem pauses_succ (b : Backoff) (n : Nat) : b.pauses (n + 1) = b.pauses n + b.scale.nanos * n := by
  rw [pauses, pauses, Nat.triangle_succ, Nat.mul_add]

theorem pauses_mono (b : Backoff) : Monotone b.pauses := by
  refine monotone_nat_of_le_succ fun n => ?_
  rw [pauses_succ]
  exact Nat.le_add_right _ _

/-- a number of calls after which the pauses exceed the budget -/
def mostCalls (b : Backoff) : Nat := b.budget.nanos / b.scale.nanos + 2

theorem budget_lt_pauses (h : 0 < b.scale.nanos) : b.budget.nanos < b.pauses b.mostCalls := by
  calc b.budget.nanos < b.scale.nanos * (b.budget.nanos / b.scale.nanos + 1) := Nat.lt_mul_div_succ _ h
    _ ≤ b.pauses (b.budget.nanos / b.scale.nanos + 1) + b.scale.nanos * (b.budget.nanos / b.scale.nanos + 1) :=
      Nat.le_add_left _ _
    _ = b.pauses b.mostCalls := (b.pauses_succ _).symm

/-- the budget has room for the pauses of fewer failures only -/
theorem lt_of_pauses_le {n k : Nat} (hn : b.pauses n ≤ b.budget.nanos) (hk : b.budget.nanos < b.pauses k) : n < k := by
  by_contra hle
  exact Nat.lt_irrefl _ ((hk.trans_le (b.pauses_mono (Nat.le_of_not_lt hle))).trans_le hn)

/-- where the scale is positive there is a least number of calls after which the pauses exceed the budget -/
theorem exists_least (h : 0 < b.scale.nanos) : ∃ k, IsLeast {k | 1 ≤ k ∧ b.budget.nanos < b.pauses k} k := by
  have hsome : ∃ k, 1 ≤ k ∧ b.budget.nanos < b.pauses k := ⟨b.mostCalls, Nat.le_add_left _ _, budget_lt_pauses h⟩
  exact ⟨Nat.find hsome, Nat.isLeast_find hsome⟩

/-- pauses that the budget has room for are not cut short, nor is their number -/
theorem pause_capped (hb : b.Moderate) {n : Nat} (hn : b.pauses n ≤ b.budget.nanos) :
    b.pause (min n 0xffffffff) = ⟨b.scale.nanos * n⟩ := by
  obtain h0 | hpos := Nat.eq_zero_or_pos b.scale.nanos
  · have hzero : ¬Duration.max < ⟨0⟩ := Nat.not_lt_zero _
    rw [pause, Duration.times, h0, Nat.zero_mul, Nat.zero_mul, if_neg hzero]
  · have hsmall : n ≤ 0xffffffff := by
      by_contra hlarge
      have hle : b.pauses 0x100000000 ≤ b.budget.nanos := (b.pauses_mono (by omega)).trans hn
      have hone : 1 * (0x100000000 * (0x100000000 - 1) / 2) ≤ b.pauses 0x100000000 := Nat.mul_le_mul_right _ hpos
      have hday : b.budget.nanos ≤ 86400 * 1000000000 := hb.budget
      omega
    have hday : b.scale.nanos ≤ 86400 * 1000000000 := hb.scale
    have hle : b.scale.nanos * n ≤ 86400 * 1000000000 * 0xffffffff := Nat.mul_le_mul hday hsmall
    have hmax : Duration.max.nanos = 0x10000000000000000 * 1000000000 - 1 := rfl
    have hshort : ¬Duration.max < ⟨b.scale.nanos * n⟩ := by
      show ¬Duration.max.nanos < b.scale.nanos * n
      omega
    rw [pause, Duration.times, Nat.min_eq_left hsmall, if_neg hshort]

end Backoff

namespace Scene

variable {W α : Type}

/-! ## One call after another -/

/-- the scene in which call n of an action that is retried is made, counted from zero. After each call before it the
client forgot the master, closed every channel and slept, one scale longer than the time before. -/
def callStart (net : Network W) (b : Backoff) (action : Act W α) (s : Scene W) : Nat → Scene W
  | 0 => s
  | n + 1 => ((action (s.callStart net b action n)).2.reset net).sleep ⟨b.scale.nanos * n⟩

/-- what call n comes to -/
def callEnd (net : Network W) (b : Backoff) (action : Act W α) (s : Scene W) (n : Nat) : Except Failure α × Scene W :=
  action (s.callStart net b action n)

/-- n calls have lost the master, and each was followed by another one -/
structure Retries (net : Network W) (b : Backoff) (action : Act W α) (s : Scene W) (n : Nat) : Prop where
  lost : ∀ j < n, ∃ f, (s.callEnd net b action j).1 = .error f ∧ f.losesMaster = true
  slept : ∀ j < n, (s.callStart net b action (j + 1)).clock.slept =
    ⟨b.scale.nanos * j⟩ :: (s.callEnd net b action j).2.clock.slept
  anew : ∀ j < n, (s.callStart net b action (j + 1)).client.master = none ∧
    (s.callStart net b action (j + 1)).client.connected = []
  inTime : ∀ j < n, (s.callStart net b action (j + 1)).clock.elapsed.nanos ≤ s.clock.elapsed.nanos + b.budget.nanos

/-- call n is the last one: what is returned, and the scene that it leaves -/
inductive Last (net : Network W) (b : Backoff) (action : Act W α) (s : Scene W) (n : Nat) :
    Outcome α × Scene W → Prop
  /-- it did not lose the master -/
  | settled (hkept : ∀ f, (s.callEnd net b action n).1 = .error f → f.losesMaster = false) :
    Last net b action s n (some (s.callEnd net b action n).1, (s.callEnd net b action n).2)
  /-- it lost the master, and another pause would end after the deadline -/
  | spent {f : Failure} (hf : (s.callEnd net b action n).1 = .error f) (hlost : f.losesMaster = true)
    (hlate : (s.clock.momentAfter b.budget).nanos <
      (s.callEnd net b action n).2.clock.elapsed.nanos + b.scale.nanos * n) :
    Last net b action s n (some (.error f), (s.callEnd net b action n).2.reset net)
  /-- it lost the master, and the clock no longer tells the moment -/
  | untold {f : Failure} (hf : (s.callEnd net b action n).1 = .error f) (hlost : f.losesMaster = true)
    (hclock : (s.callEnd net b action n).2.clock.tellsMoment = false) :
    Last net b action s n (none, ((s.callEnd net b action n).2.reset net).askTime)

section

variable {net : Network W} {b : Backoff} {action : Act W α} {s : Scene W} {n : Nat}

theorem retries_zero (net : Network W) (b : Backoff) (action : Act W α) (s : Scene W) : s.Retries net b action 0 where
  lost _ h := nomatch h
  slept _ h := nomatch h
  anew _ h := nomatch h
  inTime _ h := nomatch h

theorem Retries.succ (h : s.Retries net b action n) {f : Failure} (hf : (s.callEnd net b action n).1 = .error f)
    (hlost : f.losesMaster = true)
    (htime : (s.callStart net b action (n + 1)).clock.elapsed.nanos ≤ s.clock.elapsed.nanos + b.budget.nanos) :
    s.Retries net b action (n + 1) where
  lost := Nat.forall_lt_succ_right.2 ⟨h.lost, f, hf, hlost⟩
  slept _ _ := rfl
  anew _ _ := ⟨rfl, rfl⟩
  inTime := Nat.forall_lt_succ_right.2 ⟨h.inTime, htime⟩

/-- time moves forward across every call -/
def Forward (net : Network W) (b : Backoff) (action : Act W α) (s : Scene W) : Prop :=
  ∀ n, (s.callStart net b action n).clock.Onward (s.callEnd net b action n).2.clock

theorem onward_callStart (h : s.Forward net b action) (n : Nat) :
    s.clock.Onward (s.callStart net b action n).clock := by
  induction n with
  | zero => exact .refl _
  | succ n ih => exact (ih.trans (h n)).trans (Clock.onward_sleep _ _)

theorem onward_callEnd (h : s.Forward net b action) (n : Nat) : s.clock.Onward (s.callEnd net b action n).2.clock :=
  (onward_callStart h n).trans (h n)

/-- the pauses before a call have passed when it is made -/
theorem elapsed_callStart (h : s.Forward net b action) (n : Nat) :
    s.clock.elapsed.nanos + b.pauses n ≤ (s.callStart net b action n).clock.elapsed.nanos := by
  induction n with
  | zero => exact Nat.le_refl _
  | succ n ih =>
    calc s.clock.elapsed.nanos + b.pauses (n + 1)
      _ = s.clock.elapsed.nanos + b.pauses n + b.scale.nanos * n := by rw [b.pauses_succ, Nat.add_assoc]
      _ ≤ (s.callStart net b action n).clock.elapsed.nanos + b.scale.nanos * n := Nat.add_le_add_right ih _
      _ ≤ (s.callEnd net b action n).2.clock.elapsed.nanos + b.scale.nanos * n :=
        Nat.add_le_add_right (h n).elapsed _
      _ = (s.callStart net b action (n + 1)).clock.elapsed.nanos := rfl

/-- a call is retried only while the budget has room for the pauses -/
theorem Retries.pauses_le (hr : s.Retries net b action n) (h : s.Forward net b action) :
    b.pauses n ≤ b.budget.nanos := by
  have hstart := elapsed_callStart h n
  cases n with
  | zero => exact Nat.zero_le _
  | succ n =>
    have htime := hr.inTime n (Nat.lt_succ_self n)
    omega

/-- a call that did not lose the master is not retried -/
theorem rounds_of_kept (hkept : ∀ f, (action s).1 = .error f → f.losesMaster = false) (deadline : Duration)
    (fuel i : Nat) : s.rounds net b deadline action (fuel + 1) i = (some (action s).1, (action s).2) := by
  rw [rounds_succ]
  generalize action s = x at hkept ⊢
  rcases x with ⟨f | v, s₁⟩
  · simp only [hkept f rfl, Bool.false_eq_true, if_false]
  · rfl

/-- the clock breaks if it does not tell how late it is once the master was lost -/
theorem rounds_of_untold {f : Failure} (hf : (action s).1 = .error f) (hlost : f.losesMaster = true)
    (hclock : (action s).2.clock.tellsMoment = false) (deadline : Duration) (fuel i : Nat) :
    s.rounds net b deadline action (fuel + 1) i = (none, ((action s).2.reset net).askTime) := by
  rw [rounds_succ]
  generalize action s = x at hf hclock ⊢
  rcases x with ⟨r, s₁⟩
  obtain rfl : r = .error f := hf
  have hbroken : (s₁.reset net).askTime.clock.broken = true := congrArg not hclock
  simp only [hlost, if_true, hbroken]

/-- a call that lost the master is retried, unless the pause before that would end after the deadline -/
theorem rounds_of_lost {f : Failure} (hf : (action s).1 = .error f) (hlost : f.losesMaster = true)
    (hclock : (action s).2.clock.tellsMoment = true) (deadline : Duration) (fuel i : Nat) :
    s.rounds net b deadline action (fuel + 1) i =
      if deadline < (action s).2.clock.elapsed + b.pause i then (some (.error f), (action s).2.reset net)
      else (((action s).2.reset net).sleep (b.pause i)).rounds net b deadline action fuel (min (i + 1) 0xffffffff) := by
  rw [rounds_succ]
  generalize action s = x at hf hclock ⊢
  rcases x with ⟨r, s₁⟩
  obtain rfl : r = .error f := hf
  have hasked : (s₁.reset net).askTime = s₁.reset net := askTime_of_tells hclock
  have hbroken : (s₁.reset net).clock.broken = false := Clock.broken_of_tells hclock
  simp only [hlost, if_true, hasked, hbroken, Bool.false_eq_true, if_false]
  rfl

/-- one round: its call is the last one, or the next one is made -/
theorem rounds_callStart (hb : b.Moderate) (h : s.Forward net b action) (hr : s.Retries net b action n) (fuel : Nat) :
    let deadline := s.clock.momentAfter b.budget
    let made := (s.callStart net b action n).rounds net b deadline action (fuel + 1) (min n 0xffffffff)
    s.Last net b action n made ∨ s.Retries net b action (n + 1) ∧
      made = (s.callStart net b action (n + 1)).rounds net b deadline action fuel (min (n + 1) 0xffffffff) := by
  intro deadline made
  have hpause : b.pause (min n 0xffffffff) = ⟨b.scale.nanos * n⟩ := Backoff.pause_capped hb (hr.pauses_le h)
  have hcount : min (min n 0xffffffff + 1) 0xffffffff = min (n + 1) 0xffffffff := by omega
  by_cases hkept : ∀ f, (s.callEnd net b action n).1 = .error f → f.losesMaster = false
  · have hmade : made = _ := rounds_of_kept hkept deadline fuel _
    exact .inl (hmade ▸ .settled hkept)
  · push Not at hkept
    obtain ⟨f, hf, hkept⟩ := hkept
    have hlost : f.losesMaster = true := Bool.eq_true_of_not_eq_false hkept
    cases hclock : (s.callEnd net b action n).2.clock.tellsMoment with
    | false =>
      have hmade : made = _ := rounds_of_untold hf hlost hclock deadline fuel _
      exact .inl (hmade ▸ .untold hf hlost hclock)
    | true =>
      have hmade : made = _ := rounds_of_lost hf hlost hclock deadline fuel _
      rw [hpause, hcount] at hmade
      split_ifs at hmade with hlate
      · exact .inl (hmade ▸ .spent hf hlost hlate)
      · -- the next call starts when the pause ends, and that is not after the deadline
        have htime : (s.callStart net b action (n + 1)).clock.elapsed.nanos ≤ deadline.nanos := Nat.le_of_not_lt hlate
        exact .inr ⟨hr.succ hf hlost (htime.trans (s.clock.momentAfter_le b.budget)), hmade⟩

/-- every round that can be made is made, until a call is the last one -/
theorem rounds_cases (hb : b.Moderate) (h : s.Forward net b action) (hr : s.Retries net b action n) (fuel : Nat) :
    let deadline := s.clock.momentAfter b.budget
    let made := (s.callStart net b action n).rounds net b deadline action fuel (min n 0xffffffff)
    (∃ m < n + fuel, s.Retries net b action m ∧ s.Last net b action m made) ∨
      s.Retries net b action (n + fuel) ∧ made = (none, s.callStart net b action (n + fuel)) := by
  intro deadline
  induction fuel generalizing n with
  | zero => exact .inr ⟨hr, rfl⟩
  | succ fuel ih =>
    intro made
    rcases rounds_callStart hb h hr fuel with hlast | ⟨hr', hmade⟩
    · exact .inl ⟨n, by omega, hr, hlast⟩
    · have hrest := ih hr'
      rw [← hmade, Nat.add_right_comm] at hrest
      exact hrest

/-- **A run comes to its last call, or makes as many calls as it may.** -/
theorem persist_cases (hb : b.Moderate) (h : s.Forward net b action) (hk : s.clock.tellsMoment = true) (fuel : Nat) :
    (∃ n < fuel, s.Retries net b action n ∧ s.Last net b action n (s.persist net b fuel action)) ∨
      s.Retries net b action fuel ∧ s.persist net b fuel action = (none, s.callStart net b action fuel) := by
  have hrounds := rounds_cases hb h (retries_zero net b action s) fuel
  rw [persist, askTime_of_tells hk, Clock.broken_of_tells hk, if_neg Bool.false_ne_true]
  rwa [Nat.zero_add] at hrounds

/-! ## Calls that take no time -/

/-- no time passes while a call is made -/
def Timeless (net : Network W) (b : Backoff) (action : Act W α) (s : Scene W) : Prop :=
  ∀ n, (s.callEnd net b action n).2.clock.elapsed = (s.callStart net b action n).clock.elapsed ∧
    (s.callEnd net b action n).2.clock.broken = (s.callStart net b action n).clock.broken

theorem Timeless.forward (h : s.Timeless net b action) : s.Forward net b action := by
  intro n
  obtain ⟨helapsed, hbroken⟩ := h n
  refine ⟨by rw [helapsed], ?_⟩
  intro hb
  exact .inl (hbroken.symm.trans hb)

/-- only the pauses pass -/
theorem Timeless.elapsed (h : s.Timeless net b action) (n : Nat) :
    (s.callEnd net b action n).2.clock.elapsed.nanos = s.clock.elapsed.nanos + b.pauses n := by
  rw [(h n).1]
  induction n with
  | zero => rfl
  | succ n ih =>
    calc (s.callStart net b action (n + 1)).clock.elapsed.nanos
      _ = (s.callEnd net b action n).2.clock.elapsed.nanos + b.scale.nanos * n := rfl
      _ = s.clock.elapsed.nanos + b.pauses n + b.scale.nanos * n := by rw [(h n).1, ih]
      _ = s.clock.elapsed.nanos + b.pauses (n + 1) := by rw [b.pauses_succ, Nat.add_assoc]

/-- where the budget ends before the last moment, the clock tells the moment after every call -/
theorem Timeless.told (h : s.Timeless net b action) (hk : s.clock.tellsMoment = true)
    (hroom : ¬Clock.lastMoment < s.clock.elapsed + b.budget) (hr : s.Retries net b action n) :
    (s.callEnd net b action n).2.clock.tellsMoment = true := by
  by_contra huntold
  have hlate : Clock.lastMoment.nanos < (s.callEnd net b action n).2.clock.elapsed.nanos :=
    (onward_callEnd h.forward n).late hk (Bool.eq_false_of_not_eq_true huntold)
  have hpauses := hr.pauses_le h.forward
  rw [h.elapsed n] at hlate
  exact hroom (Nat.lt_of_lt_of_le hlate (Nat.add_le_add_left hpauses _))

/-- a call that takes no time and always loses the master is made until the pauses exceed the budget -/
theorem Timeless.persist_cases (h : s.Timeless net b action) (hb : b.Moderate) (hk : s.clock.tellsMoment = true)
    (hroom : ¬Clock.lastMoment < s.clock.elapsed + b.budget)
    (hlost : ∀ n, ∃ f, (s.callEnd net b action n).1 = .error f ∧ f.losesMaster = true) (fuel : Nat) :
    (∃ n < fuel, b.pauses n ≤ b.budget.nanos ∧ b.budget.nanos < b.pauses (n + 1) ∧
      s.persist net b fuel action = (some (s.callEnd net b action n).1, (s.callEnd net b action n).2.reset net)) ∨
      b.pauses fuel ≤ b.budget.nanos ∧ s.persist net b fuel action = (none, s.callStart net b action fuel) := by
  rcases Scene.persist_cases hb h.forward hk fuel with ⟨n, hn, hr, hlast⟩ | ⟨hr, hpending⟩
  · refine .inl ⟨n, hn, hr.pauses_le h.forward, ?_⟩
    obtain ⟨f, hf, hloses⟩ := hlost n
    have htold := h.told hk hroom hr
    generalize s.persist net b fuel action = made at hlast ⊢
    cases hlast with
    | settled hkept =>
      rw [hkept f hf] at hloses
      cases hloses
    | spent hf' hloses' hlate =>
      have hdeadline : s.clock.momentAfter b.budget = s.clock.elapsed + b.budget := if_neg hroom
      have hsum : s.clock.elapsed.nanos + b.budget.nanos <
          s.clock.elapsed.nanos + b.pauses n + b.scale.nanos * n := by
        rwa [hdeadline, h.elapsed n] at hlate
      rw [hf', b.pauses_succ]
      exact ⟨by omega, rfl⟩
    | untold hf' hloses' hclock =>
      rw [htold] at hclock
      cases hclock
  · exact .inr ⟨hr.pauses_le h.forward, hpending⟩

/-- such a call is made exactly as often as it takes for the pauses to exceed the budget -/
theorem Timeless.persist_least (h : s.Timeless net b action) (hb : b.Moderate) (hk : s.clock.tellsMoment = true)
    (hroom : ¬Clock.lastMoment < s.clock.elapsed + b.budget)
    (hlost : ∀ n, ∃ f, (s.callEnd net b action n).1 = .error f ∧ f.losesMaster = true) {k : Nat}
    (hleast : IsLeast {k | 1 ≤ k ∧ b.budget.nanos < b.pauses k} k) (fuel : Nat) :
    (fuel < k → s.persist net b fuel action = (none, s.callStart net b action fuel)) ∧
      (k ≤ fuel → s.persist net b fuel action =
        (some (s.callEnd net b action (k - 1)).1, (s.callEnd net b action (k - 1)).2.reset net)) := by
  rcases h.persist_cases hb hk hroom hlost fuel with ⟨n, hn, hwithin, hover, hmade⟩ | ⟨hwithin, hpending⟩
  · have hlow : n < k := Backoff.lt_of_pauses_le hwithin hleast.1.2
    have hhigh : k ≤ n + 1 := hleast.2 ⟨Nat.le_add_left _ _, hover⟩
    obtain rfl : k = n + 1 := by omega
    exact ⟨fun hfuel => by omega, fun _ => hmade⟩
  · have hlow : fuel < k := Backoff.lt_of_pauses_le hwithin hleast.1.2
    exact ⟨fun _ => hpending, fun hfuel => by omega⟩

end

/-- **A call that is retried.** Let scale and budget be those of accepted settings, and let the budget end before the
last moment that the clock tells. Whatever the outcomes of a call are, and however long each of them takes: if a run
returns, then after a number of calls that lost the master. Pauses, states and times between them are those of `Retries`.
The result is the outcome of one more call. Either that did not lose the master, and nothing is changed; or it did and
the next pause would end after the budget, and then the client has no master and no channels. If the scale is positive,
and the call takes no time and always loses the master, then a run makes the least number of calls after which the pauses
exceed the budget. -/
theorem retries_within_budget (config : Config) (net : Network W) (action : Act W α) (s : Scene W)
    (hroom : ¬Clock.lastMoment < s.clock.elapsed + (Backoff.ofConfig config).budget) :
    let b := Backoff.ofConfig config
    (s.Forward net b action → ∀ fuel r s', s.persist net b fuel action = (some r, s') →
      ∃ n < fuel, s.Retries net b action n ∧ r = (s.callEnd net b action n).1 ∧
        ((∀ f, r = .error f → f.losesMaster = false) ∧ s' = (s.callEnd net b action n).2 ∨
          ∃ f, r = .error f ∧ f.losesMaster = true ∧
            s.clock.elapsed.nanos + b.budget.nanos <
              (s.callEnd net b action n).2.clock.elapsed.nanos + b.scale.nanos * n ∧
            s' = (s.callEnd net b action n).2.reset net ∧ s'.client.master = none ∧ s'.client.connected = [])) ∧
      (0 < b.scale.nanos → s.clock.broken = false → s.Timeless net b action →
        (∀ n, ∃ f, (s.callEnd net b action n).1 = .error f ∧ f.losesMaster = true) →
        ∃ k, IsLeast {k | 1 ≤ k ∧ b.budget.nanos < b.pauses k} k ∧
          (∀ fuel < k, s.persist net b fuel action = (none, s.callStart net b action fuel)) ∧
          ∀ fuel ≥ k, s.persist net b fuel action =
            (some (s.callEnd net b action (k - 1)).1, (s.callEnd net b action (k - 1)).2.reset net)) := by
  intro b
  have hb : b.Moderate := Backoff.moderate_ofConfig config
  have hdeadline : (s.clock.momentAfter b.budget).nanos = s.clock.elapsed.nanos + b.budget.nanos := by
    rw [Clock.momentAfter, if_neg hroom]
    rfl
  constructor
  · intro hforward fuel r s' hrun
    have hk : s.clock.tellsMoment = true := by
      by_contra huntold
      have hbroken : s.askTime.clock.broken = true := congrArg not (Bool.eq_false_of_not_eq_true huntold)
      rw [persist, if_pos hbroken] at hrun
      cases hrun
    rcases persist_cases hb hforward hk fuel with ⟨n, hn, hr, hlast⟩ | ⟨-, hpending⟩
    · refine ⟨n, hn, hr, ?_⟩
      rw [hrun] at hlast
      cases hlast with
      | settled hkept => exact ⟨rfl, .inl ⟨hkept, rfl⟩⟩
      | spent hf hlost hlate =>
        rw [hdeadline] at hlate
        exact ⟨hf.symm, .inr ⟨_, rfl, hlost, hlate, rfl, rfl, rfl⟩⟩
    · rw [hrun] at hpending
      cases hpending
  · intro hscale hbroken htimeless hlost
    have hk : s.clock.tellsMoment = true := by
      refine Clock.tellsMoment_iff.2 ⟨hbroken, fun hlate => hroom ?_⟩
      exact Nat.lt_of_lt_of_le hlate (Nat.le_add_right _ _)
    obtain ⟨k, hleast⟩ := Backoff.exists_least hscale
    have hmade := htimeless.persist_least hb hk hroom hlost hleast
    exact ⟨k, hleast, fun fuel => (hmade fuel).1, fun fuel => (hmade fuel).2⟩

/-- a budget of a second has room for pauses of no time, 0.2 s and 0.4 s, and the fourth call is the last -/
theorem retries_within_a_second :
    let config : Config := ⟨{ Config.ofTwoNodes.settings with masterRetryBudget := .ofSeconds 1 }, by decide⟩
    let b := Backoff.ofConfig config
    let net := Cluster.network
    let action : Act Cluster Unit := fun s => (.error .noMaster, s)
    let s : Scene Cluster := ⟨.new config [], .start, .ofNodes "c" ["a", "b"]⟩
    IsLeast {k | 1 ≤ k ∧ b.budget.nanos < b.pauses k} 4 ∧
      s.persist net b 3 action = (none, s.callStart net b action 3) ∧
      (s.persist net b 4 action).1 = some (.error .noMaster) ∧ s.Retries net b action 3 ∧
      (s.persist net b 4 action).2.clock.sleeps = [.zero, .ofMillis 200, .ofMillis 400] := by
  intro config b net action s
  have hroom : ¬Clock.lastMoment < s.clock.elapsed + b.budget := by decide
  obtain ⟨hany, hsteady⟩ := retries_within_budget config net action s hroom
  have htimeless : s.Timeless net b action := fun n => ⟨rfl, rfl⟩
  obtain ⟨k, hleast, hbefore, hafter⟩ := hsteady (by decide) rfl htimeless fun n => ⟨.noMaster, rfl, rfl⟩
  have hfour : IsLeast {k | 1 ≤ k ∧ b.budget.nanos < b.pauses k} 4 := by
    refine ⟨⟨by decide, by decide⟩, ?_⟩
    rintro k ⟨-, hk⟩
    by_contra hless
    have hmono : b.pauses k ≤ b.pauses 3 := b.pauses_mono (by omega)
    exact absurd (hk.trans_le hmono) (by decide)
  obtain rfl : k = 4 := hleast.unique hfour
  have hmade := hafter 4 (Nat.le_refl _)
  obtain ⟨n, hn, hr, -, ⟨hkept, -⟩ | ⟨-, -, -, hlate, -⟩⟩ := hany htimeless.forward 4 _ _ hmade
  · cases hkept .noMaster rfl
  · rw [htimeless.elapsed n, Nat.add_assoc, ← b.pauses_succ] at hlate
    have hover := hleast.2 ⟨Nat.le_add_left 1 n, Nat.lt_of_add_lt_add_left hlate⟩
    obtain rfl : n = 3 := by omega
    have hsleeps : ((s.callEnd net b action (4 - 1)).2.reset net).clock.sleeps =
        [.zero, .ofMillis 200, .ofMillis 400] := by decide
    refine ⟨hfour, hbefore 3 (by decide), congrArg Prod.fst hmade, hr, ?_⟩
    rw [hmade]
    exact hsleeps

end Scene

end ReplicaKV
