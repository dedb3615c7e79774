/-
Retrying after the master was lost. Before each retry the client forgets the master and closes every channel, then
sleeps; the pauses grow by one scale each, starting at zero. A retry whose pause would end after the budget is not made,
and the failure at hand is the result. Every other failure is a result at once.

The deadline is never later than the latest moment that the clock tells. Once it is too late for that the clock breaks
when it is asked, and the call is broken off.

With a scale of zero the pauses never use up a budget, so the number of rounds has its own bound, `fuel`; a call that
reaches it is unfinished.
-/
import ReplicaKV.Discovery

namespace ReplicaKV

structure Backoff where
  scale : Duration
  budget : Duration
deriving DecidableEq, Repr

namespace Backoff

def ofConfig (c : Config) : Backoff := ⟨c.settings.backoffScale, c.settings.masterRetryBudget⟩

/-- the pause before retry i, counted from zero -/
def pause (b : Backoff) (i : Nat) : Duration := b.scale.times i

end Backoff

namespace Scene

variable {W : Type} {α : Type}

/-- forget the master and close every channel -/
def reset (net : Network W) (s : Scene W) : Scene W := (s.setMaster none).closeAll net

/-- look at the clock -/
def askTime (s : Scene W) : Scene W := { s with clock := s.clock.asked }

/-- round i of an action that is retried until the deadline; none if it is unfinished after fuel rounds, or the clock
broke -/
def rounds (net : Network W) (b : Backoff) (deadline : Duration) (action : Act W α) :
    (fuel i : Nat) → Scene W → Option (Except Failure α) × Scene W
  | 0, _, s => (none, s)
  | fuel + 1, i, s =>
    match action s with
    | (.ok v, s) => (some (.ok v), s)
    | (.error e, s) =>
      if e.losesMaster then
        if s.client.config.settings.nodes.isEmpty then
          (some (.error (.invalidConfig "empty client configuration")), s)
        else
          let s := (s.reset net).askTime
          if s.clock.broken then (none, s)
          else if deadline < s.clock.elapsed + b.pause i then (some (.error e), s)
          else rounds net b deadline action fuel (min (i + 1) 0xffffffff) (s.sleep (b.pause i))
      else (some (.error e), s)

/-- retry an action while the master is lost and the budget lasts -/
def persist (net : Network W) (b : Backoff) (fuel : Nat) (action : Act W α) (s : Scene W) :
    Option (Except Failure α) × Scene W :=
  let s := s.askTime
  if s.clock.broken then (none, s) else rounds net b (s.clock.momentAfter b.budget) action fuel 0 s

end Scene

end ReplicaKV
