import Mathlib.Data.List.Induction
import Mathlib.Tactic.NormNum
import SentinelAI.Core.Resilience

/-
  The circuit breaker against its history. A breaker keeps a counter and one instant, which
  every failure from the threshold on stamps again; what it means for it to be open is said
  over all the calls it received (`is_open_iff`): enough failures since the last success, and
  the most recent failure less than the reset time ago.

  The reset time is a `timedelta`, so it counts in whole microseconds; one that no `timedelta`
  holds makes no breaker here.
-/

namespace SentinelAI

/-- A call a breaker receives. -/
inductive BreakerCall where
  | recordSuccess
  | recordFailure (now : Time)
  deriving DecidableEq, Repr

namespace BreakerCall

def isFailure : BreakerCall → Bool
  | recordSuccess => false
  | recordFailure _ => true

/-- The instant of a failure. -/
def failedAt? : BreakerCall → Option Time
  | recordSuccess => none
  | recordFailure now => some now

end BreakerCall

namespace CircuitBreaker

def receive (b : CircuitBreaker) : BreakerCall → CircuitBreaker
  | .recordSuccess => b.recordSuccess
  | .recordFailure now => b.recordFailure now

/-- The breaker after some calls, the first one first. -/
def after (b : CircuitBreaker) (history : List BreakerCall) : CircuitBreaker :=
  history.foldl receive b

theorem after_append (b : CircuitBreaker) (h h' : List BreakerCall) :
    b.after (h ++ h') = (b.after h).after h' :=
  List.foldl_append

theorem receive_threshold (b : CircuitBreaker) (c : BreakerCall) :
    (b.receive c).failureThreshold = b.failureThreshold := by
  cases c <;> rfl

theorem receive_reset (b : CircuitBreaker) (c : BreakerCall) :
    (b.receive c).resetAfterSeconds = b.resetAfterSeconds := by
  cases c <;> rfl

theorem after_config (b : CircuitBreaker) (history : List BreakerCall) :
    (b.after history).failureThreshold = b.failureThreshold ∧
      (b.after history).resetAfterSeconds = b.resetAfterSeconds := by
  induction history generalizing b with
  | nil => exact ⟨rfl, rfl⟩
  | cons c history ih =>
    obtain ⟨hthreshold, hreset⟩ := ih (b.receive c)
    exact ⟨hthreshold.trans (b.receive_threshold c), hreset.trans (b.receive_reset c)⟩

/-- A breaker as it is created. -/
def created (failureThreshold : Nat) (resetAfterSeconds : ResetTime) : CircuitBreaker where
  failureThreshold := failureThreshold
  resetAfterSeconds := resetAfterSeconds

end CircuitBreaker

/-! ## What the history says -/

/-- The failures since the last success, or since the breaker was created. -/
def failuresSinceSuccess (history : List BreakerCall) : Nat :=
  (history.reverse.takeWhile BreakerCall.isFailure).length

/-- The instant of the most recent failure. -/
def lastFailure (history : List BreakerCall) : Option Time :=
  (history.filterMap BreakerCall.failedAt?).getLast?

/-- What a breaker promises to be open for. -/
def OpenBy (failureThreshold : Nat) (resetAfter : Int) (history : List BreakerCall) (now : Time) :
    Prop :=
  failureThreshold ≤ failuresSinceSuccess history ∧
    ∃ t, lastFailure history = some t ∧ now - t < resetAfter

theorem failuresSinceSuccess_success (history : List BreakerCall) :
    failuresSinceSuccess (history ++ [.recordSuccess]) = 0 := by
  unfold failuresSinceSuccess
  rw [List.reverse_append]
  rfl

theorem failuresSinceSuccess_failure (history : List BreakerCall) (now : Time) :
    failuresSinceSuccess (history ++ [.recordFailure now]) = failuresSinceSuccess history + 1 := by
  unfold failuresSinceSuccess
  rw [List.reverse_append]
  rfl

theorem lastFailure_failure (history : List BreakerCall) (now : Time) :
    lastFailure (history ++ [.recordFailure now]) = some now := by
  unfold lastFailure
  rw [List.filterMap_append]
  exact List.getLast?_append_of_ne_nil _ (List.cons_ne_nil _ _)

/-! ## What the breaker keeps of it -/

/-- The counter counts the failures since the last success, and the breaker is stamped with the
    most recent failure exactly while there are as many as its threshold. -/
structure Remembers (failureThreshold : Nat) (history : List BreakerCall) (b : CircuitBreaker) :
    Prop where
  failures : b.failures = failuresSinceSuccess history
  openedAt : b.openedAt =
    if failureThreshold ≤ failuresSinceSuccess history then lastFailure history else none

theorem remembers_created {threshold : Nat} (reset : ResetTime) (hthreshold : 1 ≤ threshold) :
    Remembers threshold [] (.created threshold reset) := by
  have hclosed : ¬ threshold ≤ failuresSinceSuccess [] := Nat.not_le.mpr hthreshold
  exact ⟨rfl, (if_neg hclosed).symm⟩

/-- One call keeps the two in step. -/
theorem Remembers.receive {threshold : Nat} {b : CircuitBreaker} {history : List BreakerCall}
    (h : Remembers threshold history b) (hb : b.failureThreshold = threshold)
    (hthreshold : 1 ≤ threshold) (c : BreakerCall) :
    Remembers threshold (history ++ [c]) (b.receive c) := by
  cases c with
  | recordSuccess =>
    have hnone := failuresSinceSuccess_success history
    refine ⟨hnone.symm, ?_⟩
    rw [hnone, if_neg (Nat.not_le.mpr hthreshold)]
    rfl
  | recordFailure now =>
    have hcount := failuresSinceSuccess_failure history now
    have hfailures : b.failures + 1 = failuresSinceSuccess history + 1 := by
      rw [h.failures]
    refine ⟨hfailures.trans hcount.symm, ?_⟩
    rw [hcount, lastFailure_failure]
    show (if b.failureThreshold ≤ b.failures + 1 then some now else b.openedAt) = _
    rw [hfailures, hb]
    by_cases hreached : threshold ≤ failuresSinceSuccess history + 1
    · rw [if_pos hreached, if_pos hreached]
    · -- below the threshold with this failure, and so before it
      rw [if_neg hreached, if_neg hreached, h.openedAt]
      exact if_neg (by omega)

theorem remembers_after {threshold : Nat} (reset : ResetTime) (hthreshold : 1 ≤ threshold)
    (history : List BreakerCall) :
    Remembers threshold history ((CircuitBreaker.created threshold reset).after history) := by
  induction history using List.reverseRecOn with
  | nil => exact remembers_created reset hthreshold
  | append_singleton history c ih =>
    rw [CircuitBreaker.after_append]
    exact ih.receive ((CircuitBreaker.created threshold reset).after_config history).1 hthreshold c

/-! ## Open exactly when the history says so -/

/-- After any calls, in whatever order and at whatever times, a breaker is open exactly when at
    least its threshold of failures came since the last success and the reset time has not
    passed since the most recent one. -/
theorem is_open_iff {threshold : Nat} (hthreshold : 1 ≤ threshold) (reset : ResetTime)
    (history : List BreakerCall) (now : Time) :
    ((CircuitBreaker.created threshold reset).after history).isOpen now = true ↔
      OpenBy threshold reset.delta history now := by
  have h := remembers_after reset hthreshold history
  have hreset : ((CircuitBreaker.created threshold reset).after history).resetAfterSeconds = reset :=
    ((CircuitBreaker.created threshold reset).after_config history).2
  unfold CircuitBreaker.isOpen OpenBy
  rw [h.openedAt, hreset]
  by_cases hreached : threshold ≤ failuresSinceSuccess history
  · rw [if_pos hreached]
    cases hlast : lastFailure history with
    | none => simp
    | some t => simp [hreached]
  · rw [if_neg hreached]
    simp [hreached]

/-- Two failures ten seconds apart, seen twenty-nine seconds after the second. -/
theorem is_open_iff_restamped :
    ((CircuitBreaker.created 1 .thirtySeconds).after
      [.recordFailure 0, .recordFailure 10000000]).isOpen 39000000 = true :=
  (is_open_iff (by decide) .thirtySeconds [.recordFailure 0, .recordFailure 10000000] 39000000).mpr
    ⟨by decide, 10000000, rfl, by decide +kernel⟩

/-- Three parts of `2²¹` of a second, 1.43 microseconds. -/
def fractionReset : ResetTime where
  seconds := 3 / 2097152
  held := by decide +kernel

/-- A fraction of a microsecond of the reset time is lost. -/
theorem is_open_rounds :
    ¬ ∀ (threshold : Nat) (reset : ResetTime) (history : List BreakerCall) (now : Time),
      1 ≤ threshold → 0 ≤ reset.seconds →
      (((CircuitBreaker.created threshold reset).after history).isOpen now = true ↔
        threshold ≤ failuresSinceSuccess history ∧
          ∃ t, lastFailure history = some t ∧
            ((now - t : Int) : ℚ) / 1000000 < reset.seconds) := by
  intro h
  have hclaim := h 1 fractionReset [.recordFailure 0] 1 (by decide) (by norm_num [fractionReset])
  have hclosed : ((CircuitBreaker.created 1 fractionReset).after [.recordFailure 0]).isOpen 1 =
      false := by
    decide +kernel
  rw [hclosed] at hclaim
  have hopen := hclaim.mpr ⟨by decide, 0, rfl, by norm_num [fractionReset]⟩
  cases hopen

end SentinelAI
