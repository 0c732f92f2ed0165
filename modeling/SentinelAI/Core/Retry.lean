import SentinelAI.Core.BreakerHistory

/-
  `with_retry` (`app/core/resilience.py`) with all its parameters, run against whatever `func`
  does at its successive calls. The function and the breaker it shares with other calls are
  all it touches, so its state is the breaker and what happened so far: calls of `func`, calls
  the breaker received, sleeps. Checking the breaker, calling `func` and recording a failure
  happen at successive moments of a clock.

  `with_retry_exact` says what one call does for every sequence of outcomes.
  `withRetry_simulated` shows that the agents' `withRetry` of `Core/Resilience.lean` is this
  one at its defaults.
-/

namespace SentinelAI

open Lib

inductive RetryEvent where
  | called (now : Time)
  | received (c : BreakerCall)
  | slept (seconds : ℚ)
  deriving DecidableEq

namespace RetryEvent

def isCall : RetryEvent → Bool
  | called _ => true
  | _ => false

def breakerCall? : RetryEvent → Option BreakerCall
  | received c => some c
  | _ => none

def delay? : RetryEvent → Option ℚ
  | slept seconds => some seconds
  | _ => none

end RetryEvent

/-- How often `func` was called. -/
def funcCalls (es : List RetryEvent) : Nat := es.countP RetryEvent.isCall

/-- What the breaker received. -/
def breakerCalls (es : List RetryEvent) : List BreakerCall := es.filterMap RetryEvent.breakerCall?

/-- The seconds slept. -/
def delays (es : List RetryEvent) : List ℚ := es.filterMap RetryEvent.delay?

section

variable (es es' : List RetryEvent) (now : Time) (cs : List BreakerCall)

theorem funcCalls_append : funcCalls (es ++ es') = funcCalls es + funcCalls es' :=
  List.countP_append

theorem breakerCalls_append : breakerCalls (es ++ es') = breakerCalls es ++ breakerCalls es' :=
  List.filterMap_append

theorem delays_append : delays (es ++ es') = delays es ++ delays es' := List.filterMap_append

theorem funcCalls_called : funcCalls (.called now :: es) = funcCalls es + 1 :=
  List.countP_cons_of_pos rfl

theorem funcCalls_received : funcCalls (cs.map .received) = 0 := by
  unfold funcCalls
  rw [List.countP_map]
  exact List.countP_eq_zero.mpr fun _ _ => Bool.false_ne_true

theorem breakerCalls_received : breakerCalls (cs.map .received) = cs := by
  unfold breakerCalls
  rw [List.filterMap_map]
  exact List.filterMap_some

theorem delays_received : delays (cs.map .received) = [] := by
  unfold delays
  rw [List.filterMap_map]
  exact List.filterMap_eq_nil_iff.mpr fun _ _ => rfl

end

structure RetryState where
  breaker : Option CircuitBreaker
  moment : Nat := 0
  events : List RetryEvent := []
  deriving DecidableEq

/-- The arguments of `with_retry`, `func` as what it does at its successive calls. -/
structure RetryCall (α : Type) where
  outcomes : Nat → Except Exc α
  attempts : Nat := 3
  baseDelay : ℚ := 1 / 20
  dontRetry : Exc → Bool := fun _ => false

namespace RetryState

variable (clock : Nat → Time)

/-- `breaker is not None and breaker.is_open`, now. -/
def isOpen (s : RetryState) : Bool := s.breaker.any fun b => b.isOpen (clock s.moment)

def tick (s : RetryState) : RetryState := { s with moment := s.moment + 1 }

/-- `await func()`. -/
def call (s : RetryState) : RetryState :=
  { s with moment := s.moment + 1, events := s.events ++ [.called (clock s.moment)] }

/-- A call of the breaker, if there is one. -/
def tell (c : BreakerCall) (s : RetryState) : RetryState :=
  match s.breaker with
  | none => s
  | some b => { s with breaker := some (b.receive c), events := s.events ++ [.received c] }

/-- `breaker.record_failure()`. -/
def fail (s : RetryState) : RetryState := (s.tell (.recordFailure (clock s.moment))).tick

def sleep (seconds : ℚ) (s : RetryState) : RetryState :=
  { s with events := s.events ++ [.slept seconds] }

/-- The state at moment `m`, after the events `es` and what they did to the breaker `b`. -/
def extended (s : RetryState) (b : CircuitBreaker) (es : List RetryEvent) (m : Nat) :
    RetryState where
  breaker := some (b.after (breakerCalls es))
  moment := m
  events := s.events ++ es

theorem extended_nil {s : RetryState} {b : CircuitBreaker} (hb : s.breaker = some b) :
    s.extended b [] s.moment = s := by
  obtain ⟨breaker, moment, events⟩ := s
  obtain rfl : breaker = some b := hb
  unfold extended
  rw [List.append_nil]
  rfl

theorem extended_extended (s : RetryState) (b : CircuitBreaker) (es es' : List RetryEvent)
    (m m' : Nat) :
    (s.extended b es m).extended (b.after (breakerCalls es)) es' m' =
      s.extended b (es ++ es') m' := by
  unfold extended breakerCalls
  rw [List.filterMap_append, CircuitBreaker.after_append, ← List.append_assoc]

theorem call_extended {s : RetryState} {b : CircuitBreaker} (hb : s.breaker = some b) :
    s.call clock = s.extended b [.called (clock s.moment)] (s.moment + 1) := by
  obtain ⟨breaker, moment, events⟩ := s
  obtain rfl : breaker = some b := hb
  rfl

theorem succeed_extended {s : RetryState} {b : CircuitBreaker} (hb : s.breaker = some b) :
    (s.call clock).tell .recordSuccess =
      s.extended b [.called (clock s.moment), .received .recordSuccess] (s.moment + 1) := by
  obtain ⟨breaker, moment, events⟩ := s
  obtain rfl : breaker = some b := hb
  unfold extended
  rw [← List.singleton_append, ← List.append_assoc]
  rfl

theorem fail_extended {s : RetryState} {b : CircuitBreaker} (hb : s.breaker = some b) :
    (s.call clock).fail clock =
      s.extended b [.called (clock s.moment), .received (.recordFailure (clock (s.moment + 1)))]
        (s.moment + 2) := by
  obtain ⟨breaker, moment, events⟩ := s
  obtain rfl : breaker = some b := hb
  unfold extended
  rw [← List.singleton_append, ← List.append_assoc]
  rfl

theorem sleep_extended (s : RetryState) (b : CircuitBreaker) (es : List RetryEvent) (m : Nat)
    (seconds : ℚ) :
    (s.extended b es m).sleep seconds = s.extended b (es ++ [.slept seconds]) m := by
  unfold extended sleep breakerCalls
  rw [List.filterMap_append, ← List.append_assoc]
  show _ = RetryState.mk (some (b.after (es.filterMap RetryEvent.breakerCall? ++ []))) _ _
  rw [List.append_nil]

end RetryState

namespace RetryCall

/-- `base_delay * (2**attempt)`: the power is made a float, which from `2¹⁰²⁴` on it is too large
    for. -/
def backoff (baseDelay : ℚ) (attempt : Nat) : Except Exc ℚ :=
  if attempt < 1024 then .ok (baseDelay * (2 ^ attempt : Nat)) else .error (.other "OverflowError")

theorem backoff_ok (baseDelay : ℚ) {attempt : Nat} (h : attempt < 1024) :
    backoff baseDelay attempt = .ok (baseDelay * (2 ^ attempt : Nat)) := if_pos h

theorem backoff_error (baseDelay : ℚ) {attempt : Nat} (h : 1024 ≤ attempt) :
    backoff baseDelay attempt = .error (.other "OverflowError") := if_neg (Nat.not_lt.mpr h)

variable {α : Type} (clock : Nat → Time) (c : RetryCall α)

/-- The loop of `with_retry` from its `k`-th attempt, `left` of them to go, and the `raise` of the
    last exception behind it. -/
def attemptsFrom : Nat → Nat → Option Exc → RetryState → Except Exc α × RetryState
  | _, 0, lastExc, s => (.error (lastExc.getD (.other "AssertionError")), s)
  | k, left + 1, _, s =>
    match c.outcomes k with
    | .ok a => (.ok a, (s.call clock).tell .recordSuccess)
    | .error e =>
      if c.dontRetry e then (.error e, s.call clock)
      else
        let failed := (s.call clock).fail clock
        if k + 1 < c.attempts then
          match backoff c.baseDelay k with
          | .ok seconds => attemptsFrom (k + 1) left (some e) (failed.sleep seconds)
          -- raised in the handler of `e`, out of the loop
          | .error overflow => (.error overflow, failed)
        else attemptsFrom (k + 1) left (some e) failed

/-- `with_retry(func, attempts=…, base_delay=…, breaker=…, dont_retry=…)`. -/
def withRetry (s : RetryState) : Except Exc α × RetryState :=
  if s.isOpen clock then (.error .circuitOpen, s.tick)
  else c.attemptsFrom clock 0 c.attempts none s.tick

/-- The calls of `func` one call makes at most. -/
def mostCalls : Nat := min c.attempts 1025

/-- What is raised when all of them fail: the last exception, or the overflow of the next sleep. -/
def exhausted : Except Exc α :=
  if c.attempts ≤ 1025 then c.outcomes (c.attempts - 1) else .error (.other "OverflowError")

/-- The `i`-th call of `func` raises an exception that is retried. -/
def retryable (i : Nat) : Bool :=
  match c.outcomes i with
  | .ok _ => false
  | .error e => !c.dontRetry e

/-- What the breaker receives for an outcome that ends the loop. -/
def ending (i : Nat) : List BreakerCall :=
  match c.outcomes i with
  | .ok _ => [.recordSuccess]
  | .error _ => []

theorem retryable_eq_true {i : Nat} (h : c.retryable i = true) :
    ∃ e, c.outcomes i = .error e ∧ c.dontRetry e = false := by
  unfold retryable at h
  cases ho : c.outcomes i with
  | ok a =>
    rw [ho] at h
    cases h
  | error e =>
    rw [ho] at h
    exact ⟨e, rfl, by simpa using h⟩

/-! ## What a call leaves behind -/

/-- Failures received at every other moment from the `m`-th on. -/
def failuresFrom (m n : Nat) : List BreakerCall :=
  (List.range n).map fun i => .recordFailure (clock (m + 2 * i))

/-- `n` attempts from the `k`-th on, the first of them at moment `m`, that each fail and are
    followed by a sleep. -/
def retried (k m : Nat) : Nat → List RetryEvent
  | 0 => []
  | n + 1 =>
    .called (clock m) :: .received (.recordFailure (clock (m + 1))) ::
      .slept (c.baseDelay * (2 ^ k : Nat)) :: retried (k + 1) (m + 2) n

theorem funcCalls_retried (k m n : Nat) : funcCalls (c.retried clock k m n) = n := by
  induction n generalizing k m with
  | zero => rfl
  | succ n ih =>
    have hrest : (c.retried clock (k + 1) (m + 2) n).countP RetryEvent.isCall = n := ih _ _
    unfold funcCalls retried
    rw [List.countP_cons_of_pos rfl, List.countP_cons_of_neg Bool.false_ne_true,
      List.countP_cons_of_neg Bool.false_ne_true, hrest]

theorem delays_retried (k m n : Nat) :
    delays (c.retried clock k m n) =
      (List.range n).map fun i => c.baseDelay * (2 ^ (k + i) : Nat) := by
  induction n generalizing k m with
  | zero => rfl
  | succ n ih =>
    have hrest := ih (k + 1) (m + 2)
    rw [List.range_succ_eq_map, List.map_cons, List.map_map]
    show c.baseDelay * (2 ^ k : Nat) :: delays (c.retried clock (k + 1) (m + 2) n) = _
    rw [hrest]
    congr 1
    apply List.map_congr_left
    intro i _
    show c.baseDelay * (2 ^ (k + 1 + i) : Nat) = c.baseDelay * (2 ^ (k + (i + 1)) : Nat)
    rw [Nat.add_assoc, Nat.add_comm 1 i]

theorem breakerCalls_retried (k m n : Nat) :
    breakerCalls (c.retried clock k m n) = failuresFrom clock (m + 1) n := by
  induction n generalizing k m with
  | zero => rfl
  | succ n ih =>
    have hrest := ih (k + 1) (m + 2)
    unfold failuresFrom at hrest ⊢
    rw [List.range_succ_eq_map, List.map_cons, List.map_map]
    show BreakerCall.recordFailure (clock (m + 1)) ::
      breakerCalls (c.retried clock (k + 1) (m + 2) n) = _
    rw [hrest]
    congr 1
    apply List.map_congr_left
    intro i _
    show BreakerCall.recordFailure (clock (m + 2 + 1 + 2 * i)) =
      .recordFailure (clock (m + 1 + 2 * (i + 1)))
    congr 2
    omega

/-- An attempt that fails, with another one to go. -/
theorem attemptsFrom_step (left : Nat) {k : Nat} {s : RetryState} {b : CircuitBreaker}
    (hb : s.breaker = some b) (hmore : k + 1 < c.mostCalls) (hfail : c.retryable k = true)
    (lastExc : Option Exc) :
    ∃ e, c.attemptsFrom clock k (left + 1) lastExc s =
      c.attemptsFrom clock (k + 1) left (some e)
        (s.extended b [.called (clock s.moment), .received (.recordFailure (clock (s.moment + 1))),
          .slept (c.baseDelay * (2 ^ k : Nat))] (s.moment + 2)) := by
  obtain ⟨e, he, hretry⟩ := c.retryable_eq_true hfail
  have hattempts : k + 1 < c.attempts := Nat.lt_of_lt_of_le hmore (Nat.min_le_left _ _)
  have hpower : k + 1 < 1025 := Nat.lt_of_lt_of_le hmore (Nat.min_le_right _ _)
  refine ⟨e, ?_⟩
  rw [attemptsFrom, he]
  dsimp only
  rw [if_neg (by simp [hretry]), if_pos hattempts, backoff_ok _ (Nat.lt_of_succ_lt_succ hpower)]
  dsimp only
  rw [RetryState.fail_extended clock hb, RetryState.sleep_extended]
  rfl

/-- The loop runs through attempts that fail, as long as one is left. -/
theorem attemptsFrom_retried (left : Nat) {k n : Nat} {s : RetryState} {b : CircuitBreaker}
    (hb : s.breaker = some b) (hcalls : k + n < c.mostCalls)
    (hfail : ∀ i < n, c.retryable (k + i) = true) (lastExc : Option Exc) :
    ∃ lastExc', c.attemptsFrom clock k (n + (left + 1)) lastExc s =
      c.attemptsFrom clock (k + n) (left + 1) lastExc'
        (s.extended b (c.retried clock k s.moment n) (s.moment + 2 * n)) := by
  induction n generalizing k s b lastExc with
  | zero =>
    have hsame := RetryState.extended_nil hb
    refine ⟨lastExc, ?_⟩
    simp only [Nat.zero_add, Nat.mul_zero, Nat.add_zero, retried, hsame]
  | succ n ih =>
    obtain ⟨e, hstep⟩ := c.attemptsFrom_step clock (n + (left + 1)) hb
      (by omega : k + 1 < c.mostCalls) (hfail 0 (Nat.succ_pos n)) lastExc
    obtain ⟨lastExc', hrest⟩ := ih (k := k + 1)
      (s := s.extended b [.called (clock s.moment),
        .received (.recordFailure (clock (s.moment + 1))),
        .slept (c.baseDelay * (2 ^ k : Nat))] (s.moment + 2)) rfl (by omega)
      (fun i hi => by
        have h := hfail (i + 1) (Nat.succ_lt_succ hi)
        rwa [← Nat.add_assoc, Nat.add_right_comm] at h) (some e)
    refine ⟨lastExc', ?_⟩
    rw [Nat.add_right_comm n 1 (left + 1), hstep, hrest, RetryState.extended_extended]
    have hk : k + 1 + n = k + (n + 1) := by omega
    have hm : s.moment + 2 + 2 * n = s.moment + 2 * (n + 1) := by omega
    show c.attemptsFrom clock (k + 1 + n) (left + 1) lastExc'
      (s.extended b _ (s.moment + 2 + 2 * n)) = _
    rw [hk, hm]
    rfl

/-- An attempt that returns, or raises what is not retried, ends the loop. -/
theorem attemptsFrom_stop {k left : Nat} {s : RetryState} {b : CircuitBreaker}
    (hb : s.breaker = some b) (hstop : c.retryable k = false) (lastExc : Option Exc) :
    c.attemptsFrom clock k (left + 1) lastExc s =
      (c.outcomes k, s.extended b (.called (clock s.moment) :: (c.ending k).map .received)
        (s.moment + 1)) := by
  rw [attemptsFrom]
  unfold ending
  cases ho : c.outcomes k with
  | ok a =>
    dsimp only
    rw [RetryState.succeed_extended clock hb]
    rfl
  | error e =>
    have hdont : c.dontRetry e = true := by
      unfold retryable at hstop
      rw [ho] at hstop
      simpa using hstop
    dsimp only
    rw [if_pos hdont, RetryState.call_extended clock hb]
    rfl

/-- The last call, failing, ends the loop, with attempts left if the next sleep overflows. -/
theorem attemptsFrom_last {k left : Nat} {s : RetryState} {b : CircuitBreaker}
    (hb : s.breaker = some b) (hattempts : c.attempts = k + (left + 1)) (hcalls : c.mostCalls = k + 1)
    (hfail : c.retryable k = true) (lastExc : Option Exc) :
    c.attemptsFrom clock k (left + 1) lastExc s =
      (c.exhausted, s.extended b
        [.called (clock s.moment), .received (.recordFailure (clock (s.moment + 1)))]
        (s.moment + 2)) := by
  obtain ⟨e, he, hretry⟩ := c.retryable_eq_true hfail
  unfold mostCalls at hcalls
  unfold exhausted
  rw [attemptsFrom, he]
  dsimp only
  rw [if_neg (by simp [hretry]), RetryState.fail_extended clock hb]
  cases left with
  | zero =>
    have hlast : c.attempts - 1 = k := by omega
    rw [if_neg (by omega), if_pos (by omega), hlast, he]
    rfl
  | succ left =>
    rw [if_pos (by omega), if_neg (by omega), backoff_error _ (by omega)]

/-! ## One call -/

section

variable {clock c} {s : RetryState} {b : CircuitBreaker}

theorem isOpen_breaker (hb : s.breaker = some b) : s.isOpen clock = b.isOpen (clock s.moment) := by
  unfold RetryState.isOpen
  rw [hb]
  rfl

theorem withRetry_open (hb : s.breaker = some b) (hopen : b.isOpen (clock s.moment) = true) :
    c.withRetry clock s = (.error .circuitOpen, s.tick) := by
  unfold withRetry
  rw [isOpen_breaker hb]
  exact if_pos hopen

theorem withRetry_closed (hb : s.breaker = some b) (hclosed : b.isOpen (clock s.moment) = false) :
    c.withRetry clock s = c.attemptsFrom clock 0 c.attempts none s.tick := by
  unfold withRetry
  rw [isOpen_breaker hb]
  exact if_neg (by simp [hclosed])

/-- The first outcome that is not retried ends the call. -/
theorem withRetry_stop (hb : s.breaker = some b) (hclosed : b.isOpen (clock s.moment) = false)
    {k : Nat} (hk : k < c.mostCalls) (hfail : ∀ i < k, c.retryable i = true)
    (hstop : c.retryable k = false) :
    c.withRetry clock s = (c.outcomes k, s.tick.extended b
      (c.retried clock 0 (s.moment + 1) k ++
        .called (clock (s.moment + 1 + 2 * k)) :: (c.ending k).map .received)
      (s.moment + 1 + 2 * k + 1)) := by
  have hattempts : k < c.attempts := Nat.lt_of_lt_of_le hk (Nat.min_le_left _ _)
  obtain ⟨left, hleft⟩ : ∃ left, c.attempts = k + (left + 1) := ⟨c.attempts - k - 1, by omega⟩
  obtain ⟨lastExc, hrest⟩ := c.attemptsFrom_retried clock left (k := 0) (n := k)
    (s := s.tick) hb (by rw [Nat.zero_add]; exact hk)
    (fun i hi => by rw [Nat.zero_add]; exact hfail i hi) none
  have hbreaker : (s.tick.extended b (c.retried clock 0 s.tick.moment k)
      (s.tick.moment + 2 * k)).breaker =
      some (b.after (breakerCalls (c.retried clock 0 s.tick.moment k))) := rfl
  rw [withRetry_closed hb hclosed, hleft, hrest, Nat.zero_add,
    c.attemptsFrom_stop clock hbreaker hstop, RetryState.extended_extended]
  rfl

/-- When every call fails, the last exception is raised, or the overflow. -/
theorem withRetry_exhausted (hb : s.breaker = some b)
    (hclosed : b.isOpen (clock s.moment) = false) {n : Nat} (hn : c.mostCalls = n + 1)
    (hfail : ∀ i < n + 1, c.retryable i = true) :
    c.withRetry clock s = (c.exhausted, s.tick.extended b
      (c.retried clock 0 (s.moment + 1) n ++ [.called (clock (s.moment + 1 + 2 * n)),
        .received (.recordFailure (clock (s.moment + 1 + 2 * n + 1)))])
      (s.moment + 1 + 2 * n + 2)) := by
  have hattempts : n + 1 ≤ c.attempts := hn ▸ Nat.min_le_left _ _
  obtain ⟨left, hleft⟩ : ∃ left, c.attempts = n + (left + 1) := ⟨c.attempts - n - 1, by omega⟩
  obtain ⟨lastExc, hrest⟩ := c.attemptsFrom_retried clock left (k := 0) (n := n)
    (s := s.tick) hb (by rw [Nat.zero_add, hn]; exact Nat.lt_succ_self n)
    (fun i hi => by rw [Nat.zero_add]; exact hfail i (Nat.lt_succ_of_lt hi)) none
  have hbreaker : (s.tick.extended b (c.retried clock 0 s.tick.moment n)
      (s.tick.moment + 2 * n)).breaker =
      some (b.after (breakerCalls (c.retried clock 0 s.tick.moment n))) := rfl
  rw [withRetry_closed hb hclosed, hleft, hrest, Nat.zero_add,
    c.attemptsFrom_last clock hbreaker hleft hn (hfail n (Nat.lt_succ_self n)),
    RetryState.extended_extended]
  rfl

end

/-- What a call with the breaker `b` did: it called `func` so often, slept before each call but
    the first, each time twice as long, and the breaker received just this. -/
structure Did (b : CircuitBreaker) (s s' : RetryState) (calls : Nat) (received : List BreakerCall) :
    Prop where
  happened : ∃ es, s'.events = s.events ++ es ∧ funcCalls es = calls ∧
    delays es = ((List.range (calls - 1)).map fun i => c.baseDelay * (2 ^ i : Nat)) ∧
    breakerCalls es = received
  breaker : s'.breaker = some (b.after received)

/-- `k` retried attempts and one that ends the loop. -/
theorem did_extended (s : RetryState) (b : CircuitBreaker) (k m : Nat) (now : Time)
    (last : List BreakerCall) :
    c.Did b s (s.tick.extended b (c.retried clock 0 (s.moment + 1) k ++
      .called now :: last.map .received) m) (k + 1)
      (failuresFrom clock (s.moment + 2) k ++ last) := by
  have hreceived : breakerCalls (c.retried clock 0 (s.moment + 1) k ++
      .called now :: last.map .received) = failuresFrom clock (s.moment + 2) k ++ last := by
    rw [breakerCalls_append, breakerCalls_retried]
    show _ ++ breakerCalls (last.map .received) = _
    rw [breakerCalls_received]
  have hcalls : funcCalls (c.retried clock 0 (s.moment + 1) k ++
      .called now :: last.map .received) = k + 1 := by
    rw [funcCalls_append, funcCalls_retried, funcCalls_called, funcCalls_received, Nat.zero_add]
  have hdelays : delays (c.retried clock 0 (s.moment + 1) k ++
      .called now :: last.map .received) =
      (List.range k).map fun i => c.baseDelay * (2 ^ i : Nat) := by
    rw [delays_append, delays_retried]
    show _ ++ delays (last.map .received) = _
    rw [delays_received, List.append_nil]
    simp only [Nat.zero_add]
  refine ⟨⟨_, rfl, hcalls, hdelays, hreceived⟩, ?_⟩
  show some (b.after (breakerCalls _)) = _
  rw [hreceived]

theorem failuresFrom_succ (m n : Nat) :
    failuresFrom clock m (n + 1) =
      failuresFrom clock m n ++ [.recordFailure (clock (m + 2 * n))] := by
  unfold failuresFrom
  rw [List.range_succ, List.map_append]
  rfl

end RetryCall

/-- A function that fails whenever it is called, tried up to 1026 times without a delay. -/
def longCall : RetryCall String where
  outcomes := fun _ => .error (.other "RuntimeError")
  attempts := 1026
  baseDelay := 0

/-- What a run ended with. -/
def outcomeOf {α : Type} : EStateM.Result Exc Session α → Except Exc α
  | .ok a _ => .ok a
  | .error e _ => .error e

/-- `func` leaves the breaker to `with_retry`, and does not sleep. -/
def LeavesBreaker {α : Type} (func : ApiM α) : Prop :=
  ∀ s, (stateOf (func.run s)).breaker = s.breaker ∧ (stateOf (func.run s)).sleeps = s.sleeps

/-- Every search is such a function. -/
theorem SplunkClient.search_leavesBreaker (env : Env) (client : SplunkClient)
    (spl earliest latest : String) : LeavesBreaker (client.search env spl earliest latest) := by
  intro s
  show (stateOf ((ofExcept _).run _)).breaker = _ ∧ (stateOf ((ofExcept _).run _)).sleeps = _
  rw [ofExcept_run]
  cases env.search client s.searches.length spl earliest latest <;> exact ⟨rfl, rfl⟩

/-- A failure is recorded at what the clock reads, although it is read at the threshold only. -/
theorem breakerFailure_run_ok (env : Env) (s : Session) :
    ∃ t, (breakerFailure env).run s = .ok () t ∧
      t.breaker = s.breaker.recordFailure (env.now s.ticks) ∧ t.sleeps = s.sleeps := by
  by_cases hreached : s.breaker.failureThreshold ≤ s.breaker.failures + 1
  · refine ⟨{ s.ticked with breaker := s.breaker.recordFailure (env.now s.ticks) }, ?_, rfl, rfl⟩
    show (if _ then _ else _ : ApiM Unit).run s = _
    rw [if_pos hreached]
    rfl
  · refine ⟨{ s with breaker := s.breaker.recordFailure 0 }, ?_, ?_, rfl⟩
    · show (if _ then _ else _ : ApiM Unit).run s = _
      rw [if_neg hreached]
      rfl
    · show s.breaker.recordFailure 0 = _
      unfold CircuitBreaker.recordFailure
      rw [if_neg hreached, if_neg hreached]

section

variable {α : Type} (env : Env) (func : ApiM α) (baseDelay : ℚ)

/-- The session in which `func` is called for the `k`-th time, if all its calls before fail. -/
def sessionAt (s : Session) : Nat → Session
  | 0 => s
  | k + 1 =>
    stateOf ((do breakerFailure env; sleep (baseDelay * (2 ^ k : Nat)) : ApiM Unit).run
      (stateOf (func.run (sessionAt s k))))

/-- `func` as a sequence of outcomes, when its first call is in `s`. -/
def seenCall (s : Session) (attempts : Nat) (dontRetry : Exc → Bool) : RetryCall α where
  outcomes k := outcomeOf (func.run (sessionAt env func baseDelay s k))
  attempts := attempts
  baseDelay := baseDelay
  dontRetry := dontRetry

/-- The clock as the breaker sees it: `now₀` at the check, and then after each call of `func`. -/
def seenClock (s : Session) (now₀ : Time) : Nat → Time
  | 0 => now₀
  | m + 1 => env.now (stateOf (func.run (sessionAt env func baseDelay s (m / 2)))).ticks

end

/-- The session holds the breaker of the retry state, and the sleeps since `sleeps`. -/
def Tracks (sleeps : List ℚ) (t : Session) (st : RetryState) : Prop :=
  st.breaker = some t.breaker ∧ t.sleeps = sleeps ++ delays st.events

theorem Tracks.extended {sleeps : List ℚ} {t t' : Session} {st : RetryState}
    (h : Tracks sleeps t st) {es : List RetryEvent} (m : Nat)
    (hbreaker : t'.breaker = t.breaker.after (breakerCalls es))
    (hsleeps : t'.sleeps = t.sleeps ++ delays es) :
    Tracks sleeps t' (st.extended t.breaker es m) := by
  refine ⟨congrArg some hbreaker.symm, ?_⟩
  show t'.sleeps = sleeps ++ delays (st.events ++ es)
  rw [hsleeps, h.2, delays_append, List.append_assoc]

section

variable {α : Type} {env : Env} {func : ApiM α} {baseDelay : ℚ} {dontRetry : Exc → Bool}
  {sleeps : List ℚ} {s : Session} {attempts : Nat} {now₀ : Time}

/-- An attempt that is not retried ends the loop. -/
theorem retryLoop_stop (hfunc : LeavesBreaker func) {k : Nat} (left : Nat) {st : RetryState}
    (ht : Tracks sleeps (sessionAt env func baseDelay s k) st) (now : Time) (m : Nat)
    (hstop : (seenCall env func baseDelay s attempts dontRetry).retryable k = false) :
    outcomeOf ((retryLoop env func baseDelay dontRetry k left).run
        (sessionAt env func baseDelay s k)) =
      (seenCall env func baseDelay s attempts dontRetry).outcomes k ∧
    Tracks sleeps (stateOf ((retryLoop env func baseDelay dontRetry k left).run
        (sessionAt env func baseDelay s k)))
      (st.extended (sessionAt env func baseDelay s k).breaker (.called now ::
        ((seenCall env func baseDelay s attempts dontRetry).ending k).map .received) m) := by
  obtain ⟨hbreaker, hsleeps⟩ := hfunc (sessionAt env func baseDelay s k)
  have hattempt := attempt_run func (sessionAt env func baseDelay s k)
  rw [retryLoop.eq_def]
  unfold RetryCall.retryable at hstop
  unfold RetryCall.ending
  dsimp only [seenCall] at hstop ⊢
  cases hrun : func.run (sessionAt env func baseDelay s k) with
  | ok a u =>
    rw [hrun] at hattempt hbreaker hsleeps
    rw [run_bind_ok hattempt]
    refine ⟨rfl, ht.extended m ?_ ?_⟩
    · show u.breaker.recordSuccess = (sessionAt env func baseDelay s k).breaker.recordSuccess
      exact congrArg CircuitBreaker.recordSuccess hbreaker
    · show u.sleeps = (sessionAt env func baseDelay s k).sleeps ++ []
      rw [List.append_nil]
      exact hsleeps
  | error e u =>
    rw [hrun] at hstop hattempt hbreaker hsleeps
    have hdont : dontRetry e = true := by simpa [outcomeOf] using hstop
    rw [run_bind_ok hattempt]
    dsimp only
    rw [if_pos hdont]
    refine ⟨rfl, ht.extended m hbreaker ?_⟩
    show u.sleeps = (sessionAt env func baseDelay s k).sleeps ++ []
    rw [List.append_nil]
    exact hsleeps

/-- An attempt that fails is recorded, and then slept on if there is another one. -/
theorem retryLoop_fail (hfunc : LeavesBreaker func) {k : Nat}
    (hfail : (seenCall env func baseDelay s attempts dontRetry).retryable k = true) :
    ∃ e v, (seenCall env func baseDelay s attempts dontRetry).outcomes k = .error e ∧
      (retryLoop env func baseDelay dontRetry k 0).run (sessionAt env func baseDelay s k) =
        .error e v ∧
      (∀ left, (retryLoop env func baseDelay dontRetry k (left + 1)).run
          (sessionAt env func baseDelay s k) =
        (retryLoop env func baseDelay dontRetry (k + 1) left).run
          (sessionAt env func baseDelay s (k + 1))) ∧
      sessionAt env func baseDelay s (k + 1) =
        { v with sleeps := v.sleeps ++ [baseDelay * (2 ^ k : Nat)] } ∧
      v.breaker = (sessionAt env func baseDelay s k).breaker.recordFailure
        (env.now (stateOf (func.run (sessionAt env func baseDelay s k))).ticks) ∧
      v.sleeps = (sessionAt env func baseDelay s k).sleeps := by
  obtain ⟨hbreaker, hsleeps⟩ := hfunc (sessionAt env func baseDelay s k)
  obtain ⟨e, he, hretry⟩ := RetryCall.retryable_eq_true _ hfail
  have hretry : ¬ dontRetry e = true := by simpa [seenCall] using hretry
  have hattempt := attempt_run func (sessionAt env func baseDelay s k)
  have hnext : sessionAt env func baseDelay s (k + 1) =
      stateOf ((do breakerFailure env; sleep (baseDelay * (2 ^ k : Nat)) : ApiM Unit).run
        (stateOf (func.run (sessionAt env func baseDelay s k)))) := rfl
  cases hrun : func.run (sessionAt env func baseDelay s k) with
  | ok a u =>
    dsimp only [seenCall] at he
    rw [hrun] at he
    cases he
  | error e' u =>
    dsimp only [seenCall] at he
    rw [hrun] at he hattempt hbreaker hsleeps hnext
    cases he
    obtain ⟨v, hv, hvbreaker, hvsleeps⟩ := breakerFailure_run_ok env u
    have hv : (breakerFailure env).run (stateOf (.error e u : EStateM.Result Exc Session α)) =
      .ok () v := hv
    rw [run_bind_ok hv] at hnext
    refine ⟨e, v, ?_, ?_, fun left => ?_, hnext, ?_, ?_⟩
    · dsimp only [seenCall]
      rw [hrun]
      rfl
    · rw [retryLoop.eq_def, run_bind_ok hattempt]
      dsimp only
      rw [if_neg hretry]
      exact run_bind_ok hv
    · rw [retryLoop.eq_def, run_bind_ok hattempt, hnext]
      dsimp only
      rw [if_neg hretry]
      exact run_bind_ok hv
    · rw [hvbreaker]
      exact congrArg (fun b => b.recordFailure (env.now u.ticks)) hbreaker
    · rw [hvsleeps]
      exact hsleeps

theorem retryLoop_simulated (hfunc : LeavesBreaker func) {k left : Nat}
    (hattempts : attempts = k + (left + 1)) (hfew : attempts ≤ 1025) {st : RetryState}
    (hmoment : st.moment = 2 * k + 1)
    (ht : Tracks sleeps (sessionAt env func baseDelay s k) st) (lastExc : Option Exc) :
    outcomeOf ((retryLoop env func baseDelay dontRetry k left).run
        (sessionAt env func baseDelay s k)) =
      ((seenCall env func baseDelay s attempts dontRetry).attemptsFrom
        (seenClock env func baseDelay s now₀) k (left + 1) lastExc st).1 ∧
    Tracks sleeps (stateOf ((retryLoop env func baseDelay dontRetry k left).run
        (sessionAt env func baseDelay s k)))
      ((seenCall env func baseDelay s attempts dontRetry).attemptsFrom
        (seenClock env func baseDelay s now₀) k (left + 1) lastExc st).2 := by
  have hclock : seenClock env func baseDelay s now₀ (st.moment + 1) =
      env.now (stateOf (func.run (sessionAt env func baseDelay s k))).ticks := by
    have hk : (2 * k + 1) / 2 = k := by omega
    rw [hmoment]
    show env.now (stateOf (func.run (sessionAt env func baseDelay s ((2 * k + 1) / 2)))).ticks = _
    rw [hk]
  cases hretry : (seenCall env func baseDelay s attempts dontRetry).retryable k with
  | false =>
    rw [RetryCall.attemptsFrom_stop _ _ ht.1 hretry]
    exact retryLoop_stop hfunc left ht _ _ hretry
  | true =>
    obtain ⟨e, v, he, hlast, hmore, hnext, hbreaker, hsleeps⟩ := retryLoop_fail hfunc hretry
    cases left with
    | zero =>
      have hcalls : (seenCall env func baseDelay s attempts dontRetry).mostCalls = k + 1 :=
        (Nat.min_eq_left hfew).trans hattempts
      have hlastCall : attempts - 1 = k := by omega
      have hexhausted : (seenCall env func baseDelay s attempts dontRetry).exhausted =
          (seenCall env func baseDelay s attempts dontRetry).outcomes (attempts - 1) := if_pos hfew
      rw [RetryCall.attemptsFrom_last _ _ ht.1 hattempts hcalls hretry, hlast, hexhausted, hlastCall,
        he, hclock]
      refine ⟨rfl, ht.extended _ hbreaker ?_⟩
      show v.sleeps = _ ++ []
      rw [hsleeps, List.append_nil]
    | succ left =>
      have hmore' : k + 1 < attempts := by omega
      have hanother : k + 1 < (seenCall env func baseDelay s attempts dontRetry).mostCalls :=
        Nat.lt_min.mpr ⟨hmore', by omega⟩
      obtain ⟨e', hstep⟩ := RetryCall.attemptsFrom_step (seenClock env func baseDelay s now₀)
        (seenCall env func baseDelay s attempts dontRetry) (left + 1) ht.1 hanother hretry
        lastExc
      rw [hstep, hmore left, hclock]
      refine retryLoop_simulated hfunc (by omega) hfew ?_ (ht.extended _ ?_ ?_) (some e')
      · show st.moment + 2 = 2 * (k + 1) + 1
        omega
      · rw [hnext]
        exact hbreaker
      · rw [hnext]
        show v.sleeps ++ _ = _ ++ [_]
        rw [hsleeps]
        rfl

end

/-- The check reads the clock only of a breaker that has opened. -/
theorem breakerIsOpen_run (env : Env) (s : Session) :
    ∃ t, (breakerIsOpen env).run s = .ok (s.breaker.isOpen (env.now s.ticks)) t ∧
      t.breaker = s.breaker ∧ t.sleeps = s.sleeps := by
  have hget : (get : ApiM Session).run s = .ok s s := rfl
  unfold breakerIsOpen
  rw [run_bind_ok hget]
  dsimp only
  cases hopened : s.breaker.openedAt with
  | none =>
    have hclosed : s.breaker.isOpen (env.now s.ticks) = false := by
      unfold CircuitBreaker.isOpen
      rw [hopened]
    rw [hclosed]
    exact ⟨s, rfl, rfl, rfl⟩
  | some opened => exact ⟨s.ticked, rfl, rfl, rfl⟩

/-- Whatever a detection agent retries, its `withRetry` does what `with_retry` does at its
    defaults, for some outcomes of the function and some clock. -/
theorem withRetry_simulated {α : Type} (env : Env) {func : ApiM α} (hfunc : LeavesBreaker func)
    (dontRetry : Exc → Bool) (s : Session) :
    ∃ (outcomes : Nat → Except Exc α) (clock : Nat → Time),
      outcomeOf ((withRetry env func dontRetry).run s) =
        ((RetryCall.mk outcomes 3 (1 / 20) dontRetry).withRetry clock ⟨some s.breaker, 0, []⟩).1 ∧
      Tracks s.sleeps (stateOf ((withRetry env func dontRetry).run s))
        ((RetryCall.mk outcomes 3 (1 / 20) dontRetry).withRetry clock ⟨some s.breaker, 0, []⟩).2 := by
  obtain ⟨t, hcheck, hbreaker, hsleeps⟩ := breakerIsOpen_run env s
  refine ⟨(seenCall env func (1 / 20) t 3 dontRetry).outcomes,
    seenClock env func (1 / 20) t (env.now s.ticks), ?_⟩
  have htracks : ∀ m, Tracks s.sleeps t ⟨some s.breaker, m, []⟩ := by
    intro m
    refine ⟨congrArg some hbreaker.symm, ?_⟩
    rw [hsleeps]
    exact (List.append_nil _).symm
  have hstart : (RetryState.mk (some s.breaker) 0 []).breaker = some s.breaker := rfl
  unfold withRetry
  rw [run_bind_ok hcheck]
  cases hopen : s.breaker.isOpen (env.now s.ticks) with
  | true =>
    have hfound : s.breaker.isOpen
        (seenClock env func (1 / 20) t (env.now s.ticks) 0) = true := hopen
    rw [RetryCall.withRetry_open hstart hfound]
    exact ⟨rfl, htracks 1⟩
  | false =>
    have hfound : s.breaker.isOpen
        (seenClock env func (1 / 20) t (env.now s.ticks) 0) = false := hopen
    rw [RetryCall.withRetry_closed hstart hfound]
    exact retryLoop_simulated hfunc rfl (by decide) rfl (htracks 1) none

end SentinelAI
