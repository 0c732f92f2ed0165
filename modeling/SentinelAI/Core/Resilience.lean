import SentinelAI.Core.Session

/-
  Retry and circuit breaker (`app/core/resilience.py`). A detection agent owns one breaker,
  which the session carries.
-/

namespace SentinelAI

/-- `CircuitBreaker.is_open`; half-open counts as closed. -/
def CircuitBreaker.isOpen (b : CircuitBreaker) (now : Time) : Bool :=
  match b.openedAt with
  | none => false
  | some t => decide (now - t < b.resetAfterSeconds.delta)

def CircuitBreaker.recordSuccess (b : CircuitBreaker) : CircuitBreaker :=
  { b with failures := 0, openedAt := none }

/-- `record_failure` at an instant. -/
def CircuitBreaker.recordFailure (b : CircuitBreaker) (now : Time) : CircuitBreaker :=
  { b with
    failures := b.failures + 1
    openedAt := if b.failureThreshold ≤ b.failures + 1 then some now else b.openedAt }

/-- Whether the agent's breaker is open; the clock is read only once it has opened. -/
def breakerIsOpen (env : Env) : ApiM Bool := do
  let b := (← get).breaker
  match b.openedAt with
  | none => return false
  | some _ => return b.isOpen (← readClock env)

def breakerSuccess : ApiM Unit := modify fun s => { s with breaker := s.breaker.recordSuccess }

/-- `record_failure`; the clock is read only at the threshold. -/
def breakerFailure (env : Env) : ApiM Unit := do
  let b := (← get).breaker
  if b.failureThreshold ≤ b.failures + 1 then do
    let now ← readClock env
    modify fun s => { s with breaker := s.breaker.recordFailure now }
  else
    modify fun s => { s with breaker := s.breaker.recordFailure 0 }

def sleep (seconds : ℚ) : ApiM Unit := modify fun s => { s with sleeps := s.sleeps ++ [seconds] }

/-- The loop of `with_retry` from its `k`-th attempt, `left` more of them to go; few enough that
    every `2**k` is a float. -/
def retryLoop {α : Type} (env : Env) (func : ApiM α) (baseDelay : ℚ) (dontRetry : Exc → Bool)
    (k left : Nat) : ApiM α := do
  match ← attempt func with
  | .ok a =>
    breakerSuccess
    return a
  | .error e =>
    if dontRetry e then throw e
    breakerFailure env
    match left with
    | 0 => throw e
    | left + 1 =>
      sleep (baseDelay * (2 ^ k : Nat))
      retryLoop env func baseDelay dontRetry (k + 1) left

/-- `with_retry(func, attempts=3, breaker=…)` with the default delay. -/
def withRetry {α : Type} (env : Env) (func : ApiM α) (dontRetry : Exc → Bool) : ApiM α := do
  if ← breakerIsOpen env then throw .circuitOpen
  retryLoop env func (1 / 20) dontRetry 0 2

end SentinelAI
