import SentinelAI.Core.Retry

/-
  Calls of `func` while the circuit is open. `with_retry` asks its breaker once, before the
  first attempt; the breaker can open between two attempts, and the loop goes on.
  `open_circuit_iff` says when no call of any sequence of `with_retry` calls falls on an open
  circuit: a failure that reaches the threshold, with an attempt to come, must be followed by a
  back-off as long as the reset time.
-/

namespace SentinelAI

/-- `func` is never called at a moment at which the breaker is open; `b` is the breaker before
    the events. -/
def ClosedAtCalls (b : CircuitBreaker) (es : List RetryEvent) : Prop :=
  ∀ before now after, es = before ++ .called now :: after →
    (b.after (breakerCalls before)).isOpen now = false

section

variable {b : CircuitBreaker}

theorem closedAtCalls_nil : ClosedAtCalls b [] := by
  intro before now after h
  simp at h

theorem closedAtCalls_cons {e : RetryEvent} {es : List RetryEvent} :
    ClosedAtCalls b (e :: es) ↔
      (∀ now, e = .called now → b.isOpen now = false) ∧
        ClosedAtCalls (b.after (breakerCalls [e])) es := by
  constructor
  · intro h
    refine ⟨?_, ?_⟩
    · rintro now rfl
      exact h [] now es rfl
    · rintro before now after rfl
      have hopen := h (e :: before) now after rfl
      rwa [← List.singleton_append, breakerCalls_append, CircuitBreaker.after_append] at hopen
  · rintro ⟨hfirst, hrest⟩ before now after hsplit
    cases before with
    | nil =>
      obtain ⟨rfl, rfl⟩ := List.cons.inj hsplit
      exact hfirst now rfl
    | cons e' before =>
      obtain ⟨rfl, rfl⟩ := List.cons.inj hsplit
      rw [← List.singleton_append, breakerCalls_append, CircuitBreaker.after_append]
      exact hrest before now after rfl

theorem closedAtCalls_called {now : Time} {es : List RetryEvent} :
    ClosedAtCalls b (.called now :: es) ↔ b.isOpen now = false ∧ ClosedAtCalls b es := by
  rw [closedAtCalls_cons]
  refine and_congr_left fun _ => ⟨fun h => h now rfl, ?_⟩
  rintro h now' hnow
  cases hnow
  exact h

theorem closedAtCalls_received {c : BreakerCall} {es : List RetryEvent} :
    ClosedAtCalls b (.received c :: es) ↔ ClosedAtCalls (b.receive c) es := by
  rw [closedAtCalls_cons]
  exact and_iff_right fun now h => by cases h

theorem closedAtCalls_slept {seconds : ℚ} {es : List RetryEvent} :
    ClosedAtCalls b (.slept seconds :: es) ↔ ClosedAtCalls b es := by
  rw [closedAtCalls_cons]
  exact and_iff_right fun now h => by cases h

theorem closedAtCalls_map_received {cs : List BreakerCall} :
    ClosedAtCalls b (cs.map .received) := by
  induction cs generalizing b with
  | nil => exact closedAtCalls_nil
  | cons c cs ih => exact closedAtCalls_received.mpr ih

theorem closedAtCalls_append {es es' : List RetryEvent} :
    ClosedAtCalls b (es ++ es') ↔
      ClosedAtCalls b es ∧ ClosedAtCalls (b.after (breakerCalls es)) es' := by
  induction es generalizing b with
  | nil => exact (and_iff_right closedAtCalls_nil).symm
  | cons e es ih =>
    have hafter : b.after (breakerCalls (e :: es)) =
        (b.after (breakerCalls [e])).after (breakerCalls es) := by
      rw [← List.singleton_append, breakerCalls_append, CircuitBreaker.after_append]
    rw [List.cons_append, closedAtCalls_cons, closedAtCalls_cons, ih, hafter, and_assoc]

/-- A clock that never runs backwards. -/
def ForwardClock (clock : Nat → Time) : Prop := ∀ m n, m ≤ n → clock m ≤ clock n

/-! ## When a failure leaves the circuit closed -/

/-- A breaker that is closed stays closed, if nothing happens. -/
theorem CircuitBreaker.closed_later {now later : Time} (h : b.isOpen now = false)
    (hle : now ≤ later) : b.isOpen later = false := by
  unfold CircuitBreaker.isOpen at h ⊢
  cases hopened : b.openedAt with
  | none => rfl
  | some t =>
    rw [hopened] at h
    have hpassed : ¬ now - t < b.resetAfterSeconds.delta := of_decide_eq_false h
    exact decide_eq_false fun hlt => hpassed (lt_of_le_of_lt (Int.sub_le_sub_right hle t) hlt)

/-- A failure leaves a closed breaker closed later on exactly when it is still one of too few, or
    when the reset time has passed since. -/
theorem CircuitBreaker.closed_after_failure (failedAt : Time) {now later : Time}
    (h : b.isOpen now = false) (hle : now ≤ later) :
    (b.recordFailure failedAt).isOpen later = false ↔
      b.failures + 1 < b.failureThreshold ∨
        b.resetAfterSeconds.delta ≤ later - failedAt := by
  by_cases hreached : b.failureThreshold ≤ b.failures + 1
  · have hopened : (b.recordFailure failedAt).openedAt = some failedAt := if_pos hreached
    have hnot : ¬ b.failures + 1 < b.failureThreshold := Nat.not_lt.mpr hreached
    have hreset : (b.recordFailure failedAt).resetAfterSeconds = b.resetAfterSeconds := rfl
    unfold CircuitBreaker.isOpen
    rw [hopened, hreset]
    simp [hnot]
  · have hopened : (b.recordFailure failedAt).openedAt = b.openedAt := if_neg hreached
    have hsame : (b.recordFailure failedAt).isOpen later = b.isOpen later := by
      unfold CircuitBreaker.isOpen
      rw [hopened]
      rfl
    rw [hsame]
    exact iff_of_true (b.closed_later h hle) (Or.inl (Nat.not_le.mp hreached))

end

/-! ## One call -/

namespace RetryCall

variable {α : Type} {clock : Nat → Time} {c : RetryCall α}

/-- The `i`-th retried failure, at moment `m`, of a call that found `b`: the breaker stays closed,
    or has been reset by the moment of the next attempt. -/
def Cleared (clock : Nat → Time) (b : CircuitBreaker) (m i : Nat) : Prop :=
  b.failures + i + 1 < b.failureThreshold ∨
    b.resetAfterSeconds.delta ≤ clock (m + 2 * i + 1) - clock (m + 2 * i)

/-- Retried attempts and a last one fall on a closed circuit exactly when each failure between is
    cleared. -/
theorem closedAtCalls_retried (hclock : ForwardClock clock) {b : CircuitBreaker} (k m n : Nat)
    (last : List BreakerCall) :
    ClosedAtCalls b (c.retried clock k m n ++ .called (clock (m + 2 * n)) :: last.map .received) ↔
      b.isOpen (clock m) = false ∧ ∀ i < n, Cleared clock b (m + 1) i := by
  induction n generalizing b k m with
  | zero =>
    show ClosedAtCalls b (.called (clock m) :: last.map .received) ↔ _
    rw [closedAtCalls_called]
    exact and_congr_right fun _ =>
      iff_of_true closedAtCalls_map_received fun i hi => absurd hi (Nat.not_lt_zero i)
  | succ n ih =>
    have hm : m + 2 * (n + 1) = m + 2 + 2 * n := by omega
    rw [retried, hm, List.cons_append, List.cons_append, List.cons_append, closedAtCalls_called,
      closedAtCalls_received, closedAtCalls_slept, ih]
    refine and_congr_right fun hclosed => ?_
    have hfirst := CircuitBreaker.closed_after_failure (clock (m + 1)) hclosed
      (hclock m (m + 2) (Nat.le_add_right m 2))
    show (b.recordFailure (clock (m + 1))).isOpen (clock (m + 2)) = false ∧ _ ↔ _
    rw [hfirst]
    have hshift : ∀ i, Cleared clock (b.recordFailure (clock (m + 1))) (m + 2 + 1) i ↔
        Cleared clock b (m + 1) (i + 1) := by
      intro i
      have hfailures : b.failures + 1 + i + 1 = b.failures + (i + 1) + 1 := by omega
      have hmoment : m + 2 + 1 + 2 * i = m + 1 + 2 * (i + 1) := by omega
      unfold Cleared
      rw [hmoment, ← hfailures]
      rfl
    constructor
    · rintro ⟨hzero, hrest⟩ i hi
      cases i with
      | zero => exact hzero
      | succ i => exact (hshift i).mp (hrest i (Nat.lt_of_succ_lt_succ hi))
    · intro hall
      exact ⟨hall 0 (Nat.succ_pos n), fun i hi => (hshift i).mpr (hall (i + 1) (Nat.succ_lt_succ hi))⟩

/-- A call that found `b` closed never tries again into an open circuit: every failure that is
    retried is cleared. -/
def WaitsOut (clock : Nat → Time) (c : RetryCall α) (m : Nat) (b : CircuitBreaker) : Prop :=
  ∀ i, i + 1 < c.mostCalls → (∀ j ≤ i, c.retryable j = true) → Cleared clock b (m + 2) i

/-- The events of one call, and when none of its attempts falls on an open circuit. -/
theorem withRetry_closed_iff (hclock : ForwardClock clock) {s : RetryState} {b : CircuitBreaker}
    (hb : s.breaker = some b) :
    ∃ es, (c.withRetry clock s).2.events = s.events ++ es ∧
      (c.withRetry clock s).2.breaker = some (b.after (breakerCalls es)) ∧
      (ClosedAtCalls b es ↔
        (b.isOpen (clock s.moment) = false → c.WaitsOut clock s.moment b)) := by
  cases hopen : b.isOpen (clock s.moment) with
  | true =>
    rw [withRetry_open hb hopen]
    refine ⟨[], (List.append_nil _).symm, hb, ?_⟩
    exact iff_of_true closedAtCalls_nil fun h => by cases h
  | false =>
    have hlater := CircuitBreaker.closed_later hopen
      (hclock s.moment (s.moment + 1) (Nat.le_add_right s.moment 1))
    by_cases hstop : ∃ k, k < c.mostCalls ∧ c.retryable k = false
    · obtain ⟨hk, hretry⟩ := Nat.find_spec hstop
      have hfail : ∀ i < Nat.find hstop, c.retryable i = true := by
        intro i hi
        have hnot := Nat.find_min hstop hi
        simpa [Nat.lt_trans hi hk] using hnot
      rw [withRetry_stop hb hopen hk hfail hretry]
      refine ⟨_, rfl, rfl, ?_⟩
      rw [closedAtCalls_retried hclock]
      constructor
      · rintro ⟨_, hall⟩ _ i _ hi
        refine hall i (Nat.lt_of_not_le fun hle => ?_)
        rw [hi _ hle] at hretry
        cases hretry
      · exact fun hall => ⟨hlater, fun i hi => hall rfl i (by omega) fun j hj => hfail j (by omega)⟩
    · have hfail : ∀ i < c.mostCalls, c.retryable i = true := by
        intro i hi
        by_contra hnot
        exact hstop ⟨i, hi, by simpa using hnot⟩
      cases hn : c.mostCalls with
      | zero =>
        have hnone : c.attempts = 0 := by
          unfold mostCalls at hn
          omega
        rw [withRetry_closed hb hopen, hnone]
        refine ⟨[], (List.append_nil _).symm, hb, ?_⟩
        refine iff_of_true closedAtCalls_nil fun _ i hi => ?_
        omega
      | succ n =>
        rw [withRetry_exhausted hb hopen hn (by rwa [hn] at hfail)]
        refine ⟨_, rfl, rfl, ?_⟩
        have hevents := closedAtCalls_retried (c := c) hclock (b := b) 0 (s.moment + 1) n
          [.recordFailure (clock (s.moment + 1 + 2 * n + 1))]
        refine hevents.trans ?_
        constructor
        · exact fun h _ i hi _ => h.2 i (by omega)
        · exact fun hall =>
            ⟨hlater, fun i hi => hall rfl i (by omega) fun j hj => hfail j (by omega)⟩

end RetryCall

/-! ## Calls one after another -/

/-- `with_retry` calls that share a breaker, one after another. -/
def retries {α : Type} (clock : Nat → Time) (s : RetryState) (cs : List (RetryCall α)) :
    RetryState :=
  cs.foldl (fun s c => (c.withRetry clock s).2) s

/-- The call waits out an open circuit, if it starts at all. -/
def RespectsReset {α : Type} (clock : Nat → Time) (s : RetryState) (c : RetryCall α) : Prop :=
  ∀ b, s.breaker = some b → b.isOpen (clock s.moment) = false → c.WaitsOut clock s.moment b

section

variable {α : Type} {clock : Nat → Time}

theorem retries_closed_iff (hclock : ForwardClock clock) (cs : List (RetryCall α)) {s : RetryState}
    {b : CircuitBreaker} (hb : s.breaker = some b) :
    ∃ es, (retries clock s cs).events = s.events ++ es ∧
      (ClosedAtCalls b es ↔ ∀ before c after, cs = before ++ c :: after →
        RespectsReset clock (retries clock s before) c) := by
  induction cs generalizing s b with
  | nil =>
    refine ⟨[], (List.append_nil _).symm, iff_of_true closedAtCalls_nil ?_⟩
    intro before c after h
    simp at h
  | cons c cs ih =>
    obtain ⟨es, hes, hbreaker, hcall⟩ := c.withRetry_closed_iff hclock hb
    obtain ⟨es', hes', hrest⟩ := ih hbreaker
    refine ⟨es ++ es', ?_, ?_⟩
    · show (retries clock (c.withRetry clock s).2 cs).events = _
      rw [hes', hes, List.append_assoc]
    · rw [closedAtCalls_append, hcall, hrest]
      constructor
      · rintro ⟨hfirst, hlater⟩ before c' after hsplit
        cases before with
        | nil =>
          obtain ⟨rfl, rfl⟩ := List.cons.inj hsplit
          intro b' hb' hclosed
          cases hb.symm.trans hb'
          exact hfirst hclosed
        | cons c₀ before =>
          obtain ⟨rfl, rfl⟩ := List.cons.inj hsplit
          exact hlater before c' after rfl
      · intro hall
        refine ⟨fun hclosed => hall [] c cs rfl b hb hclosed, ?_⟩
        rintro before c' after rfl
        exact hall (c :: before) c' after rfl

/-- Over every sequence of `with_retry` calls sharing a breaker, whatever their functions do: no
    call of a function falls on an open circuit exactly when every `with_retry` that starts
    waits out the circuit it opens. -/
theorem open_circuit_iff (hclock : ForwardClock clock) (b : CircuitBreaker) (m : Nat)
    (cs : List (RetryCall α)) :
    ClosedAtCalls b (retries clock ⟨some b, m, []⟩ cs).events ↔
      ∀ before c after, cs = before ++ c :: after →
        RespectsReset clock (retries clock ⟨some b, m, []⟩ before) c := by
  obtain ⟨es, hes, hiff⟩ := retries_closed_iff hclock cs (s := ⟨some b, m, []⟩) rfl
  rw [hes]
  exact hiff

end

/-- A dependency that is down, tried three times. -/
def downCall : RetryCall Unit where
  outcomes := fun _ => .error (.other "RuntimeError")

/-- A breaker that opens at the second failure. -/
def quickBreaker : CircuitBreaker where
  failureThreshold := 2
  resetAfterSeconds := .ofWhole 999

/-- One attempt at a time, the circuit is respected. -/
theorem open_circuit_single :
    ClosedAtCalls quickBreaker (retries (fun m => (m : Int)) ⟨some quickBreaker, 0, []⟩
      [{ downCall with attempts := 1 }, { downCall with attempts := 1 },
        { downCall with attempts := 1 }]).events := by
  have hclock : ForwardClock fun m : Nat => ((m : Int) : Time) := fun m n h => Int.ofNat_le.mpr h
  refine (open_circuit_iff hclock quickBreaker 0 _).mpr ?_
  intro before c after hsplit b _ _ i hi
  have hc : c ∈ [{ downCall with attempts := 1 }, { downCall with attempts := 1 },
      { downCall with attempts := 1 }] := by
    rw [hsplit]
    exact List.mem_append_right _ List.mem_cons_self
  simp only [List.mem_cons, List.not_mem_nil, or_false, or_self] at hc
  rw [hc] at hi
  have hone : i + 1 < 1 := hi
  omega

/-- Three attempts in one call: the third is made although the second opened the circuit. -/
theorem open_circuit_ignored :
    ¬ ∀ (clock : Nat → Time) (b : CircuitBreaker) (m : Nat) (cs : List (RetryCall Unit)),
      ForwardClock clock → ClosedAtCalls b (retries clock ⟨some b, m, []⟩ cs).events := by
  intro h
  have hclosed := h (fun m => (m : Int)) quickBreaker 0 [downCall]
    fun m n hmn => Int.ofNat_le.mpr hmn
  have hcalls : (retries (fun m => (m : Int)) ⟨some quickBreaker, 0, []⟩ [downCall]).events =
      [.called 1, .received (.recordFailure 2), .slept (1 / 20), .called 3,
        .received (.recordFailure 4), .slept (1 / 10)] ++
      .called 5 :: [.received (.recordFailure 6)] := by
    decide +kernel
  have hopen := hclosed _ _ _ hcalls
  revert hopen
  decide +kernel

end SentinelAI
