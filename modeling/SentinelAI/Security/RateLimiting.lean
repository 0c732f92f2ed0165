import Mathlib.Data.Finset.Dedup
import Mathlib.Data.Finset.Order
import SentinelAI.Core.Middleware
import SentinelAI.Lib.SlidingWindow

/-
  The rate limiter is exact. Each client's deque is a lazy sliding-window log
  (`dispatch_answer`, `dispatch_hits`), so while the clock does not go back the middleware
  follows the limiter that remembers every request it passed on (`Follows.dispatch`).

  A negative limit passes nothing on, as a limit of zero does.
-/

namespace SentinelAI

open Lib Lib.SlidingWindow

namespace RateLimitMiddleware

/-! ## One request -/

theorem popExpired_eq_prune (now : ℚ) (window : List ℚ) :
    popExpired now window = prune 60 now window := by
  induction window with
  | nil => rfl
  | cons t window ih =>
    unfold popExpired prune
    rw [List.dropWhile_cons, ih]
    by_cases h : now - t > 60
    · rw [if_pos h, if_pos (decide_eq_true h)]
      rfl
    · rw [if_neg h, if_neg (by simpa using h)]

/-- The answer to a request the limiter admits or refuses. -/
def answer (admitted : Bool) : Option JSONResponse :=
  if admitted then none else some ⟨429, "Rate limit exceeded"⟩

theorem answer_eq_none {admitted : Bool} : answer admitted = none ↔ admitted = true := by
  cases admitted <;> simp [answer]

variable (m : RateLimitMiddleware) (r : Arrival)

theorem dispatch_answer :
    (m.dispatch r).1 = answer (Lazy.admits 60 m.limit (m.hits r.client) r.now) := by
  unfold dispatch Lazy.admits answer
  rw [popExpired_eq_prune]
  by_cases h : m.limit ≤ ((prune 60 r.now (m.hits r.client)).length : Int)
  · simp [h, not_lt.mpr h]
  · simp [h, not_le.mp h]

theorem dispatch_hits :
    (m.dispatch r).2.hits =
      keyedStep (fun log (r : Arrival) => Lazy.step 60 m.limit log r.now) Arrival.client m.hits r := by
  unfold dispatch keyedStep Lazy.step Lazy.admits
  rw [popExpired_eq_prune]
  by_cases h : m.limit ≤ ((prune 60 r.now (m.hits r.client)).length : Int)
  · simp [h, not_lt.mpr h]
  · simp [h, not_le.mp h]

@[simp] theorem dispatch_limit : (m.dispatch r).2.limit = m.limit := by
  unfold dispatch
  dsimp only
  split <;> rfl

/-- A request of another client finds and leaves a deque as it is. -/
theorem dispatch_hits_ne {c : String} (h : c ≠ r.client) : (m.dispatch r).2.hits c = m.hits c := by
  rw [dispatch_hits]
  exact keyedStep_ne _ _ _ _ h

/-! ## The requests passed on -/

/-- The request is passed on to the application. -/
def Passes : Prop := (m.dispatch r).1 = none

instance : Decidable (m.Passes r) := inferInstanceAs (Decidable (_ = _))

/-- The times at which requests of `c` were passed on, in order. -/
def passedTimes (c : String) : RateLimitMiddleware → List Arrival → List ℚ
  | _, [] => []
  | m, r :: rs =>
    (if m.Passes r ∧ r.client = c then [r.now] else []) ++ passedTimes c (m.dispatch r).2 rs

/-- The responses to the requests of `c`, in order. -/
def responsesTo (c : String) (rs : List Arrival) : List (Option JSONResponse) :=
  ((rs.zip (m.responses rs)).filter fun p => p.1.client = c).map Prod.snd

/-- At `now` every deque is the part of the passed times its last pruning left, and these
    keep to the limit. -/
structure Follows (now : ℚ) (m : RateLimitMiddleware) (passed : String → List ℚ) : Prop where
  tracks : ∀ c, ∃ k ≤ now, Tracks 60 k (m.hits c) (passed c)
  bounded : ∀ c, Ideal.Bounded 60 m.limit (passed c)

variable {m : RateLimitMiddleware} {r : Arrival} {now : ℚ} {passed : String → List ℚ}

theorem Follows.init (limit : Int) (now : ℚ) : Follows now (init limit) fun _ => [] where
  tracks := fun _ => ⟨now, le_rfl, Tracks.start 60 now⟩
  bounded := fun _ _ => Nat.zero_le _

/-- A request is passed on when the passed requests of its client leave room for it. -/
theorem Follows.passes_iff (h : Follows now m passed) (hnow : now ≤ r.now) :
    m.Passes r ↔ (recent 60 r.now (passed r.client) : Int) < m.limit := by
  obtain ⟨k, hk, htr⟩ := h.tracks r.client
  unfold Passes
  rw [dispatch_answer, answer_eq_none, htr.admits_eq (hk.trans hnow)]
  exact decide_eq_true_iff

/-- One request: what is passed on is remembered. -/
theorem Follows.dispatch (h : Follows now m passed) (hnow : now ≤ r.now) :
    Follows r.now (m.dispatch r).2 fun c =>
      passed c ++ if m.Passes r ∧ r.client = c then [r.now] else [] := by
  have hstep : ∀ c, r.client = c →
      (passed c ++ if m.Passes r ∧ r.client = c then [r.now] else []) =
        Ideal.step 60 m.limit (passed c) r.now := by
    rintro c rfl
    unfold Ideal.step Ideal.admits
    by_cases hp : m.Passes r
    · rw [if_pos ⟨hp, rfl⟩, if_pos (decide_eq_true ((h.passes_iff hnow).mp hp))]
    · rw [if_neg fun hc => hp hc.1, List.append_nil,
        if_neg fun hc => hp ((h.passes_iff hnow).mpr (of_decide_eq_true hc))]
  constructor
  · intro c
    obtain ⟨k, hk, htr⟩ := h.tracks c
    by_cases hc : r.client = c
    · refine ⟨r.now, le_rfl, ?_⟩
      rw [hstep c hc, dispatch_hits]
      subst hc
      rw [keyedStep_self]
      exact htr.step (by norm_num) (hk.trans hnow)
    · refine ⟨k, hk.trans hnow, ?_⟩
      rw [dispatch_hits_ne m r (Ne.symm hc), if_neg fun hb => hc hb.2, List.append_nil]
      exact htr
  · intro c
    rw [dispatch_limit]
    by_cases hc : r.client = c
    · rw [hstep c hc]
      exact Ideal.bounded_step (h.bounded c)
    · rw [if_neg fun hb => hc hb.2, List.append_nil]
      exact h.bounded c

/-! ## Runs -/

@[simp] theorem serve_limit (m : RateLimitMiddleware) (rs : List Arrival) :
    (m.serve rs).limit = m.limit := by
  induction rs generalizing m with
  | nil => rfl
  | cons r rs ih => exact (ih (m.dispatch r).2).trans (dispatch_limit m r)

/-- A whole run, up to any time from its last request on. -/
theorem Follows.serve {t : ℚ} (rs : List Arrival) :
    ∀ {m : RateLimitMiddleware} {now : ℚ} {passed : String → List ℚ}, Follows now m passed →
      now ≤ t → (∀ r ∈ rs, now ≤ r.now ∧ r.now ≤ t) → rs.Pairwise (fun a b => a.now ≤ b.now) →
      Follows t (m.serve rs) fun c => passed c ++ passedTimes c m rs := by
  induction rs with
  | nil =>
    intro m now passed h hnow _ _
    constructor
    · intro c
      obtain ⟨k, hk, htr⟩ := h.tracks c
      exact ⟨k, hk.trans hnow, by rw [passedTimes, List.append_nil]; exact htr⟩
    · intro c
      rw [passedTimes, List.append_nil]
      exact h.bounded c
  | cons r rs ih =>
    intro m now passed h hnow hrs hclock
    obtain ⟨hlater, hclock⟩ := List.pairwise_cons.mp hclock
    obtain ⟨hr, hrt⟩ := hrs r List.mem_cons_self
    have hrest := ih (h.dispatch hr) hrt
      (fun r' hr' => ⟨hlater r' hr', (hrs r' (List.mem_cons_of_mem _ hr')).2⟩) hclock
    simp only [List.append_assoc] at hrest
    exact hrest

/-- Middlewares that follow the same passed times answer a run alike. -/
theorem Follows.responses_eq {rs : List Arrival} :
    ∀ {m m' : RateLimitMiddleware} {now : ℚ} {passed : String → List ℚ}, Follows now m passed →
      Follows now m' passed → m.limit = m'.limit → (∀ r ∈ rs, now ≤ r.now) →
      rs.Pairwise (fun a b => a.now ≤ b.now) → m.responses rs = m'.responses rs := by
  induction rs with
  | nil =>
    intro _ _ _ _ _ _ _ _ _
    rfl
  | cons r rs ih =>
    intro m m' now passed h h' hlimit hrs hclock
    obtain ⟨hlater, hclock⟩ := List.pairwise_cons.mp hclock
    have hr := hrs r List.mem_cons_self
    have hpasses : m.Passes r ↔ m'.Passes r := by
      rw [h.passes_iff hr, h'.passes_iff hr, hlimit]
    have hanswer : (m.dispatch r).1 = (m'.dispatch r).1 := by
      obtain ⟨k, hk, htr⟩ := h.tracks r.client
      obtain ⟨k', hk', htr'⟩ := h'.tracks r.client
      rw [dispatch_answer, dispatch_answer, htr.admits_eq (hk.trans hr),
        htr'.admits_eq (hk'.trans hr), hlimit]
    have hnext := h'.dispatch hr
    simp only [← hpasses] at hnext
    have hrest := ih (h.dispatch hr) hnext (by rw [dispatch_limit, dispatch_limit, hlimit]) hlater
      hclock
    rw [responses, responses, hanswer, hrest]

/-- The responses to a client depend on its own requests alone. -/
theorem responsesTo_eq (c : String) (rs : List Arrival) :
    ∀ {m m' : RateLimitMiddleware}, m.limit = m'.limit → m.hits c = m'.hits c →
      m.responsesTo c rs = m'.responses (rs.filter fun r => r.client = c) := by
  induction rs with
  | nil =>
    intro _ _ _ _
    rfl
  | cons r rs ih =>
    intro m m' hlimit hhits
    have hcons : m.responsesTo c (r :: rs) =
        (if r.client = c then [(m.dispatch r).1] else []) ++ (m.dispatch r).2.responsesTo c rs := by
      by_cases hc : r.client = c <;> simp [responsesTo, responses, hc]
    rw [hcons]
    by_cases hc : r.client = c
    · subst hc
      have hanswer : (m.dispatch r).1 = (m'.dispatch r).1 := by
        rw [dispatch_answer, dispatch_answer, hlimit, hhits]
      have hnext : (m.dispatch r).2.hits r.client = (m'.dispatch r).2.hits r.client := by
        rw [dispatch_hits, dispatch_hits, keyedStep_self, keyedStep_self, hlimit, hhits]
      have hlimit' : (m.dispatch r).2.limit = (m'.dispatch r).2.limit := by
        rw [dispatch_limit, dispatch_limit, hlimit]
      rw [if_pos rfl, List.filter_cons_of_pos (by simp), responses, hanswer, ih hlimit' hnext]
      rfl
    · rw [if_neg hc, List.nil_append, List.filter_cons_of_neg (by simpa using hc)]
      exact ih (by rw [dispatch_limit, hlimit])
        ((dispatch_hits_ne m r (Ne.symm hc)).trans hhits)

/-- A fresh middleware follows the requests it passed on. -/
theorem follows_serve (limit : Int) {rs : List Arrival} {t : ℚ}
    (hclock : rs.Pairwise fun a b => a.now ≤ b.now) (ht : ∀ r ∈ rs, r.now ≤ t) :
    Follows t ((init limit).serve rs) fun c => passedTimes c (init limit) rs := by
  cases rs with
  | nil => exact Follows.init limit t
  | cons r rs =>
    have hfirst : ∀ r' ∈ r :: rs, r.now ≤ r'.now ∧ r'.now ≤ t := by
      intro r' hr'
      refine ⟨?_, ht r' hr'⟩
      rcases List.mem_cons.mp hr' with rfl | hr'
      · exact le_rfl
      · exact List.rel_of_pairwise_cons hclock hr'
    have h := (Follows.init limit r.now).serve (r :: rs) (ht r List.mem_cons_self) hfirst hclock
    simp only [List.nil_append] at h
    exact h

/-- A request is passed on exactly when fewer than `limit` requests of its client were passed
    on in the closed window that ends with it; so no closed window holds more than that, a
    refused request makes no difference later, and neither does another client. -/
theorem limiter_exact (limit : Int) (rs : List Arrival)
    (hclock : rs.Pairwise fun a b => a.now ≤ b.now) :
    (∀ before r after, rs = before ++ r :: after →
      (((init limit).serve before).Passes r ↔
        (((passedTimes r.client (init limit) before).countP fun x => r.now - 60 ≤ x) : Int)
          < limit)) ∧
    (∀ c t, ((passedTimes c (init limit) rs).countP fun x => t ≤ x ∧ x ≤ t + 60) ≤ limit.toNat) ∧
    (∀ before r after, rs = before ++ r :: after → ¬ ((init limit).serve before).Passes r →
      ((init limit).serve (before ++ [r])).responses after =
        ((init limit).serve before).responses after) ∧
    ∀ c, (init limit).responsesTo c rs =
      (init limit).responses (rs.filter fun r => r.client = c) := by
  have hbefore : ∀ before r after, rs = before ++ r :: after →
      Follows r.now ((init limit).serve before) fun c => passedTimes c (init limit) before := by
    rintro before r after rfl
    obtain ⟨hfirst, _, hcross⟩ := List.pairwise_append.mp hclock
    exact follows_serve limit hfirst fun r' hr' => hcross r' hr' r List.mem_cons_self
  refine ⟨?_, ?_, ?_, ?_⟩
  · intro before r after hrs
    rw [(hbefore before r after hrs).passes_iff le_rfl, serve_limit]
    rfl
  · intro c t
    obtain ⟨last, hlast⟩ := Finset.exists_le (rs.map Arrival.now).toFinset
    have hfollows := follows_serve limit hclock (t := last) fun r hr =>
      hlast r.now (List.mem_toFinset.mpr (List.mem_map_of_mem hr))
    have hbounded := hfollows.bounded c t
    rw [serve_limit] at hbounded
    exact hbounded
  · intro before r after hrs hrefused
    have h := hbefore before r after hrs
    have hnext := h.dispatch (le_refl r.now)
    simp only [hrefused, false_and, if_false, List.append_nil] at hnext
    obtain ⟨hlater, hafter⟩ : (∀ r' ∈ after, r.now ≤ r'.now) ∧
        after.Pairwise fun a b => a.now ≤ b.now := by
      rw [hrs] at hclock
      exact List.pairwise_cons.mp (List.pairwise_append.mp hclock).2.1
    have hserve : (init limit).serve (before ++ [r]) = (((init limit).serve before).dispatch r).2 :=
      List.foldl_append
    rw [hserve]
    exact hnext.responses_eq h (dispatch_limit _ r) hlater hafter
  · intro c
    exact responsesTo_eq c rs rfl rfl

/-- Two requests a minute: the third of three is refused, the one a minute and a half after
    the first is not. -/
theorem limiter_exact_two :
    ((init 2).responses [⟨some "a", 0⟩, ⟨some "a", 50⟩, ⟨some "a", 60⟩, ⟨some "a", 90⟩]).map
      Option.isNone = [true, true, false, true] ∧
    ((passedTimes "a" (init 2)
      [⟨some "a", 0⟩, ⟨some "a", 50⟩, ⟨some "a", 60⟩, ⟨some "a", 90⟩]).countP
        fun x => (30 : ℚ) ≤ x ∧ x ≤ 30 + 60) ≤ 2 := by
  refine ⟨by decide +kernel, ?_⟩
  exact (limiter_exact 2 [⟨some "a", 0⟩, ⟨some "a", 50⟩, ⟨some "a", 60⟩, ⟨some "a", 90⟩]
    (by decide +kernel)).2.1 "a" 30

end RateLimitMiddleware

end SentinelAI
