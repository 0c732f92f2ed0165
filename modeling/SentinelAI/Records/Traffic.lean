import SentinelAI.Api.Stack
import SentinelAI.Lib.Histories
import Mathlib.Data.List.Perm.Basic

/-
  The traffic is accounted for, however the requests in flight overlap. Every request the
  limiter saw is in flight, recorded or lost to an exception, exactly once; the counters hold
  what was recorded, a limiter's refusal as its 429; and the text a scraper reads holds exactly
  the counts of the moment it was rendered.
-/

namespace SentinelAI

open Lib RateLimitMiddleware

namespace Stack

/-! ## What a history says -/

/-- The requests the limiter saw. -/
def arrivals (history : List Moment) : List (String × Arrival) :=
  history.filterMap fun
    | .arrived method arrival => some (method, arrival)
    | _ => none

/-- The exchanges a limiter makes of the requests it sees. -/
def decided : RateLimitMiddleware → List (String × Arrival) → List Exchange
  | _, [] => []
  | m, (method, arrival) :: rest =>
    ⟨method, (m.dispatch arrival).1⟩ :: decided (m.dispatch arrival).2 rest

/-- The exchanges that are over, recorded or lost. -/
def ended (history : List Moment) : List Exchange :=
  history.filterMap fun
    | .recorded x _ => some x
    | .raised x => some x
    | _ => none

/-- The method and the status of each response recorded. -/
def answers (history : List Moment) : List (String × Nat) :=
  history.filterMap fun
    | .recorded x statusCode => some (x.method, statusCode)
    | _ => none

theorem arrivals_append (h h' : List Moment) : arrivals (h ++ h') = arrivals h ++ arrivals h' :=
  List.filterMap_append

theorem ended_append (h h' : List Moment) : ended (h ++ h') = ended h ++ ended h' :=
  List.filterMap_append

theorem answers_append (h h' : List Moment) : answers (h ++ h') = answers h ++ answers h' :=
  List.filterMap_append

theorem decided_append (m : RateLimitMiddleware) (rs : List (String × Arrival)) (method : String)
    (arrival : Arrival) :
    decided m (rs ++ [(method, arrival)]) =
      decided m rs ++ [⟨method, ((m.serve (rs.map Prod.snd)).dispatch arrival).1⟩] := by
  induction rs generalizing m with
  | nil => rfl
  | cons r rs ih =>
    rw [List.cons_append, decided, decided, ih]
    rfl

theorem serve_append (m : RateLimitMiddleware) (rs : List Arrival) (arrival : Arrival) :
    m.serve (rs ++ [arrival]) = ((m.serve rs).dispatch arrival).2 := by
  unfold serve
  rw [List.foldl_append]
  rfl

theorem dispatch_refusal (m : RateLimitMiddleware) (arrival : Arrival) {r : JSONResponse}
    (h : (m.dispatch arrival).1 = some r) : r.statusCode = 429 := by
  unfold dispatch at h
  dsimp only at h
  split at h
  · cases h
    rfl
  · cases h

/-- The method is a token, and a refusal is 429. -/
structure Accepted (x : Exchange) : Prop where
  tokens : ∀ c ∈ x.method.toList, Metrics.isTokenChar c = true
  refused : ∀ r, x.refusal = some r → r.statusCode = 429

/-- The stack and its history. -/
structure Follows (limit : Int) (history : List Moment) (s : Stack) : Prop where
  limiter : s.limiter = (RateLimitMiddleware.init limit).serve ((arrivals history).map Prod.snd)
  exchanges : (decided (RateLimitMiddleware.init limit) (arrivals history)).Perm
    (ended history ++ s.inFlight)
  counts : Counters.Counts s.metrics.requests (answers history)
  latencyCount : s.metrics.latencyCount = (answers history).length
  statuses : ∀ x statusCode, .recorded x statusCode ∈ history → x.refusal ≠ none → statusCode = 429
  inFlight : ∀ x ∈ s.inFlight, Accepted x
  answerTokens : ∀ a ∈ answers history, ∀ c ∈ a.1.toList, Metrics.isTokenChar c = true

theorem Follows.start (limit : Int) : Follows limit [] (start limit) where
  limiter := rfl
  exchanges := List.Perm.nil
  counts := Counters.Counts.empty
  latencyCount := rfl
  statuses := fun _ _ h => absurd h List.not_mem_nil
  inFlight := fun _ h => absurd h List.not_mem_nil
  answerTokens := fun _ h => absurd h List.not_mem_nil

/-! ## One moment -/

variable {limit : Int} {history : List Moment} {s t : Stack} {moment : Moment}

/-- The statuses recorded, one moment on. -/
theorem Follows.statuses_append (h : Follows limit history s) (moment : Moment)
    (hnew : ∀ x statusCode, moment = .recorded x statusCode → x.refusal ≠ none → statusCode = 429) :
    ∀ x statusCode, .recorded x statusCode ∈ history ++ [moment] → x.refusal ≠ none →
      statusCode = 429 := by
  intro x statusCode hmem hr
  rw [List.mem_append, List.mem_singleton] at hmem
  obtain hold | hlast := hmem
  · exact h.statuses x statusCode hold hr
  · exact hnew x statusCode hlast.symm hr

/-- A moment that brings no request and ends none. -/
theorem Follows.stays (h : Follows limit history s) (harrivals : arrivals [moment] = [])
    (hended : ended [moment] = []) (hanswers : answers [moment] = [])
    (hrecorded : ∀ x statusCode, moment ≠ .recorded x statusCode) :
    Follows limit (history ++ [moment]) s := by
  have hstatuses := h.statuses_append moment
    fun x statusCode hm _ => absurd hm (hrecorded x statusCode)
  refine ⟨?_, ?_, ?_, ?_, hstatuses, h.inFlight, ?_⟩
  · rw [arrivals_append, harrivals, List.append_nil]
    exact h.limiter
  · rw [arrivals_append, harrivals, ended_append, hended, List.append_nil, List.append_nil]
    exact h.exchanges
  · rw [answers_append, hanswers, List.append_nil]
    exact h.counts
  · rw [answers_append, hanswers, List.append_nil]
    exact h.latencyCount
  · rw [answers_append, hanswers, List.append_nil]
    exact h.answerTokens

theorem Follows.arrive (h : Follows limit history s) {method : String} (arrival : Arrival)
    (htoken : ∀ c ∈ method.toList, Metrics.isTokenChar c = true) :
    Follows limit (history ++ [.arrived method arrival]) (s.arrive method arrival) := by
  have hstatuses := h.statuses_append (.arrived method arrival) fun x statusCode hm _ => by cases hm
  have harrivals : arrivals (history ++ [.arrived method arrival]) =
      arrivals history ++ [(method, arrival)] := arrivals_append _ _
  have hended : ended (history ++ [.arrived method arrival]) = ended history :=
    (ended_append _ _).trans (List.append_nil _)
  have hanswers : answers (history ++ [.arrived method arrival]) = answers history :=
    (answers_append _ _).trans (List.append_nil _)
  refine ⟨?_, ?_, ?_, ?_, hstatuses, ?_, ?_⟩
  · rw [harrivals, List.map_append, List.map_singleton, serve_append, ← h.limiter]
    rfl
  · rw [harrivals, hended, decided_append, ← h.limiter]
    have hmore := h.exchanges.append_right [⟨method, (s.limiter.dispatch arrival).1⟩]
    rwa [List.append_assoc] at hmore
  · rw [hanswers]
    exact h.counts
  · rw [hanswers]
    exact h.latencyCount
  · intro x hx
    obtain hold | hnew := List.mem_append.mp hx
    · exact h.inFlight x hold
    · rw [List.mem_singleton.mp hnew]
      exact ⟨htoken, fun r => dispatch_refusal s.limiter arrival⟩
  · rw [hanswers]
    exact h.answerTokens

/-- An exchange in flight ends. -/
theorem Follows.exchanges_end (h : Follows limit history s) {x : Exchange} (hx : x ∈ s.inFlight) :
    (decided (RateLimitMiddleware.init limit) (arrivals history)).Perm
      ((ended history ++ [x]) ++ s.inFlight.erase x) := by
  refine h.exchanges.trans ?_
  rw [List.append_assoc]
  exact (List.perm_cons_erase hx).append_left _

theorem Follows.record (h : Follows limit history s) {x : Exchange} {statusCode : Nat}
    (hx : x ∈ s.inFlight) (hstatus : ∀ r, x.refusal = some r → statusCode = r.statusCode) :
    Follows limit (history ++ [.recorded x statusCode]) (s.record x statusCode) := by
  have hstatuses := h.statuses_append (.recorded x statusCode)
    fun x' statusCode' hm hr => by
      cases hm
      obtain ⟨r, hrefusal⟩ := Option.ne_none_iff_exists'.mp hr
      exact (hstatus r hrefusal).trans ((h.inFlight x hx).refused r hrefusal)
  have harrivals : arrivals (history ++ [.recorded x statusCode]) = arrivals history :=
    (arrivals_append _ _).trans (List.append_nil _)
  have hended : ended (history ++ [.recorded x statusCode]) = ended history ++ [x] :=
    ended_append _ _
  have hanswers : answers (history ++ [.recorded x statusCode]) =
      answers history ++ [(x.method, statusCode)] := answers_append _ _
  refine ⟨?_, ?_, ?_, ?_, hstatuses, ?_, ?_⟩
  · rw [harrivals]
    exact h.limiter
  · rw [harrivals, hended]
    exact h.exchanges_end hx
  · rw [hanswers]
    exact h.counts.bump _
  · rw [hanswers, List.length_append, ← h.latencyCount]
    rfl
  · intro x' hx'
    exact h.inFlight x' (List.mem_of_mem_erase hx')
  · intro a ha
    rw [hanswers, List.mem_append, List.mem_singleton] at ha
    obtain hold | rfl := ha
    · exact h.answerTokens a hold
    · exact (h.inFlight x hx).tokens

theorem Follows.raise (h : Follows limit history s) {x : Exchange} (hx : x ∈ s.inFlight) :
    Follows limit (history ++ [.raised x]) { s with inFlight := s.inFlight.erase x } := by
  have hstatuses := h.statuses_append (.raised x) fun x statusCode hm _ => by cases hm
  have harrivals : arrivals (history ++ [.raised x]) = arrivals history :=
    (arrivals_append _ _).trans (List.append_nil _)
  have hended : ended (history ++ [.raised x]) = ended history ++ [x] := ended_append _ _
  have hanswers : answers (history ++ [.raised x]) = answers history :=
    (answers_append _ _).trans (List.append_nil _)
  refine ⟨?_, ?_, ?_, ?_, hstatuses, ?_, ?_⟩
  · rw [harrivals]
    exact h.limiter
  · rw [harrivals, hended]
    exact h.exchanges_end hx
  · rw [hanswers]
    exact h.counts
  · rw [hanswers]
    exact h.latencyCount
  · intro x' hx'
    exact h.inFlight x' (List.mem_of_mem_erase hx')
  · rw [hanswers]
    exact h.answerTokens

theorem Follows.step (hstep : Step s moment t) (h : Follows limit history s) :
    Follows limit (history ++ [moment]) t := by
  cases hstep with
  | preflight => exact h.stays rfl rfl rfl fun _ _ hm => by cases hm
  | arrived arrival htoken => exact h.arrive arrival htoken
  | recorded hx hstatus => exact h.record hx hstatus
  | raised hx => exact h.raise hx
  | scraped hx hpassed havg => exact h.stays rfl rfl rfl fun _ _ hm => by cases hm

/-! ## The text -/

/-- The text holds each method and status answered once, with their number. -/
structure Reads (text : String) (answered : List (String × Nat)) : Prop where
  once : ((Metrics.readCounters text).map Prod.fst).Nodup
  counts : ∀ key n, (key, n) ∈ Metrics.readCounters text ↔ key ∈ answered ∧ n = answered.count key

theorem Follows.reads (h : Follows limit history s) {avg : String} (havg : '\n' ∉ avg.toList) :
    Reads (s.metrics.render avg) (answers history) := by
  have hitems : ∀ item ∈ s.metrics.requests.items, ∀ c ∈ item.1.1.toList,
      Metrics.isTokenChar c = true := by
    intro item hitem
    exact h.answerTokens item.1 (h.counts.mem_items.mp hitem).1
  have hperm := List.perm_insertionSort Metrics.itemOrder s.metrics.requests.items
  have hread := Metrics.readCounters_render hitems havg
  constructor
  · rw [hread, (hperm.map Prod.fst).nodup_iff, Counters.keys_items]
    exact s.metrics.requests.keys_nodup
  · intro key n
    rw [hread, hperm.mem_iff]
    exact h.counts.mem_items

/-- In every run of the stack, in whatever order the requests in flight end: the exchanges over
    and those in flight are the ones the limiter made of the requests it saw, each once; what
    the limiter refused is recorded with status 429; every counter and the number of
    latencies count the responses recorded; and every text scraped reads back as the counts of
    the responses recorded before it. -/
theorem traffic_accounted {limit : Int} {history : List Moment} {s : Stack}
    (hrun : Steps Step (start limit) history s) :
    (decided (RateLimitMiddleware.init limit) (arrivals history)).Perm
        (ended history ++ s.inFlight) ∧
      (∀ x statusCode, .recorded x statusCode ∈ history → x.refusal ≠ none → statusCode = 429) ∧
      (∀ key, s.metrics.requests.count key = (answers history).count key) ∧
      s.metrics.latencyCount = (answers history).length ∧
      ∀ before text after, history = before ++ .scraped text :: after →
        Reads text (answers before) := by
  have hfollows := hrun.along (fun _ _ _ _ => Follows.step) (Follows.start limit)
  refine ⟨hfollows.exchanges, hfollows.statuses, hfollows.counts.count_eq, hfollows.latencyCount, ?_⟩
  rintro before text after rfl
  obtain ⟨t, t', hbefore, hscrape⟩ :=
    hrun.at_step (fun _ _ _ _ => Follows.step) (Follows.start limit)
  cases hscrape with
  | scraped hx hpassed havg => exact hbefore.reads havg

/-- A limit of one request a minute: the second request is refused and answered while the first,
    of a scraper, is still in flight. -/
def overtaken : List Moment :=
  [.arrived "GET" ⟨some "a", 0⟩, .arrived "POST" ⟨some "a", 1⟩,
    .recorded ⟨"POST", some ⟨429, "Rate limit exceeded"⟩⟩ 429, .preflight,
    .scraped ((Metrics.init.recordRequest "POST" 429).render "1.250"), .recorded ⟨"GET", none⟩ 200]

theorem traffic_accounted_overtaken :
    ∃ s, Steps Step (start 1) overtaken s ∧
      (decided (RateLimitMiddleware.init 1) (arrivals overtaken)).Perm
        (ended overtaken ++ s.inFlight) ∧
      s.metrics.requests.count ("POST", 429) = 1 ∧ s.metrics.latencyCount = 2 ∧
      (("POST", 429), 1) ∈
        Metrics.readCounters ((Metrics.init.recordRequest "POST" 429).render "1.250") := by
  have htoken : ∀ method ∈ ["GET", "POST"], method.toList.all Metrics.isTokenChar = true := by
    decide
  have hrun : Steps Step (start 1) overtaken _ :=
    .cons (.arrived _ _ (List.all_eq_true.mp (htoken "GET" (by decide)))) <|
    .cons (.arrived _ _ (List.all_eq_true.mp (htoken "POST" (by decide)))) <|
    .cons (.recorded (by decide +kernel) (by decide +kernel)) <| .cons (.preflight _) <|
    .cons (.scraped (x := ⟨"GET", none⟩) (by decide +kernel) rfl (by decide)) <|
    .cons (.recorded (by decide +kernel) (fun r hr => by cases hr)) <| .nil _
  obtain ⟨hperm, -, hcounts, hlatency, hreads⟩ := traffic_accounted hrun
  have hread := hreads (overtaken.take 4) _ (overtaken.drop 5) rfl
  exact ⟨_, hrun, hperm, hcounts _, hlatency, (hread.counts _ _).mpr ⟨by decide, by decide⟩⟩

end Stack

end SentinelAI
