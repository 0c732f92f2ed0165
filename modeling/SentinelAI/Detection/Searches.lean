import SentinelAI.Security.RequestFootprints

/-
  The searches a request sends, and what the detection run makes of their answers.

  `settled` is the outcome of one retried search and how many attempts it took, `answers` the
  outcomes of the rules one after another: both are functions of what Splunk answers to the
  `k`-th search. A detection run that returns found exactly the rules whose answer hits, and
  asked Splunk about every enabled rule and about no other.
-/

namespace SentinelAI

open Lib

/-! ## The calls of a request -/

section

variable (rt : Runtime) (w : World) (e : Event)

/-- The searches a request sends. -/
def searchCalls : List SearchCall := (stateOf (respond rt w e)).searches

/-- The completions a request asks for. -/
def modelCalls : List AIModel := (stateOf (respond rt w e)).completions

/-- The final commit sends nothing. -/
theorem stateOf_respond {τ : Type} (f : Session → τ)
    (hf : ∀ s db, f { s with committed := db } = f s) :
    f (stateOf (respond rt w e)) = f (stateOf (handled rt w e)) := by
  unfold respond handled
  rw [EStateM.run_bind]
  cases (handle rt e.env e.request).run (.start w.db w.captured w.issued) with
  | ok body t => exact hf t t.db
  | error ex t => rfl

theorem searchCalls_eq : searchCalls rt w e = (stateOf (handled rt w e)).searches :=
  stateOf_respond rt w e Session.searches fun _ _ => rfl

theorem modelCalls_eq : modelCalls rt w e = (stateOf (handled rt w e)).completions :=
  stateOf_respond rt w e Session.completions fun _ _ => rfl

end

section

variable {rt : Runtime} {w : World} {e : Event}

theorem searchCalls_eq_nil (h : .searches ∉ writes e.request) : searchCalls rt w e = [] := by
  rw [searchCalls_eq]
  exact handled_kept (r := .searches) h

theorem modelCalls_eq_nil (h : .completions ∉ writes e.request) : modelCalls rt w e = [] := by
  rw [modelCalls_eq]
  exact handled_kept (r := .completions) h

end

/-! ## Which searches a computation adds -/

/-- The searches added between two sessions satisfy `P`. -/
def Sends (P : SearchCall → Prop) (s t : Session) : Prop :=
  ∃ calls, t.searches = s.searches ++ calls ∧ ∀ c ∈ calls, P c

variable {P : SearchCall → Prop} {α : Type}

instance (P : SearchCall → Prop) : IsPreorder Session (Sends P) where
  refl s := ⟨[], by simp, by simp⟩
  trans := by
    rintro s t u ⟨cs, ht, hcs⟩ ⟨ds, hu, hds⟩
    refine ⟨cs ++ ds, by rw [hu, ht, List.append_assoc], fun c hc => ?_⟩
    obtain hc | hc := List.mem_append.mp hc
    · exact hcs c hc
    · exact hds c hc

theorem Sends.mono {P' : SearchCall → Prop} {s t : Session} (h : Sends P s t)
    (hP : ∀ c, P c → P' c) : Sends P' s t := by
  obtain ⟨calls, ht, hc⟩ := h
  exact ⟨calls, ht, fun c hmem => hP c (hc c hmem)⟩

/-- A computation that leaves the searches alone sends none. -/
theorem sends_of_touches {F : List Resource} {m : ApiM α} (h : Touches F m)
    (hF : .searches ∉ F) : Moves (Sends P) m := by
  intro s
  have hsame : (stateOf (m.run s)).searches = s.searches := h.same (p := Resource.searches) hF s
  exact ⟨[], by rw [hsame, List.append_nil], by simp⟩

theorem SplunkClient.search_sends (env : Env) (client : SplunkClient) (spl a b : String)
    (h : P ⟨client, spl⟩) : Moves (Sends P) (client.search env spl a b) := by
  intro s
  have hs : (stateOf ((client.search env spl a b).run s)).searches =
      s.searches ++ [⟨client, spl⟩] := by
    show (stateOf ((ofExcept _).run _)).searches = _
    rw [ofExcept_run]
    cases env.search client s.searches.length spl a b <;> rfl
  exact ⟨[⟨client, spl⟩], hs, by simpa using h⟩

theorem attempt_moves {R : Session → Session → Prop} [IsPreorder Session R] {m : ApiM α}
    (h : Moves R m) : Moves R (attempt m) := (h.map _).tryCatch fun _ => Moves.pure _

theorem retryLoop_moves {R : Session → Session → Prop} [IsPreorder Session R] {func : ApiM α}
    (env : Env) (d : ℚ) (p : Exc → Bool) (hfunc : Moves R func)
    (hrest : ∀ m : ApiM Unit, Touches ([] : List Resource) m → Moves R m) (k left : Nat) :
    Moves R (retryLoop env func d p k left) := by
  induction left generalizing k with
  | zero =>
    unfold retryLoop
    refine (attempt_moves hfunc).bind fun r => ?_
    cases r with
    | ok a => exact (hrest _ breakerSuccess_touches).bind fun _ => Moves.pure a
    | error e =>
      refine Moves.ite (Moves.throw e) ?_
      exact (hrest _ (breakerFailure_touches env)).bind fun _ => Moves.throw e
  | succ left ih =>
    unfold retryLoop
    refine (attempt_moves hfunc).bind fun r => ?_
    cases r with
    | ok a => exact (hrest _ breakerSuccess_touches).bind fun _ => Moves.pure a
    | error e =>
      refine Moves.ite (Moves.throw e) ((hrest _ (breakerFailure_touches env)).bind fun _ => ?_)
      exact (hrest _ (sleep_touches _)).bind fun _ => ih (k + 1)

/-! ## The rules a run searches -/

/-- The default rules but for those in the list. -/
def enabledRules (disabled : List String) : List DetectionRule :=
  defaultRules.filter fun r => !disabled.contains r.ruleId

theorem mem_enabledRules {disabled : List String} {r : DetectionRule} :
    r ∈ enabledRules disabled ↔ r ∈ defaultRules ∧ r.ruleId ∉ disabled := by
  simp [enabledRules]

/-- Different default rules search for different things. -/
theorem eq_of_spl_eq : ∀ r ∈ defaultRules, ∀ r' ∈ defaultRules, r.spl = r'.spl → r = r' := by
  decide +kernel

namespace DetectionAgent

variable (env : Env) (client : SplunkClient) (disabled : List String)

theorem runRule_sends (rule : DetectionRule)
    (h : rule.ruleId ∉ disabled → P ⟨client, rule.spl⟩) :
    Moves (Sends P) (runRule env client disabled rule) := by
  have hrest (m : ApiM Unit) (hm : Touches ([] : List Resource) m) : Moves (Sends P) m :=
    sends_of_touches hm (by simp)
  unfold runRule
  by_cases hd : disabled.contains rule.ruleId = true
  · rw [if_pos hd]
    exact Moves.pure none
  · rw [if_neg hd]
    have hsearch : Moves (Sends P) (client.search env rule.spl "-24h" "now") :=
      SplunkClient.search_sends env client rule.spl _ _ (h (by simpa using hd))
    have hretry : Moves (Sends P)
        (withRetry env (client.search env rule.spl "-24h" "now") isQueryError) := by
      refine Moves.bind (sends_of_touches (breakerIsOpen_touches env) (by simp : _ ∉ [])) fun b => ?_
      exact Moves.ite (Moves.throw _) (retryLoop_moves env _ _ hsearch hrest 0 2)
    refine hretry.bind fun result => sends_of_touches (F := []) ?_ (by simp)
    grind [detectionOf]

/-- A detection run asks one client, and only about the rules that are enabled. -/
theorem run_sends : Moves (Sends fun c => c.client = client ∧
    ∃ rule ∈ enabledRules disabled, c.spl = rule.spl) (run env client disabled) := by
  refine (Moves.mapM_mem defaultRules fun rule hr => ?_).bind fun ds => Moves.pure _
  refine runRule_sends env client disabled rule fun hd => ⟨rfl, rule, ?_, rfl⟩
  exact mem_enabledRules.mpr ⟨hr, hd⟩

end DetectionAgent

/-! ## What a retried search settles on -/

/-- What a search retried up to `left` times ends with, and the attempts it takes, the first
    of them being the `k`-th search of the request. A query error is final. -/
def settled (env : Env) (client : SplunkClient) (spl : String) (k : Nat) :
    Nat → Except Exc SearchResult × Nat
  | 0 => (env.search client k spl "-24h" "now", 1)
  | left + 1 =>
    match env.search client k spl "-24h" "now" with
    | .ok r => (.ok r, 1)
    | .error e =>
      if DetectionAgent.isQueryError e then (.error e, 1)
      else ((settled env client spl (k + 1) left).1, (settled env client spl (k + 1) left).2 + 1)

theorem settled_attempts (env : Env) (client : SplunkClient) (spl : String) (k left : Nat) :
    1 ≤ (settled env client spl k left).2 ∧ (settled env client spl k left).2 ≤ left + 1 := by
  induction left generalizing k with
  | zero => exact ⟨le_refl 1, le_refl 1⟩
  | succ left ih =>
    have h := ih (k + 1)
    rw [settled]
    split
    · constructor <;> simp
    · split
      · constructor <;> simp
      · dsimp only
        omega

/-- `t` is `s` after `n` searches for one thing, its breaker and its clock apart. -/
structure Asked (client : SplunkClient) (spl : String) (n : Nat) (s t : Session) : Prop where
  searches : t.searches = s.searches ++ List.replicate n ⟨client, spl⟩
  uuids : t.uuids = s.uuids

/-- One search more before. -/
theorem Asked.after {client : SplunkClient} {spl : String} {n : Nat} {s t u : Session}
    (h : Asked client spl n t u) (hsearches : t.searches = s.searches ++ [⟨client, spl⟩])
    (huuids : t.uuids = s.uuids) : Asked client spl (n + 1) s u := by
  refine ⟨?_, h.uuids.trans huuids⟩
  rw [h.searches, hsearches, List.append_assoc, List.replicate_succ, List.singleton_append]

theorem breakerFailure_run (env : Env) (s : Session) :
    ∃ t, (breakerFailure env).run s = .ok () t ∧ t.searches = s.searches ∧ t.uuids = s.uuids := by
  unfold breakerFailure
  rw [run_bind_ok (show (get : ApiM Session).run s = .ok s s from rfl)]
  dsimp only
  split
  · exact ⟨_, rfl, rfl, rfl⟩
  · exact ⟨_, rfl, rfl, rfl⟩

/-- The loop ends with what the search settles on; if that is an answer, the breaker is
    closed. -/
theorem retryLoop_run (env : Env) (client : SplunkClient) (spl : String) (d : ℚ) (j left : Nat)
    (s : Session) :
    (∃ r t, (settled env client spl s.searches.length left).1 = .ok r ∧
      (retryLoop env (client.search env spl "-24h" "now") d DetectionAgent.isQueryError j left).run s
        = .ok r t ∧ Asked client spl (settled env client spl s.searches.length left).2 s t ∧
      t.breaker.openedAt = none) ∨
    (∃ ex t, (settled env client spl s.searches.length left).1 = .error ex ∧
      (retryLoop env (client.search env spl "-24h" "now") d DetectionAgent.isQueryError j left).run s
        = .error ex t ∧ Asked client spl (settled env client spl s.searches.length left).2 s t) := by
  induction left generalizing j s with
  | zero =>
    have hattempt := attempt_search_run env client spl "-24h" "now" s
    rw [settled]
    unfold retryLoop
    rw [run_bind_ok hattempt]
    cases env.search client s.searches.length spl "-24h" "now" with
    | ok r => exact Or.inl ⟨r, _, rfl, rfl, ⟨rfl, rfl⟩, rfl⟩
    | error e =>
      right
      dsimp only
      by_cases hq : DetectionAgent.isQueryError e = true
      · rw [if_pos hq]
        exact ⟨e, _, rfl, rfl, ⟨rfl, rfl⟩⟩
      · rw [if_neg hq]
        obtain ⟨t, ht, hsearches, huuids⟩ := breakerFailure_run env
          { s with searches := s.searches ++ [⟨client, spl⟩] }
        refine ⟨e, t, rfl, ?_, ⟨hsearches, huuids⟩⟩
        exact run_bind_ok ht
  | succ left ih =>
    have hattempt := attempt_search_run env client spl "-24h" "now" s
    rw [settled]
    unfold retryLoop
    rw [run_bind_ok hattempt]
    cases env.search client s.searches.length spl "-24h" "now" with
    | ok r => exact Or.inl ⟨r, _, rfl, rfl, ⟨rfl, rfl⟩, rfl⟩
    | error e =>
      dsimp only
      by_cases hq : DetectionAgent.isQueryError e = true
      · rw [if_pos hq, if_pos hq]
        exact Or.inr ⟨e, _, rfl, rfl, ⟨rfl, rfl⟩⟩
      · rw [if_neg hq, if_neg hq]
        obtain ⟨t, ht, hsearches, huuids⟩ := breakerFailure_run env
          { s with searches := s.searches ++ [⟨client, spl⟩] }
        have hlen : t.searches.length = s.searches.length + 1 := by simp [hsearches]
        let t' : Session := { t with sleeps := t.sleeps ++ [d * (2 ^ j : Nat)] }
        have hnext := ih (j + 1) t'
        rw [show t'.searches.length = s.searches.length + 1 from hlen] at hnext
        obtain ⟨r, u, hset, hrun, hasked, hclosed⟩ | ⟨ex, u, hset, hrun, hasked⟩ := hnext
        · exact Or.inl ⟨r, u, hset, (run_bind_ok ht).trans hrun, hasked.after hsearches huuids, hclosed⟩
        · exact Or.inr ⟨ex, u, hset, (run_bind_ok ht).trans hrun, hasked.after hsearches huuids⟩

/-- With its breaker closed, `with_retry` begins its attempts. -/
theorem withRetry_run {β : Type} (env : Env) (func : ApiM β) (p : Exc → Bool) {s : Session}
    (hb : s.breaker.openedAt = none) :
    (withRetry env func p).run s = (retryLoop env func (1 / 20) p 0 2).run s := by
  have hopen : (breakerIsOpen env).run s = .ok false s := by
    unfold breakerIsOpen
    rw [run_bind_ok (show (get : ApiM Session).run s = .ok s s from rfl)]
    dsimp only
    rw [hb]
    rfl
  exact run_bind_ok hopen

/-! ## What a detection run finds -/

/-- The answer a rule's search settled on. -/
structure RuleAnswer where
  rule : DetectionRule
  result : SearchResult
  attempts : Nat

/-- Enough events for a detection. -/
def RuleAnswer.hit (a : RuleAnswer) : Bool := !decide (a.result.eventCount < a.rule.minEvents)

/-- The searches it took. -/
def RuleAnswer.calls (client : SplunkClient) (a : RuleAnswer) : List SearchCall :=
  List.replicate a.attempts ⟨client, a.rule.spl⟩

/-- The answers to the rules' searches one after another, the first being the `k`-th search
    of the request; none if one of them settles on an error. -/
def answers (env : Env) (client : SplunkClient) : Nat → List DetectionRule → Option (List RuleAnswer)
  | _, [] => some []
  | k, rule :: rules =>
    match (settled env client rule.spl k 2).1 with
    | .ok result =>
      let n := (settled env client rule.spl k 2).2
      (answers env client (k + n) rules).map fun as => ⟨rule, result, n⟩ :: as
    | .error _ => none

/-- How many of them are detections. -/
def hits (as : List RuleAnswer) : Nat := as.countP RuleAnswer.hit

theorem answers_rules {env : Env} {client : SplunkClient} {rules : List DetectionRule} {k : Nat}
    {as : List RuleAnswer} (h : answers env client k rules = some as) :
    as.map RuleAnswer.rule = rules ∧ ∀ a ∈ as, 1 ≤ a.attempts ∧ a.attempts ≤ 3 := by
  induction rules generalizing k as with
  | nil =>
    cases h
    exact ⟨rfl, by simp⟩
  | cons rule rules ih =>
    rw [answers] at h
    split at h
    · obtain ⟨as', has', rfl⟩ := Option.map_eq_some_iff.mp h
      obtain ⟨hrules, hattempts⟩ := ih has'
      refine ⟨by rw [List.map_cons, hrules], List.forall_mem_cons.mpr ⟨?_, hattempts⟩⟩
      exact settled_attempts env client rule.spl k 2
    · cases h

/-- What a detection run that returned left behind. -/
structure Found (client : SplunkClient) (as : List RuleAnswer) (found : Nat) (s t : Session) :
    Prop where
  found : found = hits as
  searches : t.searches = s.searches ++ as.flatMap (RuleAnswer.calls client)
  uuids : t.uuids = s.uuids + hits as
  closed : t.breaker.openedAt = none

/-- A rule's answer, then those of the other rules. -/
theorem Found.cons {client : SplunkClient} {a : RuleAnswer} {as : List RuleAnswer}
    {o : Option Detection} {os : List (Option Detection)} {s u t : Session}
    (h : Found client [a] o.toList.length s u) (h' : Found client as (os.filterMap id).length u t) :
    Found client (a :: as) ((o :: os).filterMap id).length s t := by
  have hhits : hits (a :: as) = hits [a] + hits as := by
    rw [← List.singleton_append, hits, List.countP_append]
    rfl
  constructor
  · have hcons : ((o :: os).filterMap id).length = o.toList.length + (os.filterMap id).length := by
      cases o <;> simp [Nat.add_comm]
    rw [hcons, h.found, h'.found, hhits]
  · rw [h'.searches, h.searches, List.append_assoc]
    simp
  · rw [h'.uuids, h.uuids, hhits, Nat.add_assoc]
  · exact h'.closed

namespace DetectionAgent

variable (env : Env) (client : SplunkClient) (disabled : List String)

theorem runRule_enabled (rule : DetectionRule) (hd : rule.ruleId ∉ disabled) :
    runRule env client disabled rule =
      withRetry env (client.search env rule.spl "-24h" "now") isQueryError >>= fun result =>
        if result.eventCount < rule.minEvents then pure none
        else some <$> detectionOf env rule result := by
  unfold runRule
  rw [if_neg (by simpa using hd)]
  rfl

/-- One enabled rule, the breaker being closed. -/
theorem runRule_run (rule : DetectionRule) {s : Session} (hb : s.breaker.openedAt = none)
    (hd : rule.ruleId ∉ disabled) :
    (∃ result o t, (settled env client rule.spl s.searches.length 2).1 = .ok result ∧
      (runRule env client disabled rule).run s = .ok o t ∧
      Found client [⟨rule, result, (settled env client rule.spl s.searches.length 2).2⟩]
        o.toList.length s t) ∨
    (∃ ex t, (settled env client rule.spl s.searches.length 2).1 = .error ex ∧
      (runRule env client disabled rule).run s = .error ex t ∧
      Asked client rule.spl (settled env client rule.spl s.searches.length 2).2 s t) := by
  have hretry := withRetry_run env (client.search env rule.spl "-24h" "now") isQueryError hb
  rw [runRule_enabled env client disabled rule hd]
  obtain ⟨result, t, hset, hrun, hasked, hclosed⟩ | ⟨ex, t, hset, hrun, hasked⟩ :=
    retryLoop_run env client rule.spl (1 / 20) 0 2 s
  · left
    rw [run_bind_ok (hretry.trans hrun)]
    by_cases hmin : result.eventCount < rule.minEvents
    · rw [if_pos hmin]
      refine ⟨result, none, t, hset, rfl, ⟨by simp [hits, RuleAnswer.hit, hmin], ?_, ?_, hclosed⟩⟩
      · simp [RuleAnswer.calls, hasked.searches]
      · simp [hits, RuleAnswer.hit, hmin, hasked.uuids]
    · rw [if_neg hmin]
      refine ⟨result, _, _, hset, rfl, ⟨by simp [hits, RuleAnswer.hit, hmin], ?_, ?_, hclosed⟩⟩
      · simpa [RuleAnswer.calls] using hasked.searches
      · simpa [hits, RuleAnswer.hit, hmin] using hasked.uuids
  · exact Or.inr ⟨ex, t, hset, run_bind_error (hretry.trans hrun), hasked⟩

/-- A disabled rule. -/
theorem runRule_skip (rule : DetectionRule) (hd : rule.ruleId ∈ disabled) (s : Session) :
    (runRule env client disabled rule).run s = .ok none s := by
  unfold runRule
  rw [if_pos (by simpa using hd)]
  rfl

theorem mapM_runRule_run (rules : List DetectionRule) {s : Session}
    (hb : s.breaker.openedAt = none) :
    (∃ as os t, answers env client s.searches.length
        (rules.filter fun r => !disabled.contains r.ruleId) = some as ∧
      (rules.mapM (runRule env client disabled)).run s = .ok os t ∧
      Found client as (os.filterMap id).length s t) ∨
    (answers env client s.searches.length (rules.filter fun r => !disabled.contains r.ruleId) = none ∧
      ∃ ex t, (rules.mapM (runRule env client disabled)).run s = .error ex t) := by
  induction rules generalizing s with
  | nil => exact Or.inl ⟨[], [], s, rfl, rfl, ⟨rfl, by simp, rfl, hb⟩⟩
  | cons rule rules ih =>
    by_cases hd : rule.ruleId ∈ disabled
    · have hskip := runRule_skip env client disabled rule hd s
      rw [List.filter_cons_of_neg (by simpa using hd)]
      obtain ⟨as, os, t, has, hrun, hfound⟩ | ⟨hnone, ex, t, hrun⟩ := ih hb
      · exact Or.inl ⟨as, none :: os, t, has,
          mapM_cons_eq_ok.mpr ⟨none, s, os, hskip, hrun, rfl⟩, hfound⟩
      · refine Or.inr ⟨hnone, ex, t, ?_⟩
        rw [List.mapM_cons, run_bind_ok hskip]
        exact run_bind_error hrun
    · rw [List.filter_cons_of_pos (by simpa using hd)]
      obtain ⟨result, o, u, hset, hrule, hu⟩ | ⟨ex, t, hset, hrule, _⟩ :=
        runRule_run env client disabled rule hb hd
      · have hlen : u.searches.length =
            s.searches.length + (settled env client rule.spl s.searches.length 2).2 := by
          simp [hu.searches, RuleAnswer.calls]
        rw [answers, hset]
        dsimp only
        rw [← hlen]
        obtain ⟨as, os, t, has, hrun, hfound⟩ | ⟨hnone, ex, t, hrun⟩ := ih hu.closed
        · left
          rw [has]
          refine ⟨_, o :: os, t, rfl, mapM_cons_eq_ok.mpr ⟨o, u, os, hrule, hrun, rfl⟩, ?_⟩
          exact hu.cons hfound
        · right
          rw [hnone]
          refine ⟨rfl, ex, t, ?_⟩
          rw [List.mapM_cons, run_bind_ok hrule]
          exact run_bind_error hrun
      · refine Or.inr ⟨?_, ex, t, ?_⟩
        · rw [answers, hset]
        · rw [List.mapM_cons]
          exact run_bind_error hrule

/-- A detection run of a request returns exactly when every enabled rule's search settles on
    an answer, and finds one detection for each answer that hits. -/
theorem run_run {s : Session} (hb : s.breaker.openedAt = none) :
    (∃ as ds t, answers env client s.searches.length (enabledRules disabled) = some as ∧
      (run env client disabled).run s = .ok ds t ∧ Found client as ds.length s t) ∨
    (answers env client s.searches.length (enabledRules disabled) = none ∧
      ∃ ex t, (run env client disabled).run s = .error ex t) := by
  obtain ⟨as, os, t, has, hrun, hfound⟩ | ⟨hnone, ex, t, hrun⟩ :=
    mapM_runRule_run env client disabled defaultRules hb
  · exact Or.inl ⟨as, os.filterMap id, t, has, run_bind_ok hrun, hfound⟩
  · exact Or.inr ⟨hnone, ex, t, run_bind_error hrun⟩

end DetectionAgent

end SentinelAI
