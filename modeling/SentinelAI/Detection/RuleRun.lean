import SentinelAI.Detection.IncidentRollup
import SentinelAI.Detection.Searches

/-
  A detection run over any tuple of rules, against a Splunk client that answers each enabled
  rule's search after at most two failures that may be retried.

  The breaker is shared by the rules. An answer closes it and clears its count, so each rule
  finds it closed, whatever failed before (`runRule_answered`), and the run goes through all
  of them: it sends what the answers took and reports what they hit (`runRules_answered`).
-/

namespace SentinelAI

open Lib

/-! ## What a detection says of its events -/

/-- `e.fields[key]`, where the event has that field. -/
def SplunkEvent.field (ev : SplunkEvent) (key : String) : Option String :=
  (ev.fields.find? fun f => f.1 == key).map Prod.snd

theorem mem_fieldValues {events : List SplunkEvent} {keys : List String} {x : String} :
    x ∈ fieldValues events keys ↔ ∃ ev ∈ events, ∃ key ∈ keys, ev.field key = some x := by
  unfold fieldValues SplunkEvent.field
  simp only [List.mem_flatMap, List.mem_filterMap]

/-- The strictly increasing list of exactly the values under one of the keys. -/
structure IncreasingValues (events : List SplunkEvent) (keys xs : List String) : Prop where
  increasing : xs.Pairwise (· < ·)
  mem_iff : ∀ x, x ∈ xs ↔ ∃ ev ∈ events, ∃ key ∈ keys, ev.field key = some x

theorem increasingValues_sortedSet (events : List SplunkEvent) (keys : List String) :
    IncreasingValues events keys (sortedSet (fieldValues events keys)) where
  increasing := sortedSet_sorted _
  mem_iff := fun x => by rw [mem_sortedSet, mem_fieldValues]

/-- What the detection of a rule says of the answer to its search. -/
structure ReportsAnswer (a : RuleAnswer) (d : Detection) : Prop where
  title : d.title = a.rule.title
  description : d.description = a.rule.description
  severity : d.severity = a.rule.baseSeverity
  splQuery : d.splQuery = a.rule.spl
  mitreTactics : d.mitreTactics = a.rule.mitreTactics
  eventCount : d.eventCount = a.result.eventCount
  entity : d.entity = (a.result.events.head?.map SplunkEvent.host).getD "unknown"
  srcIps : IncreasingValues a.result.events ["src_ip", "dest_ip"] d.srcIps
  users : IncreasingValues a.result.events ["user"] d.users

theorem DetectionAgent.detectionOf_run (env : Env) (a : RuleAnswer) (s : Session) :
    ∃ d t, (detectionOf env a.rule a.result).run s = .ok d t ∧ ReportsAnswer a d ∧
      t.searches = s.searches ∧ t.breaker = s.breaker := by
  refine ⟨_, _, rfl, ?_, rfl, rfl⟩
  constructor
  case srcIps => exact increasingValues_sortedSet a.result.events ["src_ip", "dest_ip"]
  case users => exact increasingValues_sortedSet a.result.events ["user"]
  all_goals rfl

/-! ## Searches that are answered -/

/-- The rule's search, the `k`-th of the request, is answered after at most two failures, none
    of them a query error. -/
structure AnsweredAfter (env : Env) (client : SplunkClient) (k : Nat) (a : RuleAnswer) : Prop where
  attempts : 1 ≤ a.attempts ∧ a.attempts ≤ 3
  failed : ∀ i, i + 1 < a.attempts → ∃ ex,
    env.search client (k + i) a.rule.spl "-24h" "now" = .error ex ∧
      DetectionAgent.isQueryError ex = false
  answered : env.search client (k + (a.attempts - 1)) a.rule.spl "-24h" "now" = .ok a.result

/-- The rules' searches are so answered one after another, from the `k`-th of the request on. -/
def AnsweredFrom (env : Env) (client : SplunkClient) : Nat → List RuleAnswer → Prop
  | _, [] => True
  | k, a :: as => AnsweredAfter env client k a ∧ AnsweredFrom env client (k + a.attempts) as

section

variable {env : Env} {client : SplunkClient}

theorem settled_eq {spl : String} {r : SearchResult} (n left k : Nat) (hn : n ≤ left)
    (hfailed : ∀ i < n, ∃ ex, env.search client (k + i) spl "-24h" "now" = .error ex ∧
      DetectionAgent.isQueryError ex = false)
    (hok : env.search client (k + n) spl "-24h" "now" = .ok r) :
    settled env client spl k left = (.ok r, n + 1) := by
  induction n generalizing k left with
  | zero =>
    rw [Nat.add_zero] at hok
    cases left <;> rw [settled, hok]
  | succ n ih =>
    obtain ⟨left, rfl⟩ : ∃ left', left = left' + 1 := ⟨left - 1, by omega⟩
    obtain ⟨ex, hex, hretry⟩ := hfailed 0 (by omega)
    rw [Nat.add_zero] at hex
    have hrest := ih left (k + 1) (by omega)
      (fun i hi => by rw [Nat.add_right_comm k 1 i]; exact hfailed (i + 1) (by omega))
      (by rw [Nat.add_right_comm k 1 n]; exact hok)
    rw [settled, hex]
    dsimp only
    rw [if_neg (by simp [hretry]), hrest]

theorem AnsweredAfter.settled {k : Nat} {a : RuleAnswer} (h : AnsweredAfter env client k a) :
    settled env client a.rule.spl k 2 = (.ok a.result, a.attempts) := by
  obtain ⟨⟨hpos, hmost⟩, hfailed, hok⟩ := h
  have hn : a.attempts - 1 + 1 = a.attempts := by omega
  rw [settled_eq (a.attempts - 1) 2 k (by omega) (fun i hi => hfailed i (by omega)) hok, hn]

end

/-! ## Rule by rule -/

/-- What a run over rules with these answers leaves behind. -/
structure Detected (client : SplunkClient) (as : List RuleAnswer) (ds : List Detection)
    (s t : Session) : Prop where
  searches : t.searches = s.searches ++ as.flatMap (RuleAnswer.calls client)
  reports : List.Forall₂ ReportsAnswer (as.filter RuleAnswer.hit) ds
  closed : t.breaker.openedAt = none

/-- A rule's answer, then those of the other rules. -/
theorem Detected.cons {client : SplunkClient} {a : RuleAnswer} {as : List RuleAnswer}
    {ds ds' : List Detection} {s u t : Session} (h : Detected client [a] ds s u)
    (h' : Detected client as ds' u t) : Detected client (a :: as) (ds ++ ds') s t := by
  constructor
  · rw [h'.searches, h.searches, List.append_assoc]
    simp
  · rw [← List.singleton_append, List.filter_append]
    exact List.rel_append h.reports h'.reports
  · exact h'.closed

namespace DetectionAgent

variable {env : Env} {client : SplunkClient} {disabled : List String}

/-- An enabled rule: the breaker is closed before and after, and the rule's own answer decides
    whether there is a detection. -/
theorem runRule_answered {a : RuleAnswer} {s : Session} (hb : s.breaker.openedAt = none)
    (hd : a.rule.ruleId ∉ disabled) (ha : AnsweredAfter env client s.searches.length a) :
    ∃ o t, (runRule env client disabled a.rule).run s = .ok o t ∧
      Detected client [a] o.toList s t := by
  have hretry := withRetry_run env (client.search env a.rule.spl "-24h" "now") isQueryError hb
  have hcalls : [a].flatMap (RuleAnswer.calls client) =
      List.replicate a.attempts ⟨client, a.rule.spl⟩ := by
    rw [List.flatMap_singleton]
    rfl
  rw [runRule_enabled env client disabled a.rule hd]
  obtain ⟨r, t, hset, hrun, hasked, hclosed⟩ | ⟨ex, t, hset, _⟩ :=
    retryLoop_run env client a.rule.spl (1 / 20) 0 2 s
  · rw [ha.settled] at hset hasked
    obtain rfl : a.result = r := Except.ok.inj hset
    rw [run_bind_ok (hretry.trans hrun)]
    by_cases hmin : a.result.eventCount < a.rule.minEvents
    · rw [if_pos hmin]
      have hhit : a.hit = false := by simp [RuleAnswer.hit, hmin]
      refine ⟨none, t, rfl, ⟨hcalls ▸ hasked.searches, ?_, hclosed⟩⟩
      rw [List.filter_cons_of_neg (by simp [hhit])]
      exact List.Forall₂.nil
    · rw [if_neg hmin]
      have hhit : a.hit = true := by simp [RuleAnswer.hit, hmin]
      obtain ⟨d, u, hdet, hreports, hsearches, hbreaker⟩ := detectionOf_run env a t
      refine ⟨some d, u, ?_, ⟨?_, ?_, ?_⟩⟩
      · rw [run_map, hdet]
      · rw [hsearches, hcalls]
        exact hasked.searches
      · rw [List.filter_cons_of_pos hhit]
        exact List.Forall₂.cons hreports List.Forall₂.nil
      · rw [hbreaker]
        exact hclosed
  · rw [ha.settled] at hset
    cases hset

/-- The loop over the rules, the breaker closed before each of them. -/
theorem mapM_runRule_answered (rules : List DetectionRule) {as : List RuleAnswer} {s : Session}
    (hb : s.breaker.openedAt = none)
    (hrules : as.map RuleAnswer.rule = rules.filter fun r => !disabled.contains r.ruleId)
    (ha : AnsweredFrom env client s.searches.length as) :
    ∃ os t, (rules.mapM (runRule env client disabled)).run s = .ok os t ∧
      Detected client as (os.filterMap id) s t := by
  induction rules generalizing as s with
  | nil =>
    obtain rfl : as = [] := List.map_eq_nil_iff.mp hrules
    exact ⟨[], s, rfl, ⟨by simp, List.Forall₂.nil, hb⟩⟩
  | cons rule rules ih =>
    by_cases hd : rule.ruleId ∈ disabled
    · rw [List.filter_cons_of_neg (by simpa using hd)] at hrules
      obtain ⟨os, t, hrun, hdetected⟩ := ih hb hrules ha
      have hskip := runRule_skip env client disabled rule hd s
      exact ⟨none :: os, t, mapM_cons_eq_ok.mpr ⟨none, s, os, hskip, hrun, rfl⟩, hdetected⟩
    · rw [List.filter_cons_of_pos (by simpa using hd)] at hrules
      obtain ⟨a, as, rfl, rfl, hrest⟩ := List.map_eq_cons_iff.mp hrules
      obtain ⟨o, u, hrule, hu⟩ := runRule_answered hb hd ha.1
      have hlen : u.searches.length = s.searches.length + a.attempts := by
        simp [hu.searches, RuleAnswer.calls]
      obtain ⟨os, t, hrun, hdetected⟩ := ih hu.closed hrest (by rw [hlen]; exact ha.2)
      have hlist : (o :: os).filterMap id = o.toList ++ os.filterMap id := by cases o <;> rfl
      refine ⟨o :: os, t, mapM_cons_eq_ok.mpr ⟨o, u, os, hrule, hrun, rfl⟩, ?_⟩
      rw [hlist]
      exact hu.cons hdetected

/-- A fresh agent's run over any rules returns. It has sent the searches of the enabled rules
    and no other, and it reports, in the order of the rules, each that has enough events. -/
theorem runRules_answered (rules : List DetectionRule) (as : List RuleAnswer) (s : Session)
    (hfresh : s.breaker = {})
    (hrules : as.map RuleAnswer.rule = rules.filter fun r => !disabled.contains r.ruleId)
    (ha : AnsweredFrom env client s.searches.length as) :
    ∃ ds t, (runRules env client rules disabled).run s = .ok ds t ∧
      t.searches = s.searches ++ as.flatMap (RuleAnswer.calls client) ∧
      List.Forall₂ ReportsAnswer (as.filter fun a => a.rule.minEvents ≤ a.result.eventCount) ds := by
  have hb : s.breaker.openedAt = none := by rw [hfresh]
  obtain ⟨os, t, hrun, hdetected⟩ := mapM_runRule_answered rules hb hrules ha
  have hhit : as.filter RuleAnswer.hit =
      as.filter fun a => a.rule.minEvents ≤ a.result.eventCount :=
    List.filter_congr fun a _ => by rw [RuleAnswer.hit, ← decide_not, decide_eq_decide, not_lt]
  refine ⟨os.filterMap id, t, run_bind_ok hrun, hdetected.searches, ?_⟩
  rw [← hhit]
  exact hdetected.reports

/-- Failed logins of two users, from two addresses. -/
def loginEvents : List SplunkEvent :=
  List.replicate 7 ⟨"failed login", "auth.log", "linux_secure", "web-1", 0,
    [("src_ip", "203.0.113.9"), ("user", "root")]⟩ ++
  List.replicate 5 ⟨"failed login", "auth.log", "linux_secure", "web-2", 0,
    [("user", "admin"), ("src_ip", "198.51.100.7"), ("dest_ip", "10.0.0.5")]⟩

/-- Splunk drops two of three connections. -/
def flakySplunk : Env where
  now := fun _ => 0
  uuid4 := fun _ => ""
  search := fun _ k spl _ _ =>
    if k % 3 < 2 then .error (.splunk (.connection "dropped"))
    else .ok { sid := "1", query := spl, eventCount := 12, events := loginEvents }

def flakyAnswer (rule : DetectionRule) : RuleAnswer :=
  ⟨rule, { sid := "1", query := rule.spl, eventCount := 12, events := loginEvents }, 3⟩

theorem flaky_answered (n : Nat) (rule : DetectionRule) :
    AnsweredAfter flakySplunk .mock (3 * n) (flakyAnswer rule) where
  attempts := ⟨Nat.le_add_left 1 2, le_refl 3⟩
  failed := fun i hi => by
    have hi : i < 2 := Nat.lt_of_succ_lt_succ hi
    have hmod : (3 * n + i) % 3 < 2 := by omega
    exact ⟨_, if_pos hmod, rfl⟩
  answered := by
    have hmod : ¬ (3 * n + 2) % 3 < 2 := by omega
    exact if_neg hmod

theorem flaky_answeredFrom (rules : List DetectionRule) (n : Nat) :
    AnsweredFrom flakySplunk .mock (3 * n) (rules.map flakyAnswer) := by
  induction rules generalizing n with
  | nil => exact trivial
  | cons rule rules ih => exact ⟨flaky_answered n rule, ih (n + 1)⟩

/-- The answers to the rules but the second. -/
def flakyAnswers : List RuleAnswer :=
  (defaultRules.filter fun r => !List.contains ["R002"] r.ruleId).map flakyAnswer

/-- Each detection is of the first host, with the addresses and users of all events. -/
theorem runRules_answered_flaky :
    ∃ ds t, (runRules flakySplunk .mock defaultRules ["R002"]).run (.start .empty [] []) =
        .ok ds t ∧
      t.searches = [] ++ flakyAnswers.flatMap (RuleAnswer.calls .mock) ∧
      List.Forall₂ ReportsAnswer
        (flakyAnswers.filter fun a => a.rule.minEvents ≤ a.result.eventCount) ds :=
  runRules_answered defaultRules flakyAnswers _ rfl
    (by rw [flakyAnswers, List.map_map]; exact List.map_id _) (flaky_answeredFrom _ 0)

end DetectionAgent

end SentinelAI
