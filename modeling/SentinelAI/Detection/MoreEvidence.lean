import Mathlib.Order.Bounds.Basic
import SentinelAI.Cases.Rows
import SentinelAI.Detection.IncidentRollup
import SentinelAI.Detection.RiskScore

/-
  The boost of a detection against the events behind it. Threat intelligence looks at every
  address and keeps what is malicious, so further events can only add to it; identity context
  looks at one user, the first in sorted order, and a further event can put an ordinary user in
  front of a privileged one. `more_evidence_iff` says exactly when further events do not lower
  the boost.
-/

namespace SentinelAI

open Lib MockEnrichmentProvider

/-! ## What enrichment makes of a detection -/

/-- `enrich_ip` flags the address. -/
def maliciousIp (ip : String) : Bool := ["203.0.113.", "198.51.100."].any (startsWith ip)

/-- `_PRIVILEGED_USERS` -/
def privilegedUsers : List String := ["admin", "root", "svc_backup"]

theorem verdict_malicious (ip : String) :
    textGet (enrichIp ip) "verdict" = some (if maliciousIp ip then "malicious" else "benign") := rfl

theorem addIp_threatIntel (e : Enrichment) (ip : String) :
    (e.addIp ip).threatIntel = if maliciousIp ip then enrichIp ip else e.threatIntel := by
  unfold Enrichment.addIp
  dsimp only
  rw [verdict_malicious]
  cases maliciousIp ip <;> rfl

/-- The loop over the addresses keeps the last malicious one. -/
theorem foldl_addIp (ips : List String) (e : Enrichment) :
    (ips.foldl Enrichment.addIp e).assetCriticality = e.assetCriticality ∧
      (ips.foldl Enrichment.addIp e).identityContext = e.identityContext ∧
      ((∃ ip ∈ ips, maliciousIp ip = true ∧
          (ips.foldl Enrichment.addIp e).threatIntel = enrichIp ip) ∨
        (∀ ip ∈ ips, maliciousIp ip = false) ∧
          (ips.foldl Enrichment.addIp e).threatIntel = e.threatIntel) := by
  induction ips generalizing e with
  | nil => exact ⟨rfl, rfl, Or.inr ⟨fun ip h => absurd h List.not_mem_nil, rfl⟩⟩
  | cons ip ips ih =>
    obtain ⟨hasset, hidentity, hintel⟩ := ih (e.addIp ip)
    have hkept : (e.addIp ip).assetCriticality = e.assetCriticality ∧
        (e.addIp ip).identityContext = e.identityContext := by
      unfold Enrichment.addIp
      dsimp only
      split <;> exact ⟨rfl, rfl⟩
    refine ⟨hasset.trans hkept.1, hidentity.trans hkept.2, ?_⟩
    rw [addIp_threatIntel] at hintel
    obtain ⟨ip', hmem, hbad, heq⟩ | ⟨hall, heq⟩ := hintel
    · exact Or.inl ⟨ip', List.mem_cons_of_mem ip hmem, hbad, heq⟩
    · cases hip : maliciousIp ip with
      | true =>
        rw [hip, if_pos rfl] at heq
        exact Or.inl ⟨ip, List.mem_cons_self, hip, heq⟩
      | false =>
        rw [hip, if_neg Bool.false_ne_true] at heq
        exact Or.inr ⟨List.forall_mem_cons.mpr ⟨hip, hall⟩, heq⟩

/-- What the host contributes to the boost. -/
def hostFactor (host : String) : ℚ :=
  if enrichHost host = "crown_jewel" then 130 / 100
  else if enrichHost host = "high" then 115 / 100
  else 105 / 100

/-- What the addresses contribute. -/
def intelFactor (malicious : Bool) : ℚ := if malicious then 125 / 100 else 1

/-- What the user contributes. -/
def identityFactor (privileged : Bool) : ℚ := if privileged then 115 / 100 else 1

theorem assetFactor_eq (host : String) :
    (if enrichHost host == "low" then 95 / 100
      else if enrichHost host == "medium" then 105 / 100
      else if enrichHost host == "high" then 115 / 100
      else if enrichHost host == "crown_jewel" then 130 / 100
      else 1 : ℚ) = hostFactor host := by
  unfold hostFactor enrichHost
  split
  · rfl
  · split <;> rfl

/-- The user's context; a missing or empty name is not looked up. -/
def identityOf : Option String → List (String × String)
  | none => []
  | some u => if u == "" then [] else enrichUser u

theorem identity_privileged (user : Option String) :
    (textGet (identityOf user) "privileged" == some "true") =
      user.any fun u => privilegedUsers.contains u := by
  cases user with
  | none => rfl
  | some u =>
    by_cases hu : u = ""
    · subst hu
      rfl
    · have hname : identityOf (some u) = enrichUser u := if_neg (by simpa using hu)
      rw [hname]
      show (some (if privilegedUsers.contains u then "true" else "false") == some "true") =
        privilegedUsers.contains u
      cases privilegedUsers.contains u <;> rfl

/-- Enrichment before the addresses are looked at. -/
def beforeIntel (host : String) (user : Option String) : Enrichment where
  assetCriticality := enrichHost host
  identityContext := identityOf user

theorem enrich_cons (host : String) (user : Option String) (ip : String) (ips : List String) :
    enrich host user (ip :: ips) =
      if ((ip :: ips).foldl Enrichment.addIp (beforeIntel host user)).threatIntel.isEmpty then
        { (ip :: ips).foldl Enrichment.addIp (beforeIntel host user) with
          threatIntel := enrichIp ip }
      else (ip :: ips).foldl Enrichment.addIp (beforeIntel host user) := by
  cases user <;> rfl

theorem enrich_fields (host : String) (user : Option String) (ips : List String) :
    (enrich host user ips).assetCriticality = enrichHost host ∧
      (enrich host user ips).identityContext = identityOf user ∧
      (textGet (enrich host user ips).threatIntel "verdict" == some "malicious") =
        ips.any maliciousIp := by
  cases ips with
  | nil => cases user <;> exact ⟨rfl, rfl, rfl⟩
  | cons ip ips =>
    rw [enrich_cons]
    obtain ⟨hasset, hidentity, ⟨ip', hmem, hbad, heq⟩ | ⟨hall, heq⟩⟩ :=
      foldl_addIp (ip :: ips) (beforeIntel host user)
    · have hany : (ip :: ips).any maliciousIp = true := List.any_eq_true.mpr ⟨ip', hmem, hbad⟩
      have hfilled : ((ip :: ips).foldl Enrichment.addIp (beforeIntel host user)).threatIntel.isEmpty =
          false := by
        rw [heq]
        rfl
      rw [hfilled, if_neg Bool.false_ne_true, heq, verdict_malicious, hbad, hany]
      exact ⟨hasset, hidentity, rfl⟩
    · have hany : (ip :: ips).any maliciousIp = false := by
        rw [List.any_eq_false]
        intro x hx
        rw [hall x hx]
        exact Bool.false_ne_true
      have hempty : ((ip :: ips).foldl Enrichment.addIp (beforeIntel host user)).threatIntel.isEmpty =
          true := by
        rw [heq]
        rfl
      rw [hempty, if_pos rfl, hany]
      refine ⟨hasset, hidentity, ?_⟩
      show (textGet (enrichIp ip) "verdict" == some "malicious") = false
      rw [verdict_malicious, hall ip List.mem_cons_self]
      rfl

theorem boost_enrich (host : String) (user : Option String) (ips : List String) :
    (enrich host user ips).boost = hostFactor host * intelFactor (ips.any maliciousIp) *
      identityFactor (user.any fun u => privilegedUsers.contains u) := by
  obtain ⟨hasset, hidentity, hintel⟩ := enrich_fields host user ips
  unfold Enrichment.boost
  dsimp only
  rw [hasset, hidentity, hintel, identity_privileged, assetFactor_eq]
  rfl

/-! ## From events to the boost -/

/-- The addresses a search result names. -/
def addressesOf (events : List SplunkEvent) : List String := fieldValues events ["src_ip", "dest_ip"]

/-- The users a search result names. -/
def usersOf (events : List SplunkEvent) : List String := fieldValues events ["user"]

/-- An investigation of the detection that a rule's search result gives. -/
def Investigates (rt : Runtime) (orch : Orchestrator) (rule : DetectionRule) (r : SearchResult)
    (inv : Investigation) : Prop :=
  ∃ env env' s s' d t t', (DetectionAgent.detectionOf env rule r).run s = .ok d t ∧
    (orch.investigate rt env' d).run s' = .ok inv t'

/-- The boost of a host, from a user and whether an address is malicious, as it is stored. -/
def storedBoost (host : String) (malicious privileged : Bool) : ℚ :=
  roundTo 3 (hostFactor host * intelFactor malicious * identityFactor privileged)

theorem investigate_boost (rt : Runtime) (env : Env) (orch : Orchestrator) (d : Detection) :
    Yields (fun inv => riskBoostOf inv.detection = storedBoost d.entity (d.srcIps.any maliciousIp)
      (d.users.head?.any fun u => privilegedUsers.contains u)) (orch.investigate rt env d) := by
  have hboost := boost_enrich d.entity d.users.head? d.srcIps
  refine Yields.bind_any fun verdict => Yields.bind_any fun summary => ?_
  refine Yields.bind_any fun uuid => Yields.bind_any fun now => Yields.pure ?_
  show roundTo 3 (enrich d.entity d.users.head? d.srcIps).boost = _
  rw [hboost]
  rfl

theorem any_sortedSet (p : String → Bool) (xs : List String) : (sortedSet xs).any p = xs.any p := by
  rw [Bool.eq_iff_iff, List.any_eq_true, List.any_eq_true]
  simp only [mem_sortedSet]

theorem Investigates.boost {rt : Runtime} {orch : Orchestrator} {rule : DetectionRule}
    {r : SearchResult} {inv : Investigation} (h : Investigates rt orch rule r inv) :
    riskBoostOf inv.detection =
      storedBoost ((r.events.head?.map SplunkEvent.host).getD "unknown")
        ((addressesOf r.events).any maliciousIp)
        ((sortedSet (usersOf r.events)).head?.any fun u => privilegedUsers.contains u) := by
  obtain ⟨env, env', s, s', d, t, t', hd, hinv⟩ := h
  have hboost := investigate_boost rt env' orch d s' inv t' hinv
  cases hd
  rw [hboost]
  show storedBoost _ ((sortedSet (addressesOf r.events)).any maliciousIp) _ = _
  rw [any_sortedSet]
  rfl

/-! ## The user looked up -/

/-- The first of a sorted set is the least of its members. -/
theorem head_sortedSet {xs : List String} {u : String} :
    (sortedSet xs).head? = some u ↔ IsLeast {x | x ∈ xs} u := by
  have hsorted := sortedSet_sorted xs
  constructor
  · intro h
    obtain ⟨rest, hrest⟩ := List.head?_eq_some_iff.mp h
    rw [hrest] at hsorted
    refine ⟨mem_sortedSet.mp (by rw [hrest]; exact List.mem_cons_self), fun x hx => ?_⟩
    have hmem : x ∈ u :: rest := hrest ▸ mem_sortedSet.mpr hx
    rcases List.mem_cons.mp hmem with rfl | hlater
    · exact le_refl x
    · exact le_of_lt (List.rel_of_pairwise_cons hsorted hlater)
  · rintro ⟨hmem, hleast⟩
    cases hset : sortedSet xs with
    | nil =>
      have hin : u ∈ sortedSet xs := mem_sortedSet.mpr hmem
      rw [hset] at hin
      exact absurd hin List.not_mem_nil
    | cons v rest =>
      rw [hset] at hsorted
      have hv : v ∈ xs := mem_sortedSet.mp (by rw [hset]; exact List.mem_cons_self)
      have hu : u ∈ v :: rest := hset ▸ mem_sortedSet.mpr hmem
      rcases List.mem_cons.mp hu with rfl | hlater
      · rfl
      · exact absurd (hleast hv) (not_le.mpr (List.rel_of_pairwise_cons hsorted hlater))

/-- The user that is looked up, the least in sorted order, is privileged. -/
def FirstUserPrivileged (events : List SplunkEvent) : Prop :=
  ∃ u ∈ privilegedUsers, IsLeast {x | x ∈ usersOf events} u

theorem firstUserPrivileged_iff (events : List SplunkEvent) :
    ((sortedSet (usersOf events)).head?.any fun u => privilegedUsers.contains u) = true ↔
      FirstUserPrivileged events := by
  rw [Option.any_eq_true]
  constructor
  · rintro ⟨u, hhead, hu⟩
    exact ⟨u, List.contains_iff_mem.mp hu, head_sortedSet.mp hhead⟩
  · rintro ⟨u, hu, hleast⟩
    exact ⟨u, head_sortedSet.mpr hleast, List.contains_iff_mem.mpr hu⟩

/-- Some event names a malicious address. -/
def NamesMalicious (events : List SplunkEvent) : Prop :=
  ∃ ip ∈ addressesOf events, maliciousIp ip = true

theorem namesMalicious_append {events extra : List SplunkEvent} :
    NamesMalicious (events ++ extra) ↔ NamesMalicious events ∨ NamesMalicious extra := by
  unfold NamesMalicious addressesOf fieldValues
  rw [List.flatMap_append]
  simp only [List.mem_append, or_and_right, exists_or]

/-! ## When the boost does not fall -/

theorem hostFactor_cases (host : String) :
    hostFactor host = 130 / 100 ∨ hostFactor host = 115 / 100 ∨ hostFactor host = 105 / 100 := by
  unfold hostFactor
  split
  · exact Or.inl rfl
  · split
    · exact Or.inr (Or.inl rfl)
    · exact Or.inr (Or.inr rfl)

/-- A first malicious address outweighs a privileged user, and nothing else makes up for one. -/
theorem storedBoost_le_iff (host : String) {m m' p p' : Bool} (hm : m = true → m' = true) :
    storedBoost host m p ≤ storedBoost host m' p' ↔
      (p = true → p' = false → m = false ∧ m' = true) := by
  unfold storedBoost
  revert m m' p p'
  rcases hostFactor_cases host with h | h | h
  · rw [h]
    decide +kernel
  · rw [h]
    decide +kernel
  · rw [h]
    decide +kernel

/-- The result with further events at its end. -/
def SearchResult.extend (r : SearchResult) (extra : List SplunkEvent) : SearchResult :=
  { r with eventCount := r.eventCount + extra.length, events := r.events ++ extra }

/-- Further events cost the detection no privileged user, unless they bring its first malicious
    address. -/
def KeepsContext (events extra : List SplunkEvent) : Prop :=
  FirstUserPrivileged events → ¬ FirstUserPrivileged (events ++ extra) →
    ¬ NamesMalicious events ∧ NamesMalicious extra

/-- The boost of a detection and that of the detection with further events behind it, as the
    orchestrator computes them: the second is no lower exactly when the further events keep
    the context. -/
theorem more_evidence_iff {rt : Runtime} {orch : Orchestrator} {rule : DetectionRule}
    {r : SearchResult} {extra : List SplunkEvent} (hevents : r.events ≠ [])
    {inv inv' : Investigation} (h : Investigates rt orch rule r inv)
    (h' : Investigates rt orch rule (r.extend extra) inv') :
    riskBoostOf inv.detection ≤ riskBoostOf inv'.detection ↔ KeepsContext r.events extra := by
  have hhost : (r.extend extra).events.head? = r.events.head? := List.head?_append_of_ne_nil _ hevents
  have hmalicious (events : List SplunkEvent) :
      (addressesOf events).any maliciousIp = true ↔ NamesMalicious events := List.any_eq_true
  have hgrows : (addressesOf r.events).any maliciousIp = true →
      (addressesOf (r.extend extra).events).any maliciousIp = true := by
    rw [hmalicious, hmalicious]
    exact fun hm => namesMalicious_append.mpr (Or.inl hm)
  rw [h.boost, h'.boost, hhost, storedBoost_le_iff _ hgrows, firstUserPrivileged_iff,
    ← Bool.not_eq_true, ← Bool.not_eq_true, firstUserPrivileged_iff, hmalicious, hmalicious]
  unfold KeepsContext
  show (_ → ¬ FirstUserPrivileged (r.events ++ extra) → _ ∧ NamesMalicious (r.events ++ extra)) ↔ _
  refine imp_congr_right fun _ => imp_congr_right fun _ => and_congr_right fun hnone => ?_
  rw [namesMalicious_append]
  exact or_iff_right hnone

/-- A login on a finance workstation, by the user if one is given. -/
def loginEvent (user : Option String) : SplunkEvent where
  raw := "login"
  source := "WinEventLog:Security"
  sourcetype := "WinEventLog"
  host := "ws-finance-07"
  timestamp := 0
  fields := (user.map fun u => ("user", u)).toList

/-- One login of the administrator. -/
def adminLogin : SearchResult where
  sid := "s1"
  query := "search index=auth"
  eventCount := 1
  events := [loginEvent (some "admin")]

/-- A model that answers, if not in JSON. -/
def talkingEnv : Env where
  now := fun _ => 0
  uuid4 := fun _ => "n1"
  complete := fun _ _ _ _ => .ok "looks bad"

def mockedOrchestrator : Orchestrator where
  splunk := .mock
  model := .mock

/-- The rule the examples investigate. -/
def loginRule : DetectionRule where
  ruleId := "R000"
  title := "Login"
  description := "A login."
  spl := "search index=auth"
  baseSeverity := .high
  mitreTactics := []

theorem investigates_some (r : SearchResult) :
    ∃ inv, Investigates .plain mockedOrchestrator loginRule r inv :=
  ⟨_, talkingEnv, talkingEnv, .start .empty [] [], .start .empty [] [], _, _, _, rfl, rfl⟩

/-- A further event that names nobody. -/
theorem more_evidence_nobody :
    ∃ inv inv', Investigates .plain mockedOrchestrator loginRule adminLogin inv ∧
      Investigates .plain mockedOrchestrator loginRule (adminLogin.extend [loginEvent none]) inv' ∧
      riskBoostOf inv.detection ≤ riskBoostOf inv'.detection := by
  obtain ⟨inv, h⟩ := investigates_some adminLogin
  obtain ⟨inv', h'⟩ := investigates_some (adminLogin.extend [loginEvent none])
  refine ⟨inv, inv', h, h', (more_evidence_iff (by simp [adminLogin]) h h').mpr ?_⟩
  exact fun hfirst hnot => absurd hfirst hnot

/-- A further login, of `aaron`, hides the administrator's. -/
theorem evidence_hides_privilege :
    ¬ ∀ (rt : Runtime) (orch : Orchestrator) (rule : DetectionRule) (r : SearchResult)
      (extra : List SplunkEvent) (inv inv' : Investigation), r.events ≠ [] →
      Investigates rt orch rule r inv → Investigates rt orch rule (r.extend extra) inv' →
        riskBoostOf inv.detection ≤ riskBoostOf inv'.detection := by
  intro hclaim
  obtain ⟨inv, h⟩ := investigates_some adminLogin
  obtain ⟨inv', h'⟩ := investigates_some (adminLogin.extend [loginEvent (some "aaron")])
  have hle := hclaim _ _ _ _ _ inv inv' (by simp [adminLogin]) h h'
  rw [h.boost, h'.boost] at hle
  revert hle
  decide +kernel

end SentinelAI
