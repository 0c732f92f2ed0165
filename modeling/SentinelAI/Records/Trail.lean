import SentinelAI.Lib.Pages
import SentinelAI.Records.History
import SentinelAI.Security.AuditChain
import SentinelAI.Tenancy.ProviderLockout

/-
  The audit log as it is read. Every partition verifies throughout the life of a deployment
  (`live_chain`), as long as requests come one after another: two that overlap can break a
  chain (`overlapping_records`). An auditor turns the pages of `GET /audit`, newest first, while
  the platform goes on working and new entries shift the older ones to later pages: every entry
  that was there at the first page is on one of them (`audit_read_through`).
-/

namespace SentinelAI

open Lib

variable {rt : Runtime}

/-! ## The chain -/

theorem Statement.chain {caller : Option String} {db db' : Database} (hs : Statement rt caller db db')
    {tenantId : String} (h : AuditService.verifyChain rt.sha256 db.auditLog tenantId = true) :
    AuditService.verifyChain rt.sha256 db'.auditLog tenantId = true := by
  cases hs with
  | audited now e hown => exact verifyChain_record rt.sha256 now e db.auditLog tenantId h
  | _ => exact h

theorem live_chain (rt : Runtime) (os : List Occurrence) (tenantId : String) :
    AuditService.verifyChain rt.sha256 (live rt .new os).db.auditLog tenantId = true := by
  refine live_keeps (I := fun w => AuditService.verifyChain rt.sha256 w.db.auditLog tenantId = true)
    (fun w o h => ?_) rfl os
  obtain ⟨_, _, ht⟩ := occur_transaction rt w o
  exact ht.keeps (I := fun d => AuditService.verifyChain rt.sha256 d.auditLog tenantId = true)
    (fun _ _ hs => hs.chain) h

/-! ## Pages -/

/-- The entries of a partition, newest first. -/
def newestFirst (db : Database) (tenantId : String) : List (Nat × AuditLogRow) :=
  (db.auditLog.selectRows (AuditService.ofTenant tenantId)).reverse

/-- Later entries come in front. -/
theorem newestFirst_later {db db' : Database} (h : Extends db db') (tenantId : String) :
    ∃ new, newestFirst db' tenantId = new ++ newestFirst db tenantId := by
  obtain ⟨new, hnew⟩ := h.auditLog
  unfold newestFirst AutoTable.selectRows
  rw [← hnew, List.filter_append, List.reverse_append]
  exact ⟨_, rfl⟩

/-- `GET /audit` for page `k`. -/
def auditPage (env : Env) (auth : Authorization) (n k : Nat) : Event where
  env := env
  request := .read auth (.audit n ((k * n : Nat) : Int))

/-- What the request is answered with: a page of the caller's partition, and its verdict. -/
theorem auditPage_answered {w : World} {env : Env} {auth : Authorization} {n k : Nat}
    {answer : Routes.AuditList} {s : Session}
    (h : handled rt w (auditPage env auth n k) = .ok (.audit answer) s) :
    ∃ token, auth = .bearer token ∧
      answer.entries = page n k (newestFirst w.db token.tenantId) ∧
      answer.chainValid = AuditService.verifyChain rt.sha256 w.db.auditLog token.tenantId := by
  obtain ⟨_, hrun, hbody⟩ := (handled_eq_ok rfl rfl).mp h
  cases hbody
  unfold Routes.listAudit at hrun
  obtain ⟨p, t, hp, hrun⟩ := run_bind_eq_ok.mp hrun
  obtain ⟨⟨token, hid, rfl, _⟩, rfl⟩ := require_eq_ok.mp hp
  obtain ⟨_, _, hlimit, hrun⟩ := run_bind_eq_ok.mp hrun
  obtain ⟨_, rfl⟩ := raiseIf_eq_ok.mp hlimit
  obtain ⟨_, _, hoffset, hrun⟩ := run_bind_eq_ok.mp hrun
  obtain ⟨_, rfl⟩ := raiseIf_eq_ok.mp hoffset
  obtain ⟨_, _, hbound, hrun⟩ := run_bind_eq_ok.mp hrun
  obtain ⟨_, rfl⟩ := raiseIf_eq_ok.mp hbound
  cases hrun
  exact ⟨token, hid.bearer, rfl, rfl⟩

/-- An auditor asks for one page of `n` entries after another, and things happen in between,
    until a page is not full. -/
inductive AuditReading (rt : Runtime) (auth : Authorization) (n : Nat) :
    Nat → World → List Routes.AuditList → Prop
  | last {k : Nat} {w : World} {env : Env} {answer : Routes.AuditList} {s : Session}
    (h : handled rt w (auditPage env auth n k) = .ok (.audit answer) s)
    (hshort : answer.entries.length < n) : AuditReading rt auth n k w [answer]
  | next {k : Nat} {w : World} {env : Env} {answer : Routes.AuditList} {s : Session}
    {os : List Occurrence} {answers : List Routes.AuditList}
    (h : handled rt w (auditPage env auth n k) = .ok (.audit answer) s)
    (hrest : AuditReading rt auth n (k + 1) (live rt w os) answers) :
    AuditReading rt auth n k w (answer :: answers)

namespace AuditReading

variable {auth : Authorization} {n k : Nat} {w : World} {answers : List Routes.AuditList}

theorem bearer (h : AuditReading rt auth n k w answers) : ∃ token, auth = .bearer token := by
  cases h with
  | last h hshort => exact (auditPage_answered h).imp fun _ ht => ht.1
  | next h hrest => exact (auditPage_answered h).imp fun _ ht => ht.1

/-- The pages read are pages of a list that grows at its front. -/
theorem reading {token : Token} (h : AuditReading rt (.bearer token) n k w answers) :
    Reading n k (newestFirst w.db token.tenantId) (answers.map Routes.AuditList.entries) := by
  generalize hauth : Authorization.bearer token = auth at h
  induction h with
  | last h hshort =>
    obtain ⟨_, htoken, hentries, _⟩ := auditPage_answered h
    cases hauth.trans htoken
    rw [hentries] at hshort
    rw [List.map_singleton, hentries]
    exact .last _ _ hshort
  | @next k w env answer s os answers h hrest ih =>
    obtain ⟨_, htoken, hentries, _⟩ := auditPage_answered h
    cases hauth.trans htoken
    obtain ⟨new, hnew⟩ := newestFirst_later (live_later rt w os).rows token.tenantId
    rw [hnew] at ih
    rw [List.map_cons, hentries]
    exact .next _ _ new _ ih

/-- Every page comes with the verdict of some later state of the deployment. -/
theorem verdicts {os : List Occurrence} (h : AuditReading rt auth n k (live rt .new os) answers) :
    ∀ a ∈ answers, a.chainValid = true := by
  generalize hw : live rt .new os = w at h
  induction h generalizing os with
  | last h hshort =>
    obtain ⟨token, _, _, hvalid⟩ := auditPage_answered h
    intro a ha
    rw [List.mem_singleton.mp ha, hvalid, ← hw]
    exact live_chain rt os token.tenantId
  | @next k w env answer s later answers h hrest ih =>
    obtain ⟨token, _, _, hvalid⟩ := auditPage_answered h
    intro a ha
    obtain rfl | ha := List.mem_cons.mp ha
    · rw [hvalid, ← hw]
      exact live_chain rt os token.tenantId
    · refine @ih (os ++ later) ?_ a ha
      rw [live_append, hw]

/-- The pages show entries of the caller's partition only. -/
theorem own {token : Token} (h : AuditReading rt (.bearer token) n k w answers) :
    ∀ a ∈ answers, ∀ e ∈ a.entries, e.2.tenantId = token.tenantId := by
  have hpage {k : Nat} {db : Database} {e : Nat × AuditLogRow}
      (he : e ∈ page n k (newestFirst db token.tenantId)) : e.2.tenantId = token.tenantId := by
    have hrow := List.mem_of_mem_drop (List.mem_of_mem_take he)
    have hof := (List.mem_filter.mp (List.mem_reverse.mp hrow)).2
    exact eq_of_beq hof
  generalize hauth : Authorization.bearer token = auth at h
  induction h with
  | last h hshort =>
    obtain ⟨_, htoken, hentries, _⟩ := auditPage_answered h
    cases hauth.trans htoken
    intro a ha e he
    rw [List.mem_singleton.mp ha, hentries] at he
    exact hpage he
  | next h hrest ih =>
    obtain ⟨_, htoken, hentries, _⟩ := auditPage_answered h
    cases hauth.trans htoken
    intro a ha e he
    obtain rfl | ha := List.mem_cons.mp ha
    · rw [hentries] at he
      exact hpage he
    · exact ih a ha e he

end AuditReading

/-- An auditor who turns the pages of the log in a living deployment, whose requests come one
    after another, reads every entry of the partition that was there at the first page, reads
    no other partition's, and is told on every page that the chain is valid. -/
theorem audit_read_through (rt : Runtime) (os : List Occurrence) (auth : Authorization) (n : Nat)
    (answers : List Routes.AuditList) (h : AuditReading rt auth n 0 (live rt .new os) answers) :
    ∃ token, auth = .bearer token ∧ (∀ a ∈ answers, a.chainValid = true) ∧
      (∀ a ∈ answers, ∀ e ∈ a.entries, e.2.tenantId = token.tenantId) ∧
      ∀ e ∈ (live rt .new os).db.auditLog.selectRows (AuditService.ofTenant token.tenantId),
        ∃ a ∈ answers, e ∈ a.entries := by
  obtain ⟨token, rfl⟩ := h.bearer
  refine ⟨token, rfl, h.verdicts, h.own, fun e he => ?_⟩
  have hread : e ∈ (newestFirst (live rt .new os).db token.tenantId).drop (0 * n) := by
    rw [Nat.zero_mul]
    exact List.mem_reverse.mpr he
  obtain ⟨_, hp, hep⟩ := h.reading.covers e hread
  obtain ⟨a, ha, rfl⟩ := List.mem_map.mp hp
  exact ⟨a, ha, hep⟩

def signedIn : List Occurrence := [.start firstStart, .request (analystSignsIn "j1")]

/-- The first page is the login; another login comes in between; it moves the first one to the
    second page. -/
theorem audit_read_through_moved : ∃ answers,
    AuditReading .plain (.bearer analystToken) 1 0 (live .plain .new signedIn) answers ∧
      answers.length = 3 ∧ ∃ token, Authorization.bearer analystToken = .bearer token ∧
        (∀ a ∈ answers, a.chainValid = true) ∧
        (∀ a ∈ answers, ∀ e ∈ a.entries, e.2.tenantId = token.tenantId) ∧
        ∀ e ∈ (live .plain .new signedIn).db.auditLog.selectRows
          (AuditService.ofTenant token.tenantId), ∃ a ∈ answers, e ∈ a.entries := by
  have hread : ∃ answers, AuditReading .plain (.bearer analystToken) 1 0
      (live .plain .new signedIn) answers ∧ answers.length = 3 :=
    ⟨_, @AuditReading.next _ _ _ _ _ firstStart _ _ [.request (analystSignsIn "j2")] _ rfl
      (@AuditReading.next _ _ _ _ _ firstStart _ _ [] _ rfl
        (@AuditReading.last _ _ _ _ _ firstStart _ _ rfl (by decide))), rfl⟩
  obtain ⟨answers, h, hlen⟩ := hread
  exact ⟨answers, h, hlen, audit_read_through .plain signedIn _ 1 answers h⟩

end SentinelAI
