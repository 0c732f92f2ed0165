import SentinelAI.Detection.Routing
import SentinelAI.Lib.RelatedTables

/-
  What a tenant's secrets can influence. Two runs of PUT and GET /tenant/credentials that
  differ only in the contents of non-empty secrets stay apart in the encrypted columns alone
  (`Apart`): every answer, the audit log and whatever else is stored are the same.

  The cipher may draw different nonces in the two runs; all that is used of it is that it
  encrypts no text but "" to "".
-/

namespace SentinelAI

open Lib

/-! ## Differing secrets -/

/-- Both absent, both empty or both not empty. -/
def SameSecret (a b : Option String) : Prop := a.map (· == "") = b.map (· == "")

/-- Updates that differ at most in the contents of non-empty secrets. -/
structure SameUpdate (u u' : UpdateCredentials) : Prop where
  fields : u' = { u with
    splunkToken := u'.splunkToken, splunkMcpToken := u'.splunkMcpToken, aiToken := u'.aiToken }
  splunkToken : SameSecret u.splunkToken u'.splunkToken
  splunkMcpToken : SameSecret u.splunkMcpToken u'.splunkMcpToken
  aiToken : SameSecret u.aiToken u'.aiToken

/-- Rows that differ at most in the three encrypted columns, and look the same in a view. -/
structure SameButSecrets (r r' : TenantCredentialRow) : Prop where
  columns : r' = { r with
    splunkTokenEnc := r'.splunkTokenEnc
    splunkMcpTokenEnc := r'.splunkMcpTokenEnc
    aiTokenEnc := r'.aiTokenEnc }
  view : credentialView r = credentialView r'

theorem SameButSecrets.refl (r : TenantCredentialRow) : SameButSecrets r r := ⟨rfl, rfl⟩

theorem SameButSecrets.key {r r' : TenantCredentialRow} (h : SameButSecrets r r') :
    Keyed.key r = Keyed.key r' := (congrArg TenantCredentialRow.tenantId h.columns).symm

/-- A cipher gives every text a token. -/
def CipherNonempty (env : Env) : Prop := ∀ text, text ≠ "" → env.fernetEncrypt text ≠ ""

theorem encryptSecret_ne_empty {env : Env} (h : CipherNonempty env) (text : String) :
    (encryptSecret env text != "") = (text != "") := by
  unfold encryptSecret
  by_cases he : text = ""
  · simp [he]
  · rw [if_neg (by simpa using he), bne_iff_ne.mpr (h text he), bne_iff_ne.mpr he]

/-- What a secret column says in a view depends on the secret's shape alone. -/
theorem shown_eq {env env' : Env} (henv : CipherNonempty env) (henv' : CipherNonempty env')
    {a b : Option String} (h : SameSecret a b) {old old' : String}
    (hold : (old != "") = (old' != "")) :
    ((a.map (encryptSecret env)).getD old != "") = ((b.map (encryptSecret env')).getD old' != "") := by
  unfold SameSecret at h
  cases a with
  | none =>
    cases b with
    | none => exact hold
    | some y => cases h
  | some x =>
    cases b with
    | none => cases h
    | some y =>
      rw [Option.map_some, Option.map_some, Option.getD_some, Option.getD_some,
        encryptSecret_ne_empty henv, encryptSecret_ne_empty henv']
      exact congrArg (!·) (Option.some_inj.mp h)

theorem SameUpdate.apply {env env' : Env} (henv : CipherNonempty env)
    (henv' : CipherNonempty env') {u u' : UpdateCredentials} (h : SameUpdate u u')
    {r r' : TenantCredentialRow} (hr : SameButSecrets r r') :
    SameButSecrets (u.apply env r) (u'.apply env' r') := by
  have hsplunk := shown_eq henv henv' h.splunkToken (congrArg CredentialView.splunkTokenSet hr.view)
  have hmcp := shown_eq henv henv' h.splunkMcpToken
    (congrArg CredentialView.splunkMcpTokenSet hr.view)
  have hai := shown_eq henv henv' h.aiToken (congrArg CredentialView.aiTokenSet hr.view)
  constructor
  · rw [h.fields, hr.columns]
    rfl
  · unfold credentialView UpdateCredentials.apply
    rw [h.fields, hr.columns]
    simp only [CredentialView.mk.injEq, true_and]
    exact ⟨hsplunk, hmcp, hai⟩

theorem SameSecret.given_eq {a b : Option String} (h : SameSecret a b) (k : String) :
    (a.map fun _ => k) = b.map fun _ => k := by
  unfold SameSecret at h
  cases a <;> cases b <;> simp_all

/-- The audit detail names the same fields. -/
theorem SameUpdate.changedFields_eq {u u' : UpdateCredentials} (h : SameUpdate u u') :
    TenantRoutes.changedFields u = TenantRoutes.changedFields u' := by
  unfold TenantRoutes.changedFields
  rw [h.fields]
  simp only [List.filterMap_cons, h.splunkToken.given_eq, h.splunkMcpToken.given_eq,
    h.aiToken.given_eq]

/-! ## Sessions that differ in the encrypted columns -/

/-- A session without its credential rows. -/
def Session.hide (s : Session) : Session :=
  { s with
    db := { s.db with tenantCredentials := .empty }
    committed := { s.committed with tenantCredentials := .empty } }

/-- Sessions that differ in the encrypted columns alone. -/
structure Apart (s t : Session) : Prop where
  hidden : s.hide = t.hide
  rows : KeyedTable.Related SameButSecrets s.db.tenantCredentials t.db.tenantCredentials
  committed : KeyedTable.Related SameButSecrets s.committed.tenantCredentials
    t.committed.tenantCredentials

/-- What does not show the credentials is the same in both. -/
theorem Apart.same {s t : Session} (h : Apart s t) {τ : Type} (f : Session → τ) :
    f s.hide = f t.hide := congrArg f h.hidden

section

variable {env env' : Env} {α : Type}

/-- A read that does not see the credentials. -/
theorem agree_query {f : Database → α}
    (hf : ∀ db, f db = f { db with tenantCredentials := .empty }) :
    Agree Apart Eq (query f) (query f) := by
  intro s t h
  refine ⟨?_, h⟩
  rw [hf s.db, hf t.db]
  exact h.same fun u => f u.db

theorem agree_sessionGet {ρ : Type} [Keyed ρ String] (T : TableRef (KeyedTable ρ)) (key : String)
    (hT : ∀ db, T.get db = T.get { db with tenantCredentials := .empty }) :
    Agree Apart Eq (sessionGet T key) (sessionGet T key) :=
  agree_query fun db => by rw [hT db]

theorem agree_readClock (hnow : env.now = env'.now) :
    Agree Apart Eq (readClock env) (readClock env') := by
  intro s t h
  have hticks : s.ticks = t.ticks := h.same Session.ticks
  refine ⟨?_, h.same Session.ticked, h.rows, h.committed⟩
  rw [hnow, hticks]

theorem agree_ofExcept (x : Except Exc α) : Agree Apart Eq (ofExcept x) (ofExcept x) := by
  cases x with
  | ok a => exact Agree.pure rfl
  | error e => exact Agree.throw Eq e

theorem agree_raiseIf (c : Bool) (e : Exc) : Agree Apart Eq (raiseIf c e) (raiseIf c e) := by
  unfold raiseIf
  exact Agree.ite (Agree.throw Eq e) (Agree.pure rfl)

theorem agree_get {f g : Session → ApiM α}
    (h : ∀ s t, Apart s t → Agree Apart Eq (f s) (g t)) :
    Agree Apart Eq (get >>= f) (get >>= g) := Agree.bind (Q := Apart) (fun _ _ h => ⟨h, h⟩) h

/-- The checks of a caller do not look at credentials. -/
theorem agree_getPrincipal (hnow : env.now = env'.now) (auth : Authorization) :
    Agree Apart Eq (Deps.getPrincipal env auth) (Deps.getPrincipal env' auth) := by
  cases auth with
  | missing => exact Agree.throw Eq _
  | unsigned => exact Agree.throw Eq _
  | bearer token =>
    refine Agree.bind (agree_readClock hnow) fun now now' he => ?_
    subst he
    refine agree_get fun u v huv => ?_
    have hissued : u.issued = v.issued := huv.same Session.issued
    dsimp only
    rw [hissued]
    refine Agree.bind_eq (agree_ofExcept _) fun principal => ?_
    have hrevoked : Agree Apart Eq (TokenRepository.isRevoked token.jti)
        (TokenRepository.isRevoked token.jti) :=
      Agree.bind_eq (agree_sessionGet Tables.revokedTokens _ fun _ => rfl) fun _ => Agree.pure rfl
    refine Agree.bind_eq hrevoked fun revoked => ?_
    refine Agree.bind_eq (agree_raiseIf _ _) fun _ => ?_
    refine Agree.bind_eq (agree_sessionGet Tables.tenants _ fun _ => rfl) fun tenant => ?_
    exact Agree.bind_eq (agree_raiseIf _ _) fun _ => Agree.pure rfl

theorem agree_require (hnow : env.now = env'.now) (auth : Authorization) (perm : Permission) :
    Agree Apart Eq (Deps.require env auth perm) (Deps.require env' auth perm) := by
  refine Agree.bind (agree_getPrincipal hnow auth) fun principal principal' he => ?_
  subst he
  exact Agree.bind_eq (agree_raiseIf _ _) fun _ => Agree.pure rfl

/-- The audit entry is the same, the hash chain included. -/
theorem agree_recordEntry (rt : Runtime) (hnow : env.now = env'.now) (entry : AuditEntry) :
    Agree Apart Eq (AuditService.recordEntry rt env entry)
      (AuditService.recordEntry rt env' entry) := by
  intro s t h
  rw [AuditService.recordEntry_run, AuditService.recordEntry_run, ← hnow]
  refine ⟨rfl, ?_, h.rows, h.committed⟩
  exact h.same fun u => { u with
    db := { u.db with
      auditLog := AuditService.record rt.sha256 (env.now u.ticks) entry u.db.auditLog }
    ticks := u.ticks + 1 }

theorem agree_checkChoice (value : Option String) (valid : List String)
    (detail : String → String) :
    Agree Apart Eq (TenantRoutes.checkChoice value valid detail)
      (TenantRoutes.checkChoice value valid detail) := by
  cases value with
  | none => exact Agree.pure rfl
  | some v => exact agree_raiseIf _ _

end

/-! ## The two routes -/

namespace CredentialRepository

theorem agree_getRow (tenantId : String) :
    Agree Apart (Option.Rel SameButSecrets) (getRow tenantId) (getRow tenantId) :=
  fun _ _ h => ⟨h.rows.find? (fun _ _ hr => hr.key) tenantId, h⟩

/-- A view shows no secret, and whether one is set is no secret. -/
theorem agree_view (tenantId : String) : Agree Apart Eq (view tenantId) (view tenantId) := by
  refine Agree.bind (agree_getRow tenantId) fun o o' ho => ?_
  cases ho with
  | none => exact Agree.pure rfl
  | some hr => exact Agree.pure hr.view

/-- Rows that differ in their secrets are inserted in both sessions or in none. -/
theorem agree_insertRow {r r' : TenantCredentialRow} (hr : SameButSecrets r r') :
    Agree Apart Eq (insertRow Tables.tenantCredentials r)
      (insertRow Tables.tenantCredentials r') := by
  intro s t h
  have hs := insertRow_cases Tables.tenantCredentials r s
  have ht := insertRow_cases Tables.tenantCredentials r' t
  obtain ⟨hn, hn'⟩ | ⟨v, v', hv, hv', hrel⟩ := h.rows.insert? (fun _ _ hr => hr.key) hr
  · obtain ⟨_, hv, _⟩ | ⟨_, he⟩ := hs
    · cases hn.symm.trans hv
    · obtain ⟨_, hv', _⟩ | ⟨_, he'⟩ := ht
      · cases hn'.symm.trans hv'
      · rw [he, he']
        exact ⟨rfl, h⟩
  · obtain ⟨_, hu, he⟩ | ⟨hu, _⟩ := hs
    · obtain ⟨_, hu', he'⟩ | ⟨hu', _⟩ := ht
      · cases hu.symm.trans hv
        cases hu'.symm.trans hv'
        rw [he, he']
        exact ⟨rfl, h.hidden, hrel, h.committed⟩
      · cases hu'.symm.trans hv'
    · cases hu.symm.trans hv

/-- An upsert leaves the sessions apart. -/
theorem agree_upsert {env env' : Env} (henv : CipherNonempty env) (henv' : CipherNonempty env')
    (tenantId : String) {u u' : UpdateCredentials} (hu : SameUpdate u u') :
    Agree Apart SameButSecrets (upsert env tenantId u) (upsert env' tenantId u') := by
  refine Agree.bind (agree_getRow tenantId) fun o o' ho => ?_
  cases ho with
  | none =>
    have hnew := hu.apply henv henv' (SameButSecrets.refl { tenantId := tenantId })
    exact Agree.bind (agree_insertRow hnew) fun _ _ _ => Agree.pure hnew
  | @some r r' hr =>
    have hnew := hu.apply henv henv' hr
    refine Agree.bind (Q := Eq) ?_ fun _ _ _ => Agree.pure hnew
    intro s t h
    have hkey : r.tenantId = r'.tenantId := hr.key
    have hrel : KeyedTable.Related SameButSecrets
        (s.db.tenantCredentials.modify r.tenantId (u.apply env) fun _ => rfl)
        (t.db.tenantCredentials.modify r.tenantId (u'.apply env') fun _ => rfl) :=
      h.rows.modify (fun _ _ hr => hr.key) r.tenantId _ _ fun _ _ hrow => hu.apply henv henv' hrow
    rw [← hkey]
    exact ⟨rfl, h.hidden, hrel, h.committed⟩

end CredentialRepository

namespace TenantRoutes

variable {env env' : Env}

theorem agree_getCredentials (hnow : env.now = env'.now) (auth : Authorization) :
    Agree Apart Eq (getCredentials env auth) (getCredentials env' auth) := by
  refine Agree.bind (agree_require hnow auth .admin) fun p p' hp => ?_
  subst hp
  exact CredentialRepository.agree_view p.tenantId

theorem agree_updateCredentials (rt : Runtime) (hnow : env.now = env'.now)
    (henv : CipherNonempty env) (henv' : CipherNonempty env') (auth : Authorization)
    {u u' : UpdateCredentials} (hu : SameUpdate u u') :
    Agree Apart Eq (updateCredentials rt env auth u) (updateCredentials rt env' auth u') := by
  have hmode : u'.mode = u.mode := by rw [hu.fields]
  have hsplunk : u'.splunkBackend = u.splunkBackend := by rw [hu.fields]
  have hai : u'.aiBackend = u.aiBackend := by rw [hu.fields]
  unfold updateCredentials
  rw [hmode, hsplunk, hai, ← hu.changedFields_eq]
  refine Agree.bind (agree_require hnow auth .admin) fun p p' hp => ?_
  subst hp
  refine Agree.bind_eq (agree_checkChoice _ _ _) fun _ => ?_
  refine Agree.bind_eq (agree_checkChoice _ _ _) fun _ => ?_
  refine Agree.bind_eq (agree_checkChoice _ _ _) fun _ => ?_
  refine Agree.bind (CredentialRepository.agree_upsert henv henv' p.tenantId hu) fun _ _ _ => ?_
  refine Agree.bind (agree_recordEntry rt hnow _) fun _ _ _ => ?_
  exact CredentialRepository.agree_view p.tenantId

end TenantRoutes

/-! ## Runs -/

/-- Requests on the credentials that differ at most in the contents of non-empty secrets,
    made at the same times. -/
inductive SameEvent : Event → Event → Prop
  | put {env env' : Env} (hnow : env.now = env'.now) (auth : Authorization)
      {u u' : UpdateCredentials} (hu : SameUpdate u u') :
      SameEvent ⟨env, .admin auth (.updateCredentials u)⟩ ⟨env', .admin auth (.updateCredentials u')⟩
  | get {env env' : Env} (hnow : env.now = env'.now) (auth : Authorization) :
      SameEvent ⟨env, .read auth .credentials⟩ ⟨env', .read auth .credentials⟩

/-- What the client gets: the body, or the exception that becomes the error. -/
def answerOf : EStateM.Result Exc Session Body → Except Exc Body
  | .ok body _ => .ok body
  | .error e _ => .error e

/-- The answers to a sequence of requests. -/
def answersTo (rt : Runtime) : World → List Event → List (Except Exc Body)
  | _, [] => []
  | w, e :: es => answerOf (respond rt w e) :: answersTo rt (step rt w e) es

theorem agree_handle (rt : Runtime) {e e' : Event} (h : SameEvent e e')
    (he : CipherNonempty e.env) (he' : CipherNonempty e'.env) :
    Agree Apart Eq (handle rt e.env e.request) (handle rt e'.env e'.request) := by
  cases h with
  | put hnow auth hu =>
    exact Agree.map _ _ (TenantRoutes.agree_updateCredentials rt hnow he he' auth hu)
      fun _ _ hview => congrArg Body.credentials hview
  | get hnow auth =>
    exact Agree.map _ _ (TenantRoutes.agree_getCredentials hnow auth)
      fun _ _ hview => congrArg Body.credentials hview

/-- One request: the same answer, and the worlds stay apart. -/
theorem step_apart (rt : Runtime) {w w' : World} (hw : Apart w.session w'.session)
    {e e' : Event} (h : SameEvent e e') (he : CipherNonempty e.env) (he' : CipherNonempty e'.env) :
    answerOf (respond rt w e) = answerOf (respond rt w' e') ∧
      Apart (step rt w e).session (step rt w' e').session := by
  have hcommit : Agree Apart Eq commit commit := fun s t hst =>
    ⟨rfl, hst.same fun u => { u with committed := u.db }, hst.rows, hst.rows⟩
  have hrespond : Matches Apart Eq (respond rt w e) (respond rt w' e') := by
    refine Agree.bind (agree_handle rt h he he') (fun body body' hbody => ?_) _ _ hw
    subst hbody
    exact Agree.bind_eq hcommit fun _ => Agree.pure rfl
  have hopened : ∀ {s t : Session}, Apart s t →
      Apart (World.session ⟨s.committed, s.issued, s.captured⟩)
        (World.session ⟨t.committed, t.issued, t.captured⟩) := fun hst =>
    ⟨hst.same fun u => Session.start u.committed u.captured u.issued, hst.committed, hst.committed⟩
  unfold step
  cases hs : respond rt w e with
  | ok body s =>
    cases ht : respond rt w' e' with
    | ok body' t =>
      rw [hs, ht] at hrespond
      exact ⟨congrArg Except.ok hrespond.1, hopened hrespond.2⟩
    | error ex t =>
      rw [hs, ht] at hrespond
      exact hrespond.elim
  | error ex s =>
    cases ht : respond rt w' e' with
    | ok body' t =>
      rw [hs, ht] at hrespond
      exact hrespond.elim
    | error ex' t =>
      rw [hs, ht] at hrespond
      exact ⟨congrArg Except.error hrespond.1, hopened hrespond.2⟩

theorem run_apart (rt : Runtime) {es es' : List Event} (h : List.Forall₂ SameEvent es es') :
    ∀ {w w' : World}, Apart w.session w'.session → (∀ e ∈ es, CipherNonempty e.env) →
      (∀ e ∈ es', CipherNonempty e.env) →
      answersTo rt w es = answersTo rt w' es' ∧
        Apart (run rt w es).session (run rt w' es').session := by
  induction h with
  | nil => exact fun hw _ _ => ⟨rfl, hw⟩
  | cons he _ ih =>
    intro w w' hw hes hes'
    obtain ⟨hfirst, hes⟩ := List.forall_mem_cons.mp hes
    obtain ⟨hfirst', hes'⟩ := List.forall_mem_cons.mp hes'
    obtain ⟨hanswer, hnext⟩ := step_apart rt hw he hfirst hfirst'
    obtain ⟨hanswers, hend⟩ := ih hnext hes hes'
    exact ⟨congrArg₂ List.cons hanswer hanswers, hend⟩

/-- From one world, sequences of PUT and GET /tenant/credentials that differ only in the
    contents of non-empty secrets get the same answers and leave the same audit log, and their
    credential rows differ at most in the three encrypted columns. -/
theorem secrets_do_not_leak (rt : Runtime) (w : World) (es es' : List Event)
    (h : List.Forall₂ SameEvent es es') (hes : ∀ e ∈ es, CipherNonempty e.env)
    (hes' : ∀ e ∈ es', CipherNonempty e.env) :
    answersTo rt w es = answersTo rt w es' ∧
      (run rt w es).db.auditLog = (run rt w es').db.auditLog ∧
      List.Forall₂ SameButSecrets (run rt w es).db.tenantCredentials.rows
        (run rt w es').db.tenantCredentials.rows := by
  have hw : Apart w.session w.session :=
    ⟨rfl, KeyedTable.Related.refl SameButSecrets.refl _, KeyedTable.Related.refl SameButSecrets.refl _⟩
  obtain ⟨hanswers, hend⟩ := run_apart rt h hw hes hes'
  exact ⟨hanswers, hend.same fun u => u.db.auditLog, hend.rows⟩

/-- The admin stores a token for Splunk. -/
def storesToken (token : String) : Event :=
  adminRequest (.admin (.bearer adminToken) (.updateCredentials { splunkToken := some token }))

/-- Two different tokens, both accepted. -/
theorem secrets_do_not_leak_two :
    succeeds shortDigest (initech "pro") (storesToken "s3cret") = true ∧
    succeeds shortDigest (initech "pro") (storesToken "hunter2") = true ∧
    answersTo shortDigest (initech "pro") [storesToken "s3cret"] =
      answersTo shortDigest (initech "pro") [storesToken "hunter2"] := by
  refine ⟨by decide, by decide, ?_⟩
  have hsame : List.Forall₂ SameEvent [storesToken "s3cret"] [storesToken "hunter2"] :=
    List.Forall₂.cons (SameEvent.put rfl _ ⟨rfl, rfl, rfl, rfl⟩) List.Forall₂.nil
  have hcipher (token : String) : ∀ e ∈ [storesToken token], CipherNonempty e.env := by
    intro e he text htext
    rw [List.mem_singleton.mp he]
    exact htext
  exact (secrets_do_not_leak shortDigest (initech "pro") _ _ hsame (hcipher "s3cret")
    (hcipher "hunter2")).1

end SentinelAI
