import SentinelAI.Detection.Routing

/-
  When a tenant's stored credentials build its clients.

  A PUT checks each choice field by itself and writes the fields it was given; the clients
  check, when they are built, that what they need is there. Along a run every stored secret
  stays readable (`SecretsReadable.run`), so a client is built exactly when the row is
  complete (`credentials_usable_iff`).
-/

namespace SentinelAI

open Lib

/-! ## Complete rows -/

/-- The fields the tenant's Splunk client needs are there. -/
def TenantCredentialRow.SplunkComplete (row : TenantCredentialRow) : Prop :=
  row.mode = "byo" →
    (row.splunkBackend = "live" → row.splunkHost ≠ "" ∧ row.splunkTokenEnc ≠ "") ∧
      (row.splunkBackend = "mcp" → row.splunkMcpUrl ≠ "" ∧ row.splunkMcpTokenEnc ≠ "")

/-- The fields the tenant's model needs are there: one of the two urls it is reached under. -/
def TenantCredentialRow.ModelComplete (row : TenantCredentialRow) : Prop :=
  row.mode = "byo" → row.aiBackend = "live" → row.splunkMcpUrl ≠ "" ∨ row.splunkHost ≠ ""

instance (row : TenantCredentialRow) : Decidable row.SplunkComplete :=
  inferInstanceAs (Decidable (_ → _))

instance (row : TenantCredentialRow) : Decidable row.ModelComplete :=
  inferInstanceAs (Decidable (_ → _))

/-! ## Readable secrets -/

/-- What the key in use has encrypted, it decrypts. -/
def Inverts (rt : Runtime) (env : Env) : Prop :=
  ∀ text, text ≠ "" → rt.fernetDecrypt (env.fernetEncrypt text) = some text

/-- A stored secret: absent, or the token of a text. -/
def Readable (rt : Runtime) (secret : String) : Prop :=
  secret = "" ∨ ∃ text, text ≠ "" ∧ rt.fernetDecrypt secret = some text

/-- A row whose secrets can all be read. -/
structure SecretsReadable (rt : Runtime) (row : TenantCredentialRow) : Prop where
  splunk : Readable rt row.splunkTokenEnc
  mcp : Readable rt row.splunkMcpTokenEnc
  ai : Readable rt row.aiTokenEnc

section

variable {rt : Runtime} {env : Env}

/-- A readable secret decrypts, to a text that is empty only if there is no secret. -/
theorem Readable.decrypt {secret : String} (h : Readable rt secret) :
    ∃ text, decryptSecret rt secret = .ok text ∧ (text = "" ↔ secret = "") := by
  by_cases hempty : secret = ""
  · exact ⟨"", by simp [decryptSecret, hempty], by simp [hempty]⟩
  · obtain habsent | ⟨text, htext, hdecrypt⟩ := h
    · exact absurd habsent hempty
    · exact ⟨text, by simp [decryptSecret, hempty, hdecrypt], by simp [htext, hempty]⟩

theorem readable_encryptSecret (h : Inverts rt env) (text : String) :
    Readable rt (encryptSecret env text) := by
  by_cases hempty : text = ""
  · exact Or.inl (by simp [encryptSecret, hempty])
  · refine Or.inr ⟨text, hempty, ?_⟩
    have henc : encryptSecret env text = env.fernetEncrypt text := by simp [encryptSecret, hempty]
    rw [henc]
    exact h text hempty

/-- A secret after an update: encrypted anew, or the stored one. -/
theorem readable_updated (h : Inverts rt env) (given : Option String) {secret : String}
    (hold : Readable rt secret) :
    Readable rt ((given.map (encryptSecret env)).getD secret) := by
  cases given with
  | none => exact hold
  | some text => exact readable_encryptSecret h text

theorem SecretsReadable.apply (h : Inverts rt env) (u : UpdateCredentials)
    {row : TenantCredentialRow} (hrow : SecretsReadable rt row) :
    SecretsReadable rt (u.apply env row) where
  splunk := readable_updated h u.splunkToken hrow.splunk
  mcp := readable_updated h u.splunkMcpToken hrow.mcp
  ai := readable_updated h u.aiToken hrow.ai

/-- The row a tenant's first update starts from. -/
theorem secretsReadable_default (rt : Runtime) (tenantId : String) :
    SecretsReadable rt { tenantId := tenantId } := ⟨Or.inl rfl, Or.inl rfl, Or.inl rfl⟩

end

/-! ## When the clients are built -/

section

variable {rt : Runtime} {row : TenantCredentialRow}

theorem LiveSplunkClient.init_isOk_iff (host token : String) :
    (∃ c, LiveSplunkClient.init host token = .ok c) ↔ host ≠ "" ∧ token ≠ "" := by
  unfold LiveSplunkClient.init
  by_cases hhost : host = "" <;> by_cases htoken : token = "" <;> simp [hhost, htoken]

theorem McpSplunkClient.init_isOk_iff (url token : String) :
    (∃ c, McpSplunkClient.init url token = .ok c) ↔ url ≠ "" ∧ token ≠ "" := by
  unfold McpSplunkClient.init
  by_cases hurl : url = "" <;> by_cases htoken : token = "" <;> simp [hurl, htoken]

theorem LiveAIModel.init_isOk_iff (baseUrl model token : String) :
    (∃ m, LiveAIModel.init baseUrl model token = .ok m) ↔ baseUrl ≠ "" := by
  unfold LiveAIModel.init
  by_cases hurl : baseUrl = "" <;> simp [hurl]

/-- The tenant's Splunk client is built exactly if its row is complete. -/
theorem resolveSplunkClient_isOk_iff (hrow : SecretsReadable rt row) (shared : SplunkClient) :
    (∃ c, resolveSplunkClient rt (some row) shared = .ok c) ↔ row.SplunkComplete := by
  obtain ⟨token, htoken, hset⟩ := hrow.splunk.decrypt
  obtain ⟨mcpToken, hmcpToken, hmcpSet⟩ := hrow.mcp.decrypt
  have hlive := LiveSplunkClient.init_isOk_iff row.splunkHost token
  have hmcp := McpSplunkClient.init_isOk_iff row.splunkMcpUrl mcpToken
  rw [ne_eq token, hset] at hlive
  rw [ne_eq mcpToken, hmcpSet] at hmcp
  unfold resolveSplunkClient TenantCredentialRow.SplunkComplete
  dsimp only
  rw [htoken, hmcpToken]
  by_cases hbyo : row.mode = "byo"
  · by_cases hl : row.splunkBackend = "live"
    · simpa [hbyo, hl, bind, Except.bind] using hlive
    · by_cases hm : row.splunkBackend = "mcp"
      · simpa [hbyo, hm, bind, Except.bind] using hmcp
      · simp [hbyo, hl, hm]
  · simp [hbyo]

/-- The tenant's model is built exactly if its row is complete. -/
theorem resolveAiModel_isOk_iff (hrow : SecretsReadable rt row) (shared : AIModel) :
    (∃ m, resolveAiModel rt (some row) shared = .ok m) ↔ row.ModelComplete := by
  obtain ⟨token, htoken, _⟩ := hrow.ai.decrypt
  unfold resolveAiModel TenantCredentialRow.ModelComplete
  dsimp only
  rw [htoken]
  by_cases hbyo : row.mode = "byo"
  · by_cases hl : row.aiBackend = "live"
    · have hurl : (if row.splunkMcpUrl != "" then row.splunkMcpUrl else row.splunkHost) ≠ "" ↔
          row.splunkMcpUrl ≠ "" ∨ row.splunkHost ≠ "" := by
        by_cases hu : row.splunkMcpUrl = "" <;> simp [hu]
      have hinit := (LiveAIModel.init_isOk_iff
        (if row.splunkMcpUrl != "" then row.splunkMcpUrl else row.splunkHost)
        (if row.aiModel != "" then row.aiModel else "Foundation-Sec-1.1-8B-Instruct") token).trans
        hurl
      simpa [hbyo, hl, bind, Except.bind] using hinit
    · simp [hbyo, hl]
  · simp [hbyo]

end

/-! ## The rows of a run -/

section

variable {rt : Runtime} {w : World}

namespace CredentialRepository

/-- The stored row of a tenant, or the one an update would start from. -/
def rowAt (s : Session) (tenantId : String) : TenantCredentialRow :=
  (s.db.tenantCredentials.find? tenantId).getD { tenantId := tenantId }

/-- An update returns. It is applied to the tenant's row, and every other row is as before. -/
theorem upsert_run (env : Env) (tenantId : String) (u : UpdateCredentials) (s : Session) :
    ∃ row t, (upsert env tenantId u).run s = .ok row t ∧
      t.db.tenantCredentials.find? tenantId = some (u.apply env (rowAt s tenantId)) ∧
      ∀ other, other ≠ tenantId →
        t.db.tenantCredentials.find? other = s.db.tenantCredentials.find? other := by
  have hget : (getRow tenantId).run s = .ok (s.db.tenantCredentials.find? tenantId) s := rfl
  unfold upsert rowAt
  rw [run_bind_ok hget]
  cases hfind : s.db.tenantCredentials.find? tenantId with
  | none =>
    dsimp only
    obtain ⟨table, hins, hrun⟩ | ⟨hins, _⟩ :=
      insertRow_cases Tables.tenantCredentials (u.apply env { tenantId := tenantId }) s
    · obtain ⟨_, hself, hothers⟩ := KeyedTable.find?_insert? hins
      exact ⟨_, _, run_bind_ok hrun, hself, hothers⟩
    · have htaken := KeyedTable.insert?_eq_none.mp hins
      rw [show Tables.tenantCredentials.get s.db = s.db.tenantCredentials from rfl,
        show Keyed.key (u.apply env { tenantId := tenantId }) = tenantId from rfl, hfind] at htaken
      cases htaken
  | some stored =>
    have hkey : stored.tenantId = tenantId := ((KeyedTable.find?_eq_some _ _ _).mp hfind).2
    refine ⟨_, _, rfl, ?_, fun other hother => ?_⟩
    · rw [← hkey] at hfind ⊢
      exact KeyedTable.find?_modify_self (f := u.apply env) (fun _ => rfl) hfind
    · rw [← hkey] at hother
      exact KeyedTable.find?_modify_ne (f := u.apply env) (fun _ => rfl) hother

/-- The rows an update leaves: the stored ones, and one the update was applied to. -/
theorem upsert_rows {env : Env} {tenantId : String} {u : UpdateCredentials}
    {s t : Session} {new : TenantCredentialRow} (h : (upsert env tenantId u).run s = .ok new t) :
    ∀ row ∈ t.db.tenantCredentials.rows, row ∈ s.db.tenantCredentials.rows ∨
      ∃ old, (old ∈ s.db.tenantCredentials.rows ∨ old = { tenantId := tenantId }) ∧
        row = u.apply env old := by
  obtain ⟨_, t', hrun, hself, hothers⟩ := upsert_run env tenantId u s
  cases hrun.symm.trans h
  intro row hmem
  have hfind := (t.db.tenantCredentials.find?_eq_some row.tenantId row).mpr ⟨hmem, rfl⟩
  by_cases hkey : row.tenantId = tenantId
  · rw [hkey, hself] at hfind
    obtain rfl := Option.some.inj hfind
    refine Or.inr ⟨rowAt s tenantId, ?_, rfl⟩
    unfold rowAt
    cases hstored : s.db.tenantCredentials.find? tenantId with
    | none => exact Or.inr rfl
    | some stored => exact Or.inl ((KeyedTable.find?_eq_some _ _ _).mp hstored).1
  · rw [hothers row.tenantId hkey] at hfind
    exact Or.inl ((KeyedTable.find?_eq_some _ _ _).mp hfind).1

end CredentialRepository

theorem TenantRoutes.checkChoice_ok {value : Option String} {valid : List String}
    {detail : String → String} {s t : Session} {x : Unit}
    (h : (TenantRoutes.checkChoice value valid detail).run s = .ok x t) : t = s := by
  cases value with
  | none =>
    cases h
    rfl
  | some c => exact (raiseIf_eq_ok.mp h).2

theorem TenantRoutes.updateCredentials_rows {env : Env} {auth : Authorization}
    {body : UpdateCredentials} {s t : Session} {view : CredentialView}
    (h : (TenantRoutes.updateCredentials rt env auth body).run s = .ok view t) :
    ∀ row ∈ t.db.tenantCredentials.rows, row ∈ s.db.tenantCredentials.rows ∨
      ∃ old, (old ∈ s.db.tenantCredentials.rows ∨ old = { tenantId := old.tenantId }) ∧
        row = body.apply env old := by
  unfold TenantRoutes.updateCredentials at h
  simp only [run_bind_eq_ok, require_eq_ok] at h
  obtain ⟨p, _, ⟨_, rfl⟩, _, _, hmode, _, _, hsplunk, _, _, hai, new, v, hupsert, _, _, haudit,
    hview⟩ := h
  obtain rfl := TenantRoutes.checkChoice_ok hmode
  obtain rfl := TenantRoutes.checkChoice_ok hsplunk
  obtain rfl := TenantRoutes.checkChoice_ok hai
  rw [AuditService.recordEntry_run] at haudit
  cases haudit
  have hviewed := (CredentialRepository.view_touches (F := [Resource.auditLog])
    p.tenantId).moves.of_ok hview
  have hrows : t.db.tenantCredentials = v.db.tenantCredentials :=
    (hviewed .tenantCredentials (by decide)).1
  intro row hmem
  rw [hrows] at hmem
  obtain hkept | ⟨old, hold, hnew⟩ := CredentialRepository.upsert_rows hupsert row hmem
  · exact Or.inl hkept
  · refine Or.inr ⟨old, hold.imp_right fun he => ?_, hnew⟩
    rw [he]

/-- The rows a request leaves: the stored ones, and those an answered update was applied to. -/
theorem credential_rows (e : Event) :
    ∀ row ∈ (step rt w e).db.tenantCredentials.rows, row ∈ w.db.tenantCredentials.rows ∨
      ∃ body old, (old ∈ w.db.tenantCredentials.rows ∨ old = { tenantId := old.tenantId }) ∧
        row = UpdateCredentials.apply e.env body old := by
  intro row hmem
  by_cases hupdate : ∃ auth body, e.request = .admin auth (.updateCredentials body)
  · obtain ⟨auth, body, he⟩ := hupdate
    obtain ⟨b, t, hrun, hdb⟩ | ⟨_, hdb⟩ :=
      step_db rt (w := w) (e := e) (by rw [he]; simp [footprint])
    · rw [hdb] at hmem
      obtain ⟨view, hroute, rfl⟩ := (handled_eq_ok he rfl).mp hrun
      obtain hkept | ⟨old, hold, hnew⟩ := TenantRoutes.updateCredentials_rows hroute row hmem
      · exact Or.inl hkept
      · exact Or.inr ⟨body, old, hold, hnew⟩
    · rw [hdb] at hmem
      exact Or.inl hmem
  · have hkept : (step rt w e).db.tenantCredentials = w.db.tenantCredentials := by
      refine step_kept .tenantCredentials ?_
      cases he : e.request with
      | admin auth r =>
        cases r with
        | updateCredentials body => exact absurd ⟨auth, body, he⟩ hupdate
        | _ => simp [writes]
      | case auth invId r => cases r <;> simp [writes]
      | provider auth r => cases r <;> simp [writes]
      | _ => simp [writes]
    exact Or.inl (hkept ▸ hmem)

/-- Along a run every stored secret stays readable. -/
theorem secretsReadable_run {es : List Event}
    (hw : ∀ row ∈ w.db.tenantCredentials.rows, SecretsReadable rt row)
    (hes : ∀ e ∈ es, Inverts rt e.env) :
    ∀ row ∈ (run rt w es).db.tenantCredentials.rows, SecretsReadable rt row := by
  induction es generalizing w with
  | nil => exact hw
  | cons e es ih =>
    obtain ⟨he, hes⟩ := List.forall_mem_cons.mp hes
    refine ih (w := step rt w e) (fun row hrow => ?_) hes
    obtain hkept | ⟨body, old, hold, rfl⟩ := credential_rows e row hrow
    · exact hw row hkept
    · refine SecretsReadable.apply he body ?_
      obtain hold | hold := hold
      · exact hw old hold
      · rw [hold]
        exact secretsReadable_default rt old.tenantId

end

/-! ## The clients of a run -/

/-- In every state a run reaches from readable rows, whatever the updates in it: a tenant's
    Splunk client is built exactly if its row has the fields it needs, its model likewise, and
    a run endpoint gets its clients exactly if both are built. -/
theorem credentials_usable_iff (rt : Runtime) (w : World) (es : List Event)
    (hw : ∀ row ∈ w.db.tenantCredentials.rows, SecretsReadable rt row)
    (hes : ∀ e ∈ es, Inverts rt e.env) (tenantId : String) :
    ((∃ c, resolveSplunkClient rt ((run rt w es).db.tenantCredentials.find? tenantId) .managed =
        .ok c) ↔
      ∀ row ∈ (run rt w es).db.tenantCredentials.find? tenantId, row.SplunkComplete) ∧
    ((∃ m, resolveAiModel rt ((run rt w es).db.tenantCredentials.find? tenantId) .managed =
        .ok m) ↔
      ∀ row ∈ (run rt w es).db.tenantCredentials.find? tenantId, row.ModelComplete) ∧
    (∀ p : Principal, p.tenantId = tenantId → ∀ s : Session, s.db = (run rt w es).db →
      ((∃ orch, (Deps.getTenantOrchestrator rt p).run s = .ok orch s) ↔
        ∀ row ∈ (run rt w es).db.tenantCredentials.find? tenantId,
          row.SplunkComplete ∧ row.ModelComplete)) := by
  have hread := secretsReadable_run hw hes
  generalize (run rt w es).db = db at hread ⊢
  have hclients : ((∃ c, resolveSplunkClient rt (db.tenantCredentials.find? tenantId) .managed =
        .ok c) ↔ ∀ row ∈ db.tenantCredentials.find? tenantId, row.SplunkComplete) ∧
      ((∃ m, resolveAiModel rt (db.tenantCredentials.find? tenantId) .managed = .ok m) ↔
        ∀ row ∈ db.tenantCredentials.find? tenantId, row.ModelComplete) := by
    cases hfind : db.tenantCredentials.find? tenantId with
    | none => simp [resolveSplunkClient, resolveAiModel]
    | some row =>
      have hrow := hread row (KeyedTable.find?_eq_some _ _ _ |>.mp hfind).1
      simp only [Option.mem_some_iff, forall_eq']
      exact ⟨resolveSplunkClient_isOk_iff hrow _, resolveAiModel_isOk_iff hrow _⟩
  refine ⟨hclients.1, hclients.2, ?_⟩
  rintro p rfl s rfl
  have hboth : (∃ orch, Resolves rt s.db p.tenantId orch) ↔
      ∀ row ∈ s.db.tenantCredentials.find? p.tenantId, row.SplunkComplete ∧ row.ModelComplete := by
    constructor
    · rintro ⟨orch, hsplunk, hmodel⟩ row hrow
      exact ⟨hclients.1.mp ⟨_, hsplunk⟩ row hrow, hclients.2.mp ⟨_, hmodel⟩ row hrow⟩
    · intro hcomplete
      obtain ⟨c, hsplunk⟩ := hclients.1.mpr fun row hrow => (hcomplete row hrow).1
      obtain ⟨m, hmodel⟩ := hclients.2.mpr fun row hrow => (hcomplete row hrow).2
      exact ⟨⟨c, m⟩, hsplunk, hmodel⟩
  rw [← hboth]
  simp only [getTenantOrchestrator_eq_ok, and_true]

/-! ## A configuration in two updates -/

/-- A runtime and an environment of one key: a token is a text behind a mark. -/
def markedSecrets : Runtime :=
  { shortDigest with
    fernetDecrypt := fun token =>
      match token.toList with
      | 'g' :: text => some (String.ofList text)
      | _ => none }

def markingEnv : Env where
  now := fun _ => 0
  uuid4 := fun _ => ""
  fernetEncrypt := fun text => String.ofList ('g' :: text.toList)

theorem inverts_marking : Inverts markedSecrets markingEnv := by
  intro text _
  simp [markedSecrets, markingEnv]

/-- The admin of `initech` updates its credentials. -/
def configure (body : UpdateCredentials) : Event where
  env := markingEnv
  request := .admin (.bearer adminToken) (.updateCredentials body)

/-- The tenant turns to a Splunk of its own, and names it in a second update. -/
def chooseLive : Event := configure { mode := some "byo", splunkBackend := some "live" }

def nameSplunk : Event :=
  configure { splunkHost := some "splunk.initech.test", splunkToken := some "s3cret" }

/-- After both updates the run endpoints of its admin get their clients. -/
theorem credentials_usable_named :
    ∃ orch, (Deps.getTenantOrchestrator markedSecrets adminToken.principal).run
        (run markedSecrets (initech "pro") [chooseLive, nameSplunk]).session =
      .ok orch (run markedSecrets (initech "pro") [chooseLive, nameSplunk]).session := by
  refine ((credentials_usable_iff markedSecrets (initech "pro") [chooseLive, nameSplunk]
    (by simp [initech, Database.empty, KeyedTable.empty]) ?_ "t1").2.2 adminToken.principal rfl
      _ rfl).mpr ?_
  · simp only [List.mem_cons, List.not_mem_nil, or_false]
    rintro e (rfl | rfl)
    · exact inverts_marking
    · exact inverts_marking
  · decide +kernel

/-- The step is an update of credentials that is answered. -/
def AcceptsUpdate (rt : Runtime) (w : World) (e : Event) : Prop :=
  (∃ auth body, e.request = .admin auth (.updateCredentials body)) ∧ succeeds rt w e = true

/-- After the first one alone there is no Splunk client. -/
theorem accepted_unusable :
    ¬ ∀ (rt : Runtime) (w w' : World) (es : List Event),
      (∀ row ∈ w.db.tenantCredentials.rows, SecretsReadable rt row) →
      (∀ e ∈ es, Inverts rt e.env) →
      Steps (Guarded (Stepped rt) (AcceptsUpdate rt)) w es w' →
      ∀ tenantId, (∃ c, resolveSplunkClient rt (w'.db.tenantCredentials.find? tenantId) .managed =
          .ok c) ∧
        ∃ m, resolveAiModel rt (w'.db.tenantCredentials.find? tenantId) .managed = .ok m := by
  intro h
  obtain ⟨⟨c, hc⟩, _⟩ := h markedSecrets (initech "pro") _ [chooseLive]
    (by simp [initech, Database.empty, KeyedTable.empty])
    (List.forall_mem_singleton.mpr inverts_marking)
    (Steps.cons ⟨rfl, ⟨_, _, rfl⟩, by decide +kernel⟩ (Steps.nil _)) "t1"
  have herr : resolveSplunkClient markedSecrets
      ((step markedSecrets (initech "pro") chooseLive).db.tenantCredentials.find? "t1") .managed =
        .error (.splunk (.connection "Splunk host not configured")) := by decide +kernel
  cases herr.symm.trans hc

end SentinelAI
