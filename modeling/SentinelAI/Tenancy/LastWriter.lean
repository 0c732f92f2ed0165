import SentinelAI.Tenancy.SecretPrivacy
import SentinelAI.Tenancy.UsableCredentials

/-
  The last writer of a credential field wins. After any calls of `upsert`, for any tenants in
  any order, each field of a tenant's row is what was last given for it, or the column default;
  a secret is the token of what was last given, or nothing.

  `LastWritten` ties a row to the calls so far. A call for the tenant extends it by one
  (`LastWritten.apply`), a call for another leaves the row alone (`upsert_run`).
-/

namespace SentinelAI

open Lib

/-- One call of `CredentialRepository.upsert`, with the nonces drawn for it. -/
structure UpsertCall where
  env : Env
  tenantId : String
  args : UpdateCredentials

/-- The calls one after another. -/
def upsertAll (calls : List UpsertCall) : ApiM Unit :=
  calls.forM fun c => do
    let _ ← CredentialRepository.upsert c.env c.tenantId c.args

/-- The last value that was given for a tenant's field, `None` being none. -/
def lastGiven (field : UpdateCredentials → Option String) (tenantId : String)
    (calls : List UpsertCall) : Option String :=
  ((calls.filter fun c => c.tenantId == tenantId).filterMap fun c => field c.args).getLast?

section

variable {tenantId : String} {calls : List UpsertCall} {c : UpsertCall}

/-- A call for the tenant counts if it gives the field. -/
theorem lastGiven_snoc (h : c.tenantId = tenantId) (field : UpdateCredentials → Option String)
    (default : String) :
    (lastGiven field tenantId (calls ++ [c])).getD default =
      (field c.args).getD ((lastGiven field tenantId calls).getD default) := by
  have hc : [c].filter (fun c => c.tenantId == tenantId) = [c] :=
    List.filter_cons_of_pos (beq_iff_eq.mpr h)
  unfold lastGiven
  rw [List.filter_append, List.filterMap_append, hc, List.getLast?_append, Option.getD_or]
  cases hfield : field c.args with
  | none =>
    have hlast : [c].filterMap (fun c => field c.args) = [] := List.filterMap_cons_none hfield
    rw [hlast]
    rfl
  | some value =>
    have hlast : [c].filterMap (fun c => field c.args) = [value] :=
      List.filterMap_cons_some hfield
    rw [hlast]
    rfl

theorem lastGiven_snoc_other (h : c.tenantId ≠ tenantId)
    (field : UpdateCredentials → Option String) :
    lastGiven field tenantId (calls ++ [c]) = lastGiven field tenantId calls := by
  have hc : [c].filter (fun c => c.tenantId == tenantId) = [] :=
    List.filter_cons_of_neg (by simpa using h)
  unfold lastGiven
  rw [List.filter_append, hc, List.append_nil]

theorem lastGiven_eq_none (h : ∀ c ∈ calls, c.tenantId ≠ tenantId)
    (field : UpdateCredentials → Option String) : lastGiven field tenantId calls = none := by
  have hnone : calls.filter (fun c => c.tenantId == tenantId) = [] :=
    List.filter_eq_nil_iff.mpr fun c hc => by simpa using h c hc
  unfold lastGiven
  rw [hnone]
  rfl

end

/-! ## Secrets -/

/-- A stored secret decrypts to this text, and shows as set if the text is not empty. -/
structure SecretHolds (rt : Runtime) (secret text : String) : Prop where
  decrypts : decryptSecret rt secret = .ok text
  shown : (secret != "") = (text != "")

section

variable {rt : Runtime} {env : Env}

theorem secretHolds_encryptSecret (hinv : Inverts rt env) (hcipher : CipherNonempty env)
    (text : String) : SecretHolds rt (encryptSecret env text) text := by
  refine ⟨?_, encryptSecret_ne_empty hcipher text⟩
  by_cases hempty : text = ""
  · simp [encryptSecret, decryptSecret, hempty]
  · have htoken : env.fernetEncrypt text ≠ "" := hcipher text hempty
    have henc : encryptSecret env text = env.fernetEncrypt text := if_neg (by simpa using hempty)
    rw [henc, decryptSecret, if_neg (by simpa using htoken), hinv text hempty]

/-- A secret column after a call: the token of what was given, or what it was. -/
theorem SecretHolds.update (hinv : Inverts rt env) (hcipher : CipherNonempty env)
    {secret text : String} (h : SecretHolds rt secret text) (given : Option String) :
    SecretHolds rt ((given.map (encryptSecret env)).getD secret) (given.getD text) := by
  cases given with
  | none => exact h
  | some new => exact secretHolds_encryptSecret hinv hcipher new

end

/-! ## The row and its history -/

/-- Each field of the row is what the calls last gave for it. -/
structure LastWritten (rt : Runtime) (tenantId : String) (calls : List UpsertCall)
    (row : TenantCredentialRow) : Prop where
  key : row.tenantId = tenantId
  mode : row.mode = (lastGiven UpdateCredentials.mode tenantId calls).getD "managed"
  splunkBackend : row.splunkBackend =
    (lastGiven UpdateCredentials.splunkBackend tenantId calls).getD "mock"
  splunkHost : row.splunkHost = (lastGiven UpdateCredentials.splunkHost tenantId calls).getD ""
  splunkToken : SecretHolds rt row.splunkTokenEnc
    ((lastGiven UpdateCredentials.splunkToken tenantId calls).getD "")
  splunkMcpUrl : row.splunkMcpUrl =
    (lastGiven UpdateCredentials.splunkMcpUrl tenantId calls).getD ""
  splunkMcpToken : SecretHolds rt row.splunkMcpTokenEnc
    ((lastGiven UpdateCredentials.splunkMcpToken tenantId calls).getD "")
  aiBackend : row.aiBackend = (lastGiven UpdateCredentials.aiBackend tenantId calls).getD "mock"
  aiModel : row.aiModel = (lastGiven UpdateCredentials.aiModel tenantId calls).getD ""
  aiToken : SecretHolds rt row.aiTokenEnc
    ((lastGiven UpdateCredentials.aiToken tenantId calls).getD "")

/-- The view of a tenant after the calls. -/
def lastView (tenantId : String) (calls : List UpsertCall) : CredentialView where
  mode := (lastGiven UpdateCredentials.mode tenantId calls).getD "managed"
  splunkBackend := (lastGiven UpdateCredentials.splunkBackend tenantId calls).getD "mock"
  splunkHost := (lastGiven UpdateCredentials.splunkHost tenantId calls).getD ""
  splunkTokenSet := (lastGiven UpdateCredentials.splunkToken tenantId calls).getD "" != ""
  splunkMcpUrl := (lastGiven UpdateCredentials.splunkMcpUrl tenantId calls).getD ""
  splunkMcpTokenSet := (lastGiven UpdateCredentials.splunkMcpToken tenantId calls).getD "" != ""
  aiBackend := (lastGiven UpdateCredentials.aiBackend tenantId calls).getD "mock"
  aiModel := (lastGiven UpdateCredentials.aiModel tenantId calls).getD ""
  aiTokenSet := (lastGiven UpdateCredentials.aiToken tenantId calls).getD "" != ""

/-- The managed default, the view of a tenant that was never written. -/
def managedView : CredentialView where
  mode := "managed"
  splunkBackend := "mock"
  splunkHost := ""
  splunkTokenSet := false
  splunkMcpUrl := ""
  splunkMcpTokenSet := false
  aiBackend := "mock"
  aiModel := ""
  aiTokenSet := false

section

variable {rt : Runtime} {tenantId : String} {calls : List UpsertCall} {row : TenantCredentialRow}

/-- The row a tenant's first update starts from. -/
theorem lastWritten_nil (rt : Runtime) (tenantId : String) :
    LastWritten rt tenantId [] { tenantId := tenantId } := by
  constructor
  case splunkToken | splunkMcpToken | aiToken => exact ⟨rfl, rfl⟩
  all_goals rfl

/-- A call for the tenant. -/
theorem LastWritten.apply (h : LastWritten rt tenantId calls row) {c : UpsertCall}
    (hc : c.tenantId = tenantId) (hinv : Inverts rt c.env) (hcipher : CipherNonempty c.env) :
    LastWritten rt tenantId (calls ++ [c]) (c.args.apply c.env row) where
  key := h.key
  mode := by
    rw [lastGiven_snoc hc, ← h.mode]
    rfl
  splunkBackend := by
    rw [lastGiven_snoc hc, ← h.splunkBackend]
    rfl
  splunkHost := by
    rw [lastGiven_snoc hc, ← h.splunkHost]
    rfl
  splunkToken := by
    rw [lastGiven_snoc hc]
    exact h.splunkToken.update hinv hcipher c.args.splunkToken
  splunkMcpUrl := by
    rw [lastGiven_snoc hc, ← h.splunkMcpUrl]
    rfl
  splunkMcpToken := by
    rw [lastGiven_snoc hc]
    exact h.splunkMcpToken.update hinv hcipher c.args.splunkMcpToken
  aiBackend := by
    rw [lastGiven_snoc hc, ← h.aiBackend]
    rfl
  aiModel := by
    rw [lastGiven_snoc hc, ← h.aiModel]
    rfl
  aiToken := by
    rw [lastGiven_snoc hc]
    exact h.aiToken.update hinv hcipher c.args.aiToken

/-- A call for another tenant. -/
theorem LastWritten.skip (h : LastWritten rt tenantId calls row) {c : UpsertCall}
    (hc : c.tenantId ≠ tenantId) : LastWritten rt tenantId (calls ++ [c]) row where
  key := h.key
  mode := by
    rw [lastGiven_snoc_other hc]
    exact h.mode
  splunkBackend := by
    rw [lastGiven_snoc_other hc]
    exact h.splunkBackend
  splunkHost := by
    rw [lastGiven_snoc_other hc]
    exact h.splunkHost
  splunkToken := by
    rw [lastGiven_snoc_other hc]
    exact h.splunkToken
  splunkMcpUrl := by
    rw [lastGiven_snoc_other hc]
    exact h.splunkMcpUrl
  splunkMcpToken := by
    rw [lastGiven_snoc_other hc]
    exact h.splunkMcpToken
  aiBackend := by
    rw [lastGiven_snoc_other hc]
    exact h.aiBackend
  aiModel := by
    rw [lastGiven_snoc_other hc]
    exact h.aiModel
  aiToken := by
    rw [lastGiven_snoc_other hc]
    exact h.aiToken

theorem LastWritten.view (h : LastWritten rt tenantId calls row) :
    credentialView row = lastView tenantId calls := by
  unfold credentialView lastView
  rw [h.mode, h.splunkBackend, h.splunkHost, h.splunkToken.shown, h.splunkMcpUrl,
    h.splunkMcpToken.shown, h.aiBackend, h.aiModel, h.aiToken.shown]

theorem lastView_managed (h : ∀ c ∈ calls, c.tenantId ≠ tenantId) :
    lastView tenantId calls = managedView := by
  have hnone := lastGiven_eq_none h
  unfold lastView
  simp only [hnone]
  rfl

end

/-! ## The calls in a session -/

namespace CredentialRepository

theorem view_run (tenantId : String) (s : Session) :
    (view tenantId).run s = .ok (credentialView (rowAt s tenantId)) s := by
  have hget : (getRow tenantId).run s = .ok (s.db.tenantCredentials.find? tenantId) s := rfl
  unfold view rowAt
  rw [run_bind_ok hget]
  cases s.db.tenantCredentials.find? tenantId with
  | none => rfl
  | some row => rfl

/-- The tenant's row is what the calls made of it, and is stored once one was for the tenant. -/
structure WrittenBy (rt : Runtime) (tenantId : String) (calls : List UpsertCall) (s : Session) :
    Prop where
  row : LastWritten rt tenantId calls (rowAt s tenantId)
  stored : (s.db.tenantCredentials.find? tenantId).isSome ↔ ∃ c ∈ calls, c.tenantId = tenantId

variable {rt : Runtime} {tenantId : String} {calls : List UpsertCall} {s : Session}

/-- One call more. -/
theorem WrittenBy.step (h : WrittenBy rt tenantId calls s) (c : UpsertCall)
    (hinv : Inverts rt c.env) (hcipher : CipherNonempty c.env) :
    ∃ row t, (upsert c.env c.tenantId c.args).run s = .ok row t ∧
      WrittenBy rt tenantId (calls ++ [c]) t := by
  obtain ⟨row, t, hrun, hself, hothers⟩ := upsert_run c.env c.tenantId c.args s
  refine ⟨row, t, hrun, ?_⟩
  by_cases hc : c.tenantId = tenantId
  · have hrow : rowAt t tenantId = c.args.apply c.env (rowAt s tenantId) := by
      unfold rowAt
      rw [← hc, hself]
      rfl
    refine ⟨?_, ?_⟩
    · rw [hrow]
      exact h.row.apply hc hinv hcipher
    · rw [← hc, hself]
      exact iff_of_true rfl ⟨c, List.mem_append_right _ (List.mem_singleton_self c), rfl⟩
  · have hsame := hothers tenantId (Ne.symm hc)
    refine ⟨?_, ?_⟩
    · unfold rowAt
      rw [hsame]
      exact h.row.skip hc
    · rw [hsame, h.stored]
      simp [or_and_right, exists_or, hc]

/-- The calls one after another. -/
theorem WrittenBy.run (later : List UpsertCall) (h : WrittenBy rt tenantId calls s)
    (hinv : ∀ c ∈ later, Inverts rt c.env) (hcipher : ∀ c ∈ later, CipherNonempty c.env) :
    ∃ t, (upsertAll later).run s = .ok () t ∧ WrittenBy rt tenantId (calls ++ later) t := by
  induction later generalizing calls s with
  | nil => exact ⟨s, rfl, by rw [List.append_nil]; exact h⟩
  | cons c later ih =>
    obtain ⟨hc, hinv⟩ := List.forall_mem_cons.mp hinv
    obtain ⟨hc', hcipher⟩ := List.forall_mem_cons.mp hcipher
    obtain ⟨row, u, hrun, hu⟩ := h.step c hc hc'
    obtain ⟨t, hrest, ht⟩ := ih hu hinv hcipher
    refine ⟨t, ?_, by rw [List.append_cons]; exact ht⟩
    have hcall : (do let _ ← upsert c.env c.tenantId c.args : ApiM Unit).run s = .ok () u :=
      run_bind_ok hrun
    have hcons : (upsertAll (c :: later)).run s = (upsertAll later).run u := run_bind_ok hcall
    exact hcons.trans hrest

/-- Whatever updates were made, for this tenant and others, a tenant's row is what was last
    given for it field by field, and its view shows that; a tenant without an update has the
    managed default. An update for another tenant leaves the row alone. -/
theorem upserts_last_writer_wins (rt : Runtime) (tenantId : String) (calls : List UpsertCall)
    (s : Session) (hnew : s.db.tenantCredentials.find? tenantId = none)
    (hinv : ∀ c ∈ calls, Inverts rt c.env) (hcipher : ∀ c ∈ calls, CipherNonempty c.env) :
    (∃ t, (upsertAll calls).run s = .ok () t ∧
      (∀ row, t.db.tenantCredentials.find? tenantId = some row →
        LastWritten rt tenantId calls row) ∧
      ((t.db.tenantCredentials.find? tenantId).isSome ↔ ∃ c ∈ calls, c.tenantId = tenantId) ∧
      (view tenantId).run t = .ok (lastView tenantId calls) t ∧
      ((∀ c ∈ calls, c.tenantId ≠ tenantId) → (view tenantId).run t = .ok managedView t)) ∧
    ∀ (c : UpsertCall) (u : Session), c.tenantId ≠ tenantId → ∃ row v,
      (upsert c.env c.tenantId c.args).run u = .ok row v ∧
        v.db.tenantCredentials.find? tenantId = u.db.tenantCredentials.find? tenantId := by
  constructor
  · have hstart : WrittenBy rt tenantId [] s := by
      refine ⟨?_, by simp [hnew]⟩
      rw [rowAt, hnew]
      exact lastWritten_nil rt tenantId
    obtain ⟨t, hrun, ht⟩ := hstart.run calls hinv hcipher
    rw [List.nil_append] at ht
    have hview : (view tenantId).run t = .ok (lastView tenantId calls) t := by
      rw [view_run, ht.row.view]
    refine ⟨t, hrun, fun row hrow => ?_, ht.stored, hview, fun hnever => ?_⟩
    · have hat : rowAt t tenantId = row := by rw [rowAt, hrow, Option.getD_some]
      rw [← hat]
      exact ht.row
    · rw [hview, lastView_managed hnever]
  · intro c u hc
    obtain ⟨row, v, hrun, _, hothers⟩ := upsert_run c.env c.tenantId c.args u
    exact ⟨row, v, hrun, hothers tenantId (Ne.symm hc)⟩

end CredentialRepository

/-- A key set, another tenant's mode changed, the key cleared and the host named. -/
def keyCleared : List UpsertCall :=
  [⟨markingEnv, "t1", { mode := some "byo", splunkToken := some "s3cret" }⟩,
    ⟨markingEnv, "t2", { mode := some "managed" }⟩,
    ⟨markingEnv, "t1", { splunkHost := some "splunk.initech.test", splunkToken := some "" }⟩]

theorem cipherNonempty_marking : CipherNonempty markingEnv := by
  intro text _
  simp [markingEnv]

theorem keyCleared_last_writer_wins :
    ∃ t, (upsertAll keyCleared).run (.start .empty [] []) = .ok () t ∧
      (CredentialRepository.view "t1").run t = .ok
        { managedView with mode := "byo", splunkHost := "splunk.initech.test" } t := by
  have hall (P : Env → Prop) (hP : P markingEnv) : ∀ c ∈ keyCleared, P c.env := by
    simp [keyCleared, hP]
  obtain ⟨⟨t, hrun, _, _, hview, _⟩, _⟩ := CredentialRepository.upserts_last_writer_wins
    markedSecrets "t1" keyCleared (.start .empty [] []) rfl (hall _ inverts_marking)
    (hall _ cipherNonempty_marking)
  have hlast : lastView "t1" keyCleared =
      { managedView with mode := "byo", splunkHost := "splunk.initech.test" } := by decide
  rw [hlast] at hview
  exact ⟨t, hrun, hview⟩

end SentinelAI
