import SentinelAI.Core.Security
import SentinelAI.Db.Query

/-
  Per-tenant credentials (`app/services/credentials.py`): stored with their secrets
  encrypted, viewed without them, and resolved to the clients a tenant's requests use.
-/

namespace SentinelAI

/-- A tenant's configuration with every secret reduced to whether it is set. -/
structure CredentialView where
  mode : String
  splunkBackend : String
  splunkHost : String
  splunkTokenSet : Bool
  splunkMcpUrl : String
  splunkMcpTokenSet : Bool
  aiBackend : String
  aiModel : String
  aiTokenSet : Bool
  deriving DecidableEq, Repr

/-- `UpdateCredentialsRequest`: none leaves a field unchanged, "" clears it. -/
structure UpdateCredentials where
  mode : Option String := none
  splunkBackend : Option String := none
  splunkHost : Option String := none
  splunkToken : Option String := none
  splunkMcpUrl : Option String := none
  splunkMcpToken : Option String := none
  aiBackend : Option String := none
  aiModel : Option String := none
  aiToken : Option String := none
  deriving DecidableEq, Repr

/-- The column assignments of `upsert`. -/
def UpdateCredentials.apply (env : Env) (u : UpdateCredentials) (row : TenantCredentialRow) :
    TenantCredentialRow where
  tenantId := row.tenantId
  mode := u.mode.getD row.mode
  splunkBackend := u.splunkBackend.getD row.splunkBackend
  splunkHost := u.splunkHost.getD row.splunkHost
  splunkTokenEnc := (u.splunkToken.map (encryptSecret env)).getD row.splunkTokenEnc
  splunkMcpUrl := u.splunkMcpUrl.getD row.splunkMcpUrl
  splunkMcpTokenEnc := (u.splunkMcpToken.map (encryptSecret env)).getD row.splunkMcpTokenEnc
  aiBackend := u.aiBackend.getD row.aiBackend
  aiModel := u.aiModel.getD row.aiModel
  aiTokenEnc := (u.aiToken.map (encryptSecret env)).getD row.aiTokenEnc

def credentialView (row : TenantCredentialRow) : CredentialView where
  mode := row.mode
  splunkBackend := row.splunkBackend
  splunkHost := row.splunkHost
  splunkTokenSet := row.splunkTokenEnc != ""
  splunkMcpUrl := row.splunkMcpUrl
  splunkMcpTokenSet := row.splunkMcpTokenEnc != ""
  aiBackend := row.aiBackend
  aiModel := row.aiModel
  aiTokenSet := row.aiTokenEnc != ""

namespace CredentialRepository

def getRow (tenantId : String) : ApiM (Option TenantCredentialRow) :=
  sessionGet Tables.tenantCredentials tenantId

/-- `CredentialRepository.view`: the column defaults when there is no row. -/
def view (tenantId : String) : ApiM CredentialView := do
  match ← getRow tenantId with
  | none => return credentialView { tenantId := tenantId }
  | some row => return credentialView row

/-- `CredentialRepository.upsert`. -/
def upsert (env : Env) (tenantId : String) (u : UpdateCredentials) :
    ApiM TenantCredentialRow := do
  match ← getRow tenantId with
  | none =>
    let row := u.apply env { tenantId := tenantId }
    insertRow Tables.tenantCredentials row
    return row
  | some row =>
    updateRow Tables.tenantCredentials row.tenantId (u.apply env) fun _ => rfl
    return u.apply env row

end CredentialRepository

/-- `resolve_splunk_client`. -/
def resolveSplunkClient (rt : Runtime) (row : Option TenantCredentialRow)
    (shared : SplunkClient) : Except Exc SplunkClient :=
  match row with
  | none => .ok shared
  | some row =>
    if row.mode != "byo" then .ok shared
    else if row.splunkBackend == "live" then do
      let token ← decryptSecret rt row.splunkTokenEnc
      LiveSplunkClient.init row.splunkHost token
    else if row.splunkBackend == "mcp" then do
      let token ← decryptSecret rt row.splunkMcpTokenEnc
      McpSplunkClient.init row.splunkMcpUrl token
    else .ok .mock

/-- `resolve_ai_model`. -/
def resolveAiModel (rt : Runtime) (row : Option TenantCredentialRow) (shared : AIModel) :
    Except Exc AIModel :=
  match row with
  | none => .ok shared
  | some row =>
    if row.mode != "byo" then .ok shared
    else if row.aiBackend == "live" then do
      let token ← decryptSecret rt row.aiTokenEnc
      LiveAIModel.init (if row.splunkMcpUrl != "" then row.splunkMcpUrl else row.splunkHost)
        (if row.aiModel != "" then row.aiModel else "Foundation-Sec-1.1-8B-Instruct") token
    else .ok .mock

end SentinelAI
