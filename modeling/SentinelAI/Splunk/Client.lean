import SentinelAI.Core.Errors
import SentinelAI.Models.Domain

/-
  Which Splunk client or model a request talks to. What a client answers is part of the
  environment; the model keeps the identity of the client that was asked.
-/

namespace SentinelAI

/-- A `SplunkClient`: the platform's shared one, or one built from a tenant's credentials. -/
inductive SplunkClient where
  | managed
  | live (host token : String)
  | mcp (url token : String)
  | mock
  deriving DecidableEq, Repr

/-- An `AIModel`, likewise. -/
inductive AIModel where
  | managed
  | live (baseUrl model token : String)
  | mock
  deriving DecidableEq, Repr

/-- `LiveSplunkClient.__init__`. -/
def LiveSplunkClient.init (host token : String) : Except Exc SplunkClient :=
  if host == "" then .error (.splunk (.connection "Splunk host not configured"))
  else if token == "" then .error (.splunk (.auth "Splunk token not configured"))
  else .ok (.live host token)

/-- `McpSplunkClient.__init__`. -/
def McpSplunkClient.init (url token : String) : Except Exc SplunkClient :=
  if url == "" then .error (.splunk (.connection "Splunk MCP Server URL not configured"))
  else if token == "" then .error (.splunk (.auth "Splunk MCP token not configured"))
  else .ok (.mcp url token)

/-- `LiveAIModel.__init__`. -/
def LiveAIModel.init (baseUrl model token : String) : Except Exc AIModel :=
  if baseUrl == "" then .error (.aiModel "AI base_url not configured")
  else .ok (.live baseUrl model token)

end SentinelAI
