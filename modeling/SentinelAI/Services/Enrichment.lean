import SentinelAI.Models.Domain

/-
  Enrichment (`app/services/enrichment.py`) with the mock provider the orchestrator uses.
-/

namespace SentinelAI

structure Enrichment where
  threatIntel : List (String × String) := []
  assetCriticality : String := "unknown"
  identityContext : List (String × String) := []
  indicators : List String := []

/-- `d.get(k)` of a dict of texts. -/
def textGet (d : List (String × String)) (k : String) : Option String :=
  (d.find? fun kv => kv.1 == k).map Prod.snd

/-- `Enrichment.boost`. -/
def Enrichment.boost (e : Enrichment) : ℚ :=
  let asset : ℚ :=
    if e.assetCriticality == "low" then 95 / 100
    else if e.assetCriticality == "medium" then 105 / 100
    else if e.assetCriticality == "high" then 115 / 100
    else if e.assetCriticality == "crown_jewel" then 130 / 100
    else 1
  let intel : ℚ := if textGet e.threatIntel "verdict" == some "malicious" then 125 / 100 else 1
  let identity : ℚ := if textGet e.identityContext "privileged" == some "true" then 115 / 100 else 1
  asset * intel * identity

namespace MockEnrichmentProvider

def startsWith (text pre : String) : Bool := pre.toList.isPrefixOf text.toList

def enrichIp (ip : String) : List (String × String) :=
  let malicious := ["203.0.113.", "198.51.100."].any (startsWith ip)
  [("verdict", if malicious then "malicious" else "benign"), ("source", "mock-ti"),
    ("categories", if malicious then "c2,scanner" else "none")]

def enrichHost (host : String) : String :=
  if ["db-prod-02", "dc-01", "vault-01"].contains host then "crown_jewel"
  else if ["web-prod-01", "ws-finance-07"].contains host then "high"
  else "medium"

def enrichUser (user : String) : List (String × String) :=
  [("privileged", if ["admin", "root", "svc_backup"].contains user then "true" else "false"),
    ("department", if startsWith user "fin" then "finance" else "general")]

end MockEnrichmentProvider

open MockEnrichmentProvider

/-- One turn of the loop over the addresses. -/
def Enrichment.addIp (e : Enrichment) (ip : String) : Enrichment :=
  let ti := enrichIp ip
  if textGet ti "verdict" == some "malicious" then
    { e with threatIntel := ti, indicators := e.indicators ++ [ip] }
  else e

/-- `EnrichmentService.enrich`. -/
def enrich (host : String) (user : Option String) (ips : List String) : Enrichment :=
  let e : Enrichment :=
    { assetCriticality := enrichHost host
      identityContext :=
        match user with
        | some u => if u == "" then [] else enrichUser u
        | none => [] }
  let e := ips.foldl Enrichment.addIp e
  match ips with
  | ip :: _ => if e.threatIntel.isEmpty then { e with threatIntel := enrichIp ip } else e
  | [] => e

end SentinelAI
