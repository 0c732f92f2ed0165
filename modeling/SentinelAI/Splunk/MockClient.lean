import Mathlib.Data.List.Infix
import SentinelAI.Core.Json
import SentinelAI.Core.Principal
import SentinelAI.Splunk.Query

/-
  The mock backends (`app/splunk/mock_client.py` and `MockAIModel` of
  `app/services/ai_model.py`), which the service runs on without a Splunk instance. Both look
  for keywords in a lowered text.
-/

namespace SentinelAI

/-- `c.lower()`, if that is an ASCII character. The Kelvin sign lowers to a k. -/
def lowerChar (c : Char) : Char := if c == '\u212a' then 'k' else c.toLower

/-- `keyword in text.lower()`. -/
def mentions (keyword text : String) : Bool :=
  (text.toList.map lowerChar).tails.any keyword.toList.isPrefixOf

/-! ## Splunk -/

namespace MockSplunkClient

/-- `_make_sid`. -/
def makeSid (sha256 : String → String) (seed : Int) (spl : String) : String :=
  "mock-" ++ String.ofList ((sha256 (toString seed ++ ":" ++ spl)).toList.take 12)

/-- `_generate_events`, `base` being `datetime.now(UTC)`. -/
def generateEvents (base : Time) (spl : String) : List SplunkEvent :=
  if mentions "failed" spl || mentions "authentication" spl then
    (List.range' 1 12).map fun i =>
      { raw := "Failed password for user admin from 203.0.113." ++ toString i
        source := "/var/log/auth.log"
        sourcetype := "linux_secure"
        host := "web-prod-01"
        timestamp := base - minutes i
        fields := [("user", "admin"), ("src_ip", "203.0.113." ++ toString i), ("action", "failure")] }
  else if mentions "network" spl || mentions "firewall" spl || mentions "bytes" spl then
    (List.range' 1 5).map fun i =>
      { raw := "Outbound connection to 198.51.100." ++ toString i ++ ":4444 bytes=540000"
        source := "firewall"
        sourcetype := "cisco:asa"
        host := "db-prod-02"
        timestamp := base - minutes (i * 2)
        fields := [("dest_ip", "198.51.100." ++ toString i), ("dest_port", "4444"),
          ("bytes", "540000")] }
  else if mentions "process" spl || mentions "endpoint" spl || mentions "powershell" spl then
    (List.range' 1 3).map fun i =>
      { raw := "powershell.exe -enc SQBFAFgA... (encoded command)"
        source := "WinEventLog:Security"
        sourcetype := "WinEventLog"
        host := "ws-finance-07"
        timestamp := base - minutes (i * 3)
        fields := [("process", "powershell.exe"), ("parent", "winword.exe")] }
  else []

/-- `search`; `repr` is the text of `{spl!r}`. -/
def search (sha256 repr : String → String) (w : WordClass) (seed : Int) (base : Time) (spl : String) :
    Except Exc SearchResult :=
  if isBlank spl then .error (.splunk (.query "Empty SPL query"))
  else if !validSpl w spl then .error (.splunk (.query ("Malformed SPL: " ++ repr spl)))
  else
    let events := generateEvents base spl
    .ok { sid := makeSid sha256 seed spl
          query := spl
          eventCount := events.length
          events := events }

/-- Whatever the clock says, the same events of the same host. -/
theorem generateEvents_hosts (base base' : Time) (spl : String) :
    (generateEvents base spl).map SplunkEvent.host = (generateEvents base' spl).map SplunkEvent.host := by
  unfold generateEvents
  split
  · rfl
  · split
    · rfl
    · split <;> rfl

end MockSplunkClient

/-! ## The model -/

namespace MockAIModel

/-- `tp`. -/
def suspicious (user : String) : Bool :=
  ["failed", "powershell", "4444", "encoded", "exfil", "bytes", "500000"].any fun k => mentions k user

def severity (user : String) : Severity :=
  if ["4444", "encoded", "exfil", "bytes"].any fun k => mentions k user then .critical
  else if suspicious user then .high
  else .low

/-- The dictionary of a verdict. -/
def verdict (tp : Bool) (severity : Severity) : List (String × JsonValue) :=
  [("is_true_positive", .bool tp),
    ("confidence", .float (if tp then ⟨"0.92".toList, by decide⟩ else ⟨"0.34".toList, by decide⟩)),
    ("rationale", .str
      (if tp then
        "Multiple indicators consistent with an active attack: anomalous volume and known-bad patterns."
      else "Activity is within normal baseline; likely benign.")),
    ("recommended_severity", .str severity.value),
    ("suggested_actions", .arr
      (if tp then [.str "isolate_host", .str "disable_user", .str "collect_forensics"]
      else [.str "monitor", .str "close_as_fp"]))]

/-- `json.dumps` of it. -/
def verdictText (tp : Bool) (severity : Severity) : String :=
  if tp then
    "\x7b\"is_true_positive\": true, \"confidence\": 0.92, \"rationale\": \"Multiple indicators " ++
    "consistent with an active attack: anomalous volume and known-bad patterns.\", " ++
    "\"recommended_severity\": \"" ++ severity.value ++ "\", \"suggested_actions\": " ++
    "[\"isolate_host\", \"disable_user\", \"collect_forensics\"]\x7d"
  else
    "\x7b\"is_true_positive\": false, \"confidence\": 0.34, \"rationale\": \"Activity is within " ++
    "normal baseline; likely benign.\", \"recommended_severity\": \"" ++ severity.value ++
    "\", \"suggested_actions\": [\"monitor\", \"close_as_fp\"]\x7d"

def summary : String :=
  "Investigation summary: correlated events indicate a coordinated " ++
  "intrusion attempt. Recommended containment actions have been queued " ++
  "for analyst approval."

/-- `complete`. -/
def complete (system user : String) : String :=
  if mentions "return a json" system && mentions "verdict" system then
    verdictText (suspicious user) (severity user)
  else summary

end MockAIModel

end SentinelAI
