import SentinelAI.Agents.TriageAgent
import SentinelAI.Splunk.Query

/-
  The live and the MCP Splunk client (`app/splunk/live_client.py`, `app/splunk/mcp_client.py`):
  a search, from the request that is posted to the events read off the reply.

  What a server replies is any function of the request. A text is a list of characters, so a
  reply with an unpaired surrogate escape has no `JsonValue`.
-/

namespace SentinelAI

/-! ## Replies -/

/-- A response, with what `resp.json()` gives: the decoded body, or the class of what it
    raises. -/
structure HttpResponse where
  status : Nat
  text : String
  json : Except String JsonValue

/-- What comes of posting a request. -/
inductive HttpReply where
  | response (r : HttpResponse)
  | connectError (msg : String)
  /-- any other exception of httpx, by class -/
  | raised (name : String)

/-- The library functions the clients rely on. -/
structure Transport where
  /-- `resp.raise_for_status()` raises -/
  refuses : Nat → Bool
  accepts_success : ∀ status, 200 ≤ status → status < 300 → refuses status = false
  refuses_error : ∀ status, 400 ≤ status → status < 600 → refuses status = true
  /-- `json.loads`; the class of what it raises -/
  loads : String → Except String JsonValue
  /-- `datetime.fromisoformat`; none is the `ValueError` -/
  fromisoformat : String → Option Time

/-- A transport for small examples: no text is JSON and none is a time. -/
def Transport.plain : Transport where
  refuses status := !(200 ≤ status && status < 300)
  accepts_success status hlow hhigh := by simp [hlow, hhigh]
  refuses_error status hlow _ := by simp; omega
  loads _ := .error "JSONDecodeError"
  fromisoformat _ := none

/-- What both clients make of a reply: the body, decoded. Each names a rejected token in its
    own words. -/
def readReply (tp : Transport) (rejected : String) : HttpReply → Except Exc JsonValue
  | .connectError msg => .error (.splunk (.connection msg))
  | .raised name => .error (.other name)
  | .response r =>
    if r.status = 401 then .error (.splunk (.auth rejected))
    else if r.status = 400 then .error (.splunk (.query r.text))
    else if tp.refuses r.status then .error (.other "HTTPStatusError")
    else match r.json with
      | .ok v => .ok v
      | .error name => .error (.other name)

/-! ## Events -/

abbrev Row := List (String × JsonValue)

/-- `value.replace("Z", "+00:00")`. -/
def withUtcOffset (value : String) : String :=
  String.ofList (value.toList.flatMap fun c => if c == 'Z' then "+00:00".toList else [c])

/-- `_parse_time`, when the clock shows `now`. -/
def parseTime (tp : Transport) (now : Time) : Option JsonValue → Time
  | some (.str value) => (tp.fromisoformat (withUtcOffset value)).getD now
  | _ => now

/-- `{k: str(v) for k, v in row.items() if not k.startswith("_")}`. -/
def eventFields (rt : Runtime) (row : Row) : List (String × String) :=
  (row.filter fun kv => kv.1.toList.head? != some '_').map fun kv => (kv.1, pyStr rt kv.2)

/-- `row.get(key, "")`. -/
def rowMember (row : Row) (key : String) : JsonValue := (dictGet row key).getD (.str "")

/-- A `str` field of a model takes a string and nothing else. -/
def strField : JsonValue → Except Exc String
  | .str s => .ok s
  | _ => .error (.other "ValidationError")

/-- One event after the other, the `k`-th row read by `f k`. -/
def eventsOfRows {α : Type} (f : Nat → α → Except Exc SplunkEvent) :
    Nat → List α → Except Exc (List SplunkEvent)
  | _, [] => .ok []
  | k, row :: rows => do
    let event ← f k row
    let events ← eventsOfRows f (k + 1) rows
    return event :: events

/-! ## The live client -/

namespace LiveSplunkClient

/-- `_post_search`. -/
def postSearch (tp : Transport) (post : SearchPayload → HttpReply) (payload : SearchPayload) :
    Except Exc JsonValue :=
  readReply tp "Splunk rejected the token" (post payload)

def eventOfRow (rt : Runtime) (tp : Transport) (now : Time) : JsonValue → Except Exc SplunkEvent
  | .obj row => do
    let raw ← strField (rowMember row "_raw")
    let source ← strField (rowMember row "source")
    let sourcetype ← strField (rowMember row "sourcetype")
    let host ← strField (rowMember row "host")
    return {
      raw := raw
      source := source
      sourcetype := sourcetype
      host := host
      timestamp := parseTime tp now (dictGet row "_time")
      fields := eventFields rt row }
  -- a row that is no object has no `get`
  | _ => .error (.other "AttributeError")

/-- The result read off a body. `now k` is the clock while the `k`-th row is read. -/
def resultOf (rt : Runtime) (tp : Transport) (now : Nat → Time) (spl : String) :
    JsonValue → Except Exc SearchResult
  | .obj data => do
    let rows ← pyItems ((dictGet data "results").getD (.arr []))
    let events ← eventsOfRows (fun k => eventOfRow rt tp (now k)) 0 rows
    let sid ← strField ((dictGet data "sid").getD (.str "live"))
    return { sid := sid, query := spl, eventCount := events.length, events := events }
  | _ => .error (.other "AttributeError")

def search (rt : Runtime) (tp : Transport) (now : Nat → Time)
    (post : SearchPayload → HttpReply) (spl earliest latest : String) :
    Except Exc SearchResult := do
  if isBlank spl then throw (.splunk (.query "Empty SPL query"))
  let data ← postSearch tp post (payload spl earliest latest)
  resultOf rt tp now spl data

end LiveSplunkClient

/-! ## The MCP client -/

/-- The `params` of a `tools/call` request. -/
structure ToolCall where
  name : String
  arguments : SearchArguments
  deriving DecidableEq, Repr

namespace McpSplunkClient

/-- `v == s` for a text `s`. -/
def isText (s : String) : JsonValue → Bool
  | .str t => t == s
  | _ => false

/-- `part in text`. -/
def hasPart (part : List Char) : List Char → Bool
  | [] => part.isEmpty
  | c :: cs => part.isPrefixOf (c :: cs) || hasPart part cs

/-- The tool's result, from the decoded body of a JSON-RPC answer. -/
def toolResult (rt : Runtime) : JsonValue → Except Exc JsonValue
  | .obj data =>
    let error := (dictGet data "error").getD .null
    if error.truthy then
      match error with
      | .obj e => .error (.splunk (.query (pyStr rt ((dictGet e "message").getD error))))
      | _ => .error (.other "AttributeError")
    else .ok ((dictGet data "result").getD (.obj []))
  -- `"error" in data` looks for an item of a list and for a part of a text; neither has
  -- a member to read
  | .arr xs => .error (.other (if xs.any (isText "error") then "TypeError" else "AttributeError"))
  | .str s =>
    .error (.other (if hasPart "error".toList s.toList then "TypeError" else "AttributeError"))
  | _ => .error (.other "TypeError")

/-- `_call_tool`. -/
def callTool (rt : Runtime) (tp : Transport) (post : ToolCall → HttpReply) (call : ToolCall) :
    Except Exc JsonValue := do
  let data ← readReply tp "Splunk MCP Server rejected the token" (post call)
  toolResult rt data

def asRow : JsonValue → Option Row
  | .obj row => some row
  | _ => none

/-- The rows under `results`, if the value is a dict that has a list there. -/
def resultRows : JsonValue → Option (List Row)
  | .obj kvs =>
    match dictGet kvs "results" with
    | some (.arr rows) => some (rows.filterMap asRow)
    | _ => none
  | _ => none

/-- The rows of a decoded text block. -/
def textRows : JsonValue → Option (List Row)
  | .arr rows => some (rows.filterMap asRow)
  | v => resultRows v

/-- The rows of one content block; none leads on to the next block. -/
def blockRows (tp : Transport) : JsonValue → Except Exc (Option (List Row))
  | .obj block =>
    if isText "text" ((dictGet block "type").getD .null) then
      match rowMember block "text" with
      | .str text =>
        match tp.loads text with
        | .ok parsed => .ok (textRows parsed)
        | .error name =>
          if name == "JSONDecodeError" || name == "TypeError" then .ok none
          else .error (.other name)
      -- `json.loads` of another value is a `TypeError`
      | _ => .ok none
    else .ok none
  | _ => .ok none

def rowsOfBlocks (tp : Transport) : List JsonValue → Except Exc (List Row)
  | [] => .ok []
  | block :: blocks => do
    match ← blockRows tp block with
    | some rows => return rows
    | none => rowsOfBlocks tp blocks

/-- `_extract_rows`. -/
def extractRows (tp : Transport) (result : Row) : Except Exc (List Row) :=
  match (dictGet result "structuredContent").bind resultRows with
  | some rows => .ok rows
  | none => do
    let blocks ← pyItems ((dictGet result "content").getD (.arr []))
    rowsOfBlocks tp blocks

def eventOfRow (rt : Runtime) (tp : Transport) (now : Time) (row : Row) : SplunkEvent where
  raw := pyStr rt (rowMember row "_raw")
  source := pyStr rt (rowMember row "source")
  sourcetype := pyStr rt (rowMember row "sourcetype")
  host := pyStr rt (rowMember row "host")
  timestamp := parseTime tp now (dictGet row "_time")
  fields := eventFields rt row

/-- The result read off a tool's result. -/
def resultOf (rt : Runtime) (tp : Transport) (now : Nat → Time) (spl : String) :
    JsonValue → Except Exc SearchResult
  | .obj result => do
    let rows ← extractRows tp result
    let events ← eventsOfRows (fun k row => .ok (eventOfRow rt tp (now k) row)) 0 rows
    return {
      sid := pyStr rt ((dictGet result "sid").getD (.str "mcp"))
      query := spl
      eventCount := events.length
      events := events }
  | _ => .error (.other "AttributeError")

def search (rt : Runtime) (tp : Transport) (now : Nat → Time) (searchTool : String)
    (post : ToolCall → HttpReply) (spl earliest latest : String) : Except Exc SearchResult := do
  if isBlank spl then throw (.splunk (.query "Empty SPL query"))
  let result ← callTool rt tp post ⟨searchTool, arguments spl earliest latest⟩
  resultOf rt tp now spl result

end McpSplunkClient

end SentinelAI
