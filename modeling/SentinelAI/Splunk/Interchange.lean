import SentinelAI.Splunk.Taxonomy

/-
  The two transports on the same rows: what the live client makes of rows under `results`,
  and what the MCP client makes of them in any of the three encodings it knows.

  The MCP client turns every member it reads into a text, the live one hands it to the model
  as it is. They agree on rows whose text members are strings.
-/

namespace SentinelAI

/-! ## Agreement -/

/-- The row has a time that `_parse_time` can read. -/
def TimeParses (tp : Transport) (row : Row) : Prop :=
  ∃ value t, dictGet row "_time" = some (.str value) ∧
    tp.fromisoformat (withUtcOffset value) = some t

/-- Two events of one row: all is the same, the time where it can be read. -/
structure EventAgrees (tp : Transport) (row : Row) (a b : SplunkEvent) : Prop where
  raw : a.raw = b.raw
  source : a.source = b.source
  sourcetype : a.sourcetype = b.sourcetype
  host : a.host = b.host
  fields : a.fields = b.fields
  timestamp : TimeParses tp row → a.timestamp = b.timestamp

/-- The same events, row by row. -/
def EventsAgree (tp : Transport) : List Row → List SplunkEvent → List SplunkEvent → Prop
  | [], [], [] => True
  | row :: rows, a :: as, b :: bs => EventAgrees tp row a b ∧ EventsAgree tp rows as bs
  | _, _, _ => False

/-- Two searches for the rows give the same events, or both raise. -/
def SearchesAgree (tp : Transport) (rows : List Row) (x y : Except Exc SearchResult) : Prop :=
  (∃ a b, x = .ok a ∧ y = .ok b ∧ a.eventCount = b.eventCount ∧
    EventsAgree tp rows a.events b.events) ∨
  ((∃ e, x = .error e) ∧ ∃ e, y = .error e)

/-! ## Replies that carry the rows -/

/-- The rows as a JSON list. -/
def rowList (rows : List Row) : JsonValue := .arr (rows.map JsonValue.obj)

/-- A response that both clients accept. -/
def Succeeds (r : HttpResponse) : Prop := 200 ≤ r.status ∧ r.status < 300

/-- The REST endpoint returns the rows under `results` of a body. -/
structure LiveReturns (rows : List Row) (body : Row) (r : HttpResponse) : Prop where
  success : Succeeds r
  json : r.json = .ok (.obj body)
  results : dictGet body "results" = some (rowList rows)

/-- A tool's result that has the rows in one of the three encodings. Blocks without rows may
    come before the one that has them. -/
inductive Carries (tp : Transport) (rows : List Row) (result : Row) : Prop where
  | structured (content : Row) (hcontent : dictGet result "structuredContent" = some (.obj content))
    (hrows : dictGet content "results" = some (rowList rows))
  | textList (before after : List JsonValue) (block : JsonValue) (text : String)
    (hplain : (dictGet result "structuredContent").bind McpSplunkClient.resultRows = none)
    (hcontent : dictGet result "content" = some (.arr (before ++ block :: after)))
    (hbefore : ∀ b ∈ before, ¬ BlockRaises tp b ∧ ¬ HoldsRows tp b)
    (htext : blockText block = some text) (hloads : tp.loads text = .ok (rowList rows))
  | textResults (before after : List JsonValue) (block : JsonValue) (text : String) (parsed : Row)
    (hplain : (dictGet result "structuredContent").bind McpSplunkClient.resultRows = none)
    (hcontent : dictGet result "content" = some (.arr (before ++ block :: after)))
    (hbefore : ∀ b ∈ before, ¬ BlockRaises tp b ∧ ¬ HoldsRows tp b)
    (htext : blockText block = some text) (hloads : tp.loads text = .ok (.obj parsed))
    (hrows : dictGet parsed "results" = some (rowList rows))

/-- The MCP server returns the rows, without an error. -/
structure McpReturns (tp : Transport) (rows : List Row) (r : HttpResponse) : Prop where
  success : Succeeds r
  answer : ∃ data result, r.json = .ok (.obj data) ∧
    ((dictGet data "error").getD .null).truthy = false ∧
    dictGet data "result" = some (.obj result) ∧ Carries tp rows result

/-! ## Extracting rows -/

theorem asRow_rowList (rows : List Row) :
    (rows.map JsonValue.obj).filterMap McpSplunkClient.asRow = rows := by
  induction rows with
  | nil => rfl
  | cons row rows ih =>
    show row :: _ = row :: rows
    rw [ih]

theorem resultRows_of_results {content : Row} {rows : List Row}
    (h : dictGet content "results" = some (rowList rows)) :
    McpSplunkClient.resultRows (.obj content) = some rows := by
  unfold McpSplunkClient.resultRows
  dsimp only
  rw [h]
  exact congrArg some (asRow_rowList rows)

/-- Blocks without rows are passed over. -/
theorem rowsOfBlocks_append {tp : Transport} {before : List JsonValue}
    (hbefore : ∀ b ∈ before, ¬ BlockRaises tp b ∧ ¬ HoldsRows tp b) (blocks : List JsonValue) :
    McpSplunkClient.rowsOfBlocks tp (before ++ blocks) =
      McpSplunkClient.rowsOfBlocks tp blocks := by
  induction before with
  | nil => rfl
  | cons b before ih =>
    obtain ⟨hbreaks, hrows⟩ := hbefore b List.mem_cons_self
    have hb : McpSplunkClient.blockRows tp b = .ok none := by
      rcases blockRows_cases tp b with ⟨h, -⟩ | ⟨-, h, -⟩ | ⟨-, -, h⟩
      · exact absurd h hbreaks
      · exact absurd h hrows
      · exact h
    rw [List.cons_append, McpSplunkClient.rowsOfBlocks, hb]
    exact ih fun x hx => hbefore x (List.mem_cons_of_mem b hx)

theorem rowsOfBlocks_cons {tp : Transport} {block : JsonValue} {rows : List Row}
    (h : McpSplunkClient.blockRows tp block = .ok (some rows)) (blocks : List JsonValue) :
    McpSplunkClient.rowsOfBlocks tp (block :: blocks) = .ok rows := by
  rw [McpSplunkClient.rowsOfBlocks, h]
  rfl

theorem extractRows_of_blocks {tp : Transport} {result : Row} {before after : List JsonValue}
    {block : JsonValue} {rows : List Row}
    (hplain : (dictGet result "structuredContent").bind McpSplunkClient.resultRows = none)
    (hcontent : dictGet result "content" = some (.arr (before ++ block :: after)))
    (hbefore : ∀ b ∈ before, ¬ BlockRaises tp b ∧ ¬ HoldsRows tp b)
    (hblock : McpSplunkClient.blockRows tp block = .ok (some rows)) :
    McpSplunkClient.extractRows tp result = .ok rows := by
  unfold McpSplunkClient.extractRows
  rw [hplain, hcontent]
  exact (rowsOfBlocks_append hbefore (block :: after)).trans (rowsOfBlocks_cons hblock after)

/-- Whatever the encoding, the rows come out. -/
theorem extractRows_of_carries {tp : Transport} {rows : List Row} {result : Row}
    (h : Carries tp rows result) : McpSplunkClient.extractRows tp result = .ok rows := by
  cases h with
  | structured content hcontent hrows =>
    unfold McpSplunkClient.extractRows
    rw [hcontent, Option.bind_some, resultRows_of_results hrows]
  | textList before after block text hplain hcontent hbefore htext hloads =>
    refine extractRows_of_blocks hplain hcontent hbefore ?_
    rw [blockRows_of_loads htext hloads]
    exact congrArg (fun x => Except.ok (some x)) (asRow_rowList rows)
  | textResults before after block text parsed hplain hcontent hbefore htext hloads hrows =>
    refine extractRows_of_blocks hplain hcontent hbefore ?_
    rw [blockRows_of_loads htext hloads]
    exact congrArg Except.ok (resultRows_of_results hrows)

/-! ## Reading the rows -/

theorem textual_iff (v : JsonValue) : Textual v ↔ ∃ s, v = .str s := by
  cases v with
  | str s => exact iff_of_true trivial ⟨s, rfl⟩
  | _ => exact iff_of_false (fun h => h) (by rintro ⟨s, hs⟩; cases hs)

/-- Of a row with textual members both clients make the same event. -/
theorem eventAgrees_of_shaped (rt : Runtime) (tp : Transport) (t u : Time) {row : Row}
    (h : LiveRowShaped (.obj row)) :
    ∃ a, LiveSplunkClient.eventOfRow rt tp t (.obj row) = .ok a ∧
      EventAgrees tp row a (McpSplunkClient.eventOfRow rt tp u row) := by
  obtain ⟨raw, hraw⟩ := (textual_iff _).mp (h "_raw" (by simp))
  obtain ⟨source, hsource⟩ := (textual_iff _).mp (h "source" (by simp))
  obtain ⟨sourcetype, hsourcetype⟩ := (textual_iff _).mp (h "sourcetype" (by simp))
  obtain ⟨host, hhost⟩ := (textual_iff _).mp (h "host" (by simp))
  unfold LiveSplunkClient.eventOfRow
  dsimp only
  rw [hraw, hsource, hsourcetype, hhost]
  refine ⟨_, rfl, ?_⟩
  unfold McpSplunkClient.eventOfRow
  rw [hraw, hsource, hsourcetype, hhost]
  refine ⟨rfl, rfl, rfl, rfl, rfl, ?_⟩
  rintro ⟨value, x, htime, hx⟩
  simp only [parseTime, htime, hx, Option.getD_some]

/-- Row by row, the events of both clients. -/
theorem events_of_shaped (rt : Runtime) (tp : Transport) (now now' : Nat → Time) {rows : List Row}
    (h : ∀ row ∈ rows, LiveRowShaped (.obj row)) (k : Nat) :
    ∃ as bs, eventsOfRows (fun k => LiveSplunkClient.eventOfRow rt tp (now k)) k
        (rows.map JsonValue.obj) = .ok as ∧
      eventsOfRows (fun k row => .ok (McpSplunkClient.eventOfRow rt tp (now' k) row)) k rows =
        .ok bs ∧
      as.length = bs.length ∧ EventsAgree tp rows as bs := by
  induction rows generalizing k with
  | nil => exact ⟨[], [], rfl, rfl, rfl, trivial⟩
  | cons row rows ih =>
    obtain ⟨hrow, hrest⟩ := List.forall_mem_cons.mp h
    obtain ⟨a, ha, hsame⟩ := eventAgrees_of_shaped rt tp (now k) (now' k) hrow
    obtain ⟨as, bs, has, hbs, hlen, hevents⟩ := ih hrest (k + 1)
    refine ⟨a :: as, McpSplunkClient.eventOfRow rt tp (now' k) row :: bs, ?_, ?_, ?_, ?_⟩
    · rw [List.map_cons, eventsOfRows, ha, has]
      rfl
    · rw [eventsOfRows, hbs]
      rfl
    · rw [List.length_cons, List.length_cons, hlen]
    · exact ⟨hsame, hevents⟩

theorem readReply_success {tp : Transport} {rejected : String} {r : HttpResponse} {v : JsonValue}
    (hsuccess : Succeeds r) (hjson : r.json = .ok v) :
    readReply tp rejected (.response r) = .ok v := by
  obtain ⟨hlow, hhigh⟩ := hsuccess
  have h401 : r.status ≠ 401 := by omega
  have h400 : r.status ≠ 400 := by omega
  simp [readReply, h401, h400, tp.accepts_success r.status hlow hhigh, hjson]

section

variable (rt : Runtime) {tp : Transport} {now : Nat → Time} {spl earliest latest : String}
  {rows : List Row} {r : HttpResponse}

theorem liveSearch_of_returns {body : Row} {post : SearchPayload → HttpReply}
    (hspl : isBlank spl = false) (hr : LiveReturns rows body r)
    (hpost : post (LiveSplunkClient.payload spl earliest latest) = .response r) :
    LiveSplunkClient.search rt tp now post spl earliest latest =
      LiveSplunkClient.resultOf rt tp now spl (.obj body) := by
  unfold LiveSplunkClient.search LiveSplunkClient.postSearch
  rw [hspl, hpost, readReply_success hr.success hr.json]
  rfl

/-- The MCP client answers with the events of the rows, whatever they are. -/
theorem mcpSearch_of_returns {post : ToolCall → HttpReply} {searchTool : String}
    (hspl : isBlank spl = false) (hr : McpReturns tp rows r)
    (hpost : post ⟨searchTool, McpSplunkClient.arguments spl earliest latest⟩ = .response r)
    {bs : List SplunkEvent}
    (hbs : eventsOfRows (fun k row => .ok (McpSplunkClient.eventOfRow rt tp (now k) row)) 0 rows =
      .ok bs) :
    ∃ sid, McpSplunkClient.search rt tp now searchTool post spl earliest latest =
      .ok { sid := sid, query := spl, eventCount := bs.length, events := bs } := by
  obtain ⟨data, result, hjson, herror, hresult, hcarries⟩ := hr.answer
  have htool : McpSplunkClient.toolResult rt (.obj data) = .ok (.obj result) := by
    simp [McpSplunkClient.toolResult, herror, hresult]
  refine ⟨pyStr rt ((dictGet result "sid").getD (.str "mcp")), ?_⟩
  unfold McpSplunkClient.search McpSplunkClient.callTool
  rw [hspl, hpost, readReply_success hr.success hjson]
  show (McpSplunkClient.toolResult rt (.obj data) >>= McpSplunkClient.resultOf rt tp now spl) = _
  rw [htool]
  show McpSplunkClient.resultOf rt tp now spl (.obj result) = _
  unfold McpSplunkClient.resultOf
  dsimp only
  rw [extractRows_of_carries hcarries]
  show (eventsOfRows _ 0 rows >>= _) = _
  rw [hbs]
  rfl

end

theorem liveResultOf_events {rt : Runtime} {tp : Transport} {now : Nat → Time} {spl : String}
    {rows : List Row} {body : Row} {as : List SplunkEvent} {x : SearchResult}
    (has : eventsOfRows (fun k => LiveSplunkClient.eventOfRow rt tp (now k)) 0
      (rows.map JsonValue.obj) = .ok as)
    (hresults : dictGet body "results" = some (rowList rows))
    (hx : LiveSplunkClient.resultOf rt tp now spl (.obj body) = .ok x) : x.events = as := by
  obtain ⟨items, hitems, hrest⟩ := except_bind_eq_ok.mp hx
  rw [hresults] at hitems
  cases hitems
  obtain ⟨events, hevents, hsid⟩ := except_bind_eq_ok.mp hrest
  cases hevents.symm.trans has
  obtain ⟨sid, -, hdone⟩ := except_bind_eq_ok.mp hsid
  cases hdone
  rfl

theorem mcpEvents_total (rt : Runtime) (tp : Transport) (now : Nat → Time) (rows : List Row) :
    ∃ bs, eventsOfRows (fun k row => .ok (McpSplunkClient.eventOfRow rt tp (now k) row)) 0 rows =
      .ok bs :=
  (eventsOfRows_decodes (P := fun _ => True) (fun _ _ => .ok _) rows 0).value fun _ _ => trivial

theorem liveRowsShaped_rowList (rows : List Row) :
    LiveRowsShaped (rowList rows) ↔ ∀ row ∈ rows, LiveRowShaped (.obj row) := by
  unfold LiveRowsShaped rowList
  dsimp only
  rw [List.forall_mem_map]

/-- For every list of rows, however the MCP server carries them: the two searches give the
    same events, or both raise, exactly if the members that become texts are strings in every
    row and the REST body's `sid`, if it has one, is a string too. -/
theorem transports_agree_iff (rt : Runtime) (tp : Transport) (now now' : Nat → Time)
    (searchTool : String) (postLive : SearchPayload → HttpReply) (postMcp : ToolCall → HttpReply)
    (spl earliest latest : String) (hspl : isBlank spl = false) (rows : List Row) (body : Row)
    (rl rm : HttpResponse) (hl : LiveReturns rows body rl) (hm : McpReturns tp rows rm)
    (hlive : postLive (LiveSplunkClient.payload spl earliest latest) = .response rl)
    (hmcp : postMcp ⟨searchTool, McpSplunkClient.arguments spl earliest latest⟩ = .response rm) :
    SearchesAgree tp rows (LiveSplunkClient.search rt tp now postLive spl earliest latest)
        (McpSplunkClient.search rt tp now' searchTool postMcp spl earliest latest) ↔
      (∀ row ∈ rows, ∀ key ∈ ["_raw", "source", "sourcetype", "host"],
        Textual (rowMember row key)) ∧
      Textual ((dictGet body "sid").getD (.str "live")) := by
  obtain ⟨bs, hbs⟩ := mcpEvents_total rt tp now' rows
  obtain ⟨sid, hmcp'⟩ := mcpSearch_of_returns rt hspl hm hmcp hbs
  have hshaped : LiveShaped (.obj body) ↔ (∀ row ∈ rows, LiveRowShaped (.obj row)) ∧
      Textual ((dictGet body "sid").getD (.str "live")) := by
    unfold LiveShaped
    dsimp only
    rw [hl.results, Option.getD_some, liveRowsShaped_rowList]
  have hdecodes := (liveResultOf_decodes rt tp now spl (.obj body)).congr hshaped
  rw [liveSearch_of_returns rt hspl hl hlive, hmcp']
  constructor
  · intro hagree
    rcases hagree with ⟨a, b, ha, -⟩ | ⟨-, e, he⟩
    · exact hdecodes.iff.mp ⟨a, ha⟩
    · cases he
  · rintro ⟨hrows, hsid⟩
    obtain ⟨as, bs', has, hbs', hlen, hsame⟩ := events_of_shaped rt tp now now' hrows 0
    cases hbs.symm.trans hbs'
    obtain ⟨x, hx⟩ := hdecodes.value ⟨hrows, hsid⟩
    have hevents := liveResultOf_events has hl.results hx
    refine Or.inl ⟨x, _, hx, rfl, ?_, ?_⟩
    · rw [liveResultOf_count hx, hevents, hlen]
    · rw [hevents]
      exact hsame

/-! ## Small replies -/

theorem succeeds_ok (text : String) (json : Except String JsonValue) :
    Succeeds ⟨200, text, json⟩ := by
  unfold Succeeds
  dsimp only
  omega

/-- A REST response with the rows and nothing else. -/
def restResponse (rows : List Row) : HttpResponse :=
  ⟨200, "", .ok (.obj [("results", rowList rows)])⟩

theorem restResponse_returns (rows : List Row) :
    LiveReturns rows [("results", rowList rows)] (restResponse rows) :=
  ⟨succeeds_ok _ _, rfl, rfl⟩

/-- An MCP response with the rows as structured content. -/
def toolResponse (rows : List Row) : HttpResponse :=
  ⟨200, "", .ok (.obj [("result",
    .obj [("structuredContent", .obj [("results", rowList rows)])])])⟩

theorem toolResponse_returns (tp : Transport) (rows : List Row) :
    McpReturns tp rows (toolResponse rows) :=
  ⟨succeeds_ok _ _, _, _, rfl, rfl, rfl, .structured _ rfl rfl⟩

/-- Two rows with texts in the members that have to be texts. -/
def authRows : List Row :=
  [[("_raw", .str "failed login"), ("user", .int 7)], [("host", .str "web-1"), ("source", .str "auth.log")]]

def authRowsText : String :=
  "[\x7b\"_raw\": \"failed login\", \"user\": 7\x7d, \x7b\"host\": \"web-1\", \"source\": \"auth.log\"\x7d]"

def authResultsText : String := "\x7b\"results\": " ++ authRowsText ++ "\x7d"

/-- `json.loads` on these two texts. -/
def authLoads (text : String) : Except String JsonValue :=
  if text = authRowsText then .ok (rowList authRows)
  else if text = authResultsText then .ok (.obj [("results", rowList authRows)])
  else .error "JSONDecodeError"

def authTransport : Transport := { Transport.plain with loads := authLoads }

def textBlock (text : String) : JsonValue := .obj [("type", .str "text"), ("text", .str text)]

/-- An MCP response with text blocks. -/
def blocksResponse (blocks : List JsonValue) : HttpResponse :=
  ⟨200, "", .ok (.obj [("result", .obj [("content", .arr blocks)])])⟩

/-- A text before the rows, which is no JSON. -/
theorem authRows_list :
    McpReturns authTransport authRows (blocksResponse [textBlock "2 rows", textBlock authRowsText]) := by
  have hrows : authTransport.loads authRowsText = .ok (rowList authRows) := by
    show authLoads authRowsText = _
    unfold authLoads
    rw [if_pos rfl]
  have hother : "2 rows" ≠ authRowsText ∧ "2 rows" ≠ authResultsText := by decide +kernel
  have hloads : authTransport.loads "2 rows" = .error "JSONDecodeError" := by
    show authLoads "2 rows" = _
    unfold authLoads
    rw [if_neg hother.1, if_neg hother.2]
  refine ⟨succeeds_ok _ _, _, _, rfl, rfl, rfl, .textList [textBlock "2 rows"] []
    (textBlock authRowsText) authRowsText rfl rfl (fun b hb => ?_) rfl hrows⟩
  rw [List.mem_singleton.mp hb]
  constructor
  · rintro ⟨text, name, htext, hraises, hname, _⟩
    cases htext
    cases hloads.symm.trans hraises
    exact hname rfl
  · rintro ⟨text, parsed, htext, hparsed, _⟩
    cases htext
    cases hloads.symm.trans hparsed

theorem authRows_results :
    McpReturns authTransport authRows (blocksResponse [textBlock authResultsText]) := by
  have hother : authResultsText ≠ authRowsText := by decide +kernel
  have hloads : authTransport.loads authResultsText = .ok (.obj [("results", rowList authRows)]) := by
    show authLoads authResultsText = _
    unfold authLoads
    rw [if_neg hother, if_pos rfl]
  exact ⟨succeeds_ok _ _, _, _, rfl, rfl, rfl, .textResults [] [] (textBlock authResultsText)
    authResultsText _ rfl rfl (fun b hb => (by cases hb)) rfl hloads rfl⟩

/-- The MCP client's search answers as the live one's, for these rows. -/
def AgreeOnAuthRows (r : HttpResponse) : Prop :=
  SearchesAgree authTransport authRows
    (LiveSplunkClient.search .plain authTransport (fun _ => 0)
      (fun _ => .response (restResponse authRows)) "index=main" "-24h" "now")
    (McpSplunkClient.search .plain authTransport (fun _ => 1) "run_oneshot_search"
      (fun _ => .response r) "index=main" "-24h" "now")

/-- In all three encodings. -/
theorem transports_agree_texts :
    AgreeOnAuthRows (toolResponse authRows) ∧
      AgreeOnAuthRows (blocksResponse [textBlock "2 rows", textBlock authRowsText]) ∧
      AgreeOnAuthRows (blocksResponse [textBlock authResultsText]) := by
  have hrows : ∀ row ∈ authRows, ∀ key ∈ ["_raw", "source", "sourcetype", "host"],
      Textual (rowMember row key) := by
    simp only [authRows, List.mem_cons, List.not_mem_nil, or_false]
    rintro row (rfl | rfl) key (rfl | rfl | rfl | rfl) <;> trivial
  have hagree {r : HttpResponse} (hr : McpReturns authTransport authRows r) : AgreeOnAuthRows r :=
    (transports_agree_iff .plain authTransport (fun _ => 0) (fun _ => 1) "run_oneshot_search"
      (fun _ => .response (restResponse authRows)) (fun _ => .response r) "index=main" "-24h" "now"
      (by decide +kernel) authRows [("results", rowList authRows)] _ r (restResponse_returns _) hr
      rfl rfl).mpr ⟨hrows, trivial⟩
  exact ⟨hagree (toolResponse_returns _ _), hagree authRows_list, hagree authRows_results⟩

/-- A row whose host is null: the live client raises, the MCP client answers with a host
    called `None`. -/
theorem null_host_disagrees :
    ¬ SearchesAgree .plain [[("host", .null)]]
      (LiveSplunkClient.search .plain .plain (fun _ => 0)
        (fun _ => .response (restResponse [[("host", .null)]])) "index=main" "-24h" "now")
      (McpSplunkClient.search .plain .plain (fun _ => 0) "run_oneshot_search"
        (fun _ => .response (toolResponse [[("host", .null)]])) "index=main" "-24h" "now") := by
  have hspl : isBlank "index=main" = false := by decide +kernel
  have hlive : LiveSplunkClient.search .plain .plain (fun _ => 0)
      (fun _ => .response (restResponse [[("host", .null)]])) "index=main" "-24h" "now" =
      .error (.other "ValidationError") :=
    (liveSearch_of_returns .plain hspl (restResponse_returns [[("host", .null)]]) rfl).trans rfl
  obtain ⟨bs, hbs⟩ := mcpEvents_total .plain .plain (fun _ => 0) [[("host", .null)]]
  have hmcp : ∃ sid, McpSplunkClient.search .plain .plain (fun _ => 0) "run_oneshot_search"
      (fun _ => .response (toolResponse [[("host", .null)]])) "index=main" "-24h" "now" =
      .ok ⟨sid, "index=main", bs.length, bs⟩ :=
    mcpSearch_of_returns .plain hspl (toolResponse_returns _ _) rfl hbs
  obtain ⟨sid, hmcp⟩ := hmcp
  intro hagree
  rw [hlive, hmcp] at hagree
  rcases hagree with ⟨a, b, ha, -⟩ | ⟨-, e, he⟩
  · cases ha
  · cases he

end SentinelAI
