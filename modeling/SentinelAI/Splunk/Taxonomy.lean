import SentinelAI.Api.Routes
import SentinelAI.Splunk.Transport

/-
  Which replies the Splunk clients answer with a result or a `SplunkError`.

  A rejected token and a bad request are named, a refused status is httpx's own exception,
  and an accepted body has to be of the shape its decoder reads: each decoder succeeds on
  the bodies of that shape and raises an exception of Python's on the others.
-/

namespace SentinelAI

open Lib

variable {α β : Type}

/-! ## Decoders -/

theorem except_bind_eq_ok {x : Except Exc α} {f : α → Except Exc β} {b : β} :
    x >>= f = .ok b ↔ ∃ a, x = .ok a ∧ f a = .ok b := by
  cases x with
  | ok a => exact ⟨fun h => ⟨a, rfl, h⟩, fun ⟨_, ha, hb⟩ => by cases ha; exact hb⟩
  | error e => exact ⟨fun h => (by cases h), fun ⟨_, ha, _⟩ => (by cases ha)⟩

/-- The computation gives a value if `P` holds, and raises an exception outside the
    taxonomy if it does not. -/
structure Decodes (x : Except Exc α) (P : Prop) : Prop where
  value : P → ∃ a, x = .ok a
  escapes : ¬ P → ∃ name, x = .error (.other name)

namespace Decodes

theorem ok (a : α) : Decodes (.ok a : Except Exc α) True :=
  ⟨fun _ => ⟨a, rfl⟩, fun h => absurd trivial h⟩

theorem error (name : String) : Decodes (.error (.other name) : Except Exc α) False :=
  ⟨False.elim, fun _ => ⟨name, rfl⟩⟩

theorem congr {x : Except Exc α} {P Q : Prop} (h : Decodes x P) (hPQ : P ↔ Q) : Decodes x Q :=
  ⟨fun hQ => h.value (hPQ.mpr hQ), fun hQ => h.escapes fun hP => hQ (hPQ.mp hP)⟩

theorem iff {x : Except Exc α} {P : Prop} (h : Decodes x P) : (∃ a, x = .ok a) ↔ P := by
  refine ⟨fun ⟨a, ha⟩ => ?_, h.value⟩
  by_contra hP
  obtain ⟨name, hname⟩ := h.escapes hP
  rw [ha] at hname
  cases hname

/-- One decoder after another: the second reads what the first gave. -/
theorem bind {x : Except Exc α} {f : α → Except Exc β} {P Q : Prop} (hx : Decodes x P)
    (hf : ∀ a, x = .ok a → Decodes (f a) Q) : Decodes (x >>= f) (P ∧ Q) := by
  by_cases hP : P
  · obtain ⟨a, ha⟩ := hx.value hP
    have h := hf a ha
    rw [ha]
    exact h.congr ⟨fun hQ => ⟨hP, hQ⟩, And.right⟩
  · obtain ⟨name, hname⟩ := hx.escapes hP
    rw [hname]
    exact (error name).congr ⟨False.elim, fun h => hP h.1⟩

/-- What is made of a decoded value. -/
theorem map {x : Except Exc α} {P : Prop} (hx : Decodes x P) (g : α → β) :
    Decodes (x >>= fun a => pure (g a)) P :=
  (hx.bind fun a _ => ok (g a)).congr (and_iff_left trivial)

end Decodes

/-- A string. -/
def Textual : JsonValue → Prop
  | .str _ => True
  | _ => False

theorem strField_decodes (v : JsonValue) : Decodes (strField v) (Textual v) := by
  cases v with
  | str s => exact .ok s
  | _ => exact .error _

/-- Rows are decoded one by one. -/
theorem eventsOfRows_decodes {f : Nat → α → Except Exc SplunkEvent} {P : α → Prop}
    (h : ∀ k row, Decodes (f k row) (P row)) (rows : List α) (k : Nat) :
    Decodes (eventsOfRows f k rows) (∀ row ∈ rows, P row) := by
  induction rows generalizing k with
  | nil => exact (Decodes.ok []).congr ⟨fun _ row hrow => absurd hrow (by simp), fun _ => trivial⟩
  | cons row rows ih =>
    have hrest : ∀ event, Decodes (eventsOfRows f (k + 1) rows >>= fun events =>
        pure (event :: events)) (∀ x ∈ rows, P x) := fun event => (ih (k + 1)).map _
    exact ((h k row).bind fun event _ => hrest event).congr List.forall_mem_cons.symm

/-! ## The live client -/

/-- A row of which the live client makes an event: an object whose text members, where it
    has them, are strings. -/
def LiveRowShaped : JsonValue → Prop
  | .obj row => ∀ key ∈ ["_raw", "source", "sourcetype", "host"], Textual (rowMember row key)
  | _ => False

/-- Something to iterate over, of shaped rows alone. A text and an object yield strings, so
    only an empty one will do. -/
def LiveRowsShaped : JsonValue → Prop
  | .arr rows => ∀ row ∈ rows, LiveRowShaped row
  | .str s => s = ""
  | .obj kvs => kvs = []
  | _ => False

/-- A body the live client reads. -/
def LiveShaped : JsonValue → Prop
  | .obj data =>
    LiveRowsShaped ((dictGet data "results").getD (.arr [])) ∧
      Textual ((dictGet data "sid").getD (.str "live"))
  | _ => False

theorem liveEventOfRow_decodes (rt : Runtime) (tp : Transport) (now : Time) (row : JsonValue) :
    Decodes (LiveSplunkClient.eventOfRow rt tp now row) (LiveRowShaped row) := by
  cases row with
  | obj kvs =>
    have h := (strField_decodes (rowMember kvs "_raw")).bind fun raw _ =>
      (strField_decodes (rowMember kvs "source")).bind fun source _ =>
      (strField_decodes (rowMember kvs "sourcetype")).bind fun sourcetype _ =>
      (strField_decodes (rowMember kvs "host")).map fun host =>
        ({ raw := raw, source := source, sourcetype := sourcetype, host := host,
           timestamp := parseTime tp now (dictGet kvs "_time"),
           fields := eventFields rt kvs } : SplunkEvent)
    exact h.congr (by simp [LiveRowShaped])
  | _ => exact .error _

/-- What a search makes of the rows is read off `results` alone. -/
theorem liveRows_decodes (rt : Runtime) (tp : Transport) (now : Nat → Time) (v : JsonValue) :
    Decodes (pyItems v >>= eventsOfRows (fun k => LiveSplunkClient.eventOfRow rt tp (now k)) 0)
      (LiveRowsShaped v) := by
  have hrows := fun rows => eventsOfRows_decodes
    (fun k row => liveEventOfRow_decodes rt tp (now k) row) rows 0
  cases v with
  | arr rows => exact hrows rows
  | str s =>
    refine (hrows (s.toList.map fun c => .str (String.singleton c))).congr ?_
    rw [List.forall_mem_map]
    refine ⟨fun h => ?_, fun h => ?_⟩
    · have hnil : s.toList = [] := List.eq_nil_iff_forall_not_mem.mpr fun c hc => h c hc
      exact String.toList_eq_nil_iff.mp hnil
    · subst h
      intro c hc
      cases hc
  | obj kvs =>
    refine (hrows (kvs.map fun kv => .str kv.1)).congr ?_
    rw [List.forall_mem_map]
    refine ⟨fun h => List.eq_nil_iff_forall_not_mem.mpr fun kv hkv => h kv hkv, fun h => ?_⟩
    subst h
    intro kv hkv
    cases hkv
  | _ => exact .error _

theorem liveResultOf_decodes (rt : Runtime) (tp : Transport) (now : Nat → Time) (spl : String)
    (v : JsonValue) : Decodes (LiveSplunkClient.resultOf rt tp now spl v) (LiveShaped v) := by
  cases v with
  | obj data =>
    have hrest : ∀ events : List SplunkEvent,
        Decodes (strField ((dictGet data "sid").getD (.str "live")) >>= fun sid =>
          pure ({ sid := sid, query := spl, eventCount := events.length,
                  events := events } : SearchResult))
          (Textual ((dictGet data "sid").getD (.str "live"))) :=
      fun events => (strField_decodes _).map _
    have h := (liveRows_decodes rt tp now ((dictGet data "results").getD (.arr []))).bind
      fun events _ => hrest events
    rw [bind_assoc] at h
    exact h
  | _ => exact .error _

/-! ## The MCP client -/

/-- The text of a text block. -/
def blockText : JsonValue → Option String
  | .obj block =>
    if McpSplunkClient.isText "text" ((dictGet block "type").getD .null) then
      match rowMember block "text" with
      | .str text => some text
      | _ => none
    else none
  | _ => none

/-- The block's text is the JSON of a list, or of an object with a list of results. -/
def HoldsRows (tp : Transport) (block : JsonValue) : Prop :=
  ∃ text parsed, blockText block = some text ∧ tp.loads text = .ok parsed ∧
    (McpSplunkClient.textRows parsed).isSome

/-- `json.loads` refuses the block's text with an exception that nobody catches, such as the
    `ValueError` of a number with too many digits. -/
def BlockRaises (tp : Transport) (block : JsonValue) : Prop :=
  ∃ text name, blockText block = some text ∧ tp.loads text = .error name ∧
    name ≠ "JSONDecodeError" ∧ name ≠ "TypeError"

/-- No block before the first one that holds rows breaks the decoder. -/
def BlocksReadable (tp : Transport) : List JsonValue → Prop
  | [] => True
  | block :: blocks => ¬ BlockRaises tp block ∧ (HoldsRows tp block ∨ BlocksReadable tp blocks)

/-- The content of a tool's result. Without a list there are no blocks to look at, but
    something to iterate over it has to be. -/
def ContentShaped (tp : Transport) : JsonValue → Prop
  | .arr blocks => BlocksReadable tp blocks
  | .str _ => True
  | .obj _ => True
  | _ => False

/-- A tool's result that the MCP client reads. -/
def ToolResultShaped (tp : Transport) : JsonValue → Prop
  | .obj result =>
    (dictGet result "structuredContent").bind McpSplunkClient.resultRows = none →
      ContentShaped tp ((dictGet result "content").getD (.arr []))
  | _ => False

/-- An error that the MCP client can report. -/
def IsObject : JsonValue → Prop
  | .obj _ => True
  | _ => False

/-- A body the MCP client reads: one with an error object, or with a tool's result. -/
def McpShaped (tp : Transport) : JsonValue → Prop
  | .obj data =>
    if ((dictGet data "error").getD .null).truthy then IsObject ((dictGet data "error").getD .null)
    else ToolResultShaped tp ((dictGet data "result").getD (.obj []))
  | _ => False

theorem blockText_eq_some {block : JsonValue} {text : String} (h : blockText block = some text) :
    ∃ kvs, block = .obj kvs ∧
      McpSplunkClient.isText "text" ((dictGet kvs "type").getD .null) = true ∧
      rowMember kvs "text" = .str text := by
  unfold blockText at h
  split at h
  · rename_i kvs
    split at h
    · rename_i htype
      split at h
      · rename_i htext
        cases h
        exact ⟨kvs, rfl, htype, htext⟩
      · cases h
    · cases h
  · cases h

theorem blockRows_of_none (tp : Transport) {block : JsonValue} (h : blockText block = none) :
    McpSplunkClient.blockRows tp block = .ok none := by
  unfold blockText at h
  unfold McpSplunkClient.blockRows
  split
  · split
    · rename_i htype
      dsimp only at h
      rw [if_pos htype] at h
      split
      · rename_i htext
        rw [htext] at h
        cases h
      · rfl
    · rfl
  · rfl

section

variable {tp : Transport} {block : JsonValue} {text : String}

theorem blockRows_of_loads (h : blockText block = some text) {parsed : JsonValue}
    (hloads : tp.loads text = .ok parsed) :
    McpSplunkClient.blockRows tp block = .ok (McpSplunkClient.textRows parsed) := by
  obtain ⟨kvs, rfl, htype, htext⟩ := blockText_eq_some h
  simp only [McpSplunkClient.blockRows, htype, htext, hloads, if_true]

theorem blockRows_of_error (h : blockText block = some text) {name : String}
    (hloads : tp.loads text = .error name) :
    McpSplunkClient.blockRows tp block =
      if name = "JSONDecodeError" ∨ name = "TypeError" then .ok none
      else .error (.other name) := by
  obtain ⟨kvs, rfl, htype, htext⟩ := blockText_eq_some h
  simp only [McpSplunkClient.blockRows, htype, htext, hloads, if_true, Bool.or_eq_true, beq_iff_eq]

theorem blockRaises_iff (h : blockText block = some text) :
    BlockRaises tp block ↔ ∃ name, tp.loads text = .error name ∧
      name ≠ "JSONDecodeError" ∧ name ≠ "TypeError" := by
  simp [BlockRaises, h]

theorem holdsRows_iff (h : blockText block = some text) :
    HoldsRows tp block ↔ ∃ parsed, tp.loads text = .ok parsed ∧
      (McpSplunkClient.textRows parsed).isSome := by
  simp [HoldsRows, h]

end

/-- A block breaks the decoder, holds rows, or is passed over. -/
theorem blockRows_cases (tp : Transport) (block : JsonValue) :
    (BlockRaises tp block ∧ ∃ name, McpSplunkClient.blockRows tp block = .error (.other name)) ∨
    (¬ BlockRaises tp block ∧ HoldsRows tp block ∧
      ∃ rows, McpSplunkClient.blockRows tp block = .ok (some rows)) ∨
    (¬ BlockRaises tp block ∧ ¬ HoldsRows tp block ∧
      McpSplunkClient.blockRows tp block = .ok none) := by
  cases htext : blockText block with
  | none =>
    have hb : ¬ BlockRaises tp block := by simp [BlockRaises, htext]
    have hr : ¬ HoldsRows tp block := by simp [HoldsRows, htext]
    exact Or.inr (Or.inr ⟨hb, hr, blockRows_of_none tp htext⟩)
  | some text =>
    rw [blockRaises_iff htext, holdsRows_iff htext]
    cases hloads : tp.loads text with
    | ok parsed =>
      rw [blockRows_of_loads htext hloads]
      cases hrows : McpSplunkClient.textRows parsed with
      | some rows => simp [hrows]
      | none => simp [hrows]
    | error name =>
      rw [blockRows_of_error htext hloads]
      by_cases hname : name = "JSONDecodeError" ∨ name = "TypeError"
      · rw [if_pos hname]
        refine Or.inr (Or.inr ⟨?_, by simp, rfl⟩)
        rintro ⟨name', herror, hdecode, htype⟩
        cases herror
        exact hname.elim hdecode htype
      · rw [if_neg hname]
        rw [not_or] at hname
        exact Or.inl ⟨⟨name, rfl, hname.1, hname.2⟩, name, rfl⟩

theorem rowsOfBlocks_decodes (tp : Transport) (blocks : List JsonValue) :
    Decodes (McpSplunkClient.rowsOfBlocks tp blocks) (BlocksReadable tp blocks) := by
  induction blocks with
  | nil => exact .ok []
  | cons block blocks ih =>
    unfold McpSplunkClient.rowsOfBlocks
    rcases blockRows_cases tp block with ⟨hb, name, h⟩ | ⟨hb, hrows, rows, h⟩ | ⟨hb, hrows, h⟩
    · rw [h]
      exact (Decodes.error name).congr ⟨False.elim, fun hr => hr.1 hb⟩
    · rw [h]
      exact (Decodes.ok rows).congr ⟨fun _ => ⟨hb, Or.inl hrows⟩, fun _ => trivial⟩
    · rw [h]
      exact ih.congr ⟨fun hr => ⟨hb, Or.inr hr⟩, fun hr => hr.2.resolve_left hrows⟩

theorem contentRows_decodes (tp : Transport) (v : JsonValue) :
    Decodes (pyItems v >>= McpSplunkClient.rowsOfBlocks tp) (ContentShaped tp v) := by
  -- strings are no blocks, so those of a text or an object are all passed over
  have hstrings : ∀ texts : List String,
      BlocksReadable tp (texts.map JsonValue.str) := by
    intro texts
    induction texts with
    | nil => trivial
    | cons text texts ih =>
      have hno : blockText (.str text) = none := rfl
      exact ⟨by simp [BlockRaises, hno], Or.inr ih⟩
  cases v with
  | arr blocks => exact rowsOfBlocks_decodes tp blocks
  | str s =>
    have h := rowsOfBlocks_decodes tp ((s.toList.map String.singleton).map JsonValue.str)
    rw [List.map_map] at h
    refine h.congr (iff_of_true ?_ trivial)
    rw [← List.map_map]
    exact hstrings _
  | obj kvs =>
    have h := rowsOfBlocks_decodes tp ((kvs.map Prod.fst).map JsonValue.str)
    rw [List.map_map] at h
    refine h.congr (iff_of_true ?_ trivial)
    rw [← List.map_map]
    exact hstrings _
  | _ => exact .error _

theorem mcpResultOf_decodes (rt : Runtime) (tp : Transport) (now : Nat → Time) (spl : String)
    (v : JsonValue) : Decodes (McpSplunkClient.resultOf rt tp now spl v)
      (ToolResultShaped tp v) := by
  cases v with
  | obj result =>
    have hrows : Decodes (McpSplunkClient.extractRows tp result)
        (ToolResultShaped tp (.obj result)) := by
      unfold McpSplunkClient.extractRows ToolResultShaped
      cases hstructured : (dictGet result "structuredContent").bind McpSplunkClient.resultRows with
      | some rows =>
        refine (Decodes.ok rows).congr ⟨fun _ hnone => ?_, fun _ => trivial⟩
        cases hstructured.symm.trans hnone
      | none => exact (contentRows_decodes tp _).congr ⟨fun h _ => h, fun h => h hstructured⟩
    have hevents : ∀ rows : List Row, Decodes
        (eventsOfRows (fun k row => .ok (McpSplunkClient.eventOfRow rt tp (now k) row)) 0 rows)
        True := fun rows =>
      (eventsOfRows_decodes (fun k row => .ok _) rows 0).congr (by simp)
    have h := hrows.bind fun rows _ => (hevents rows).map
      fun events => ({ sid := pyStr rt ((dictGet result "sid").getD (.str "mcp")), query := spl,
                       eventCount := events.length, events := events } : SearchResult)
    exact h.congr (and_iff_left trivial)
  | _ => exact .error _

/-! ## The taxonomy -/

/-- A search result that counts its own events, or an error of the Splunk hierarchy. -/
def InTaxonomy : Except Exc SearchResult → Prop
  | .ok r => r.eventCount = r.events.length
  | .error (.splunk _) => True
  | .error _ => False

/-- The search's outcome is in the taxonomy, and the `/search` route over it answers every
    admitted request with 200 or 400. -/
structure StaysInside (spl earliest latest : String) (x : Except Exc SearchResult) : Prop where
  client : InTaxonomy x
  route : ∀ env auth s principal t, (Deps.require env auth .searchRun).run s = .ok principal t →
    env.search .managed t.searches.length spl earliest latest = x →
    (∃ r u, (Routes.search env auth spl earliest latest).run s = .ok r u) ∨
    (∃ detail u, (Routes.search env auth spl earliest latest).run s = .error (.http 400 detail) u)

/-- The replies whose status both clients name, and the accepted ones with a body they read. -/
def Understood (tp : Transport) (r : HttpResponse) (shaped : Prop) : Prop :=
  r.status = 401 ∨ r.status = 400 ∨ (tp.refuses r.status = false ∧ shaped)

/-- An error status without a name of its own is never in the taxonomy. -/
theorem not_understood_of_error {tp : Transport} {r : HttpResponse} {shaped : Prop}
    (hlow : 402 ≤ r.status) (hhigh : r.status < 600) : ¬ Understood tp r shaped := by
  rintro (h401 | h400 | ⟨hrefuses, -⟩)
  · omega
  · omega
  · rw [tp.refuses_error r.status (by omega) hhigh] at hrefuses
    cases hrefuses

/-- A reply with another status is in the taxonomy by its body. -/
theorem Understood.shaped {tp : Transport} {r : HttpResponse} {shaped : Prop}
    (h : Understood tp r shaped) (h401 : r.status ≠ 401) (h400 : r.status ≠ 400) : shaped :=
  ((h.resolve_left h401).resolve_left h400).2

theorem route_answers {env : Env} {auth : Authorization} {s t : Session} {principal : Principal}
    {spl earliest latest : String} {x : Except Exc SearchResult}
    (hrequire : (Deps.require env auth .searchRun).run s = .ok principal t)
    (hsearch : env.search .managed t.searches.length spl earliest latest = x)
    (hx : InTaxonomy x) :
    (∃ r u, (Routes.search env auth spl earliest latest).run s = .ok r u) ∨
    (∃ detail u,
      (Routes.search env auth spl earliest latest).run s = .error (.http 400 detail) u) := by
  have hattempt := attempt_search_run env .managed spl earliest latest t
  rw [hsearch] at hattempt
  unfold Routes.search
  rw [run_bind_ok hrequire, run_bind_ok hattempt]
  cases x with
  | ok r => exact Or.inl ⟨r, _, rfl⟩
  | error e =>
    cases e with
    | splunk e => exact Or.inr ⟨_, _, rfl⟩
    | _ => cases hx

/-- A decoder that succeeds on some bodies alone, and counts its events, is in the taxonomy
    on these. -/
theorem Decodes.inTaxonomy_iff {x : Except Exc SearchResult} {P : Prop} (h : Decodes x P)
    (hcount : ∀ r, x = .ok r → r.eventCount = r.events.length) : InTaxonomy x ↔ P := by
  refine ⟨fun hx => ?_, fun hP => ?_⟩
  · by_contra hP
    obtain ⟨name, hname⟩ := h.escapes hP
    rw [hname] at hx
    exact hx
  · obtain ⟨r, hr⟩ := h.value hP
    rw [hr]
    exact hcount r hr

theorem liveResultOf_count {rt : Runtime} {tp : Transport} {now : Nat → Time} {spl : String}
    {v : JsonValue} {r : SearchResult} (h : LiveSplunkClient.resultOf rt tp now spl v = .ok r) :
    r.eventCount = r.events.length := by
  cases v with
  | obj data =>
    obtain ⟨rows, -, hrows⟩ := except_bind_eq_ok.mp h
    obtain ⟨events, -, hevents⟩ := except_bind_eq_ok.mp hrows
    obtain ⟨sid, -, hsid⟩ := except_bind_eq_ok.mp hevents
    cases hsid
    rfl
  | _ => cases h

theorem mcpResultOf_count {rt : Runtime} {tp : Transport} {now : Nat → Time} {spl : String}
    {v : JsonValue} {r : SearchResult} (h : McpSplunkClient.resultOf rt tp now spl v = .ok r) :
    r.eventCount = r.events.length := by
  cases v with
  | obj result =>
    obtain ⟨rows, -, hrows⟩ := except_bind_eq_ok.mp h
    obtain ⟨events, -, hevents⟩ := except_bind_eq_ok.mp hrows
    cases hevents
    rfl
  | _ => cases h

/-- The two statuses with a name of their own are in the taxonomy, an accepted body is what
    its decoder makes of it, and any other status is httpx's exception. -/
theorem inTaxonomy_read_iff {tp : Transport} {rejected : String} {r : HttpResponse}
    {v : JsonValue} (hjson : r.json = .ok v) {f : JsonValue → Except Exc SearchResult} {P : Prop}
    (hf : InTaxonomy (f v) ↔ P) :
    InTaxonomy (readReply tp rejected (.response r) >>= f) ↔ Understood tp r P := by
  unfold readReply Understood
  dsimp only
  by_cases h401 : r.status = 401
  · rw [if_pos h401]
    exact iff_of_true trivial (Or.inl h401)
  · rw [if_neg h401]
    by_cases h400 : r.status = 400
    · rw [if_pos h400]
      exact iff_of_true trivial (Or.inr (Or.inl h400))
    · rw [if_neg h400]
      cases hrefuses : tp.refuses r.status with
      | true =>
        rw [if_pos rfl]
        exact iff_of_false (fun h => h) (by simp [h401, h400])
      | false =>
        rw [if_neg (by decide), hjson]
        exact hf.trans (by simp [h401, h400])

section

variable (rt : Runtime) (tp : Transport) (now : Nat → Time) {spl earliest latest : String}
  {r : HttpResponse} {v : JsonValue}

theorem liveSearch_inTaxonomy_iff {post : SearchPayload → HttpReply} (hspl : isBlank spl = false)
    (hjson : r.json = .ok v)
    (hpost : post (LiveSplunkClient.payload spl earliest latest) = .response r) :
    InTaxonomy (LiveSplunkClient.search rt tp now post spl earliest latest) ↔
      Understood tp r (LiveShaped v) := by
  unfold LiveSplunkClient.search LiveSplunkClient.postSearch
  rw [hspl, hpost]
  exact inTaxonomy_read_iff hjson ((liveResultOf_decodes rt tp now spl v).inTaxonomy_iff
    fun _ h => liveResultOf_count h)

/-- An error of the JSON-RPC answer is reported if it is an object; otherwise the tool's
    result is read. -/
theorem toolResult_inTaxonomy_iff (v : JsonValue) :
    InTaxonomy (McpSplunkClient.toolResult rt v >>= McpSplunkClient.resultOf rt tp now spl) ↔
      McpShaped tp v := by
  cases v with
  | obj data =>
    unfold McpSplunkClient.toolResult McpShaped
    dsimp only
    cases htruthy : ((dictGet data "error").getD .null).truthy with
    | true =>
      rw [if_pos rfl, if_pos rfl]
      cases (dictGet data "error").getD .null with
      | obj e => exact iff_of_true trivial trivial
      | _ => exact iff_of_false (fun h => h) (fun h => h)
    | false =>
      rw [if_neg (by decide), if_neg (by decide)]
      exact (mcpResultOf_decodes rt tp now spl _).inTaxonomy_iff fun _ h => mcpResultOf_count h
  | _ => exact iff_of_false (fun h => h) (fun h => h)

theorem mcpSearch_inTaxonomy_iff {post : ToolCall → HttpReply} {searchTool : String}
    (hspl : isBlank spl = false) (hjson : r.json = .ok v)
    (hpost : post ⟨searchTool, McpSplunkClient.arguments spl earliest latest⟩ = .response r) :
    InTaxonomy (McpSplunkClient.search rt tp now searchTool post spl earliest latest) ↔
      Understood tp r (McpShaped tp v) := by
  unfold McpSplunkClient.search McpSplunkClient.callTool
  rw [hspl, hpost]
  have h : InTaxonomy (readReply tp "Splunk MCP Server rejected the token" (.response r) >>=
      fun data => McpSplunkClient.toolResult rt data >>=
        McpSplunkClient.resultOf rt tp now spl) ↔ Understood tp r (McpShaped tp v) :=
    inTaxonomy_read_iff hjson (toolResult_inTaxonomy_iff rt tp now v)
  rw [← bind_assoc] at h
  exact h

end

theorem staysInside_iff {spl earliest latest : String} {x : Except Exc SearchResult} :
    StaysInside spl earliest latest x ↔ InTaxonomy x :=
  ⟨StaysInside.client, fun h => ⟨h, fun _ _ _ _ _ hrequire hsearch =>
    route_answers hrequire hsearch h⟩⟩

/-- Two rows, under `results` for the live client and in a tool's result for the MCP one. -/
def twoRowsReply : HttpResponse :=
  let rows : JsonValue := .arr [.obj [("_raw", .str "failed login"), ("user", .str "admin"), ("count", .int 7)],
    .obj [("_time", .int 0), ("host", .str "web-1"), ("source", .str "/var/log/auth.log")]]
  ⟨200, "", .ok (.obj [("sid", .str "1"), ("results", rows),
    ("result", .obj [("structuredContent", .obj [("results", rows)])])])⟩

end SentinelAI
