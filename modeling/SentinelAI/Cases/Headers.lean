import SentinelAI.Cases.Rows
import SentinelAI.Detection.EnabledRules

/-
  The header of a stored case and the aggregate it carries. Seven columns repeat fields of the
  payload (`HeaderAgrees`); every operation writes both sides alike, so the agreement and the
  lifecycle of the status hold along every run, and a filter on the columns is a filter on the
  payloads.
-/

namespace SentinelAI

open Lib

/-- The header columns of a row say what its payload says. -/
structure HeaderAgrees (row : InvestigationRow) : Prop where
  title : row.title = row.payload.detection.title
  severity : row.severity = row.payload.detection.severity.value
  status : row.status = row.payload.detection.status.value
  entity : row.entity = row.payload.detection.entity
  riskScore : row.riskScore = riskFrom row.payload
  isTruePositive : row.isTruePositive = row.payload.verdict.map TriageVerdict.isTruePositive
  assignee : row.assignee = row.payload.assignee

def HeadersAgree (db : Database) : Prop := ∀ row ∈ db.investigations.rows, HeaderAgrees row

/-! ## Operation by operation -/

theorem HeaderAgrees.opened {inv : Investigation} (h : inv.Drafted) (tenantId : String)
    (now : Time) : HeaderAgrees (newInvestigationRow tenantId inv now) :=
  ⟨rfl, rfl, rfl, rfl, rfl, rfl, h.assignee.symm⟩

theorem HeaderAgrees.setAction {row : InvestigationRow} (h : HeaderAgrees row) (i : Int)
    (a : IncidentAction) : HeaderAgrees (row.setAction i a) :=
  ⟨h.title, h.severity, h.status, h.entity, h.riskScore, h.isTruePositive, h.assignee⟩

theorem HeaderAgrees.setStatus {row : InvestigationRow} (h : HeaderAgrees row)
    (status : DetectionStatus) : HeaderAgrees (row.setStatus status) :=
  ⟨h.title, h.severity, rfl, h.entity, h.riskScore, h.isTruePositive, h.assignee⟩

theorem HeaderAgrees.execute {row : InvestigationRow} (h : HeaderAgrees row) (i : Int)
    (a : IncidentAction) (r : ExecutionResult) : HeaderAgrees (executeRow i a r row) := by
  unfold executeRow
  dsimp only
  split
  · exact (h.setAction i _).setStatus .contained
  · exact h.setAction i _

/-- Every operation writes header and payload alike. -/
theorem HeaderAgrees.compute {op : CaseOp} {row new : InvestigationRow} (h : HeaderAgrees row)
    (hnew : op.compute row = some new) : HeaderAgrees new := by
  cases op with
  | approve i =>
    obtain ⟨a, _, rfl⟩ := approve_compute.mp hnew
    exact h.setAction i _
  | execute i connectors =>
    obtain ⟨a, r, _, _, _, rfl⟩ := execute_compute.mp hnew
    exact h.execute i a r
  | assign assignee =>
    cases hnew
    exact ⟨h.title, h.severity, h.status, h.entity, h.riskScore, h.isTruePositive, rfl⟩
  | transition target now =>
    obtain ⟨status, _, rfl⟩ := transition_compute.mp hnew
    have hset := h.setStatus status
    exact ⟨hset.title, hset.severity, hset.status, hset.entity, hset.riskScore,
      hset.isTruePositive, hset.assignee⟩

/-- The status goes along an edge of the lifecycle, or stays. -/
def StatusMove (row new : InvestigationRow) : Prop :=
  new.status = row.status ∨ ∃ current target : DetectionStatus, row.status = current.value ∧
    new.status = target.value ∧ canTransition current target = true

/-- Containing an executed case is an edge of the lifecycle, though `execute_action` does not
    consult it. -/
theorem executeRow_move (i : Int) (a : IncidentAction) (r : ExecutionResult)
    (row : InvestigationRow) : StatusMove row (executeRow i a r row) := by
  unfold StatusMove
  rw [executeRow_status]
  by_cases hstatus : row.status = DetectionStatus.investigating.value
  · exact Or.inr ⟨.investigating, .contained, hstatus, if_pos hstatus, by decide⟩
  · exact Or.inl (if_neg hstatus)

theorem legalTransition_edge {target : String} {row : InvestigationRow} {status : DetectionStatus}
    (h : legalTransition target row = .ok status) :
    ∃ current : DetectionStatus, row.status = current.value ∧ target = status.value ∧
      canTransition current status = true := by
  obtain ⟨current, hcurrent, htarget, hcan⟩ := legalTransition_ok.mp h
  exact ⟨current, (DetectionStatus.value_of_ofValue? hcurrent).symm,
    (DetectionStatus.value_of_ofValue? htarget).symm, hcan⟩

theorem compute_move {op : CaseOp} {row new : InvestigationRow}
    (hnew : op.compute row = some new) : StatusMove row new := by
  cases op with
  | approve i =>
    obtain ⟨a, _, rfl⟩ := approve_compute.mp hnew
    exact Or.inl rfl
  | execute i connectors =>
    obtain ⟨a, r, _, _, _, rfl⟩ := execute_compute.mp hnew
    exact executeRow_move i a r row
  | assign assignee =>
    cases hnew
    exact Or.inl rfl
  | transition target now =>
    obtain ⟨status, hlegal, rfl⟩ := transition_compute.mp hnew
    obtain ⟨current, hrow, _, hcan⟩ := legalTransition_edge hlegal
    exact Or.inr ⟨current, status, hrow, rfl, hcan⟩

/-! ## Request by request -/

/-- An investigation run gives its investigations ids the tenant has not stored. -/
def FreshCases (rt : Runtime) (w : World) (e : Event) : Prop :=
  ∀ p orch, RunReaches rt w e p orch →
    ∀ id ∈ drawnIds rt w e p.tenantId, id ∉ storedIds w.db p.tenantId

/-- A run with fresh ids files its drafts in new rows only. -/
theorem FreshCases.filed {rt : Runtime} {w : World} {e : Event} (hfresh : FreshCases rt w e)
    {p : Principal} {orch : Orchestrator} (hreach : RunReaches rt w e p orch) {id : String}
    {o' : Option InvestigationRow} (h : Filed e.env p.tenantId (drawnIds rt w e p.tenantId)
      (w.db.investigations.find? id) o') :
    o' = w.db.investigations.find? id ∨ (w.db.investigations.find? id = none ∧
      ∃ inv k, inv.Drafted ∧ o' = some (newInvestigationRow p.tenantId inv (e.env.now k))) := by
  generalize ho : w.db.investigations.find? id = o at h
  cases h with
  | same => exact Or.inl rfl
  | opened inv k hinv hid => exact Or.inr ⟨rfl, inv, k, hinv, rfl⟩
  | refiled row inv hinv hid hrow htenant =>
    have hmem := ((w.db.investigations.find?_eq_some _ _).mp ho).1
    refine absurd (mem_storedIds.mpr ⟨row, hmem, htenant, rfl⟩) ?_
    rw [hrow]
    exact hfresh p orch hreach inv.id hid

theorem headersAgree_step {rt : Runtime} {w : World} {e : Event} (hfresh : FreshCases rt w e)
    (h : HeadersAgree w.db) : HeadersAgree (step rt w e).db := by
  intro new hnew
  have hfind := ((step rt w e).db.investigations.find?_eq_some new.id new).mpr ⟨hnew, rfl⟩
  have hold {row : InvestigationRow} (hrow : w.db.investigations.find? new.id = some row) :
      HeaderAgrees row := h row ((w.db.investigations.find?_eq_some _ _).mp hrow).1
  cases row_change rt w e new.id with
  | kept hsame => exact hold (hsame ▸ hfind)
  | written auth r op he hop hw =>
    obtain ⟨row, new', hrow, hcompute, hself, _⟩ := hw.rows
    cases hself.symm.trans hfind
    exact (hold hrow).compute hcompute
  | filed p orch hreach hs hfiled =>
    obtain hsame | ⟨_, inv, k, hinv, hopened⟩ := hfresh.filed hreach hfiled
    · exact hold (hsame ▸ hfind)
    · cases hopened.symm.trans hfind
      exact HeaderAgrees.opened hinv p.tenantId (e.env.now k)

/-- A request moves the status of a stored case along the lifecycle only. -/
def MovesLegally (rt : Runtime) (w : World) (e : Event) : Prop :=
  ∀ id row new, w.db.investigations.find? id = some row →
    (step rt w e).db.investigations.find? id = some new → StatusMove row new

theorem movesLegally_step {rt : Runtime} {w : World} {e : Event} (hfresh : FreshCases rt w e) :
    MovesLegally rt w e := by
  intro id row new hrow hnew
  have hkept (hsame : (step rt w e).db.investigations.find? id = w.db.investigations.find? id) :
      StatusMove row new := by
    rw [hsame, hrow] at hnew
    cases hnew
    exact Or.inl rfl
  cases row_change rt w e id with
  | kept hsame => exact hkept hsame
  | written auth r op he hop hw =>
    obtain ⟨row', new', hrow', hcompute, hself, _⟩ := hw.rows
    cases hrow.symm.trans hrow'
    cases hself.symm.trans hnew
    exact compute_move hcompute
  | filed p orch hreach hs hfiled =>
    obtain hsame | ⟨hnone, _⟩ := hfresh.filed hreach hfiled
    · exact hkept hsame
    · cases hnone.symm.trans hrow

/-! ## Filters -/

/-- The investigation has the values asked for; an absent filter asks for none. -/
def Investigation.hasValues (status severity assignee : Option String) (inv : Investigation) :
    Bool :=
  status.all (fun v => inv.detection.status.value == v) &&
    severity.all (fun v => inv.detection.severity.value == v) &&
    assignee.all fun v => inv.assignee == some v

/-- Filters with a value each. -/
def NonEmptyFilters (status severity assignee : Option String) : Prop :=
  status ≠ some "" ∧ severity ≠ some "" ∧ assignee ≠ some ""

theorem filterBy_eq_all {value : Option String} (h : value ≠ some "") (column : String) :
    InvestigationRepository.filterBy value column = value.all fun v => column == v := by
  cases value with
  | none => rfl
  | some v =>
    have hv : v ≠ "" := fun he => h (congrArg some he)
    simp [InvestigationRepository.filterBy, hv]

/-- The investigations of a tenant that have some values. -/
def casesWith (db : Database) (tenantId : String) (status severity assignee : Option String) :
    List Investigation :=
  ((tenantCases db tenantId).map InvestigationRow.payload).filter
    (Investigation.hasValues status severity assignee)

/-- The clause of `list` on the assignee. -/
def filterAssignee (value : Option String) (r : InvestigationRow) : Bool :=
  match value with
  | none => true
  | some v => v == "" || r.assignee == some v

theorem filterAssignee_eq_all {value : Option String} (h : value ≠ some "")
    (r : InvestigationRow) : filterAssignee value r = value.all fun v => r.assignee == some v := by
  cases value with
  | none => rfl
  | some v =>
    have hv : v ≠ "" := fun he => h (congrArg some he)
    simp [filterAssignee, hv]

/-- The rows `list` selects. -/
def listedRows (db : Database) (tenantId : String) (status severity assignee : Option String) :
    List InvestigationRow :=
  db.investigations.select fun r =>
    r.tenantId == tenantId && InvestigationRepository.filterBy status r.status &&
      InvestigationRepository.filterBy severity r.severity && filterAssignee assignee r

theorem InvestigationRepository.list_run (tenantId : String)
    (status severity assignee : Option String) (limit offset : Nat) (s : Session) :
    (InvestigationRepository.list tenantId status severity assignee limit offset).run s =
      .ok (((((listedRows s.db tenantId status severity assignee).insertionSort
          InvestigationRepository.listOrder).drop offset).take limit).map InvestigationRow.payload,
        (listedRows s.db tenantId status severity assignee).length) s := rfl

theorem length_listedRows_le (db : Database) (tenantId : String)
    (status severity assignee : Option String) :
    (listedRows db tenantId status severity assignee).length ≤ (tenantCases db tenantId).length := by
  show (db.investigations.rows.filter _).length ≤ (db.investigations.rows.filter _).length
  rw [← List.countP_eq_length_filter, ← List.countP_eq_length_filter]
  refine List.countP_mono_left fun r _ hr => ?_
  simp only [Bool.and_eq_true] at hr
  exact hr.1.1.1

/-- A list request with a large enough limit returns the payloads of all rows it selects. -/
theorem InvestigationRepository.list_all (tenantId : String)
    (status severity assignee : Option String) {limit : Nat} {s : Session}
    (hlimit : (tenantCases s.db tenantId).length ≤ limit) :
    ∃ page, (InvestigationRepository.list tenantId status severity assignee limit 0).run s =
        .ok (page, page.length) s ∧
      page.Perm ((listedRows s.db tenantId status severity assignee).map
        InvestigationRow.payload) := by
  let rows := listedRows s.db tenantId status severity assignee
  let sorted := rows.insertionSort InvestigationRepository.listOrder
  have hlength : sorted.length = rows.length := List.length_insertionSort _ rows
  have hcount : rows.length ≤ limit := (length_listedRows_le ..).trans hlimit
  have hpage : (sorted.drop 0).take limit = sorted := by
    rw [List.drop_zero]
    apply List.take_of_length_le
    omega
  refine ⟨sorted.map InvestigationRow.payload, ?_, ?_⟩
  · rw [InvestigationRepository.list_run, hpage, List.length_map, hlength]
  · exact (List.perm_insertionSort InvestigationRepository.listOrder rows).map
      InvestigationRow.payload

/-- Where headers agree, a filter on the columns is one on the payloads. -/
theorem listedRows_eq {db : Database} (h : HeadersAgree db) (tenantId : String)
    {status severity assignee : Option String}
    (hfilters : NonEmptyFilters status severity assignee) :
    listedRows db tenantId status severity assignee =
      (tenantCases db tenantId).filter fun r => r.payload.hasValues status severity assignee := by
  obtain ⟨hstatus, hseverity, hassignee⟩ := hfilters
  show db.investigations.rows.filter _ = (db.investigations.rows.filter _).filter _
  rw [List.filter_filter]
  refine List.filter_congr fun r hr => ?_
  have hheader := h r hr
  rw [filterAssignee_eq_all hassignee, filterBy_eq_all hstatus, filterBy_eq_all hseverity,
    hheader.status, hheader.severity, hheader.assignee, Investigation.hasValues]
  simp only [Bool.and_assoc, Bool.and_comm (r.tenantId == tenantId)]

/-- A list request with non-empty filters and a large enough limit. -/
theorem list_payloads {s : Session} (h : HeadersAgree s.db) (tenantId : String)
    {status severity assignee : Option String}
    (hfilters : NonEmptyFilters status severity assignee) {limit : Nat}
    (hlimit : (tenantCases s.db tenantId).length ≤ limit) :
    ∃ page, (InvestigationRepository.list tenantId status severity assignee limit 0).run s =
        .ok (page, page.length) s ∧
      page.Perm (casesWith s.db tenantId status severity assignee) := by
  obtain ⟨page, hrun, hperm⟩ :=
    InvestigationRepository.list_all tenantId status severity assignee hlimit
  refine ⟨page, hrun, ?_⟩
  have hfiltered : (listedRows s.db tenantId status severity assignee).map
      InvestigationRow.payload = casesWith s.db tenantId status severity assignee := by
    rw [listedRows_eq h tenantId hfilters, casesWith, List.filter_map]
    rfl
  rw [← hfiltered]
  exact hperm

/-! ## Along every run -/

theorem headersAgree_run {rt : Runtime} {w w' : World} {es : List Event} (h : HeadersAgree w.db)
    (hrun : Steps (Guarded (Stepped rt) (FreshCases rt)) w es w') : HeadersAgree w'.db := by
  refine Steps.inv (I := fun w => HeadersAgree w.db) ?_ hrun h
  rintro s e _ ⟨rfl, hfresh⟩ hs
  exact headersAgree_step hfresh hs

/-- In every run, from rows whose header says what the aggregate says, whose investigation
    runs draw fresh ids: header and aggregate agree, the next request moves statuses along the
    lifecycle only, and a filtered list holds the investigations whose payload has the values. -/
theorem header_says_payload {rt : Runtime} {w w' : World} {es : List Event}
    (h : HeadersAgree w.db) (hrun : Steps (Guarded (Stepped rt) (FreshCases rt)) w es w') :
    HeadersAgree w'.db ∧ (∀ e, FreshCases rt w' e → MovesLegally rt w' e) ∧
      ∀ (s : Session) (tenantId : String) (status severity assignee : Option String)
        (limit : Nat), s.db = w'.db → NonEmptyFilters status severity assignee →
        (tenantCases w'.db tenantId).length ≤ limit →
        ∃ page, (InvestigationRepository.list tenantId status severity assignee limit 0).run s =
            .ok (page, page.length) s ∧
          page.Perm (casesWith w'.db tenantId status severity assignee) := by
  have hagree := headersAgree_run h hrun
  refine ⟨hagree, fun e hfresh => movesLegally_step hfresh, ?_⟩
  intro s tenantId status severity assignee limit hdb hfilters hlimit
  rw [← hdb] at hagree hlimit ⊢
  exact list_payloads hagree tenantId hfilters hlimit

/-- An investigation run with one finding, stored as `INV-0a1b2c3d`. -/
def findingRun : Event where
  env :=
    { now := fun _ => 0
      uuid4 := fun _ => "0a1b2c3d"
      search := fun _ k spl _ _ =>
        .ok { sid := "1", query := spl, eventCount := if k = 0 then 10 else 0 }
      complete := fun _ _ _ _ => .ok "summary" }
  request := .runInvestigations (.bearer adminToken)

/-- A status request on what it stores. -/
def moveTo (status : String) : Event :=
  adminRequest (.case (.bearer adminToken) "INV-0a1b2c3d" (.status status))

/-- A case opened and then contained. -/
theorem header_says_payload_contained :
    HeadersAgree (run shortDigest (initech "pro") [findingRun, moveTo "contained"]).db := by
  refine (@header_says_payload shortDigest (initech "pro") _ [findingRun, moveTo "contained"]
    (fun row hrow => ?_) (Steps.cons ⟨rfl, fun p orch _ id _ hstored => ?_⟩
      (Steps.cons ⟨rfl, fun p orch hreach => ?_⟩ (Steps.nil _)))).1
  · cases hrow
  · cases hstored
  · obtain ⟨auth, he, _⟩ := hreach.admitted
    cases he

end SentinelAI
