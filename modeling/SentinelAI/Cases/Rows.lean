import SentinelAI.Detection.StoredCases

/-
  What one request makes of the row under an investigation id (`row_change`): it stays, or a
  case request writes the row its operation computes, or an answered investigation run stores
  an investigation the orchestrator has just drafted, as a new row or over a row of that id.

  The laws about stored cases (`Cases/Headers.lean`, `Cases/Stamps.lean`,
  `Cases/Chronology.lean`) read a step off this one theorem.
-/

namespace SentinelAI

open Lib

/-! ## Drafts -/

/-- An investigation as the orchestrator returns it: nobody's, and in one of the two statuses
    triage leads to. -/
structure Investigation.Drafted (inv : Investigation) : Prop where
  assignee : inv.assignee = none
  status : inv.detection.status = .investigating ∨ inv.detection.status = .falsePositive

theorem Orchestrator.investigate_drafted (rt : Runtime) (env : Env) (orch : Orchestrator)
    (d : Detection) : Yields Investigation.Drafted (orch.investigate rt env d) := by
  refine Yields.bind_any fun verdict => Yields.bind_any fun summary => ?_
  refine Yields.bind_any fun uuid => Yields.bind_any fun now => Yields.pure ⟨rfl, ?_⟩
  show (if verdict.isTruePositive then DetectionStatus.investigating else .falsePositive) = _ ∨
    (if verdict.isTruePositive then DetectionStatus.investigating else .falsePositive) = _
  cases verdict.isTruePositive with
  | true => exact Or.inl rfl
  | false => exact Or.inr rfl

theorem Orchestrator.runFullPipeline_drafted (rt : Runtime) (env : Env) (orch : Orchestrator)
    (disabled : List String) : Yields (fun invs => ∀ inv ∈ invs, Investigation.Drafted inv)
      (orch.runFullPipeline rt env disabled) :=
  Yields.bind_any fun detections =>
    Yields.mapM (Orchestrator.investigate_drafted rt env orch) detections

/-! ## Saving drafts -/

/-- What saving drafts with some ids for a tenant makes of one row. -/
inductive Filed (env : Env) (tenantId : String) (ids : List String) :
    Option InvestigationRow → Option InvestigationRow → Prop
  | same (o : Option InvestigationRow) : Filed env tenantId ids o o
  | opened (inv : Investigation) (k : Nat) (hinv : inv.Drafted) (hid : inv.id ∈ ids) :
    Filed env tenantId ids none (some (newInvestigationRow tenantId inv (env.now k)))
  | refiled (row : InvestigationRow) (inv : Investigation) (hinv : inv.Drafted)
    (hid : inv.id ∈ ids) (hrow : row.id = inv.id) (htenant : row.tenantId = tenantId) :
    Filed env tenantId ids (some row) (some (row.withInvestigation inv))

namespace Filed

variable {env : Env} {tenantId : String} {ids : List String}

/-- A draft over a row just opened leaves what opening it would have. -/
theorem withInvestigation_new {inv inv' : Investigation} {now : Time} (h : inv'.id = inv.id) :
    (newInvestigationRow tenantId inv now).withInvestigation inv' =
      newInvestigationRow tenantId inv' now := by
  unfold InvestigationRow.withInvestigation newInvestigationRow
  rw [h]

theorem trans {o o' o'' : Option InvestigationRow} (h : Filed env tenantId ids o o')
    (h' : Filed env tenantId ids o' o'') : Filed env tenantId ids o o'' := by
  cases h' with
  | same => exact h
  | opened inv k hinv hid =>
    cases h with
    | same => exact .opened inv k hinv hid
  | refiled row inv hinv hid hrow htenant =>
    cases h with
    | same => exact .refiled row inv hinv hid hrow htenant
    | opened inv' k hinv' hid' =>
      rw [withInvestigation_new hrow.symm]
      exact .opened inv k hinv hid
    | refiled row' inv' hinv' hid' hrow' htenant' => exact .refiled row' inv hinv hid hrow htenant'

theorem mono {ids' : List String} {o o' : Option InvestigationRow} (h : Filed env tenantId ids o o')
    (hids : ids ⊆ ids') : Filed env tenantId ids' o o' := by
  cases h with
  | same => exact .same o
  | opened inv k hinv hid => exact .opened inv k hinv (hids hid)
  | refiled row inv hinv hid hrow htenant => exact .refiled row inv hinv (hids hid) hrow htenant

end Filed

/-- A saved draft is filed under its id; the other rows stay. -/
theorem save_filed {env : Env} {tenantId : String} {inv : Investigation} (hinv : inv.Drafted)
    {s t : Session} {row : InvestigationRow}
    (h : (InvestigationRepository.save env tenantId inv).run s = .ok row t) (id : String) :
    Filed env tenantId [inv.id] (s.db.investigations.find? id) (t.db.investigations.find? id) := by
  obtain ⟨_, rows, hins, hrun⟩ | ⟨_, _, hrun⟩ | ⟨existing, hown, hrun⟩ :=
    InvestigationRepository.save_cases env tenantId inv s
  · cases hrun.symm.trans h
    obtain ⟨hnone, hself, hother⟩ := KeyedTable.find?_insert? hins
    show Filed env tenantId [inv.id] (s.db.investigations.find? id) (rows.find? id)
    by_cases hid : id = inv.id
    · subst hid
      have hbefore : s.db.investigations.find? inv.id = none := hnone
      have hafter : rows.find? inv.id = some (newInvestigationRow tenantId inv (env.now s.ticks)) :=
        hself
      rw [hbefore, hafter]
      exact .opened inv s.ticks hinv (List.mem_singleton_self _)
    · have hsame : rows.find? id = s.db.investigations.find? id := hother id hid
      rw [hsame]
      exact .same _
  · cases hrun.symm.trans h
  · cases hrun.symm.trans h
    obtain ⟨hfind, htenant⟩ := ownRow_eq_some.mp hown
    have hkey : existing.id = inv.id := ((s.db.investigations.find?_eq_some _ _).mp hfind).2
    obtain ⟨hself, hother⟩ := find_written hfind
      (show (existing.withInvestigation inv).id = existing.id from rfl)
    show Filed env tenantId [inv.id] (s.db.investigations.find? id)
      ((s.db.investigations.modify existing.id (existing.withInvestigation inv).write
        (existing.withInvestigation inv).write_key).find? id)
    by_cases hid : id = inv.id
    · subst hid
      rw [hfind, hself]
      exact .refiled existing inv hinv (List.mem_singleton_self _) hkey htenant
    · rw [hother id hid]
      exact .same _

theorem forM_save_filed {rt : Runtime} {env : Env} {p : Principal} {invs : List Investigation}
    (hinvs : ∀ inv ∈ invs, inv.Drafted) {s t : Session} {u : Unit}
    (h : (invs.forM (Routes.saveInvestigation rt env p)).run s = .ok u t) (id : String) :
    Filed env p.tenantId (invs.map Investigation.id) (s.db.investigations.find? id)
      (t.db.investigations.find? id) := by
  induction invs generalizing s with
  | nil =>
    cases h
    exact .same _
  | cons inv invs ih =>
    obtain ⟨hinv, hrest⟩ := List.forall_mem_cons.mp hinvs
    obtain ⟨_, v, hfirst, hthen⟩ := run_bind_eq_ok.mp h
    obtain ⟨row, v', hsave, haudit⟩ := run_bind_eq_ok.mp hfirst
    have hkept := (AuditService.recordEntry_touches (F := [Resource.auditLog]) rt env _).moves.of_ok
      haudit .investigations (by decide)
    have hrows : v.db.investigations = v'.db.investigations := hkept.1
    have hfiled := save_filed hinv hsave id
    have hmore := ih hrest hthen
    rw [hrows] at hmore
    refine Filed.trans (hfiled.mono ?_) (hmore.mono ?_)
    · intro x hx
      rw [List.mem_singleton.mp hx]
      exact List.mem_cons_self
    · exact List.subset_cons_self ..

/-! ## What a request makes of a row -/

/-- The ids the investigations of a run are given, as far as Splunk's answers let it get. -/
def drawnIds (rt : Runtime) (w : World) (e : Event) (tenantId : String) : List String :=
  let n := detectionsFound rt w.db e.env tenantId
  investigationIds e.env n n

/-- An answered investigation run, inverted: the drafts of its pipeline are stored after it. -/
theorem RunReaches.pipeline {rt : Runtime} {w : World} {e : Event} {p : Principal}
    {orch : Orchestrator} (h : RunReaches rt w e p orch) (hs : succeeds rt w e = true) :
    ∃ invs l u t, (∀ inv ∈ invs, inv.Drafted) ∧ u.db = w.db ∧
      invs.map Investigation.id = drawnIds rt w e p.tenantId ∧
      (Routes.afterPipeline rt e.env p (wanted w.db p.tenantId) invs).run u = .ok l t ∧
      (step rt w e).db = t.db := by
  obtain ⟨body, t, hok⟩ := (succeeds_iff rt w e).mp hs
  have hrun := h.handled_run
  rw [hok] at hrun
  split at hrun
  · obtain ⟨l, v, hbody, hret⟩ := run_bind_eq_ok.mp hrun.symm
    cases hret
    obtain ⟨invs, u, hpipe, hstore⟩ := run_bind_eq_ok.mp hbody
    have hdrafted := Orchestrator.runFullPipeline_drafted rt e.env orch _ _ _ _ hpipe
    have htouched := (Orchestrator.runFullPipeline_touches rt e.env orch
      (disabledAt w.db p.tenantId)).moves.of_ok hpipe
    have hrows : u.db = w.db := db_eq_of_outside htouched
    obtain ⟨as, has, hran⟩ := Orchestrator.runFullPipeline_ok rfl hpipe
    have hids : invs.map Investigation.id = drawnIds rt w e p.tenantId := by
      rw [hran.ids, drawnIds, h.found has]
      show investigationIds e.env (0 + hits as) (hits as) = _
      rw [Nat.zero_add]
    exact ⟨invs, l, u, t, hdrafted, hrows, hids, hstore, by rw [step_eq, hok]⟩
  · cases hrun

/-- What an answered investigation run makes of a row. -/
theorem RunReaches.filed {rt : Runtime} {w : World} {e : Event} {p : Principal}
    {orch : Orchestrator} (h : RunReaches rt w e p orch) (hs : succeeds rt w e = true)
    (id : String) :
    Filed e.env p.tenantId (drawnIds rt w e p.tenantId) (w.db.investigations.find? id)
      ((step rt w e).db.investigations.find? id) := by
  obtain ⟨invs, l, u, t, hdrafted, hrows, hids, hstore, hdb⟩ := h.pipeline hs
  obtain ⟨u', v, _, hmetered, hsave, hrefresh, _⟩ := Routes.afterPipeline_ok hstore
  have hfiled := forM_save_filed hdrafted hsave id
  have hkept := (Routes.refreshIncidents_touches rt e.env p).moves.of_ok hrefresh
    .investigations (by decide)
  have hafter : t.db.investigations = v.db.investigations := hkept.1
  have hbefore : u'.db.investigations = w.db.investigations := by
    rw [hmetered, hrows]
    rfl
  rw [hids, hbefore, ← hafter, ← hdb] at hfiled
  exact hfiled

/-- What a request makes of the row under an id. -/
inductive RowChange (rt : Runtime) (w : World) (e : Event) (id : String) : Prop
  | kept (h : (step rt w e).db.investigations.find? id = w.db.investigations.find? id)
  | written (auth : Authorization) (r : CaseRequest) (op : CaseOp)
    (he : e.request = .case auth id r) (hop : r.op e.env = some op)
    (h : Writes rt w e auth id r op)
  | filed (p : Principal) (orch : Orchestrator) (hreach : RunReaches rt w e p orch)
    (hs : succeeds rt w e = true)
    (h : Filed e.env p.tenantId (drawnIds rt w e p.tenantId) (w.db.investigations.find? id)
      ((step rt w e).db.investigations.find? id))

/-- Every request keeps the row under an id, writes it, or files a draft there. -/
theorem row_change (rt : Runtime) (w : World) (e : Event) (id : String) : RowChange rt w e id := by
  by_cases hF : Part.investigations ∈ footprint e.request
  · obtain ⟨auth, he⟩ | ⟨auth, invId, r, he, hnote⟩ := investigations_footprint hF
    · have hc : .committed ∉ footprint e.request := by simp [he, footprint]
      obtain ⟨body, t, hok, _⟩ | ⟨_, hdb⟩ := step_db rt hc
      · have hs : succeeds rt w e = true := (succeeds_iff rt w e).mpr ⟨body, t, hok⟩
        obtain ⟨p, orch, _, _, _, _, _, hreach, _, _⟩ := completes_of_succeeds he hs
        exact .filed p orch hreach hs (hreach.filed hs id)
      · exact .kept (by rw [hdb])
    · obtain ⟨op, hop⟩ : ∃ op, r.op e.env = some op := by
        cases r with
        | note body => exact absurd rfl (hnote body)
        | _ => exact ⟨_, rfl⟩
      obtain hw | ⟨_, hdb⟩ := case_step rt he hop
      · by_cases hid : id = invId
        · subst hid
          exact .written auth r op he hop hw
        · obtain ⟨_, _, _, _, _, hother⟩ := hw.rows
          exact .kept (hother id hid)
      · exact .kept (by rw [hdb])
  · exact .kept (by rw [step_investigations hF])

end SentinelAI
