import SentinelAI.Detection.RunRequest
import SentinelAI.Security.CaseSteps

/-
  Which investigations a tenant has stored. Every row is stored under the id of the
  investigation it carries, through all requests; a completed investigation run files its
  investigations under the ids it drew and removes none.
-/

namespace SentinelAI

open Lib

/-! ## Rows and their payloads -/

/-- Every investigation is stored under its id. -/
def NamedByPayload (db : Database) : Prop :=
  ∀ row ∈ db.investigations.rows, row.payload.id = row.id

theorem executeRow_payload_id (i : Int) (a : IncidentAction) (r : ExecutionResult)
    (row : InvestigationRow) : (executeRow i a r row).payload.id = row.payload.id := by
  unfold executeRow
  dsimp only
  split <;> rfl

/-- No case request renames the investigation it writes. -/
theorem compute_payload_id {op : CaseOp} {r new : InvestigationRow} (h : op.compute r = some new) :
    new.payload.id = r.payload.id := by
  cases op with
  | approve i =>
    obtain ⟨a, _, rfl⟩ := Option.map_eq_some_iff.mp h
    rfl
  | execute i connectors =>
    simp only [CaseOp.compute] at h
    split at h
    · cases h
    · split at h
      · cases h
        exact executeRow_payload_id ..
      · cases h
  | assign a =>
    cases h
    rfl
  | transition target now =>
    simp only [CaseOp.compute] at h
    split at h
    · cases h
      rfl
    · cases h

/-- A changed row written over the one it was computed from. -/
theorem NamedByPayload.modify {db db' : Database} (h : NamedByPayload db)
    {row new : InvestigationRow} (hrow : row ∈ db.investigations.rows)
    (hnew : new.payload.id = row.id)
    (hdb : db'.investigations = db.investigations.modify row.id new.write new.write_key) :
    NamedByPayload db' := by
  intro x hx
  rw [hdb, KeyedTable.mem_modify] at hx
  obtain ⟨old, hold, hkey, rfl⟩ | ⟨hx, _⟩ := hx
  · obtain rfl := db.investigations.eq_of_key_eq hold hrow hkey
    exact hnew
  · exact h x hx

/-! ## What a run saves -/

/-- The investigations of a tenant. -/
def tenantCases (db : Database) (tenantId : String) : List InvestigationRow :=
  db.investigations.select fun r => r.tenantId == tenantId

/-- Their ids. -/
def storedIds (db : Database) (tenantId : String) : List String :=
  (tenantCases db tenantId).map InvestigationRow.id

theorem mem_storedIds {db : Database} {tenantId id : String} :
    id ∈ storedIds db tenantId ↔
      ∃ row ∈ db.investigations.rows, row.tenantId = tenantId ∧ row.id = id := by
  unfold storedIds tenantCases
  rw [List.mem_map]
  simp only [KeyedTable.mem_select, beq_iff_eq, and_assoc]

theorem storedIds_nodup (db : Database) (tenantId : String) : (storedIds db tenantId).Nodup :=
  db.investigations.nodup.sublist (List.filter_sublist.map _)

/-- What a tenant has stored under an id. -/
def storedPayload (db : Database) (tenantId id : String) : Option Investigation :=
  (ownRow db tenantId id).map InvestigationRow.payload

theorem mem_storedIds_iff {db : Database} {tenantId id : String} :
    id ∈ storedIds db tenantId ↔ (storedPayload db tenantId id).isSome = true := by
  unfold storedPayload
  rw [mem_storedIds, Option.isSome_map, Option.isSome_iff_exists]
  simp only [ownRow_eq_some, KeyedTable.find?_eq_some]
  constructor
  · rintro ⟨row, hrow, htenant, hid⟩
    exact ⟨row, ⟨hrow, hid⟩, htenant⟩
  · rintro ⟨row, ⟨hrow, hid⟩, htenant⟩
    exact ⟨row, hrow, htenant, hid⟩

/-- Cases after some more are filed, each under its id, the later ones over the earlier. -/
def filed (cases : String → Option Investigation) (invs : List Investigation) :
    String → Option Investigation :=
  invs.foldl (fun cases inv => Function.update cases inv.id (some inv)) cases

theorem filed_append (cases : String → Option Investigation) (invs invs' : List Investigation) :
    filed cases (invs ++ invs') = filed (filed cases invs) invs' := List.foldl_append

theorem filed_isSome (cases : String → Option Investigation) (invs : List Investigation) (id : String) :
    (filed cases invs id).isSome = true ↔ (cases id).isSome = true ∨ id ∈ invs.map Investigation.id := by
  induction invs generalizing cases with
  | nil => simp [filed]
  | cons inv invs ih =>
    show (filed (Function.update cases inv.id (some inv)) invs id).isSome = true ↔ _
    rw [ih, List.map_cons, List.mem_cons]
    by_cases hid : id = inv.id
    · simp [hid]
    · simp [hid]

theorem filed_of_not_mem {cases : String → Option Investigation} {invs : List Investigation} {id : String}
    (hid : id ∉ invs.map Investigation.id) : filed cases invs id = cases id := by
  induction invs generalizing cases with
  | nil => rfl
  | cons inv invs ih =>
    rw [List.map_cons, List.mem_cons, not_or] at hid
    exact (ih hid.2).trans (Function.update_of_ne hid.1 _ _)

/-- Where the ids differ, each case is filed under its own. -/
theorem filed_of_mem {cases : String → Option Investigation} {invs : List Investigation}
    (hnodup : (invs.map Investigation.id).Nodup) {inv : Investigation} (hinv : inv ∈ invs) :
    filed cases invs inv.id = some inv := by
  induction invs generalizing cases with
  | nil => cases hinv
  | cons first rest ih =>
    obtain ⟨hfirst, hrest⟩ := List.nodup_cons.mp hnodup
    obtain rfl | hinv := List.mem_cons.mp hinv
    · exact (filed_of_not_mem hfirst).trans (Function.update_self _ _ _)
    · exact ih hrest hinv

/-- Sessions between which some investigations were filed for the tenant, each under its id. -/
structure Saved (tenantId : String) (invs : List Investigation) (s t : Session) : Prop where
  payloads : storedPayload t.db tenantId = filed (storedPayload s.db tenantId) invs
  named : NamedByPayload s.db → NamedByPayload t.db

theorem Saved.ids {tenantId : String} {invs : List Investigation} {s t : Session}
    (h : Saved tenantId invs s t) (id : String) :
    id ∈ storedIds t.db tenantId ↔ id ∈ storedIds s.db tenantId ∨ id ∈ invs.map Investigation.id := by
  rw [mem_storedIds_iff, h.payloads, filed_isSome, mem_storedIds_iff]

theorem Saved.of_rows {tenantId : String} {s t : Session}
    (h : t.db.investigations = s.db.investigations) : Saved tenantId [] s t := by
  constructor
  · funext id
    show storedPayload t.db tenantId id = storedPayload s.db tenantId id
    unfold storedPayload ownRow
    rw [h]
  · intro hnamed row hrow
    rw [h] at hrow
    exact hnamed row hrow

theorem Saved.trans {tenantId : String} {is js : List Investigation} {s t u : Session}
    (h : Saved tenantId is s t) (h' : Saved tenantId js t u) : Saved tenantId (is ++ js) s u := by
  constructor
  · rw [filed_append, ← h.payloads, h'.payloads]
  · exact fun hnamed => h'.named (h.named hnamed)

theorem Saved.insert {tenantId : String} {inv : Investigation} {now : Time} {s t : Session}
    (h : s.db.investigations.insert? (newInvestigationRow tenantId inv now) =
      some t.db.investigations) : Saved tenantId [inv] s t := by
  obtain ⟨_, hself, hother⟩ := KeyedTable.find?_insert? h
  constructor
  · funext id
    show storedPayload t.db tenantId id =
      Function.update (storedPayload s.db tenantId) inv.id (some inv) id
    unfold storedPayload ownRow
    by_cases hid : id = inv.id
    · have hfound : t.db.investigations.find? id = some (newInvestigationRow tenantId inv now) :=
        hid ▸ hself
      rw [hfound, hid, Function.update_self]
      simp [newInvestigationRow]
    · rw [Function.update_of_ne hid, hother id hid]
  · intro hnamed row hrow
    rw [KeyedTable.insert?_rows h, List.mem_append, List.mem_singleton] at hrow
    obtain hrow | rfl := hrow
    · exact hnamed row hrow
    · rfl

theorem Saved.update {tenantId : String} {inv : Investigation} {existing : InvestigationRow}
    {s t : Session} (hown : ownRow s.db tenantId inv.id = some existing)
    (h : t.db.investigations = s.db.investigations.modify existing.id
      (existing.withInvestigation inv).write (existing.withInvestigation inv).write_key) :
    Saved tenantId [inv] s t := by
  obtain ⟨hfind, htenant⟩ := ownRow_eq_some.mp hown
  obtain ⟨hrow, hid⟩ := (s.db.investigations.find?_eq_some _ _).mp hfind
  replace hid : existing.id = inv.id := hid
  constructor
  · funext id
    show storedPayload t.db tenantId id =
      Function.update (storedPayload s.db tenantId) inv.id (some inv) id
    unfold storedPayload ownRow
    rw [h]
    by_cases hself : id = inv.id
    · have hfound := KeyedTable.find?_modify_self (existing.withInvestigation inv).write_key
        (hid ▸ hfind : s.db.investigations.find? existing.id = some existing)
      rw [hself, ← hid, hfound, Function.update_self]
      have hkept : ((existing.withInvestigation inv).write existing).tenantId = tenantId := htenant
      simp only [Option.filter_some, hkept, beq_self_eq_true, if_true, Option.map_some]
      rfl
    · have hother := KeyedTable.find?_modify_ne (t := s.db.investigations)
        (existing.withInvestigation inv).write_key (hid ▸ hself : id ≠ existing.id)
      rw [Function.update_of_ne hself, hother]
  · exact fun hnamed => hnamed.modify hrow hid.symm h

/-- An investigation is saved under its id, whether it is new to the tenant or not. -/
theorem save_ok {env : Env} {tenantId : String} {inv : Investigation} {s t : Session}
    {row : InvestigationRow}
    (h : (InvestigationRepository.save env tenantId inv).run s = .ok row t) :
    Saved tenantId [inv] s t := by
  obtain ⟨_, rows, hins, hrun⟩ | ⟨_, _, hrun⟩ | ⟨existing, hown, hrun⟩ :=
    InvestigationRepository.save_cases env tenantId inv s
  · cases hrun.symm.trans h
    exact Saved.insert hins
  · cases hrun.symm.trans h
  · cases hrun.symm.trans h
    exact Saved.update hown rfl

theorem forM_save_ok {rt : Runtime} {env : Env} {p : Principal} {invs : List Investigation}
    {s t : Session} {u : Unit}
    (h : (invs.forM (Routes.saveInvestigation rt env p)).run s = .ok u t) :
    Saved p.tenantId invs s t := by
  induction invs generalizing s with
  | nil =>
    cases h
    exact Saved.of_rows rfl
  | cons inv invs ih =>
    obtain ⟨_, v, hinv, hrest⟩ := run_bind_eq_ok.mp h
    obtain ⟨row, v', hsave, haudit⟩ := run_bind_eq_ok.mp hinv
    have hkept := (AuditService.recordEntry_touches (F := [Resource.auditLog]) rt env _).moves.of_ok
      haudit .investigations (by decide)
    have haudited : Saved p.tenantId [] v' v := Saved.of_rows hkept.1
    exact ((save_ok hsave).trans haudited).trans (ih hrest)

/-- What follows the pipeline saves its investigations. -/
theorem afterPipeline_saved {rt : Runtime} {env : Env} {p : Principal} {n : Int}
    {invs : List Investigation} {s t : Session} {l : Routes.InvestigationList}
    (h : (Routes.afterPipeline rt env p n invs).run s = .ok l t) :
    Saved p.tenantId invs s t := by
  obtain ⟨u, v, _, hdb, hsave, hrefresh, _⟩ := Routes.afterPipeline_ok h
  have hstart : Saved p.tenantId [] s u := by
    refine Saved.of_rows ?_
    rw [hdb]
    rfl
  have hkept := (Routes.refreshIncidents_touches rt env p).moves.of_ok hrefresh
    .investigations (by decide)
  have hend : Saved p.tenantId [] v t := Saved.of_rows hkept.1
  have hall := (hstart.trans (forM_save_ok hsave)).trans hend
  rwa [List.nil_append, List.append_nil] at hall

/-- What a completed run has saved for its tenant. -/
theorem RunCompletes.saved {rt : Runtime} {w : World} {e : Event} {p : Principal}
    {orch : Orchestrator} {as : List RuleAnswer} {invs : List Investigation}
    {l : Routes.InvestigationList} {u t : Session} (h : RunCompletes rt w e p orch as invs l u t) :
    Saved p.tenantId invs w.session t := by
  have hstart : Saved p.tenantId [] w.session u := by
    refine Saved.of_rows ?_
    rw [h.rows]
    rfl
  exact hstart.trans (afterPipeline_saved h.stored)

/-- The ids it drew for them. -/
theorem RunCompletes.ids {rt : Runtime} {w : World} {e : Event} {p : Principal}
    {orch : Orchestrator} {as : List RuleAnswer} {invs : List Investigation}
    {l : Routes.InvestigationList} {u t : Session} (h : RunCompletes rt w e p orch as invs l u t) :
    invs.map Investigation.id = investigationIds e.env (hits as) (hits as) := by
  rw [h.ran.ids]
  show investigationIds e.env (0 + hits as) (hits as) = _
  rw [Nat.zero_add]

theorem NamedByPayload.congr {db db' : Database} (h : NamedByPayload db)
    (hrows : db'.investigations = db.investigations) : NamedByPayload db' := by
  intro row hrow
  rw [hrows] at hrow
  exact h row hrow

/-- Every request keeps the investigations stored under their ids. -/
theorem namedByPayload_step (rt : Runtime) {w : World} (h : NamedByPayload w.db) (e : Event) :
    NamedByPayload (step rt w e).db := by
  by_cases hF : Part.investigations ∈ footprint e.request
  · obtain ⟨auth, he⟩ | ⟨auth, invId, r, he, hnote⟩ := investigations_footprint hF
    · have hc : .committed ∉ footprint e.request := by simp [he, footprint]
      obtain ⟨body, t, hok, _⟩ | ⟨_, hdb⟩ := step_db rt hc
      · have hs : succeeds rt w e = true := (succeeds_iff rt w e).mpr ⟨body, t, hok⟩
        obtain ⟨p, orch, as, invs, l, u, t, _, _, hdone⟩ := completes_of_succeeds he hs
        rw [hdone.step_db]
        exact hdone.saved.named h
      · exact h.congr (by rw [hdb])
    · obtain ⟨op, hop⟩ : ∃ op, r.op e.env = some op := by
        cases r with
        | note body => exact absurd rfl (hnote body)
        | _ => exact ⟨_, rfl⟩
      obtain ⟨p, row, new, _, hrow, hnew, _, hdb⟩ | ⟨_, hdb⟩ := case_step rt he hop
      · have hmem := ((w.db.investigations.find?_eq_some _ _).mp (ownRow_eq_some.mp hrow).1).1
        exact h.modify hmem ((compute_payload_id hnew).trans (h row hmem)) hdb
      · exact h.congr (by rw [hdb])
  · exact h.congr (step_investigations hF)

theorem namedByPayload_run (rt : Runtime) {w : World} (h : NamedByPayload w.db)
    (es : List Event) : NamedByPayload (run rt w es).db := by
  induction es generalizing w with
  | nil => exact h
  | cons e es ih => exact ih (namedByPayload_step rt h e)

end SentinelAI
