import SentinelAI.Detection.IncidentCover
import SentinelAI.Records.Failures

/-
  What an investigation run ends in. The pipeline stores nothing. What follows it stores the
  cases one by one, each under the id of a drawn uuid, and then the incidents: a case fails
  to be stored when another tenant has its id, an incident when its id is stored, or when
  two draws of the run have made the same.
-/

namespace SentinelAI

open Lib

variable {rt : Runtime} {env : Env} {db : Database} {cs : List Cause} {orch : Orchestrator}

/-! ## The pipeline -/

theorem complete_fails (model : AIModel) (system user : String) (h : .modelError ∈ cs) :
    Raises (Fails rt env db cs) (model.complete env system user) :=
  get_silent.bind fun _ => (modify_silent _).bind fun _ =>
    ofExcept_fails fun ex hex _ => .modelError h model _ system user ex hex

/-- An error of the model has a fallback, if the client says that it is one. -/
theorem triage_fails (model : AIModel) (d : Detection) (hmodel : .modelError ∈ cs)
    (hverdict : .noVerdict ∈ cs) :
    Raises (Fails rt env db cs) (TriageAgent.triage rt env model d) where
  returns _ _ := trivial
  raises {s ex t} _ hrun := by
    rw [TriageAgent.triage_run, ofExcept_run] at hrun
    cases hanswer : env.complete model s.completions.length TriageAgent.system
        (TriageAgent.prompt d) with
    | ok text =>
      rw [hanswer] at hrun
      cases hconclude : TriageAgent.conclude rt d (.ok text) with
      | ok v =>
        rw [hconclude] at hrun
        cases hrun
      | error e =>
        rw [hconclude] at hrun
        cases hrun
        exact .noVerdict hverdict model _ _ _ text d _ hanswer hconclude
    | error e =>
      rw [hanswer] at hrun
      cases e with
      | aiModel message => cases hrun
      | _ =>
        cases hrun
        exact .modelError hmodel model _ _ _ _ hanswer

theorem investigate_fails (d : Detection) (hmodel : .modelError ∈ cs) (hverdict : .noVerdict ∈ cs) :
    Raises (Fails rt env db cs) (orch.investigate rt env d) := by
  refine (triage_fails orch.model _ hmodel hverdict).bind fun v => ?_
  refine (complete_fails orch.model _ _ hmodel).bind fun summary => ?_
  exact (uuidHex_silent env).bind fun uuid => (readClock_silent env).bind fun now => Raises.pure _

/-- The investigations have the ids of uuids the request has drawn. -/
def CasesDrawn (env : Env) (invs : List Investigation) (s : Session) : Prop :=
  ∀ inv ∈ invs, ∃ n < s.uuids, IdKind.case.ofUuid (env.uuid4 n) = inv.id

theorem mapM_investigate_uuids {ds : List Detection} {s t : Session} {invs : List Investigation}
    (h : (ds.mapM (orch.investigate rt env)).run s = .ok invs t) : t.uuids = s.uuids + ds.length := by
  induction ds generalizing s invs with
  | nil =>
    cases h
    rfl
  | cons d ds ih =>
    obtain ⟨inv, u, invs', hinv, hrest, rfl⟩ := mapM_cons_eq_ok.mp h
    rw [ih hrest, (Orchestrator.investigate_ok hinv).2.1, List.length_cons]
    omega

theorem runFullPipeline_casesDrawn {disabled : List String} {s t : Session} {invs : List Investigation}
    (h : (orch.runFullPipeline rt env disabled).run s = .ok invs t) :
    t.db = s.db ∧ CasesDrawn env invs t := by
  refine ⟨db_eq_of_outside ((Orchestrator.runFullPipeline_touches rt env orch disabled).moves.of_ok h),
    fun inv hinv => ?_⟩
  obtain ⟨ds, u, _, hinvs⟩ := run_bind_eq_ok.mp h
  have hid : inv.id ∈ invs.map Investigation.id := List.mem_map_of_mem hinv
  rw [(Orchestrator.mapM_investigate_ok hinvs).1] at hid
  obtain ⟨n, hn, hid⟩ := List.mem_map.mp hid
  rw [mapM_investigate_uuids hinvs]
  exact ⟨n, (List.mem_range'_1.mp hn).2, hid⟩

theorem runFullPipeline_contract (disabled : List String) (hsplunk : .splunkError ∈ cs)
    (hother : .clientFault ∈ cs) (hmodel : .modelError ∈ cs) (hverdict : .noVerdict ∈ cs) :
    Contract (Opened db) (orch.runFullPipeline rt env disabled)
      (fun invs s => s.db = db ∧ CasesDrawn env invs s) (Fails rt env db cs) := by
  have hpipe : Contract (fun s => s.breaker.openedAt = none) (orch.runFullPipeline rt env disabled)
      (fun _ _ => True) (Fails rt env db cs) :=
    (runDetections_contract orch disabled hsplunk hother).bind fun ds =>
      (Raises.mapM (fun d => investigate_fails d hmodel hverdict) ds).contract _
  have hreturns : ∀ s invs t, s.db = db → (orch.runFullPipeline rt env disabled).run s = .ok invs t →
      t.db = db ∧ CasesDrawn env invs t := by
    intro s invs t hs hrun
    obtain ⟨hdb, hdrawn⟩ := runFullPipeline_casesDrawn hrun
    exact ⟨hdb.trans hs, hdrawn⟩
  exact (hpipe.and_returns hreturns).mono (fun s hs => ⟨hs.closed, hs.rows⟩) (fun _ _ h => h.2)
    fun _ _ h => h

/-! ## The cases -/

/-- While a run stores its cases: those of the other tenants are the stored ones. -/
structure Saving (env : Env) (db : Database) (tenantId : String) (invs : List Investigation)
    (s : Session) : Prop where
  others : ∀ r ∈ s.db.investigations.rows, r.tenantId ≠ tenantId → r.id ∈ IdKind.case.stored db
  incidents : s.db.incidents = db.incidents
  drawn : CasesDrawn env invs s

variable {tenantId : String} {invs : List Investigation}

theorem Saving.start {s : Session} (hdb : s.db = db) (h : CasesDrawn env invs s) :
    Saving env db tenantId invs s := by
  subst hdb
  exact ⟨fun r hr _ => List.mem_map_of_mem hr, rfl, h⟩

theorem record_contract {E : Exc → Session → Prop} {kind : String} (hkind : kind ∈ validKinds)
    (quantity : Int) (detail : String) :
    Contract (Saving env db tenantId invs) (MeteringService.record rt env tenantId kind quantity detail)
      (fun _ => Saving env db tenantId invs) E :=
  Contract.of_ok fun s hs => ⟨_, _, MeteringService.record_run rt env tenantId quantity detail hkind s,
    hs.others, hs.incidents, hs.drawn⟩

theorem save_contract {inv : Investigation} (hinv : inv ∈ invs) (h : .idTaken .case ∈ cs) :
    Contract (Saving env db tenantId invs) (InvestigationRepository.save env tenantId inv)
      (fun _ => Saving env db tenantId invs) (Fails rt env db cs) where
  returns {s row t} hs hrun := by
    obtain ⟨_, rows, hins, hok⟩ | ⟨_, _, herror⟩ | ⟨found, hown, hok⟩ :=
      InvestigationRepository.save_cases env tenantId inv s
    · cases hok.symm.trans hrun
      refine ⟨fun r hr hne => ?_, hs.incidents, hs.drawn⟩
      replace hr : r ∈ rows.rows := hr
      rw [KeyedTable.insert?_rows hins, List.mem_append, List.mem_singleton] at hr
      obtain hr | rfl := hr
      · exact hs.others r hr hne
      · exact absurd rfl hne
    · cases herror.symm.trans hrun
    · cases hok.symm.trans hrun
      refine ⟨fun r hr hne => ?_, hs.incidents, hs.drawn⟩
      obtain ⟨old, _, _, rfl⟩ | ⟨hr, _⟩ := (KeyedTable.mem_modify (InvestigationRow.write_key _)).mp hr
      · exact absurd (ownRow_eq_some.mp hown).2 hne
      · exact hs.others r hr hne
  raises {s ex t} hs hrun := by
    obtain ⟨_, _, _, hok⟩ | ⟨hown, hnone, herror⟩ | ⟨_, _, hok⟩ :=
      InvestigationRepository.save_cases env tenantId inv s
    · cases hok.symm.trans hrun
    · cases herror.symm.trans hrun
      obtain ⟨r, hr⟩ := Option.isSome_iff_exists.mp (KeyedTable.insert?_eq_none.mp hnone)
      obtain ⟨hrow, hsame⟩ := (s.db.investigations.find?_eq_some _ _).mp hr
      -- the tenant has no case of the id, so the row is another's
      have hne : r.tenantId ≠ tenantId := by
        intro htenant
        cases hown.symm.trans (ownRow_eq_some.mpr ⟨hr, htenant⟩)
      obtain ⟨n, hn, hid⟩ := hs.drawn inv hinv
      refine .idTaken .case h ⟨n, hn, Or.inl ?_⟩
      rw [hid, ← show r.id = inv.id from hsame]
      exact hs.others r hrow hne
    · cases hok.symm.trans hrun

theorem saveInvestigation_contract (p : Principal) {inv : Investigation} (hinv : inv ∈ invs)
    (h : .idTaken .case ∈ cs) :
    Contract (Saving env db p.tenantId invs) (Routes.saveInvestigation rt env p inv)
      (fun _ => Saving env db p.tenantId invs) (Fails rt env db cs) :=
  (save_contract hinv h).bind fun _ => Contract.of_ok fun s hs =>
    ⟨_, _, AuditService.recordEntry_run rt env _ s, hs.others, hs.incidents, hs.drawn⟩

/-! ## The incidents -/

/-- The incidents have the ids of the uuids from the `k`-th on, in order. -/
def IdsFrom (env : Env) (k : Nat) (incs : List Incident) : Prop :=
  incs.map Incident.id = (List.range' k incs.length).map fun n => IdKind.incident.ofUuid (env.uuid4 n)

theorem idsFrom_cons {k : Nat} {inc : Incident} {incs : List Incident} :
    IdsFrom env k (inc :: incs) ↔
      inc.id = IdKind.incident.ofUuid (env.uuid4 k) ∧ IdsFrom env (k + 1) incs := by
  unfold IdsFrom
  rw [List.length_cons, List.range'_succ, List.map_cons, List.map_cons, List.cons.injEq]

/-- What correlating has made since a session. -/
structure Correlated (env : Env) (incs : List Incident) (s t : Session) : Prop where
  ids : IdsFrom env s.uuids incs
  uuids : t.uuids = s.uuids + incs.length
  rows : t.db = s.db

theorem groupIncidents_run (env : Env) (gs : List IncidentGroup) (s : Session) :
    ∃ os t, (gs.mapM (groupIncident env)).run s = .ok os t ∧ Correlated env (os.filterMap id) s t := by
  induction gs generalizing s with
  | nil => exact ⟨[], s, rfl, rfl, rfl, rfl⟩
  | cons g gs ih =>
    have hgroup : ∃ o u, (groupIncident env g).run s = .ok o u ∧ Correlated env o.toList s u := by
      unfold groupIncident
      cases g.members with
      | nil => exact ⟨none, s, rfl, rfl, rfl, rfl⟩
      | cons first rest => exact ⟨_, _, rfl, rfl, rfl, rfl⟩
    obtain ⟨o, u, ho, hone⟩ := hgroup
    obtain ⟨os, t, hos, hrest⟩ := ih u
    refine ⟨o :: os, t, mapM_cons_eq_ok.mpr ⟨o, u, os, ho, hos, rfl⟩, ?_⟩
    cases o with
    | none =>
      have hu : u.uuids = s.uuids := hone.uuids
      exact ⟨hu ▸ hrest.ids, hu ▸ hrest.uuids, hrest.rows.trans hone.rows⟩
    | some inc =>
      have hu : u.uuids = s.uuids + 1 := hone.uuids
      rw [List.filterMap_cons_some (f := id) rfl]
      refine ⟨idsFrom_cons.mpr ⟨(idsFrom_cons.mp hone.ids).1, hu ▸ hrest.ids⟩, ?_,
        hrest.rows.trans hone.rows⟩
      rw [hrest.uuids, hu, List.length_cons]
      omega

theorem correlate_correlated (env : Env) (page : List Investigation) (s : Session) :
    ∃ incs t, (correlate env page).run s = .ok incs t ∧ Correlated env incs s t := by
  obtain ⟨os, t, hos, hdone⟩ := groupIncidents_run env (groupsOf page) s
  exact ⟨os.filterMap id, t, run_bind_ok hos, hdone⟩

/-- While a run adds its incidents: those still to come have the ids of later draws. -/
def Adding (env : Env) (db : Database) (incs : List Incident) (s : Session) : Prop :=
  ∃ k, IdsFrom env k incs ∧ k + incs.length ≤ s.uuids ∧ IdKind.incident.Accounted env db k s.db

theorem add_contract (inc : Incident) (incs : List Incident) (h : .idTaken .incident ∈ cs) :
    Contract (Adding env db (inc :: incs)) (IncidentRepository.add env tenantId inc)
      (fun _ => Adding env db incs) (Fails rt env db cs) := by
  refine (readClock_contract fun _ hs => hs).bind fun now => ⟨fun {s u t} hs hrun => ?_, fun {s ex t} hs hrun => ?_⟩
  · obtain ⟨k, hids, hk, hrows⟩ := hs
    obtain ⟨hid, hrest⟩ := idsFrom_cons.mp hids
    obtain ⟨rows, hins, rfl⟩ := insertRow_eq_ok.mp hrun
    rw [List.length_cons] at hk
    refine ⟨k + 1, hrest, ?_, hrows.insert IdKind.keyOf_incidents hid hins⟩
    show k + 1 + incs.length ≤ s.uuids
    omega
  · obtain ⟨k, hids, hk, hrows⟩ := hs
    obtain ⟨hid, _⟩ := idsFrom_cons.mp hids
    obtain ⟨rows, _, hok⟩ | ⟨hnone, herror⟩ := insertRow_cases Tables.incidents
      (IncidentRepository.newRow tenantId inc now) s
    · cases hok.symm.trans hrun
    · cases herror.symm.trans hrun
      rw [List.length_cons] at hk
      exact .idTaken .incident h (hrows.taken IdKind.keyOf_incidents hid hnone (by omega))

theorem replaceAll_contract (incs : List Incident) (h : .idTaken .incident ∈ cs) :
    Contract (Adding env db incs) (IncidentRepository.replaceAll env tenantId incs) (fun _ _ => True)
      (Fails rt env db cs) := by
  refine Contract.bind (Q := fun _ => Adding env db incs)
    (Contract.of_ok fun s hs => ⟨_, _, rfl, hs⟩) fun existing => ?_
  refine Contract.bind (Q := fun _ => Adding env db incs) (Contract.forM fun row _ => ?_) fun _ => ?_
  · refine Contract.of_ok fun s hs => ⟨_, _, rfl, ?_⟩
    obtain ⟨k, hids, hk, hrows⟩ := hs
    refine ⟨k, hids, hk, fun id hid => hrows id ?_⟩
    obtain ⟨r, hr, rfl⟩ := List.mem_map.mp hid
    exact List.mem_map_of_mem (List.mem_of_mem_filter hr)
  · exact (Contract.forM_along (I := Adding env db) (fun inc incs => add_contract inc incs h) incs).unreturned

theorem refreshIncidents_contract (p : Principal) (h : .idTaken .incident ∈ cs)
    (hchannel : ∀ send, .webhook send ∈ env.channels → .channel ∈ cs) :
    Contract (Saving env db p.tenantId invs) (Routes.refreshIncidents rt env p) (fun _ _ => True)
      (Fails rt env db cs) := by
  refine Contract.bind (Q := fun _ s => s.db.incidents = db.incidents)
    (Contract.of_ok fun s hs => ⟨_, s, list_run p.tenantId s, hs.incidents⟩) fun page => ?_
  refine Contract.bind (Q := fun incs => Adding env db incs) ?_ fun incs => ?_
  · refine Contract.of_ok fun s hs => ?_
    obtain ⟨incs, t, hrun, hdone⟩ := correlate_correlated env page.1 s
    refine ⟨incs, t, hrun, s.uuids, hdone.ids, hdone.uuids.ge, fun id hid => Or.inl ?_⟩
    rw [hdone.rows] at hid
    replace hid : id ∈ s.db.incidents.rows.map IncidentRow.id := hid
    rwa [hs] at hid
  · -- a risk score changes no id
    let scored := incs.map fun inc => { inc with riskScore := Routes.incidentRisk inc page.1 }
    have hscored (s : Session) (hs : Adding env db incs s) : Adding env db scored s := by
      obtain ⟨k, hids, hk, hrows⟩ := hs
      refine ⟨k, ?_, ?_, hrows⟩
      · unfold IdsFrom
        rw [List.map_map, List.length_map]
        exact hids
      · rwa [List.length_map]
    refine Contract.bind ((replaceAll_contract scored h).of_pre hscored) fun _ => ?_
    refine Contract.bind (Raises.forM (fun inc => ?_) scored) fun _ => Contract.pure fun _ _ => trivial
    exact (Raises.ite (Raises.pure 0) (notify_fails _ hchannel)).bind fun _ => Raises.pure _

/-! ## The run -/

theorem afterPipeline_contract (p : Principal) (n : Int) (hcase : .idTaken .case ∈ cs)
    (hincident : .idTaken .incident ∈ cs)
    (hchannel : ∀ send, .webhook send ∈ env.channels → .channel ∈ cs) :
    Contract (fun s => s.db = db ∧ CasesDrawn env invs s) (Routes.afterPipeline rt env p n invs)
      (fun _ _ => True) (Fails rt env db cs) := by
  refine Contract.of_pre (P := Saving env db p.tenantId invs) ?_ fun s hs => .start hs.1 hs.2
  refine (record_contract (by decide) _ _).bind fun _ => ?_
  refine Contract.bind (Q := fun _ => Saving env db p.tenantId invs) ?_ fun _ => ?_
  · refine Contract.ite (fun _ => ?_) fun _ => Contract.pure fun _ hs => hs
    exact (record_contract (by decide) _ _).bind fun _ => Contract.pure fun _ hs => hs
  · refine (Contract.forM fun inv hinv => saveInvestigation_contract p hinv hcase).bind fun _ => ?_
    exact refreshIncidents_contract p hincident hchannel

theorem runInvestigationsFor_contract (p : Principal) (hsplunk : .splunkError ∈ cs)
    (hother : .clientFault ∈ cs) (hmodel : .modelError ∈ cs) (hverdict : .noVerdict ∈ cs)
    (hcase : .idTaken .case ∈ cs) (hincident : .idTaken .incident ∈ cs)
    (hchannel : ∀ send, .webhook send ∈ env.channels → .channel ∈ cs) :
    Contract (Opened db) (Routes.runInvestigationsFor rt env p orch) (fun _ _ => True)
      (Fails rt env db cs) where
  returns _ _ := trivial
  raises {s ex t} hs hrun := by
    have hticked : Opened db s.ticked := ⟨hs.rows, hs.uuids, hs.closed⟩
    have hpipe : Contract (Opened db) (orch.runFullPipeline rt env (disabledAt s.db p.tenantId))
        (fun invs s => s.db = db ∧ CasesDrawn env invs s) (Fails rt env db cs) :=
      runFullPipeline_contract _ hsplunk hother hmodel hverdict
    rw [Routes.runInvestigationsFor_run] at hrun
    split at hrun
    · exact (hpipe.bind fun _ => afterPipeline_contract p _ hcase hincident hchannel).raises hticked hrun
    · cases hrun
      exact .refused _ _

theorem runInvestigations_fails (auth : Authorization) :
    Contract (Opened db) (Routes.runInvestigations rt env auth) (fun _ _ => True)
      (Fails rt env db [.credentials, .splunkError, .clientFault, .modelError, .noVerdict,
        .idTaken .case, .idTaken .incident, .channel]) := by
  refine (require_opened auth _).bind fun p => ?_
  refine (getTenantOrchestrator_contract p (by decide)).bind fun orch => ?_
  exact runInvestigationsFor_contract p (by decide) (by decide) (by decide) (by decide) (by decide)
    (by decide) fun _ _ => by decide

end SentinelAI
