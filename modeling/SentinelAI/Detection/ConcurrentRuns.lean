import Mathlib.Data.List.Pairwise
import SentinelAI.Detection.IncidentCover
import SentinelAI.Detection.IncidentRollup
import SentinelAI.Lib.Transactions

/-
  Two investigation runs of one tenant at once, each in a transaction of its own, READ
  COMMITTED. `replace_all` deletes the incident rows it has read, so of two runs that read
  before either commits both keep their incidents.

  A run that is alone does what the end of `run_investigations` does (`alone_run`).
  `runStep_of_advances` says what a statement does to the incidents, and `write_stores` what a
  commit leaves of them and adds. `Known` holds under every schedule; `NoneShared` holds exactly
  as long as no run reads the incident rows while the other has read them, unless they list no
  investigation in common, and then no investigation ends in two incidents (`one_incident_iff`).
-/

namespace SentinelAI

open Lib

/-! ## Transactions -/

/-- A run whose agents have returned: what they found, and the environment of the rest. -/
structure PipelineRun where
  env : Env
  found : List Investigation

/-- How far the transaction of a run is. -/
inductive RunPhase where
  | begun
  | saved
  /-- the page of investigations it correlates -/
  | listed (page : List Investigation)
  /-- and the tenant's incident rows it has found -/
  | read (page : List Investigation) (existing : List IncidentRow)
  /-- and deleted, its own inserted -/
  | written (page : List Investigation) (existing : List IncidentRow)
  | committed

namespace PipelineRun

variable (r : PipelineRun) (tenantId : String)

/-- It stores what the agents found. -/
def save : ApiM Unit :=
  r.found.forM fun inv => do
    let _ ← InvestigationRepository.save r.env tenantId inv

/-- It stores, and lists over what is committed then. -/
def list : ApiM (List Investigation) := do
  r.save tenantId
  let (items, _) ← InvestigationRepository.list tenantId none none none 50 0
  return items

/-- All it writes: the investigations, the deletions and the new incidents. -/
def write (page : List Investigation) (existing : List IncidentRow) : ApiM Unit := do
  r.save tenantId
  let correlated ← correlate r.env page
  existing.forM fun row => deleteRow Tables.incidents row.id
  (correlated.map fun inc => { inc with riskScore := Routes.incidentRisk inc page }).forM
    (IncidentRepository.add r.env tenantId)

/-- The next statement of the run over the committed rows; none when a statement raises. What it
    has written so far is replayed on them. -/
def advance : RunPhase → Database → Option (RunPhase × Database)
  | .begun, db =>
    match (r.save tenantId).run (.start db [] []) with
    | .ok _ _ => some (.saved, db)
    | .error _ _ => none
  | .saved, db =>
    match (r.list tenantId).run (.start db [] []) with
    | .ok page _ => some (.listed page, db)
    | .error _ _ => none
  | .listed page, db => some (.read page (tenantIncidents db tenantId), db)
  | .read page existing, db => some (.written page existing, db)
  | .written page existing, db =>
    match (r.write tenantId page existing).run (.start db [] []) with
    | .ok _ t => some (.committed, t.db)
    | .error _ _ => none
  | .committed, _ => none

end PipelineRun

/-- The two runs. -/
abbrev RunState : Type := Concurrent Bool Database RunPhase

/-- One of the runs takes its next statement. -/
def RunAdvances (tenantId : String) (req : Bool → PipelineRun) : RunState → Bool → RunState → Prop :=
  Concurrent.Advances fun k => (req k).advance tenantId

/-- What a run that has read the incidents has listed and read. -/
def RunPhase.reading : RunPhase → Option (List Investigation × List IncidentRow)
  | .read page existing => some (page, existing)
  | .written page existing => some (page, existing)
  | _ => none

/-- No investigation is in both. -/
def PagesApart (page page' : List Investigation) : Prop :=
  ∀ inv ∈ page, ∀ inv' ∈ page', inv.id ≠ inv'.id

/-- A run reads the incident rows while the other has not read them, has committed, or has listed
    other investigations. -/
def ReadsApart (s : RunState) (k : Bool) : Prop :=
  ∀ page page' existing, s.txn k = .listed page → (s.txn !k).reading = some (page', existing) →
    PagesApart page page'

/-- Every investigation is in at most one of the incidents. -/
def OneIncident (rows : List IncidentRow) : Prop :=
  ∀ inc ∈ rows, ∀ inc' ∈ rows, ∀ id ∈ inc.payload.investigationIds,
    id ∈ inc'.payload.investigationIds → inc = inc'

instance (rows : List IncidentRow) : Decidable (OneIncident rows) :=
  inferInstanceAs (Decidable (∀ inc ∈ rows, ∀ inc' ∈ rows, ∀ id ∈ inc.payload.investigationIds,
    id ∈ inc'.payload.investigationIds → inc = inc'))

/-! ## The incidents a run stores -/

/-- An incident id of a run. -/
def Drawn (env : Env) (id : String) : Prop := ∃ n, id = shortId "INC-" (env.uuid4 n)

/-- Rows under ids drawn by a run, which between them list a page of investigations once. -/
structure StoresPage (env : Env) (page : List Investigation) (rows : List IncidentRow) : Prop where
  drawn : ∀ row ∈ rows, Drawn env row.id
  listed : (rows.flatMap fun row => row.payload.investigationIds).Perm (page.map Investigation.id)

namespace StoresPage

variable {env : Env} {page : List Investigation} {rows : List IncidentRow}

theorem mem_listed (h : StoresPage env page rows) {id : String} :
    (∃ row ∈ rows, id ∈ row.payload.investigationIds) ↔ id ∈ page.map Investigation.id := by
  rw [← h.listed.mem_iff, List.mem_flatMap]

/-- Of a page without repetitions no investigation is listed twice. -/
theorem oneIncident (h : StoresPage env page rows) (hnodup : (page.map Investigation.id).Nodup) :
    OneIncident rows := by
  have hpairs := (List.nodup_flatMap.mp (h.listed.nodup_iff.mpr hnodup)).2
  have hsymm : Std.Symm (Function.onFun List.Disjoint fun row : IncidentRow =>
      row.payload.investigationIds) := ⟨fun _ _ hd => List.Disjoint.symm hd⟩
  intro inc hinc inc' hinc' id hid hid'
  by_contra hne
  exact hpairs.forall hinc hinc' hne hid hid'

end StoresPage

namespace PipelineRun

variable {r : PipelineRun} {tenantId : String} {s t : Session}

theorem save_incidents {u : Unit} (h : (r.save tenantId).run s = .ok u t) :
    t.db.incidents = s.db.incidents := by
  have htouches : Touches [Resource.investigations] (r.save tenantId) :=
    Touches.forM (fun inv => (InvestigationRepository.save_touches r.env tenantId inv).bind fun _ =>
      Touches.pure ()) r.found
  exact (htouches.moves.of_ok h .incidents (by decide)).1

theorem save_named {u : Unit} (h : (r.save tenantId).run s = .ok u t)
    (hnamed : NamedByPayload s.db) : NamedByPayload t.db := by
  obtain ⟨env, found⟩ := r
  induction found generalizing s with
  | nil =>
    cases h
    exact hnamed
  | cons inv found ih =>
    obtain ⟨_, v, hinv, hrest⟩ := run_bind_eq_ok.mp h
    obtain ⟨row, v', hsave, hret⟩ := run_bind_eq_ok.mp hinv
    cases hret
    exact ih ((save_ok hsave).named hnamed) hrest

/-- The page a run lists has no investigation twice. -/
theorem list_nodup {page : List Investigation} (h : (r.list tenantId).run s = .ok page t)
    (hnamed : NamedByPayload s.db) : (page.map Investigation.id).Nodup := by
  obtain ⟨_, v, hsave, hrest⟩ := run_bind_eq_ok.mp h
  rw [run_bind_ok (list_run tenantId v)] at hrest
  cases hrest
  rw [firstPage_ids (save_named hsave hnamed)]
  exact (rankedIds_nodup t.db tenantId).sublist (List.take_sublist 50 _)

end PipelineRun

theorem correlate_drawn (env : Env) (page : List Investigation) :
    Yields (fun incidents => ∀ inc ∈ incidents, Drawn env inc.id) (correlate env page) := by
  have hgroup (g : IncidentGroup) :
      Yields (fun o => ∀ inc ∈ o, Drawn env inc.id) (groupIncident env g) := by
    unfold groupIncident
    cases g.members with
    | nil => exact Yields.pure fun inc hinc => by cases hinc
    | cons first rest =>
      intro s o t ho inc hinc
      cases ho
      cases hinc
      exact ⟨s.uuids, rfl⟩
  refine (Yields.mapM hgroup (groupsOf page)).bind fun os hos => Yields.pure fun inc hinc => ?_
  obtain ⟨o, ho, hsome⟩ := List.mem_filterMap.mp hinc
  exact hos o ho inc hsome

theorem correlate_perm {env : Env} {page : List Investigation} {incidents : List Incident}
    {s t : Session} (h : (correlate env page).run s = .ok incidents t) :
    (incidents.flatMap Incident.investigationIds).Perm (page.map Investigation.id) := by
  obtain ⟨incidents', u, groups, hrollup, _, hperm, _⟩ := correlate_rollup env page s
  rw [h] at hrollup
  cases hrollup
  exact hperm

theorem write_named {r : PipelineRun} {tenantId : String} {page : List Investigation}
    {existing : List IncidentRow} {s t : Session} {u : Unit}
    (h : (r.write tenantId page existing).run s = .ok u t) (hnamed : NamedByPayload s.db) :
    NamedByPayload t.db := by
  obtain ⟨_, v, hsave, hrest⟩ := run_bind_eq_ok.mp h
  have htouches : Touches [Resource.incidents] (do
      let correlated ← correlate r.env page
      existing.forM fun row => deleteRow Tables.incidents row.id
      (correlated.map fun inc => { inc with riskScore := Routes.incidentRisk inc page }).forM
        (IncidentRepository.add r.env tenantId)) := by
    refine (correlate_touches r.env page).bind fun correlated => ?_
    refine (Touches.forM (fun row => ?_) existing).bind fun _ => Touches.forM (fun inc => ?_) _
    · grind
    · grind [IncidentRepository.add]
  have hkept := htouches.moves.of_ok hrest .investigations (by decide)
  exact (PipelineRun.save_named hsave hnamed).congr hkept.1

/-- What a run leaves of the tenant's incidents, and what it adds. -/
theorem write_stores {r : PipelineRun} {tenantId : String} {page : List Investigation}
    {existing : List IncidentRow} {s t : Session} {u : Unit}
    (h : (r.write tenantId page existing).run s = .ok u t) :
    ∃ news, StoresPage r.env page news ∧
      tenantIncidents t.db tenantId = keptRows (tenantIncidents s.db tenantId) existing ++ news := by
  obtain ⟨_, v, hsave, hrest⟩ := run_bind_eq_ok.mp h
  obtain ⟨correlated, v₁, hcorrelate, hreplace⟩ := run_bind_eq_ok.mp hrest
  obtain ⟨_, v₂, hdelete, hadd⟩ := run_bind_eq_ok.mp hreplace
  have hcorrelated : Touches ([] : List Resource) (correlate r.env page) :=
    correlate_touches r.env page
  have hbefore : v₁.db.incidents = s.db.incidents :=
    (hcorrelated.moves.of_ok hcorrelate .incidents (by decide)).1.trans (PipelineRun.save_incidents hsave)
  obtain ⟨news, hrows, hnews, hpayloads⟩ := IncidentRepository.forM_add_eq hadd
  rw [IncidentRepository.forM_delete_eq hdelete, hbefore] at hrows
  have hdrawn := correlate_drawn r.env page v _ v₁ hcorrelate
  refine ⟨news, ⟨fun row hrow => ?_, ?_⟩, ?_⟩
  · have hpayload : row.payload ∈ news.map IncidentRow.payload := List.mem_map_of_mem hrow
    rw [hpayloads] at hpayload
    obtain ⟨inc, hinc, hinc'⟩ := List.mem_map.mp hpayload
    rw [(hnews row hrow).2, ← hinc']
    exact hdrawn inc hinc
  · have hids : (news.flatMap fun row => row.payload.investigationIds) =
        correlated.flatMap Incident.investigationIds := by
      have hmap := List.flatMap_map IncidentRow.payload Incident.investigationIds news
      rw [← hmap, hpayloads, List.flatMap_map]
    rw [hids]
    exact correlate_perm hcorrelate
  · have hown : news.filter (fun row => row.tenantId == tenantId) = news :=
      List.filter_eq_self.mpr fun row hrow => beq_iff_eq.mpr (hnews row hrow).1
    unfold tenantIncidents KeyedTable.select
    rw [hrows, List.filter_append, hown]
    congr 1
    unfold keptRows
    rw [List.filter_filter, List.filter_filter]
    exact List.filter_congr fun row _ => Bool.and_comm ..

/-! ## A run alone -/

theorem alone_steps {tenantId : String} {req : Bool → PipelineRun} {k : Bool} {db : Database}
    {page : List Investigation} {u : Unit} {v v' t : Session}
    (hsave : ((req k).save tenantId).run (.start db [] []) = .ok u v)
    (hlist : ((req k).list tenantId).run (.start db [] []) = .ok page v')
    (hwrite : ((req k).write tenantId page (tenantIncidents db tenantId)).run (.start db [] []) =
      .ok u t) :
    ∃ s, Steps (RunAdvances tenantId req) (.start db .begun) [k, k, k, k, k] s ∧
      s.txn k = .committed ∧ s.db = t.db := by
  have hsolo : Concurrent.solo ((req k).advance tenantId) 5 .begun db = some (.committed, t.db) := by
    simp only [Concurrent.solo, PipelineRun.advance, hsave, hlist, hwrite, Option.bind_some]
  exact Concurrent.steps_of_solo (fun k => (req k).advance tenantId) (.start db .begun) hsolo

/-- Alone, a run does to the two tables what the end of `run_investigations` does. -/
theorem alone_run {rt : Runtime} {p : Principal} {req : Bool → PipelineRun} {k : Bool}
    {db : Database} {l : Routes.InvestigationList} {t : Session}
    (h : (do
      (req k).save p.tenantId
      Routes.refreshIncidents rt (req k).env p : ApiM _).run (.start db [] []) = .ok l t) :
    ∃ s, Steps (RunAdvances p.tenantId req) (.start db .begun) [k, k, k, k, k] s ∧
      s.txn k = .committed ∧ s.db.investigations = t.db.investigations ∧
      s.db.incidents = t.db.incidents := by
  obtain ⟨u, v, hsave, hrefresh⟩ := run_bind_eq_ok.mp h
  have hlist := list_run p.tenantId v
  unfold Routes.refreshIncidents at hrefresh
  rw [run_bind_ok hlist] at hrefresh
  obtain ⟨correlated, v₁, hcorrelate, hrest⟩ := run_bind_eq_ok.mp hrefresh
  obtain ⟨_, v₂, hreplace, halerts⟩ := run_bind_eq_ok.mp hrest
  obtain ⟨_, v₃, halert, hret⟩ := run_bind_eq_ok.mp halerts
  cases hret
  have htouches : Touches ([] : List Resource) (correlate (req k).env (firstPage v.db p.tenantId)) :=
    correlate_touches (req k).env _
  have hincidents : v₁.db.incidents = db.incidents :=
    (htouches.moves.of_ok hcorrelate .incidents (by decide)).1.trans (PipelineRun.save_incidents hsave)
  have hexisting : tenantIncidents v₁.db p.tenantId = tenantIncidents db p.tenantId := by
    rw [tenantIncidents, hincidents]
    rfl
  have hread : (selectAll Tables.incidents fun r => r.tenantId == p.tenantId).run v₁ =
      .ok (tenantIncidents v₁.db p.tenantId) v₁ := rfl
  unfold IncidentRepository.replaceAll at hreplace
  rw [run_bind_ok hread, hexisting] at hreplace
  have hwrite : ((req k).write p.tenantId (firstPage v.db p.tenantId)
      (tenantIncidents db p.tenantId)).run (.start db [] []) = .ok () v₂ := by
    unfold PipelineRun.write
    rw [run_bind_ok hsave, run_bind_ok hcorrelate]
    exact hreplace
  have hpage : ((req k).list p.tenantId).run (.start db [] []) = .ok (firstPage v.db p.tenantId) v := by
    unfold PipelineRun.list
    rw [run_bind_ok hsave, run_bind_ok hlist]
    rfl
  obtain ⟨s, hsteps, hdone, hdb⟩ := alone_steps hsave hpage hwrite
  have hkept := (Routes.alertHighRisk_touches rt (req k).env p _).moves.of_ok halert
  refine ⟨s, hsteps, hdone, ?_, ?_⟩
  · rw [hdb, (hkept .investigations (by decide)).1]
  · rw [hdb, (hkept .incidents (by decide)).1]

/-! ## The steps of two runs -/

/-- The page of a run that has listed one. -/
def RunPhase.page : RunPhase → Option (List Investigation)
  | .listed page => some page
  | .read page _ => some page
  | .written page _ => some page
  | _ => none

/-- What a step of run `k` does, as far as the incidents go. -/
inductive RunStep (tenantId : String) (req : Bool → PipelineRun) (s : RunState) (k : Bool)
    (s' : RunState) : Prop
  /-- it saves, lists or writes: nothing committed changes, and what it has read stays -/
  | works (ph : RunPhase) (hs' : s' = s.moved k ph s.db) (hopen : ph ≠ .committed)
    (hkopen : s.txn k ≠ .committed) (hlisted : ∀ page, s.txn k ≠ .listed page)
    (hreading : ph.reading = (s.txn k).reading)
    (hpage : ∀ page, ph.page = some page → (s.txn k).page = some page ∨
      (NamedByPayload s.db → (page.map Investigation.id).Nodup))
  /-- it reads the tenant's incident rows -/
  | reads (page : List Investigation) (hk : s.txn k = .listed page)
    (hs' : s' = s.moved k (.read page (tenantIncidents s.db tenantId)) s.db)
  /-- it commits -/
  | commits (page : List Investigation) (existing news : List IncidentRow) (db : Database)
    (hk : s.txn k = .written page existing) (hs' : s' = s.moved k .committed db)
    (hnamed : NamedByPayload s.db → NamedByPayload db)
    (hnews : StoresPage (req k).env page news)
    (hrows : tenantIncidents db tenantId = keptRows (tenantIncidents s.db tenantId) existing ++ news)

section

variable {tenantId : String} {req : Bool → PipelineRun} {s s' : RunState} {k : Bool}

theorem runStep_of_advances (h : RunAdvances tenantId req s k s') :
    RunStep tenantId req s k s' := by
  obtain ⟨ph, db, hnext, rfl⟩ := Concurrent.advances_iff.mp h
  cases hk : s.txn k with
  | begun =>
    rw [hk, PipelineRun.advance] at hnext
    split at hnext
    · cases hnext
      exact .works .saved rfl (by simp) (by simp [hk]) (by simp [hk]) (by rw [hk]; rfl)
        fun page hpage => by cases hpage
    · cases hnext
  | saved =>
    rw [hk, PipelineRun.advance] at hnext
    split at hnext
    · rename_i listed t hlist
      cases hnext
      refine .works (.listed listed) rfl (by simp) (by simp [hk]) (by simp [hk]) (by rw [hk]; rfl)
        fun page hpage => Or.inr fun hnamed => ?_
      cases hpage
      exact PipelineRun.list_nodup hlist hnamed
    · cases hnext
  | listed page =>
    rw [hk] at hnext
    cases hnext
    exact .reads page hk rfl
  | read page existing =>
    rw [hk] at hnext
    cases hnext
    exact .works (.written page existing) rfl (by simp) (by simp [hk]) (by simp [hk])
      (by rw [hk]; rfl) fun page' hpage => Or.inl (by rw [hk]; exact hpage)
  | written page existing =>
    rw [hk, PipelineRun.advance] at hnext
    split at hnext
    · rename_i t hwrite
      cases hnext
      obtain ⟨news, hnews, hrows⟩ := write_stores hwrite
      exact .commits page existing news t.db hk rfl (write_named hwrite) hnews hrows
    · cases hnext
  | committed =>
    rw [hk] at hnext
    cases hnext

/-! ## What holds whatever the schedule -/

/-- Until one of the runs commits, the database is as it was and both have read it so; the
    incidents of the first to commit are alone. -/
structure Known (tenantId : String) (db : Database) (s : RunState) : Prop where
  named : NamedByPayload s.db
  paged : ∀ k page, (s.txn k).page = some page → (page.map Investigation.id).Nodup
  unchanged : (∀ k, s.txn k ≠ .committed) → s.db = db
  seen : ∀ k page existing, (s.txn k).reading = some (page, existing) → s.txn (!k) ≠ .committed →
    existing = tenantIncidents db tenantId
  first : ∀ k, s.txn k = .committed → s.txn (!k) ≠ .committed →
    OneIncident (tenantIncidents s.db tenantId)

theorem known_start {db : Database} (hnamed : NamedByPayload db) :
    Known tenantId db (.start db .begun) where
  named := hnamed
  paged k page h := by cases h
  unchanged _ := rfl
  seen k page existing h := by cases h
  first k h := by cases h

variable {db : Database}

/-- A run that moves without a commit. -/
theorem Known.moved (h : Known tenantId db s) {ph : RunPhase} (hopen : ph ≠ .committed)
    (hkopen : s.txn k ≠ .committed)
    (hpage : ∀ page, ph.page = some page → (page.map Investigation.id).Nodup)
    (hseen : ∀ page existing, ph.reading = some (page, existing) → s.txn (!k) ≠ .committed →
      existing = tenantIncidents db tenantId) : Known tenantId db (s.moved k ph s.db) := by
  constructor
  · exact h.named
  · refine (Bool.forall_bool' k).mpr ⟨fun page hk => ?_, fun page hother => ?_⟩
    · rw [Concurrent.moved_txn_self] at hk
      exact hpage page hk
    · rw [Concurrent.moved_txn_not] at hother
      exact h.paged (!k) page hother
  · intro hnone
    have hother := hnone (!k)
    rw [Concurrent.moved_txn_not] at hother
    exact h.unchanged ((Bool.forall_bool' k).mpr ⟨hkopen, hother⟩)
  · refine (Bool.forall_bool' k).mpr ⟨fun page existing hk hother => ?_, fun page existing hk _ => ?_⟩
    · rw [Concurrent.moved_txn_self] at hk
      rw [Concurrent.moved_txn_not] at hother
      exact hseen page existing hk hother
    · rw [Concurrent.moved_txn_not] at hk
      exact h.seen (!k) page existing hk (by rwa [Bool.not_not])
  · refine (Bool.forall_bool' k).mpr ⟨fun hk => ?_, fun hother _ => ?_⟩
    · rw [Concurrent.moved_txn_self] at hk
      exact absurd hk hopen
    · rw [Concurrent.moved_txn_not] at hother
      exact h.first (!k) hother (by rwa [Bool.not_not])

/-- The first to commit has read what is there, and deletes all of it. -/
theorem Known.keeps_none (h : Known tenantId db s) {page : List Investigation}
    {existing : List IncidentRow} (hk : s.txn k = .written page existing)
    (hother : s.txn (!k) ≠ .committed) : keptRows (tenantIncidents s.db tenantId) existing = [] := by
  have hopen : s.txn k ≠ .committed := by simp [hk]
  have hdb := h.unchanged ((Bool.forall_bool' k).mpr ⟨hopen, hother⟩)
  have hseen := h.seen k page existing (by rw [hk]; rfl) hother
  refine List.eq_nil_iff_forall_not_mem.mpr fun row hrow => ?_
  obtain ⟨hmem, hall⟩ := mem_keptRows.mp hrow
  rw [hseen, ← hdb] at hall
  exact hall row hmem rfl

theorem Known.step (h : Known tenantId db s) (hstep : RunStep tenantId req s k s') :
    Known tenantId db s' := by
  cases hstep with
  | works ph hs' hopen hkopen hlisted hreading hpage =>
    rw [hs']
    refine h.moved hopen hkopen (fun page hph => ?_) fun page existing hph hother => ?_
    · obtain hold | hnodup := hpage page hph
      · exact h.paged k page hold
      · exact hnodup h.named
    · rw [hreading] at hph
      exact h.seen k page existing hph hother
  | reads page hk hs' =>
    rw [hs']
    have hkopen : s.txn k ≠ .committed := by simp [hk]
    refine h.moved (by simp) hkopen (fun page' hph => ?_) fun page' existing hph hother => ?_
    · exact h.paged k page' (by rw [hk]; exact hph)
    · cases hph
      rw [h.unchanged ((Bool.forall_bool' k).mpr ⟨hkopen, hother⟩)]
  | commits page existing news db' hk hs' hnamed hnews hrows =>
    rw [hs']
    constructor
    · exact hnamed h.named
    · refine (Bool.forall_bool' k).mpr ⟨fun page' hj => ?_, fun page' hj => ?_⟩
      · rw [Concurrent.moved_txn_self] at hj
        cases hj
      · rw [Concurrent.moved_txn_not] at hj
        exact h.paged (!k) page' hj
    · intro hnone
      exact absurd (Concurrent.moved_txn_self ..) (hnone k)
    · refine (Bool.forall_bool' k).mpr ⟨fun page' existing' hj _ => ?_, fun _ _ _ hother => ?_⟩
      · rw [Concurrent.moved_txn_self] at hj
        cases hj
      · rw [Bool.not_not, Concurrent.moved_txn_self] at hother
        exact absurd rfl hother
    · refine (Bool.forall_bool' k).mpr ⟨fun _ hother => ?_, fun _ hother => ?_⟩
      · rw [Concurrent.moved_txn_not] at hother
        rw [Concurrent.moved_db, hrows, h.keeps_none hk hother, List.nil_append]
        exact hnews.oneIncident (h.paged k page (by rw [hk]; rfl))
      · rw [Bool.not_not, Concurrent.moved_txn_self] at hother
        exact absurd rfl hother

/-! ## What holds when no investigation is shared -/

/-- No run that has read the incidents keeps one that lists an investigation of its page, or
    shares its page with the other; once both have committed, no investigation is in two. -/
structure NoneShared (tenantId : String) (s : RunState) : Prop where
  kept : ∀ k page existing, (s.txn k).reading = some (page, existing) →
    ∀ inc ∈ keptRows (tenantIncidents s.db tenantId) existing, ∀ inv ∈ page,
      inv.id ∉ inc.payload.investigationIds
  apart : ∀ k page existing page' existing', (s.txn k).reading = some (page, existing) →
    (s.txn !k).reading = some (page', existing') → PagesApart page page'
  settled : (∀ k, s.txn k = .committed) → OneIncident (tenantIncidents s.db tenantId)

theorem noneShared_start (db : Database) : NoneShared tenantId (.start db .begun) where
  kept k page existing h := by cases h
  apart k page existing page' existing' h := by cases h
  settled h := by cases h true

theorem PagesApart.symm {page page' : List Investigation} (h : PagesApart page page') :
    PagesApart page' page := fun inv hinv inv' hinv' he => h inv' hinv' inv hinv he.symm

/-- Whichever of the two runs is taken first. -/
theorem pagesApart_both (s : RunState) (k : Bool)
    (h : ∀ page existing page' existing', (s.txn k).reading = some (page, existing) →
      (s.txn !k).reading = some (page', existing') → PagesApart page page') :
    ∀ j page existing page' existing', (s.txn j).reading = some (page, existing) →
      (s.txn !j).reading = some (page', existing') → PagesApart page page' := by
  refine (Bool.forall_bool' k).mpr ⟨h, fun page existing page' existing' hj hj' => ?_⟩
  rw [Bool.not_not] at hj'
  exact (h page' existing' page existing hj' hj).symm

/-- A run that goes on with what it has read. -/
theorem noneShared_works {ph : RunPhase} (hopen : ph ≠ .committed) (hkopen : s.txn k ≠ .committed)
    (hreading : ph.reading = (s.txn k).reading) :
    NoneShared tenantId (s.moved k ph s.db) ↔ NoneShared tenantId s := by
  have hsame : ∀ j, ((s.moved k ph s.db).txn j).reading = (s.txn j).reading := by
    refine (Bool.forall_bool' k).mpr ⟨?_, ?_⟩
    · rw [Concurrent.moved_txn_self, hreading]
    · rw [Concurrent.moved_txn_not]
  constructor
  · intro h
    refine ⟨fun j page existing hj => ?_, fun j page existing page' existing' hj hj' => ?_,
      fun hall => absurd (hall k) hkopen⟩
    · rw [← hsame] at hj
      exact h.kept j page existing hj
    · rw [← hsame] at hj hj'
      exact h.apart j page existing page' existing' hj hj'
  · intro h
    refine ⟨fun j page existing hj => ?_, fun j page existing page' existing' hj hj' => ?_,
      fun hall => ?_⟩
    · rw [hsame] at hj
      exact h.kept j page existing hj
    · rw [hsame] at hj hj'
      exact h.apart j page existing page' existing' hj hj'
    · have hk := hall k
      rw [Concurrent.moved_txn_self] at hk
      exact absurd hk hopen

/-- A run that reads the incident rows. -/
theorem noneShared_reads {page : List Investigation} (hk : s.txn k = .listed page) :
    NoneShared tenantId (s.moved k (.read page (tenantIncidents s.db tenantId)) s.db) ↔
      NoneShared tenantId s ∧ ReadsApart s k := by
  have hidle {page' : List Investigation} {existing : List IncidentRow} :
      (s.txn k).reading ≠ some (page', existing) := by
    rw [hk]
    intro hnone
    cases hnone
  constructor
  · intro h
    refine ⟨⟨?_, ?_, fun hall => ?_⟩, fun page₁ page₂ existing hlisted hother => ?_⟩
    · refine (Bool.forall_bool' k).mpr ⟨fun _ _ hj => absurd hj hidle, fun page' existing hj => ?_⟩
      exact h.kept (!k) page' existing (by rwa [Concurrent.moved_txn_not])
    · exact pagesApart_both s k fun _ _ _ _ hj => absurd hj hidle
    · cases hk.symm.trans (hall k)
    · cases hk.symm.trans hlisted
      exact h.apart k page _ page₂ existing (by rw [Concurrent.moved_txn_self]; rfl)
        (by rwa [Concurrent.moved_txn_not])
  · rintro ⟨h, happart⟩
    refine ⟨?_, ?_, fun hall => ?_⟩
    · refine (Bool.forall_bool' k).mpr ⟨fun page' existing hj inc hinc => ?_,
        fun page' existing hj => ?_⟩
      · rw [Concurrent.moved_txn_self] at hj
        cases hj
        -- it keeps none of the rows it has read
        obtain ⟨hmem, hall⟩ := mem_keptRows.mp hinc
        exact absurd rfl (hall inc hmem)
      · rw [Concurrent.moved_txn_not] at hj
        exact h.kept (!k) page' existing hj
    · refine pagesApart_both _ k fun page₁ existing₁ page₂ existing₂ hj hj' => ?_
      rw [Concurrent.moved_txn_self] at hj
      rw [Concurrent.moved_txn_not] at hj'
      cases hj
      exact happart page page₂ existing₂ hk hj'
    · have hk' := hall k
      rw [Concurrent.moved_txn_self] at hk'
      cases hk'

/-- Kept and new incidents that share nothing. -/
theorem oneIncident_append {kept news : List IncidentRow} (hkept : OneIncident kept)
    (hnews : OneIncident news)
    (hapart : ∀ inc ∈ kept, ∀ new ∈ news, ∀ id ∈ new.payload.investigationIds,
      id ∉ inc.payload.investigationIds) : OneIncident (kept ++ news) := by
  intro inc hinc inc' hinc' id hid hid'
  obtain hinc | hinc := List.mem_append.mp hinc <;> obtain hinc' | hinc' := List.mem_append.mp hinc'
  · exact hkept inc hinc inc' hinc' id hid hid'
  · exact absurd hid (hapart inc hinc inc' hinc' id hid')
  · exact absurd hid' (hapart inc' hinc' inc hinc id hid)
  · exact hnews inc hinc inc' hinc' id hid hid'

/-- A commit of new incidents. -/
theorem NoneShared.commits (h : NoneShared tenantId s) (hknown : Known tenantId db s)
    {page : List Investigation} {existing news : List IncidentRow} {db' : Database}
    (hk : s.txn k = .written page existing) (hnews : StoresPage (req k).env page news)
    (hrows : tenantIncidents db' tenantId =
      keptRows (tenantIncidents s.db tenantId) existing ++ news) :
    NoneShared tenantId (s.moved k .committed db') := by
  have hown : (s.txn k).reading = some (page, existing) := by rw [hk]; rfl
  have hlisted {inc : IncidentRow} {id : String} (hinc : inc ∈ news)
      (hid : id ∈ inc.payload.investigationIds) : ∃ inv ∈ page, inv.id = id :=
    List.mem_map.mp (hnews.mem_listed.mp ⟨inc, hinc, hid⟩)
  refine ⟨?_, ?_, fun hall => ?_⟩
  · refine (Bool.forall_bool' k).mpr ⟨fun _ _ hj => ?_, fun page' existing' hj inc hinc inv hinv hid => ?_⟩
    · rw [Concurrent.moved_txn_self] at hj
      cases hj
    · rw [Concurrent.moved_txn_not] at hj
      obtain ⟨hmem, hall⟩ := mem_keptRows.mp hinc
      rw [Concurrent.moved_db, hrows] at hmem
      obtain hmem | hmem := List.mem_append.mp hmem
      · exact h.kept (!k) page' existing' hj inc
          (mem_keptRows.mpr ⟨(mem_keptRows.mp hmem).1, hall⟩) inv hinv hid
      · obtain ⟨inv', hinv', he⟩ := hlisted hmem hid
        exact h.apart k page existing page' existing' hown hj inv' hinv' inv hinv he
  · refine pagesApart_both _ k fun _ _ _ _ hj => ?_
    rw [Concurrent.moved_txn_self] at hj
    cases hj
  · have hother := hall (!k)
    rw [Concurrent.moved_txn_not] at hother
    have hfirst := hknown.first (!k) hother (by simp [hk])
    rw [Concurrent.moved_db, hrows]
    refine oneIncident_append (fun inc hinc inc' hinc' => ?_)
      (hnews.oneIncident (hknown.paged k page (by rw [hk]; rfl))) fun inc hinc new hnew id hid => ?_
    · exact hfirst inc (mem_keptRows.mp hinc).1 inc' (mem_keptRows.mp hinc').1
    · obtain ⟨inv, hinv, rfl⟩ := hlisted hnew hid
      exact h.kept k page existing hown inc hinc inv hinv

theorem NoneShared.step (h : NoneShared tenantId s) (hknown : Known tenantId db s)
    (hstep : RunStep tenantId req s k s') (hguard : ReadsApart s k) : NoneShared tenantId s' := by
  cases hstep with
  | works ph hs' hopen hkopen hlisted hreading hpage =>
    rw [hs']
    exact (noneShared_works hopen hkopen hreading).mpr h
  | reads page hk hs' =>
    rw [hs']
    exact (noneShared_reads hk).mpr ⟨h, hguard⟩
  | commits page existing news db' hk hs' hnamed hnews hrows =>
    rw [hs']
    exact h.commits hknown hk hnews hrows

/-! ## Back from the end -/

/-- The runs draw no id that an incident has. -/
def FreshIncidentIds (req : Bool → PipelineRun) (db : Database) : Prop :=
  ∀ k, ∀ row ∈ db.incidents.rows, ¬ Drawn (req k).env row.id

theorem tenantIncidents_nodup (db : Database) (tenantId : String) :
    ((tenantIncidents db tenantId).map IncidentRow.id).Nodup :=
  db.incidents.nodup.sublist (List.filter_sublist.map _)

/-- Before a commit that leaves each investigation in one incident at most, the page and what the
    run keeps had nothing in common. -/
theorem keeps_apart {page : List Investigation} {existing news : List IncidentRow} {db' : Database}
    (hend : OneIncident (tenantIncidents db' tenantId)) (hnews : StoresPage (req k).env page news)
    (hrows : tenantIncidents db' tenantId =
      keptRows (tenantIncidents s.db tenantId) existing ++ news) :
    ∀ inc ∈ keptRows (tenantIncidents s.db tenantId) existing, ∀ inv ∈ page,
      inv.id ∉ inc.payload.investigationIds := by
  intro inc hinc inv hinv hid
  obtain ⟨row, hrow, hid'⟩ := hnews.mem_listed.mpr (List.mem_map_of_mem hinv)
  have hnodup := tenantIncidents_nodup db' tenantId
  rw [hrows] at hend hnodup
  have hsame := hend inc (List.mem_append_left _ hinc) row (List.mem_append_right _ hrow) inv.id hid hid'
  rw [List.map_append] at hnodup
  exact (List.nodup_append.mp hnodup).2.2 inc.id (List.mem_map_of_mem hinc) row.id
    (List.mem_map_of_mem hrow) (congrArg IncidentRow.id hsame)

/-- A commit after which nothing is shared. -/
theorem NoneShared.of_commits {page : List Investigation} {existing news : List IncidentRow}
    {db' : Database} (h : NoneShared tenantId (s.moved k .committed db'))
    (hfresh : FreshIncidentIds req db) (hknown : Known tenantId db s)
    (hknown' : Known tenantId db (s.moved k .committed db')) (hk : s.txn k = .written page existing)
    (hnews : StoresPage (req k).env page news) (hrows : tenantIncidents db' tenantId =
      keptRows (tenantIncidents s.db tenantId) existing ++ news) : NoneShared tenantId s := by
  have hkopen : s.txn k ≠ .committed := by simp [hk]
  have hend : OneIncident (tenantIncidents db' tenantId) := by
    by_cases hother : s.txn (!k) = .committed
    · refine h.settled ((Bool.forall_bool' k).mpr ⟨Concurrent.moved_txn_self .., ?_⟩)
      rw [Concurrent.moved_txn_not, hother]
    · refine hknown'.first k (Concurrent.moved_txn_self ..) ?_
      rwa [Concurrent.moved_txn_not]
  -- while the other run reads, all there is was there at the start, and it has read it
  have hstart {page' : List Investigation} {existing' : List IncidentRow}
      (hj : (s.txn !k).reading = some (page', existing')) :
      s.db = db ∧ existing' = tenantIncidents db tenantId := by
    have hopen : s.txn (!k) ≠ .committed := by
      intro hother
      rw [hother] at hj
      cases hj
    exact ⟨hknown.unchanged ((Bool.forall_bool' k).mpr ⟨hkopen, hopen⟩),
      hknown.seen (!k) page' existing' hj (by rwa [Bool.not_not])⟩
  refine ⟨?_, ?_, fun hall => absurd (hall k) hkopen⟩
  · refine (Bool.forall_bool' k).mpr ⟨fun page' existing' hj => ?_, fun page' existing' hj inc hinc => ?_⟩
    · rw [hk] at hj
      cases hj
      exact keeps_apart hend hnews hrows
    · obtain ⟨hdb, hexisting⟩ := hstart hj
      obtain ⟨hmem, hall⟩ := mem_keptRows.mp hinc
      rw [hexisting, ← hdb] at hall
      exact absurd rfl (hall inc hmem)
  · refine pagesApart_both s k fun page₁ existing₁ page' existing' hj hj' inv hinv inv' hinv' he => ?_
    rw [hk] at hj
    cases hj
    -- the new incident of `inv` is not among what the other run deletes
    obtain ⟨row, hrow, hid⟩ := hnews.mem_listed.mpr (List.mem_map_of_mem hinv)
    refine h.kept (!k) page' existing' (by rwa [Concurrent.moved_txn_not]) row ?_ inv' hinv' (he ▸ hid)
    refine mem_keptRows.mpr ⟨?_, fun old hold heq => ?_⟩
    · rw [Concurrent.moved_db, hrows]
      exact List.mem_append_right _ hrow
    · rw [(hstart hj').2] at hold
      have hdrawn := hnews.drawn row hrow
      rw [heq] at hdrawn
      exact hfresh k old (KeyedTable.mem_select.mp hold).1 hdrawn

theorem NoneShared.back (h : NoneShared tenantId s') (hfresh : FreshIncidentIds req db)
    (hknown : Known tenantId db s) (hstep : RunStep tenantId req s k s') :
    NoneShared tenantId s ∧ ReadsApart s k := by
  have hknown' := hknown.step hstep
  cases hstep with
  | works ph hs' hopen hkopen hlisted hreading hpage =>
    rw [hs'] at h
    exact ⟨(noneShared_works hopen hkopen hreading).mp h, fun page _ _ hk => absurd hk (hlisted page)⟩
  | reads page hk hs' =>
    rw [hs'] at h
    exact (noneShared_reads hk).mp h
  | commits page existing news db' hk hs' hnamed hnews hrows =>
    rw [hs'] at h hknown'
    refine ⟨h.of_commits hfresh hknown hknown' hk hnews hrows, fun page' _ _ hlisted => ?_⟩
    rw [hk] at hlisted
    cases hlisted

end

/-- Start from any database, and let two runs of a tenant take their statements in any order
    until both have committed. If no run reads the incident rows while the other has read them,
    unless they have listed no investigation in common, then each investigation is in at most
    one incident; and it is so only then, the ids drawn being new. -/
theorem one_incident_iff (tenantId : String) (req : Bool → PipelineRun) (db : Database)
    (hdb : NamedByPayload db) (schedule : List Bool) (s : RunState)
    (hrun : Steps (RunAdvances tenantId req) (.start db .begun) schedule s)
    (hdone : ∀ k, s.txn k = .committed) :
    (Steps (Guarded (RunAdvances tenantId req) ReadsApart) (.start db .begun) schedule s →
      OneIncident (tenantIncidents s.db tenantId)) ∧
    (FreshIncidentIds req db → OneIncident (tenantIncidents s.db tenantId) →
      Steps (Guarded (RunAdvances tenantId req) ReadsApart) (.start db .begun) schedule s) := by
  have hstart : Known tenantId db (.start db .begun) := known_start hdb
  constructor
  · intro hg
    have hend := hg.inv (I := fun s => Known tenantId db s ∧ NoneShared tenantId s)
      (fun _ _ _ h hi =>
        have hstep := runStep_of_advances h.1
        ⟨hi.1.step hstep, hi.2.step hi.1 hstep h.2⟩) ⟨hstart, noneShared_start db⟩
    exact hend.2.settled hdone
  · intro hfresh hone
    have hend : NoneShared tenantId s := by
      refine ⟨fun k page existing hk => ?_, fun k page existing _ _ hk => ?_, fun _ => hone⟩
      · rw [hdone] at hk
        cases hk
      · rw [hdone] at hk
        cases hk
    exact (hrun.guarded_of_end (fun _ _ _ h hi => hi.step (runStep_of_advances h))
      (fun _ _ _ h hi hafter => hafter.back hfresh hi (runStep_of_advances h)) hstart hend).2

/-! ## Two runs over one investigation -/

/-- A run that finds nothing new. -/
def rerun (k : Bool) : PipelineRun where
  env := { now := fun _ => 0, uuid4 := fun _ => if k then "aaaaaaaa" else "bbbbbbbb" }
  found := []

/-- One investigation stored. -/
def oneCase : Database := (initechWith 1 (by decide)).db

/-- How the two runs end when they take their statements in some order. -/
def reruns (schedule : List Bool) : Option RunState :=
  (Concurrent.start oneCase RunPhase.begun).advanceAll (fun k => (rerun k).advance "t1") schedule

/-- Whether both have committed then. -/
def bothCommit (schedule : List Bool) : Bool :=
  match reruns schedule with
  | some s =>
    match s.txn false, s.txn true with
    | .committed, .committed => true
    | _, _ => false
  | none => false

/-- The incidents they leave. -/
def rerunsLeave (schedule : List Bool) : List IncidentRow :=
  match reruns schedule with
  | some s => tenantIncidents s.db "t1"
  | none => []

theorem reruns_of_bothCommit {schedule : List Bool} (h : bothCommit schedule = true) :
    ∃ s, Steps (RunAdvances "t1" rerun) (.start oneCase .begun) schedule s ∧
      (∀ k, s.txn k = .committed) ∧ tenantIncidents s.db "t1" = rerunsLeave schedule := by
  unfold bothCommit at h
  unfold rerunsLeave
  cases hs : reruns schedule with
  | none =>
    rw [hs] at h
    cases h
  | some s =>
    rw [hs] at h
    dsimp only at h
    refine ⟨s, Concurrent.steps_iff.mpr hs, fun k => ?_, rfl⟩
    split at h
    · rename_i hfalse htrue
      cases k <;> assumption
    · cases h

/-- One run after the other. -/
def oneAfterOther : List Bool := [true, true, true, true, true, false, false, false, false, false]

/-- The runs in turn. -/
def inTurn : List Bool := [true, false, true, false, true, false, true, false, true, false]

/-- Run one after the other, the two leave one incident. -/
theorem one_incident_iff_serial :
    ∃ s, Steps (Guarded (RunAdvances "t1" rerun) ReadsApart) (.start oneCase .begun) oneAfterOther s ∧
      OneIncident (tenantIncidents s.db "t1") := by
  have hcommit : bothCommit oneAfterOther = true := by decide +kernel
  obtain ⟨s, hsteps, hdone, hleave⟩ := reruns_of_bothCommit hcommit
  have hone : OneIncident (tenantIncidents s.db "t1") := by
    rw [hleave]
    decide +kernel
  obtain ⟨happly, hexact⟩ := one_incident_iff "t1" rerun oneCase (initechWith_named 1 _)
    oneAfterOther s hsteps hdone
  have hguarded := hexact (fun _ row hrow => by cases hrow) hone
  exact ⟨s, hguarded, happly hguarded⟩

/-- Two runs that read before either has committed leave two incidents of one investigation. -/
theorem incident_duplicated :
    ¬ ∀ (tenantId : String) (req : Bool → PipelineRun) (db : Database), NamedByPayload db →
      FreshIncidentIds req db → ∀ (schedule : List Bool) (s : RunState),
      Steps (RunAdvances tenantId req) (.start db .begun) schedule s →
      (∀ k, s.txn k = .committed) → OneIncident (tenantIncidents s.db tenantId) := by
  intro h
  have hcommit : bothCommit inTurn = true := by decide +kernel
  obtain ⟨s, hsteps, hdone, hleave⟩ := reruns_of_bothCommit hcommit
  have hone := h "t1" rerun oneCase (initechWith_named 1 _) (fun _ row hrow => by cases hrow)
    inTurn s hsteps hdone
  rw [hleave] at hone
  revert hone
  decide +kernel

end SentinelAI
