import Mathlib.Data.List.Dedup
import SentinelAI.Detection.Components
import SentinelAI.Detection.Routing
import SentinelAI.Detection.StoredCases

/-
  Whether a tenant's incidents cover its investigations after a completed investigation run.
  The run correlates one page of the listing, the fifty investigations of highest risk, and
  replaces all of the tenant's incidents by the result; the incidents cover what is stored
  exactly when it fits on the page.
-/

namespace SentinelAI

open Lib

/-! ## The incidents after a refresh -/

/-- The incidents of a tenant. -/
def tenantIncidents (db : Database) (tenantId : String) : List IncidentRow :=
  db.incidents.select fun r => r.tenantId == tenantId

/-- Every stored investigation of the tenant is listed by exactly one of its stored incidents,
    and they list nothing else. -/
structure Covered (db : Database) (tenantId : String) : Prop where
  listed : ∀ row ∈ tenantCases db tenantId, ∃! inc, inc ∈ tenantIncidents db tenantId ∧
    row.id ∈ inc.payload.investigationIds
  stored : ∀ inc ∈ tenantIncidents db tenantId, ∀ id ∈ inc.payload.investigationIds,
    ∃ row ∈ tenantCases db tenantId, row.id = id

/-- The incident rows that are not among the given ones. -/
def keptRows (rows existing : List IncidentRow) : List IncidentRow :=
  rows.filter fun row => existing.all fun e => row.id != e.id

theorem mem_keptRows {rows existing : List IncidentRow} {row : IncidentRow} :
    row ∈ keptRows rows existing ↔ row ∈ rows ∧ ∀ e ∈ existing, row.id ≠ e.id := by
  unfold keptRows
  simp only [List.mem_filter, List.all_eq_true, bne_iff_ne]

namespace IncidentRepository

theorem forM_delete_eq {rows : List IncidentRow} {s t : Session} {u : Unit}
    (h : (rows.forM fun row => deleteRow Tables.incidents row.id).run s = .ok u t) :
    t.db.incidents.rows = keptRows s.db.incidents.rows rows := by
  induction rows generalizing s with
  | nil =>
    cases h
    exact (List.filter_true _).symm
  | cons row rows ih =>
    obtain ⟨_, v, hdel, hrest⟩ := run_bind_eq_ok.mp h
    cases hdel
    rw [ih hrest]
    show keptRows (s.db.incidents.rows.filter _) rows = _
    unfold keptRows
    rw [List.filter_filter]
    refine List.filter_congr fun r _ => ?_
    rw [List.all_cons, Bool.and_comm]
    rfl

/-- The rows of the new incidents go behind the others. -/
theorem forM_add_eq {env : Env} {tenantId : String} {incidents : List Incident} {s t : Session}
    {u : Unit} (h : (incidents.forM (add env tenantId)).run s = .ok u t) :
    ∃ news, t.db.incidents.rows = s.db.incidents.rows ++ news ∧
      (∀ row ∈ news, row.tenantId = tenantId ∧ row.id = row.payload.id) ∧
      news.map IncidentRow.payload = incidents := by
  induction incidents generalizing s with
  | nil =>
    cases h
    exact ⟨[], (List.append_nil _).symm, by simp, rfl⟩
  | cons inc incidents ih =>
    obtain ⟨_, v, hadd, hrest⟩ := run_bind_eq_ok.mp h
    obtain ⟨now, v', hnow, hinsert⟩ := run_bind_eq_ok.mp hadd
    cases hnow
    obtain ⟨table, hins, rfl⟩ := insertRow_eq_ok.mp hinsert
    obtain ⟨news, hrows, hnews, hpayloads⟩ := ih hrest
    have htable : table.rows = s.db.incidents.rows ++ _ := KeyedTable.insert?_rows hins
    refine ⟨newRow tenantId inc (env.now s.ticks) :: news, ?_, ?_, ?_⟩
    · rw [hrows]
      show table.rows ++ news = _
      rw [htable, List.append_assoc]
      rfl
    · exact List.forall_mem_cons.mpr ⟨⟨rfl, rfl⟩, hnews⟩
    · rw [List.map_cons, hpayloads]
      rfl

/-- After `replace_all` the tenant's incidents are the new ones. -/
theorem replaceAll_ok {env : Env} {tenantId : String} {incidents : List Incident} {s t : Session}
    {u : Unit} (h : (replaceAll env tenantId incidents).run s = .ok u t) :
    (tenantIncidents t.db tenantId).map IncidentRow.payload = incidents := by
  have hsel : (selectAll Tables.incidents fun r => r.tenantId == tenantId).run s =
      .ok (tenantIncidents s.db tenantId) s := rfl
  unfold replaceAll at h
  rw [run_bind_ok hsel] at h
  obtain ⟨_, v, hdelete, hadd⟩ := run_bind_eq_ok.mp h
  obtain ⟨news, hrows, hnews, hpayloads⟩ := forM_add_eq hadd
  have hnone : v.db.incidents.rows.filter (fun r => r.tenantId == tenantId) = [] := by
    refine List.filter_eq_nil_iff.mpr fun r hr htenant => ?_
    rw [forM_delete_eq hdelete] at hr
    obtain ⟨hrow, hne⟩ := mem_keptRows.mp hr
    exact hne r (List.mem_filter.mpr ⟨hrow, htenant⟩) rfl
  have hown : news.filter (fun r => r.tenantId == tenantId) = news :=
    List.filter_eq_self.mpr fun r hr => beq_iff_eq.mpr (hnews r hr).1
  unfold tenantIncidents KeyedTable.select
  rw [hrows, List.filter_append, hnone, hown]
  exact hpayloads

end IncidentRepository

/-- The page the run correlates: the fifty investigations of highest risk. -/
def firstPage (db : Database) (tenantId : String) : List Investigation :=
  (((tenantCases db tenantId).insertionSort InvestigationRepository.listOrder).take 50).map
    InvestigationRow.payload

/-- The incidents of a tenant list what `correlate` placed together, of the first page. -/
def Correlates (db : Database) (page : List Investigation) (tenantId : String) : Prop :=
  ∃ incidents, ListsPlaced page incidents ∧
    (tenantIncidents db tenantId).map (fun r => r.payload.investigationIds) =
      incidents.map Incident.investigationIds

theorem list_run (tenantId : String) (s : Session) :
    (InvestigationRepository.list tenantId none none none 50 0).run s =
      .ok (firstPage s.db tenantId, (tenantCases s.db tenantId).length) s := by
  have hsel : (s.db.investigations.select fun r => r.tenantId == tenantId &&
      InvestigationRepository.filterBy none r.status &&
      InvestigationRepository.filterBy none r.severity && true) = tenantCases s.db tenantId :=
    List.filter_congr fun r _ => by simp [InvestigationRepository.filterBy]
  rw [firstPage, ← hsel]
  rfl

/-- A refresh leaves the investigations and stores the incidents of their first page. -/
theorem refreshIncidents_ok {rt : Runtime} {env : Env} {p : Principal} {s t : Session}
    {l : Routes.InvestigationList} (h : (Routes.refreshIncidents rt env p).run s = .ok l t) :
    t.db.investigations = s.db.investigations ∧
      Correlates t.db (firstPage s.db p.tenantId) p.tenantId := by
  have hkept := (Routes.refreshIncidents_touches rt env p).moves.of_ok h .investigations (by decide)
  refine ⟨hkept.1, ?_⟩
  obtain ⟨incidents, u, hcorrelate, hplaced⟩ :=
    correlate_ids env (firstPage s.db p.tenantId) s
  unfold Routes.refreshIncidents at h
  rw [run_bind_ok (list_run p.tenantId s)] at h
  dsimp only at h
  rw [run_bind_ok hcorrelate] at h
  obtain ⟨_, v, hreplace, h⟩ := run_bind_eq_ok.mp h
  obtain ⟨_, v', halert, hret⟩ := run_bind_eq_ok.mp h
  cases hret
  have halerted : t.db.incidents = v.db.incidents :=
    ((Routes.alertHighRisk_touches rt env p _).moves.of_ok halert .incidents (by decide)).1
  refine ⟨incidents, hplaced, ?_⟩
  have hpayloads := congrArg (List.map Incident.investigationIds)
    (IncidentRepository.replaceAll_ok hreplace)
  rw [List.map_map, List.map_map] at hpayloads
  rw [show tenantIncidents t.db p.tenantId = tenantIncidents v.db p.tenantId by
    rw [tenantIncidents, halerted]; rfl]
  exact hpayloads

/-! ## What fits on the page -/

/-- The ids in the order of the listing. -/
def rankedIds (db : Database) (tenantId : String) : List String :=
  ((tenantCases db tenantId).insertionSort InvestigationRepository.listOrder).map InvestigationRow.id

theorem rankedIds_perm (db : Database) (tenantId : String) :
    (rankedIds db tenantId).Perm (storedIds db tenantId) :=
  (List.perm_insertionSort _ _).map _

theorem rankedIds_nodup (db : Database) (tenantId : String) : (rankedIds db tenantId).Nodup :=
  (rankedIds_perm db tenantId).nodup_iff.mpr (storedIds_nodup db tenantId)

theorem firstPage_ids {db : Database} (h : NamedByPayload db) (tenantId : String) :
    (firstPage db tenantId).map Investigation.id = (rankedIds db tenantId).take 50 := by
  unfold firstPage rankedIds
  rw [List.map_map, ← List.map_take]
  refine List.map_congr_left fun row hrow => ?_
  have hmem := (List.perm_insertionSort _ _).mem_iff.mp (List.mem_of_mem_take hrow)
  exact h row (KeyedTable.mem_select.mp hmem).1

/-- A page of a list without repetitions has all of it exactly when it is long enough. -/
theorem forall_mem_take_iff {α : Type} {l : List α} (h : l.Nodup) (n : Nat) :
    (∀ a ∈ l, a ∈ l.take n) ↔ l.length ≤ n := by
  constructor
  · intro hall
    have hlen := (List.subperm_of_subset h hall).length_le
    rw [List.length_take] at hlen
    omega
  · intro hlen a ha
    rwa [List.take_of_length_le hlen]

section

variable {db : Database} {tenantId : String} {page : List Investigation}

/-- The stored incident at a position lists what was placed there. -/
theorem listed_iff {incidents : List Incident} (hplaced : ListsPlaced page incidents)
    (hids : (tenantIncidents db tenantId).map (fun r => r.payload.investigationIds) =
      incidents.map Incident.investigationIds) {k : Nat} {inc : IncidentRow}
    (hk : (tenantIncidents db tenantId)[k]? = some inc) (id : String) :
    id ∈ inc.payload.investigationIds ↔
      ∃ i : Fin page.length, placed page i = k ∧ (page.get i).id = id := by
  have hat := congrArg (fun l => l[k]?) hids
  simp only [List.getElem?_map, hk, Option.map_some] at hat
  have hlist := hplaced k
  rw [← hat, Option.getD_some] at hlist
  rw [hlist, List.mem_map]
  constructor
  · rintro ⟨inv, hinv, rfl⟩
    obtain ⟨i, _, hi, rfl⟩ := mem_placedIn.mp hinv
    exact ⟨i, hi, rfl⟩
  · rintro ⟨i, hi, rfl⟩
    exact ⟨page.get i, mem_placedIn.mpr ⟨i, i.isLt, hi, rfl⟩, rfl⟩

/-- Each investigation of the page is in one stored incident, and nothing else is. -/
theorem Correlates.exists_unique (h : Correlates db page tenantId)
    (hnodup : (page.map Investigation.id).Nodup) {id : String}
    (hid : id ∈ page.map Investigation.id) :
    ∃! inc, inc ∈ tenantIncidents db tenantId ∧ id ∈ inc.payload.investigationIds := by
  obtain ⟨incidents, hplaced, hids⟩ := h
  have hinj (i j : Fin page.length) (hij : (page.get i).id = (page.get j).id) : i = j := by
    have hget := List.nodup_iff_injective_get.mp hnodup
    have hsame := @hget ⟨i, by simp⟩ ⟨j, by simp⟩ (by simpa using hij)
    simpa [Fin.ext_iff] using hsame
  obtain ⟨inv, hinv, rfl⟩ := List.mem_map.mp hid
  obtain ⟨i, rfl⟩ := List.mem_iff_get.mp hinv
  have hex : ∃ inc, (tenantIncidents db tenantId)[placed page i]? = some inc := by
    have hlist := hplaced (placed page i)
    have hmem : (page.get i).id ∈ (placedIn page page.length (placed page i)).map Investigation.id :=
      List.mem_map_of_mem (mem_placedIn.mpr ⟨i, i.isLt, rfl, rfl⟩)
    have hat := congrArg (fun l => l[placed page i]?) hids
    simp only [List.getElem?_map] at hat
    cases hinc : (tenantIncidents db tenantId)[placed page i]? with
    | some inc => exact ⟨inc, rfl⟩
    | none =>
      rw [hinc, Option.map_none] at hat
      rw [← hlist, ← hat] at hmem
      cases hmem
  obtain ⟨inc, hinc⟩ := hex
  refine ⟨inc, ⟨List.mem_of_getElem? hinc, (listed_iff hplaced hids hinc _).mpr ⟨i, rfl, rfl⟩⟩, ?_⟩
  rintro inc' ⟨hinc', hlists⟩
  obtain ⟨k, hk⟩ := List.mem_iff_getElem?.mp hinc'
  obtain ⟨j, hj, hsame⟩ := (listed_iff hplaced hids hk _).mp hlists
  rw [hinj j i hsame] at hj
  rw [← hj, hinc] at hk
  exact (Option.some_inj.mp hk).symm

theorem Correlates.listed_mem (h : Correlates db page tenantId) {inc : IncidentRow}
    (hinc : inc ∈ tenantIncidents db tenantId) {id : String}
    (hid : id ∈ inc.payload.investigationIds) : id ∈ page.map Investigation.id := by
  obtain ⟨incidents, hplaced, hids⟩ := h
  obtain ⟨k, hk⟩ := List.mem_iff_getElem?.mp hinc
  obtain ⟨i, _, rfl⟩ := (listed_iff hplaced hids hk id).mp hid
  exact List.mem_map_of_mem (List.get_mem page i)

/-- The incidents of the first page cover what is stored exactly when it is all of it. -/
theorem covered_iff_length (hnamed : NamedByPayload db)
    (h : Correlates db (firstPage db tenantId) tenantId) :
    Covered db tenantId ↔ (tenantCases db tenantId).length ≤ 50 := by
  have hpage := firstPage_ids hnamed tenantId
  have hlen : (rankedIds db tenantId).length = (tenantCases db tenantId).length := by
    rw [rankedIds, List.length_map, List.length_insertionSort]
  have hstored (id : String) : id ∈ rankedIds db tenantId ↔
      ∃ row ∈ tenantCases db tenantId, row.id = id := by
    rw [(rankedIds_perm db tenantId).mem_iff, storedIds, List.mem_map]
  rw [← hlen, ← forall_mem_take_iff (rankedIds_nodup db tenantId), ← hpage]
  constructor
  · intro hc id hid
    obtain ⟨row, hrow, rfl⟩ := (hstored id).mp hid
    obtain ⟨inc, ⟨hinc, hlists⟩, _⟩ := hc.listed row hrow
    exact h.listed_mem hinc hlists
  · intro hall
    constructor
    · intro row hrow
      apply h.exists_unique
      · rw [hpage]
        exact (rankedIds_nodup db tenantId).sublist (List.take_sublist _ _)
      · exact hall row.id ((hstored row.id).mpr ⟨row, hrow, rfl⟩)
    · intro inc hinc id hid
      have hmem := h.listed_mem hinc hid
      rw [hpage] at hmem
      exact (hstored id).mp (List.mem_of_mem_take hmem)

end

/-! ## After a completed run -/

/-- The ids of the tenant's investigations, those stored and those the run draws. -/
def idsAfter (rt : Runtime) (w : World) (e : Event) (tenantId : String) : List String :=
  let found := detectionsFound rt w.db e.env tenantId
  storedIds w.db tenantId ++ investigationIds e.env found found

/-- After a completed run, the incidents cover the tenant's investigations exactly when there
    are at most fifty of them. -/
theorem covered_after_run {rt : Runtime} {w : World} (hnamed : NamedByPayload w.db) {e : Event}
    {auth : Authorization} {p : Principal} (he : e.request = .runInvestigations auth)
    (hp : Admitted w.db w.issued (e.env.now 0) auth .investigationRun p)
    (hs : succeeds rt w e = true) :
    Covered (step rt w e).db p.tenantId ↔ (idsAfter rt w e p.tenantId).dedup.length ≤ 50 := by
  obtain ⟨orch, as, invs, l, u, t, hreach, _, hdone⟩ := completes_of_admitted he hp hs
  have hsaved := hdone.saved
  obtain ⟨_, v, _, _, _, hrefresh, _⟩ := Routes.afterPipeline_ok hdone.stored
  obtain ⟨hrows, hcorrelates⟩ := refreshIncidents_ok hrefresh
  have hpage : firstPage v.db p.tenantId = firstPage t.db p.tenantId := by
    rw [firstPage, firstPage, tenantCases, tenantCases, hrows]
  rw [hpage] at hcorrelates
  have hids : (storedIds t.db p.tenantId).Perm (idsAfter rt w e p.tenantId).dedup := by
    apply (List.perm_ext_iff_of_nodup (storedIds_nodup _ _) (List.nodup_dedup _)).mpr
    intro id
    rw [hsaved.ids, hdone.ids, List.mem_dedup, idsAfter, hreach.found hdone.answered]
    exact List.mem_append.symm
  have hlen : (tenantCases t.db p.tenantId).length = (idsAfter rt w e p.tenantId).dedup.length := by
    rw [← hids.length_eq, storedIds, List.length_map]
  rw [hdone.step_db, covered_iff_length (hsaved.named hnamed) hcorrelates, hlen]

/-- In every reachable state: a completed investigation run leaves incidents that cover the
    tenant's investigations exactly when these, the new ones included, are at most fifty. -/
theorem incidents_cover_iff (rt : Runtime) (w : World) (es : List Event) (e : Event)
    (auth : Authorization) (p : Principal) (hw : NamedByPayload w.db)
    (he : e.request = .runInvestigations auth)
    (hp : Admitted (run rt w es).db (run rt w es).issued (e.env.now 0) auth .investigationRun p)
    (hs : succeeds rt (run rt w es) e = true) :
    Covered (step rt (run rt w es) e).db p.tenantId ↔
      (idsAfter rt (run rt w es) e p.tenantId).dedup.length ≤ 50 :=
  covered_after_run (namedByPayload_run rt hw es) he hp hs

/-! ## The fifty-first investigation -/

/-- A stored investigation of tenant "t1". -/
def storedCase (i : Nat) : InvestigationRow :=
  newInvestigationRow "t1" (sightedOn (toString i) "host-a" []) 0

/-- The tenant with some investigations stored. -/
def initechWith (n : Nat) (h : (((List.range n).map storedCase).map Keyed.key).Nodup) : World :=
  { initech "pro" with
    db := { (initech "pro").db with investigations := ⟨(List.range n).map storedCase, h⟩ } }

theorem initechWith_named (n : Nat) (h : (((List.range n).map storedCase).map Keyed.key).Nodup) :
    NamedByPayload (initechWith n h).db := by
  intro row hrow
  obtain ⟨i, _, rfl⟩ := List.mem_map.mp hrow
  rfl

theorem initechWith_admitted (n : Nat)
    (h : (((List.range n).map storedCase).map Keyed.key).Nodup) :
    Admitted (initechWith n h).db (initechWith n h).issued 0 (.bearer adminToken) .investigationRun
      adminToken.principal := by
  refine ⟨adminToken, ⟨rfl, List.mem_singleton_self _, by decide, by decide, rfl, ?_⟩, rfl, by decide⟩
  intro tenant htenant
  cases htenant
  decide

/-- A run over two stored investigations. -/
theorem incidents_cover_iff_two :
    Covered (step .plain (run .plain (initechWith 2 (by decide +kernel)) []) investigationRun).db
      "t1" ↔ (idsAfter .plain (run .plain (initechWith 2 (by decide +kernel)) []) investigationRun
        "t1").dedup.length ≤ 50 :=
  incidents_cover_iff .plain (initechWith 2 (by decide +kernel)) [] investigationRun
    (.bearer adminToken) adminToken.principal (initechWith_named 2 _) rfl
    (initechWith_admitted 2 _) (by decide +kernel)

/-- A run over fifty-one stored investigations leaves one of them in no incident. -/
theorem incidents_miss_one :
    ¬ ∀ (rt : Runtime) (w : World) (es : List Event) (e : Event) (auth : Authorization)
      (p : Principal), NamedByPayload w.db → e.request = .runInvestigations auth →
      Admitted (run rt w es).db (run rt w es).issued (e.env.now 0) auth .investigationRun p →
      succeeds rt (run rt w es) e = true →
      Covered (step rt (run rt w es) e).db p.tenantId := by
  intro h
  have hadmitted := initechWith_admitted 51 (by decide +kernel)
  have hsucceeds : succeeds .plain (initechWith 51 (by decide +kernel)) investigationRun = true := by
    decide +kernel
  have hnamed := initechWith_named 51 (by decide +kernel)
  have hcovered := h .plain _ [] investigationRun _ _ hnamed rfl hadmitted hsucceeds
  have hlen := (covered_after_run hnamed rfl hadmitted hsucceeds).mp hcovered
  exact absurd hlen (by decide +kernel)

end SentinelAI
