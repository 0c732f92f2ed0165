import SentinelAI.Cases.Headers

/-
  `InvestigationRepository.save` as an upsert. Its two branches, a new row and a stored one,
  write the same seven fields; neither writes the assignee column, though the payload they
  store carries the investigation's assignee. After a save the column is what it was before,
  so `list(assignee=…)` and the payload agree exactly when that named whom the investigation
  names (`save_consistent_iff`).
-/

namespace SentinelAI

open Lib

/-! ## What a save should leave -/

/-- The queryable header of a stored case. -/
structure CaseHeader where
  title : String
  severity : String
  status : String
  entity : String
  riskScore : Int
  isTruePositive : Option Bool
  assignee : Option String

def InvestigationRow.header (row : InvestigationRow) : CaseHeader where
  title := row.title
  severity := row.severity
  status := row.status
  entity := row.entity
  riskScore := row.riskScore
  isTruePositive := row.isTruePositive
  assignee := row.assignee

/-- What `list` returns of the cases stored under other ids. -/
def otherCases (db : Database) (tenantId id : String) (status severity assignee : Option String) :
    List Investigation :=
  ((listedRows db tenantId status severity assignee).filter fun r => r.id ≠ id).map
    InvestigationRow.payload

/-- Between `s` and `t` an investigation was saved: it is listed under its own values and
    fetched, and the others are listed and fetched as before. -/
structure ListedAndFetched (tenantId : String) (inv : Investigation) (s t : Session) : Prop where
  listed : ∀ (status severity assignee : Option String) (limit : Nat),
    NonEmptyFilters status severity assignee → (tenantCases t.db tenantId).length ≤ limit →
    ∃ page, (InvestigationRepository.list tenantId status severity assignee limit 0).run t =
        .ok (page, page.length) t ∧
      page.Perm (otherCases s.db tenantId inv.id status severity assignee ++
        if inv.hasValues status severity assignee then [inv] else [])
  fetched : (InvestigationRepository.get tenantId inv.id).run t = .ok (some inv) t
  others : ∀ id, id ≠ inv.id → ∃ o, (InvestigationRepository.get tenantId id).run s = .ok o s ∧
    (InvestigationRepository.get tenantId id).run t = .ok o t

/-- Moreover the row has the header that the insert branch gives it. -/
structure SavedConsistently (tenantId : String) (inv : Investigation) (s t : Session) : Prop
    extends ListedAndFetched tenantId inv s t where
  header : ∀ row now, t.db.investigations.find? inv.id = some row →
    row.header = (newInvestigationRow tenantId inv now).header

/-! ## Whom an assignee names -/

/-- Whom an assignee names; `None` and "" name nobody, as for the filter of `list`. -/
def named (assignee : Option String) : Option String := assignee.filter fun a => a != ""

theorem named_eq_some {assignee : Option String} {a : String} :
    named assignee = some a ↔ assignee = some a ∧ a ≠ "" := by
  unfold named
  rw [Option.filter_eq_some_iff, bne_iff_ne]

/-- An investigation has the values of every filter with another assignee as with its own:
    both name the same. -/
theorem hasValues_assignee_iff (inv : Investigation) (column : Option String) :
    (∀ status severity assignee, NonEmptyFilters status severity assignee →
      { inv with assignee := column }.hasValues status severity assignee =
        inv.hasValues status severity assignee) ↔ named column = named inv.assignee := by
  constructor
  · intro h
    refine Option.ext fun a => ?_
    rw [named_eq_some, named_eq_some]
    refine and_congr_left fun ha => ?_
    have hvalue : (column == some a) = (inv.assignee == some a) :=
      h none none (some a) ⟨by simp, by simp, by simpa using ha⟩
    rw [← beq_iff_eq, hvalue, beq_iff_eq]
  · intro h status severity assignee ⟨_, _, hassignee⟩
    unfold Investigation.hasValues
    congr 1
    cases assignee with
    | none => rfl
    | some a =>
      have ha : a ≠ "" := fun he => hassignee (congrArg some he)
      have hnamed : (column = some a ∧ a ≠ "") ↔ (inv.assignee = some a ∧ a ≠ "") := by
        rw [← named_eq_some, ← named_eq_some, h]
      show (column == some a) = (inv.assignee == some a)
      rw [Bool.eq_iff_iff, beq_iff_eq, beq_iff_eq]
      simpa [ha] using hnamed

/-! ## What a save does -/

/-- The assignee column stored under an id. -/
def storedAssignee (db : Database) (id : String) : Option String :=
  (db.investigations.find? id).bind InvestigationRow.assignee

/-- No other tenant has stored the id. -/
def NotElsewhere (db : Database) (tenantId id : String) : Prop :=
  ∀ row, db.investigations.find? id = some row → row.tenantId = tenantId

/-- One row was written, with the investigation's values and the assignee column as it was. -/
structure SavedRow (tenantId : String) (inv : Investigation) (s : Session) (new : InvestigationRow)
    (t : Session) : Prop where
  stored : t.db.investigations.find? inv.id = some new
  others : (t.db.investigations.select fun r => r.id ≠ inv.id) =
    s.db.investigations.select fun r => r.id ≠ inv.id
  kept : ∀ id, id ≠ inv.id → t.db.investigations.find? id = s.db.investigations.find? id
  tenant : new.tenantId = tenantId
  payload : new.payload = inv
  header (now : Time) : new.header =
    { (newInvestigationRow tenantId inv now).header with assignee := storedAssignee s.db inv.id }

namespace InvestigationRepository

variable {env : Env} {tenantId : String} {inv : Investigation} {s t : Session}
  {new : InvestigationRow}

theorem save_run (env : Env) (h : NotElsewhere s.db tenantId inv.id) :
    ∃ new t, (save env tenantId inv).run s = .ok new t ∧ SavedRow tenantId inv s new t := by
  obtain ⟨hown, rows, hins, hrun⟩ | ⟨hown, hins, _⟩ | ⟨row, hown, hrun⟩ :=
    save_cases env tenantId inv s
  · obtain ⟨hnone, hself, hkept⟩ := KeyedTable.find?_insert? hins
    replace hnone : s.db.investigations.find? inv.id = none := hnone
    refine ⟨_, _, hrun, hself, ?_, hkept, rfl, rfl, fun now => ?_⟩
    · have hselect := KeyedTable.select_insert? (fun r => r.id ≠ inv.id) hins
      rw [if_neg (by simp [newInvestigationRow]), List.append_nil] at hselect
      exact hselect
    · rw [storedAssignee, hnone]
      rfl
  · have htaken : (s.db.investigations.find? inv.id).isSome = true :=
      KeyedTable.insert?_eq_none.mp hins
    obtain ⟨row, hrow⟩ := Option.isSome_iff_exists.mp htaken
    rw [ownRow_eq_some.mpr ⟨hrow, h row hrow⟩] at hown
    cases hown
  · obtain ⟨hfind, htenant⟩ := ownRow_eq_some.mp hown
    have hkey : row.id = inv.id := ((KeyedTable.find?_eq_some _ _ _).mp hfind).2
    refine ⟨_, _, hrun, ?_, ?_, fun id hid => ?_, htenant, rfl, fun now => ?_⟩
    · rw [← hkey] at hfind ⊢
      exact KeyedTable.find?_modify_self (InvestigationRow.write_key _) hfind
    · rw [← hkey]
      exact KeyedTable.select_modify_ne _ row.id _ (InvestigationRow.write_key _) _
        (fun _ => rfl) fun _ hr => of_decide_eq_true hr
    · rw [← hkey] at hid
      exact KeyedTable.find?_modify_ne (InvestigationRow.write_key _) hid
    · rw [storedAssignee, hfind]
      rfl

/-- An id that another tenant has stored: the insertion violates the primary key. -/
theorem save_elsewhere (env : Env) (h : ¬ NotElsewhere s.db tenantId inv.id) :
    ∃ ex t, (save env tenantId inv).run s = .error ex t := by
  unfold NotElsewhere at h
  push Not at h
  obtain ⟨other, hother, htenant⟩ := h
  obtain ⟨_, rows, hins, _⟩ | ⟨_, _, hrun⟩ | ⟨row, hown, _⟩ := save_cases env tenantId inv s
  · have hfree : s.db.investigations.find? inv.id = none := (KeyedTable.find?_insert? hins).1
    cases hother.symm.trans hfree
  · exact ⟨_, _, hrun⟩
  · obtain ⟨hfind, hrow⟩ := ownRow_eq_some.mp hown
    cases hother.symm.trans hfind
    exact absurd hrow htenant

end InvestigationRepository

/-! ## Listing and fetching afterwards -/

section

variable {tenantId : String} {inv : Investigation} {s t : Session} {new : InvestigationRow}

/-- The clauses of `list`. -/
def listClause (tenantId : String) (status severity assignee : Option String)
    (r : InvestigationRow) : Bool :=
  r.tenantId == tenantId && InvestigationRepository.filterBy status r.status &&
    InvestigationRepository.filterBy severity r.severity && filterAssignee assignee r

/-- The saved row meets the clauses as the header does that it was left with. -/
theorem SavedRow.meets (h : SavedRow tenantId inv s new t)
    {status severity assignee : Option String}
    (hfilters : NonEmptyFilters status severity assignee) :
    listClause tenantId status severity assignee new =
      { inv with assignee := storedAssignee s.db inv.id }.hasValues status severity assignee := by
  obtain ⟨hstatus, hseverity, hassignee⟩ := hfilters
  have hheader := h.header 0
  have hs : new.status = inv.detection.status.value := congrArg CaseHeader.status hheader
  have hv : new.severity = inv.detection.severity.value := congrArg CaseHeader.severity hheader
  have ha : new.assignee = storedAssignee s.db inv.id := congrArg CaseHeader.assignee hheader
  unfold listClause
  rw [h.tenant, filterBy_eq_all hstatus, filterBy_eq_all hseverity, filterAssignee_eq_all hassignee,
    hs, hv, ha, beq_self_eq_true, Bool.true_and]
  rfl

/-- The cases `list` returns after a save: the others as before, and the saved one if the
    header it was left with meets the filters. -/
theorem SavedRow.listed (h : SavedRow tenantId inv s new t)
    {status severity assignee : Option String}
    (hfilters : NonEmptyFilters status severity assignee) :
    ((listedRows t.db tenantId status severity assignee).map InvestigationRow.payload).Perm
      (otherCases s.db tenantId inv.id status severity assignee ++
        if { inv with assignee := storedAssignee s.db inv.id }.hasValues status severity assignee
          then [inv] else []) := by
  have hrows (db : Database) : listedRows db tenantId status severity assignee =
      db.investigations.select (listClause tenantId status severity assignee) := rfl
  have hothers : (t.db.investigations.select
        (listClause tenantId status severity assignee)).filter
        (fun r => r.id ≠ inv.id) =
      (s.db.investigations.select
        (listClause tenantId status severity assignee)).filter
        fun r => r.id ≠ inv.id := by
    rw [KeyedTable.select, KeyedTable.select, List.filter_comm, List.filter_comm (l := s.db.investigations.rows)]
    exact congrArg (List.filter _) h.others
  have happart := (t.db.investigations.select_apart
    (listClause tenantId status severity assignee) inv.id).map InvestigationRow.payload
  rw [h.stored, Option.filter_some, h.meets hfilters, List.map_append] at happart
  rw [hrows]
  refine happart.trans (List.Perm.of_eq ?_)
  rw [otherCases, hrows, ← hothers]
  congr 1
  split
  · rw [Option.toList_some, List.map_singleton, h.payload]
  · rfl

theorem InvestigationRepository.get_run (tenantId invId : String) (s : Session) :
    (InvestigationRepository.get tenantId invId).run s =
      .ok ((ownRow s.db tenantId invId).map InvestigationRow.payload) s := by
  unfold InvestigationRepository.get
  rw [run_bind_ok (getRow_own tenantId invId s)]
  cases ownRow s.db tenantId invId with
  | none => rfl
  | some row => rfl

theorem SavedRow.fetched (h : SavedRow tenantId inv s new t) :
    (InvestigationRepository.get tenantId inv.id).run t = .ok (some inv) t := by
  rw [InvestigationRepository.get_run, ownRow_eq_some.mpr ⟨h.stored, h.tenant⟩, Option.map_some,
    h.payload]

/-- Listing and fetching are as they should be exactly when the assignee column names whom
    the investigation names. -/
theorem SavedRow.listedAndFetched_iff (h : SavedRow tenantId inv s new t) :
    ListedAndFetched tenantId inv s t ↔
      named (storedAssignee s.db inv.id) = named inv.assignee := by
  rw [← hasValues_assignee_iff inv]
  constructor
  · intro hlisted status severity assignee hfilters
    obtain ⟨page, hrun, hperm⟩ := hlisted.listed status severity assignee _ hfilters le_rfl
    obtain ⟨page', hrun', hperm'⟩ :=
      InvestigationRepository.list_all (s := t) tenantId status severity assignee le_rfl
    obtain rfl : page = page' := by
      rw [hrun'] at hrun
      cases hrun
      rfl
    have hlength := (hperm.symm.trans (hperm'.trans (h.listed hfilters))).length_eq
    rw [List.length_append, List.length_append] at hlength
    cases hcolumn : { inv with assignee := storedAssignee s.db inv.id }.hasValues status severity
        assignee <;>
      cases hown : inv.hasValues status severity assignee <;>
      simp [hcolumn, hown] at hlength ⊢
  · intro hvalues
    refine ⟨fun status severity assignee limit hfilters hlimit => ?_, h.fetched, fun id hid => ?_⟩
    · obtain ⟨page, hrun, hperm⟩ :=
        InvestigationRepository.list_all (s := t) tenantId status severity assignee hlimit
      refine ⟨page, hrun, hperm.trans ?_⟩
      rw [← hvalues status severity assignee hfilters]
      exact h.listed hfilters
    · refine ⟨_, InvestigationRepository.get_run tenantId id s, ?_⟩
      rw [InvestigationRepository.get_run, ownRow, h.kept id hid]
      rfl

/-- The header is the insert branch's exactly when no assignee was stored. -/
theorem SavedRow.header_iff (h : SavedRow tenantId inv s new t) :
    (∀ row now, t.db.investigations.find? inv.id = some row →
      row.header = (newInvestigationRow tenantId inv now).header) ↔
    storedAssignee s.db inv.id = none := by
  constructor
  · intro hheader
    have hnew := hheader new 0 h.stored
    rw [h.header 0] at hnew
    exact congrArg CaseHeader.assignee hnew
  · intro hnone row now hrow
    obtain rfl : new = row := Option.some.inj (h.stored.symm.trans hrow)
    rw [h.header now, hnone]
    rfl

end

/-- A save lists and fetches as it should exactly when no other tenant has stored the id and
    the assignee column, which it does not write, names whom the investigation names; and it
    leaves the insert branch's header too exactly when, moreover, that column is empty. The
    other columns are the insert branch's after every save. -/
theorem save_consistent_iff (env : Env) (tenantId : String) (inv : Investigation) (s : Session) :
    ((∃ row t, (InvestigationRepository.save env tenantId inv).run s = .ok row t ∧
        ListedAndFetched tenantId inv s t) ↔
      NotElsewhere s.db tenantId inv.id ∧
        named (storedAssignee s.db inv.id) = named inv.assignee) ∧
    ((∃ row t, (InvestigationRepository.save env tenantId inv).run s = .ok row t ∧
        SavedConsistently tenantId inv s t) ↔
      NotElsewhere s.db tenantId inv.id ∧ storedAssignee s.db inv.id = none ∧
        named inv.assignee = none) ∧
    ∀ row t, (InvestigationRepository.save env tenantId inv).run s = .ok row t →
      ∃ new, t.db.investigations.find? inv.id = some new ∧ ∀ now, new.header =
        { (newInvestigationRow tenantId inv now).header with
          assignee := storedAssignee s.db inv.id } := by
  by_cases hown : NotElsewhere s.db tenantId inv.id
  · obtain ⟨new, t, hrun, hsaved⟩ := InvestigationRepository.save_run env hown
    have hreturns (P : Session → Prop) :
        (∃ row t', (InvestigationRepository.save env tenantId inv).run s = .ok row t' ∧ P t') ↔
          P t := by
      constructor
      · intro ⟨row, t', hrun', hP⟩
        cases hrun.symm.trans hrun'
        exact hP
      · intro hP
        exact ⟨new, t, hrun, hP⟩
    rw [hreturns (ListedAndFetched tenantId inv s), hreturns (SavedConsistently tenantId inv s),
      hsaved.listedAndFetched_iff]
    refine ⟨(and_iff_right hown).symm, ⟨fun h => ?_, fun ⟨_, hnone, hnamed⟩ => ?_⟩,
      fun row t' hrun' => ?_⟩
    · have hnone := hsaved.header_iff.mp h.header
      have hnamed := hsaved.listedAndFetched_iff.mp h.toListedAndFetched
      rw [hnone] at hnamed
      exact ⟨hown, hnone, hnamed.symm⟩
    · have hlisted := hsaved.listedAndFetched_iff.mpr (by rw [hnone, hnamed]; rfl)
      exact ⟨hlisted, hsaved.header_iff.mpr hnone⟩
    · cases hrun.symm.trans hrun'
      exact ⟨new, hsaved.stored, hsaved.header⟩
  · obtain ⟨ex, t, hrun⟩ := InvestigationRepository.save_elsewhere env hown
    have hraises (P : Session → Prop) : ¬ ∃ row t',
        (InvestigationRepository.save env tenantId inv).run s = .ok row t' ∧ P t' := by
      intro ⟨row, t', hrun', _⟩
      cases hrun.symm.trans hrun'
    refine ⟨iff_of_false (hraises _) fun h => hown h.1, iff_of_false (hraises _) fun h => hown h.1,
      fun row t' hrun' => ?_⟩
    cases hrun.symm.trans hrun'

/-- A case of bob's. -/
def bobsCase : Investigation where
  id := "INV-0a1b2c3d"
  detection :=
    { id := "DET-0a1b2c3d"
      title := "Encoded PowerShell execution"
      description := ""
      severity := .critical
      splQuery := "search index=endpoint process powershell encoded"
      entity := "ws-finance-07"
      createdAt := 0 }
  assignee := some "bob"
  createdAt := 0

/-- Saved for the first time, it is not listed as his. -/
theorem assigned_case_unlisted :
    ¬ ∀ (env : Env) (tenantId : String) (inv : Investigation) (s t : Session)
      (row : InvestigationRow),
      (InvestigationRepository.save env tenantId inv).run s = .ok row t →
      SavedConsistently tenantId inv s t := by
  intro h
  have hfree : NotElsewhere (Session.start .empty [] []).db "t1" bobsCase.id := by
    intro row hrow
    cases hrow
  obtain ⟨row, t, hrun, hsaved⟩ := InvestigationRepository.save_run quietSplunk hfree
  have hlisted := (h _ _ _ _ _ _ hrun).toListedAndFetched
  have hnamed : named none = named (some "bob") := hsaved.listedAndFetched_iff.mp hlisted
  cases hnamed

end SentinelAI
