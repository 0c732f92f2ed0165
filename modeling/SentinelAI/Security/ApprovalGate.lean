import Mathlib.Data.List.Induction
import SentinelAI.Security.CaseSteps

/-
  The human approval gate, end to end: from whatever the triage model answered to the
  connector. A stored action of a gated type waits for approval until somebody approves
  this very action, and an action that waits is not dispatched.
-/

namespace SentinelAI

open Lib

/-! ## What the pipeline stores -/

/-- The investigations of the session are those of before, or planned ones. -/
def PlannedOrKept (s t : Session) : Prop :=
  ∀ row ∈ t.db.investigations.rows, row ∈ s.db.investigations.rows ∨ row.payload.Planned

instance : IsPreorder Session PlannedOrKept where
  refl _ := fun _ h => Or.inl h
  trans s t u hst htu := by
    intro row hrow
    obtain h | h := htu row hrow
    · exact hst row h
    · exact Or.inr h

theorem plannedOrKept_of_rows {s t : Session}
    (h : t.db.investigations = s.db.investigations) : PlannedOrKept s t := by
  intro row hrow
  rw [h] at hrow
  exact Or.inl hrow

theorem plannedOrKept_of_touches {α : Type} {m : ApiM α} (h : Touches ([] : List Part) m) :
    Moves PlannedOrKept m :=
  fun s => plannedOrKept_of_rows (h.same (p := .investigations) List.not_mem_nil s).1

/-- A planned investigation is stored as it is, over a row of its id or as a new one. -/
theorem save_planned (env : Env) (tenantId : String) {inv : Investigation} (hinv : inv.Planned) :
    Moves PlannedOrKept (InvestigationRepository.save env tenantId inv) := by
  intro s
  obtain ⟨_, rows, hins, hrun⟩ | ⟨_, _, hrun⟩ | ⟨existing, _, hrun⟩ :=
    InvestigationRepository.save_cases env tenantId inv s
  · rw [hrun]
    intro row hrow
    rcases List.mem_append.mp (KeyedTable.insert?_rows hins ▸ hrow) with h | h
    · exact Or.inl h
    · rw [List.mem_singleton.mp h]
      exact Or.inr hinv
  · rw [hrun]
    exact plannedOrKept_of_rows rfl
  · rw [hrun]
    intro row hrow
    obtain ⟨old, _, _, rfl⟩ | ⟨h, _⟩ := (KeyedTable.mem_modify (InvestigationRow.write_key _)).mp hrow
    · exact Or.inr hinv
    · exact Or.inl h

theorem saveInvestigation_planned (rt : Runtime) (env : Env) (p : Principal) {inv : Investigation}
    (hinv : inv.Planned) : Moves PlannedOrKept (Routes.saveInvestigation rt env p inv) :=
  Moves.bind (save_planned env p.tenantId hinv) fun _ => plannedOrKept_of_touches (by grind)

/-- A run of the pipeline only adds planned investigations, whatever the model answered. -/
theorem runInvestigations_planned {rt : Runtime} {w : World} {e : Event} {auth : Authorization}
    (he : e.request = .runInvestigations auth) {row : InvestigationRow}
    (hrow : row ∈ (step rt w e).db.investigations.rows) :
    row ∈ w.db.investigations.rows ∨ row.payload.Planned := by
  have hc : .committed ∉ footprint e.request := by
    simp [he, footprint]
  obtain ⟨body, t, hok, hdb⟩ | ⟨_, hdb⟩ := step_db rt hc
  · have hmoves : Moves PlannedOrKept (handle rt e.env e.request) := by
      rw [he]
      refine Moves.map _ (Moves.bind (plannedOrKept_of_touches (by grind)) fun p => ?_)
      refine Moves.bind (plannedOrKept_of_touches (by grind)) fun orch => ?_
      refine Routes.runInvestigationsFor_moves (F := ([] : List Part)) rt e.env (fun s t h => ?_) p orch fun inv hinv =>
        saveInvestigation_planned rt e.env p hinv
      exact plannedOrKept_of_rows (h .investigations List.not_mem_nil).1
    rw [hdb] at hrow
    exact hmoves.of_ok hok row hrow
  · rw [hdb] at hrow
    exact Or.inl hrow

/-! ## The gate -/

/-- Somebody approved the action before, and the request was answered. -/
def ApprovedIn (rt : Runtime) (w : World) (es : List Event) (invId : String) (i : Int) : Prop :=
  ∃ before e after auth, es = before ++ e :: after ∧ e.request = .case auth invId (.approve i) ∧
    succeeds rt (run rt w before) e = true

/-- The stored action at an index could be executed. -/
def executable (w : World) (invId : String) (i : Int) : Bool :=
  (storedAction w invId i).any fun a => !a.requiresApproval

/-- Nothing has been approved: every stored investigation is as it was planned. -/
def FreshlyPlanned (w : World) : Prop :=
  ∀ row ∈ w.db.investigations.rows, row.payload.Planned

theorem storedAction_eq_some {w : World} {invId : String} {i : Int} {a : IncidentAction} :
    storedAction w invId i = some a ↔
      ∃ row ∈ w.db.investigations.rows, row.id = invId ∧ actionAt row.payload i = some a := by
  unfold storedAction
  rw [Option.bind_eq_some_iff]
  constructor
  · rintro ⟨row, hfind, ha⟩
    obtain ⟨hrow, hid⟩ := (w.db.investigations.find?_eq_some invId row).mp hfind
    exact ⟨row, hrow, hid, ha⟩
  · rintro ⟨row, hrow, hid, ha⟩
    exact ⟨row, (w.db.investigations.find?_eq_some invId row).mpr ⟨hrow, hid⟩, ha⟩

theorem mem_of_actionAt {inv : Investigation} {i : Int} {a : IncidentAction}
    (h : actionAt inv i = some a) : a ∈ inv.actions := by
  unfold actionAt at h
  split at h
  · cases h
  · exact List.mem_of_getElem? h

/-- An action a request leaves free to run was free before, or is approved by the request, or
    is of no gated type. -/
theorem waiting_step {rt : Runtime} {w : World} {e : Event} {invId : String} {i : Int}
    {b : IncidentAction} (hb : storedAction (step rt w e) invId i = some b)
    (hg : b.actionType ∈ gatedActions) (hfree : b.requiresApproval = false) :
    (∃ a, storedAction w invId i = some a ∧ a.actionType ∈ gatedActions ∧
      a.requiresApproval = false) ∨
    (∃ auth, e.request = .case auth invId (.approve i)) ∧ succeeds rt w e = true := by
  by_cases he : ∃ auth, e.request = .runInvestigations auth
  · obtain ⟨auth, he⟩ := he
    obtain ⟨row, hrow, hid, ha⟩ := storedAction_eq_some.mp hb
    obtain h | h := runInvestigations_planned he hrow
    · exact Or.inl ⟨b, storedAction_eq_some.mpr ⟨row, h, hid, ha⟩, hg, hfree⟩
    · rw [h b (mem_of_actionAt ha) hg] at hfree
      cases hfree
  · obtain ⟨_, hs⟩ | ⟨a, b', ha, hs, hab⟩ :=
      storedAction_step rt (fun auth h => he ⟨auth, h⟩) invId i
    · rw [hs] at hb
      cases hb
    · rw [hs] at hb
      cases hb
      obtain hw | hap := hab.waiting
      · exact Or.inl ⟨a, ha, hab.actionType ▸ hg, hw ▸ hfree⟩
      · exact Or.inr hap

/-- After any run, a gated action that does not wait has been approved. -/
theorem approved_of_free {rt : Runtime} {w : World} (hw : FreshlyPlanned w) {invId : String}
    {i : Int} (es : List Event) {a : IncidentAction}
    (ha : storedAction (run rt w es) invId i = some a) (hg : a.actionType ∈ gatedActions)
    (hfree : a.requiresApproval = false) : ApprovedIn rt w es invId i := by
  induction es using List.reverseRecOn generalizing a with
  | nil =>
    obtain ⟨row, hrow, _, hat⟩ := storedAction_eq_some.mp ha
    rw [hw row hrow a (mem_of_actionAt hat) hg] at hfree
    cases hfree
  | append_singleton es e ih =>
    have hrun : run rt w (es ++ [e]) = step rt (run rt w es) e := by
      simp [run, List.foldl_append]
    rw [hrun] at ha
    obtain ⟨a', ha', hg', hfree'⟩ | ⟨⟨auth, he⟩, hs⟩ := waiting_step ha hg hfree
    · obtain ⟨before, e', after, auth, rfl, he', hs'⟩ := ih ha' hg' hfree'
      exact ⟨before, e', after ++ [e], auth, by simp, he', hs'⟩
    · exact ⟨es, e, [], auth, rfl, he, hs⟩

/-- A connector invocation comes from an execute request, for the action it names. -/
theorem connectorCalls_reach {rt : Runtime} {w : World} {e : Event} {c : ConnectorCall}
    (h : c ∈ connectorCalls rt w e) :
    ∃ invId i row a, Reaches w e invId i row a ∧ c = ⟨a.actionType, a.target⟩ := by
  by_cases hf : Part.connectors ∈ footprint e.request
  · obtain ⟨auth, invId, i, he⟩ := connectors_footprint hf
    obtain ⟨row, a, hreach⟩ | ⟨hnil, _⟩ := reaches_or rt (w := w) he
    · refine ⟨invId, i, row, a, hreach, ?_⟩
      rw [(hreach.step rt).1] at h
      exact executorCall_eq _ h
    · rw [hnil] at h
      cases h
  · rw [connectorCalls_eq_nil hf] at h
    cases h

/-- An approval makes no other action executable. -/
theorem approve_only {rt : Runtime} {w : World} {e : Event} {auth : Authorization}
    {invId invId' : String} {i j : Int} (he : e.request = .case auth invId (.approve i))
    (hne : (invId', j) ≠ (invId, i)) :
    executable (step rt w e) invId' j = executable w invId' j := by
  unfold executable
  have hsave : ∀ auth, e.request ≠ .runInvestigations auth := by
    intro auth' h
    rw [he] at h
    cases h
  obtain ⟨hw, hs⟩ | ⟨a, b, hw, hs, hab⟩ := storedAction_step rt hsave invId' j
  · rw [hs, hw]
  · obtain h | ⟨⟨auth', he'⟩, _⟩ := hab.waiting
    · rw [hs, hw, Option.any_some, Option.any_some, h]
    · rw [he] at he'
      cases he'
      exact absurd rfl hne

/-- In any run from freshly planned investigations, whatever models, connectors and clocks do:
    an invocation of a connector with a gated action is the execution of a stored action of
    that type which was approved before, and an approval frees no other action. -/
theorem approval_gate (rt : Runtime) {w : World} (hw : FreshlyPlanned w) (es : List Event)
    (e : Event) :
    (∀ c ∈ connectorCalls rt (run rt w es) e, c.actionType ∈ gatedActions →
      ∃ auth invId i a, e.request = .case auth invId (.execute i) ∧
        storedAction (run rt w es) invId i = some a ∧ c = ⟨a.actionType, a.target⟩ ∧
        ApprovedIn rt w es invId i) ∧
    ∀ auth invId i, e.request = .case auth invId (.approve i) →
      ∀ invId' j, (invId', j) ≠ (invId, i) →
        executable (step rt (run rt w es) e) invId' j = executable (run rt w es) invId' j := by
  refine ⟨fun c hc hg => ?_, fun auth invId i he invId' j hne => approve_only he hne⟩
  obtain ⟨invId, i, row, a, hreach, rfl⟩ := connectorCalls_reach hc
  obtain ⟨auth, _, he, _⟩ := id hreach
  exact ⟨auth, invId, i, a, he, hreach.storedAction, rfl,
    approved_of_free hw es hreach.storedAction hg hreach.action.2⟩

/-- The dispatch of an approved isolation shows its approval. -/
theorem approval_gate_isolation :
    ApprovedIn .plain (caseWorld [gatedAction]) [caseEvent (.approve 0)] "INV-1" 0 := by
  have hw : FreshlyPlanned (caseWorld [gatedAction]) := by
    intro row hrow a ha _
    rw [List.mem_singleton.mp hrow] at ha
    rw [List.mem_singleton.mp ha]
    rfl
  have hc : ⟨"isolate_host", "ws-finance-07"⟩ ∈ connectorCalls .plain
      (run .plain (caseWorld [gatedAction]) [caseEvent (.approve 0)]) (caseEvent (.execute 0)) := by
    decide +kernel
  obtain ⟨auth, invId, i, a, he, _, _, happroved⟩ :=
    (approval_gate .plain hw [caseEvent (.approve 0)] (caseEvent (.execute 0))).1 _ hc (by decide)
  cases he
  exact happroved

end SentinelAI
