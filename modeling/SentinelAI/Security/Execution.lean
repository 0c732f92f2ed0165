import SentinelAI.Security.CaseSteps

/-
  How often an action is dispatched to a connector. `execute_action` asks whether the action
  waits for approval, not whether it was executed; so an action is dispatched at most once
  in the runs in which nobody executes an executed action, and no dispatch is forgotten
  because what follows it raised.
-/

namespace SentinelAI

open Lib

/-! ## The law -/

/-- The request executes this action. -/
def Event.executes (e : Event) (invId : String) (i : Int) : Bool :=
  match e.request with
  | .case _ id (.execute j) => id == invId && j == i
  | _ => false

/-- The connector invocations for an action, over a run. -/
def dispatches (rt : Runtime) (invId : String) (i : Int) : World → List Event → Nat
  | _, [] => 0
  | w, e :: es =>
    (if e.executes invId i then (connectorCalls rt w e).length else 0) +
      dispatches rt invId i (step rt w e) es

/-- Whether the stored action is marked executed. -/
def executedAt (w : World) (invId : String) (i : Int) : Bool :=
  (storedAction w invId i).any IncidentAction.executed

/-- The usage events that bill an action. -/
def actionUsage (w : World) : List UsageEventRow :=
  w.db.usageEvents.select fun r => r.kind == kindAction

/-- Executing an executed action invokes nothing, bills nothing and keeps its result. -/
def RepeatIsSilent (rt : Runtime) (w : World) (e : Event) : Prop :=
  ∀ invId i, e.executes invId i = true → executedAt w invId i = true →
    connectorCalls rt w e = [] ∧ actionUsage (step rt w e) = actionUsage w ∧
      storedAction (step rt w e) invId i = storedAction w invId i

/-- At-most-once execution, over a run. -/
structure AtMostOnce (rt : Runtime) (w : World) (es : List Event) : Prop where
  dispatches : ∀ invId i,
    dispatches rt invId i w es ≤ if executedAt w invId i then 0 else 1
  repeats : ∀ before e after, es = before ++ e :: after →
    RepeatIsSilent rt (run rt w before) e

/-- An execution that is not a second one and whose outcome is stored, or of which nothing
    comes. Enough for one dispatch but more than it takes: an outcome that is not stored does no
    harm if nobody executes the action again. -/
def ExecutesOnce (w : World) (e : Event) : Prop :=
  ∀ invId i row a, Reaches w e invId i row a →
    (a.executed = false ∧ ∃ r, executorResult e.env.connectors a.actionType a.target = .ok r ∧
      Announced e.env (executionNote row a r)) ∨
    (supportingConnector e.env.connectors a.actionType = none ∧
      ¬ Announced e.env (executionNote row a (unsupportedResult a.actionType a.target)))

/-! ## One request -/

section

variable {w : World} {e : Event} {invId : String} {i : Int}

theorem executes_iff : e.executes invId i = true ↔
    ∃ auth, e.request = .case auth invId (.execute i) := by
  unfold Event.executes
  cases e.request with
  | case auth id r =>
    cases r with
    | execute j => simp
    | _ => simp
  | _ => simp

variable (rt : Runtime)

/-- An execute request inside the condition either invokes at most one connector and marks
    the action, which was unmarked, or leaves everything. -/
theorem execute_cases (h : ExecutesOnce w e) (he : e.executes invId i = true) :
    (executedAt w invId i = false ∧ (connectorCalls rt w e).length ≤ 1 ∧
      executedAt (step rt w e) invId i = true) ∨
    (connectorCalls rt w e = [] ∧ (step rt w e).db = w.db) := by
  obtain ⟨auth, hr⟩ := executes_iff.mp he
  obtain ⟨row, a, hreach⟩ | ⟨hcalls, _, hdb⟩ := reaches_or rt (w := w) hr
  · obtain ⟨hcalls, hout⟩ := hreach.step rt
    obtain ⟨hexec, r, hres, hann⟩ | ⟨hnone, hann⟩ := h invId i row a hreach
    · left
      obtain ⟨r', hres', _, _, hdb⟩ | ⟨hno, _⟩ := hout
      · refine ⟨?_, ?_, ?_⟩
        · unfold executedAt
          rw [hreach.storedAction]
          simpa using hexec
        · rw [hcalls]
          exact executorCall_length ..
        · have hnew := (find_written hreach.row_eq (executeRow_fixed i a r' row).id).1
          rw [← hdb] at hnew
          unfold executedAt storedAction
          rw [hnew, Option.bind_some, actionAt_executeRow hreach.action.1]
          rfl
      · exact absurd hann (hno r hres)
    · right
      have hcall : executorCall e.env.connectors a.actionType a.target = [] := by
        unfold executorCall
        rw [hnone]
      have hres : executorResult e.env.connectors a.actionType a.target =
          .ok (unsupportedResult a.actionType a.target) := by
        unfold executorResult
        rw [hnone]
      obtain ⟨r, hr, hr', _⟩ | ⟨_, _, hdb⟩ := hout
      · rw [hres] at hr
        cases hr
        exact absurd hr' hann
      · exact ⟨hcalls.trans hcall, hdb⟩
  · exact Or.inr ⟨hcalls, hdb⟩

/-- Executed actions stay executed. -/
theorem executedAt_step (hsave : ∀ auth, e.request ≠ .runInvestigations auth)
    (h : executedAt w invId i = true) : executedAt (step rt w e) invId i = true := by
  unfold executedAt at h ⊢
  obtain ⟨hw, _⟩ | ⟨a, b, hw, hs, hab⟩ := storedAction_step rt hsave invId i
  · rw [hw] at h
    cases h
  · rw [hw] at h
    rw [hs]
    exact hab.executed h

/-- A request inside the condition uses up the one dispatch of the action, or none. -/
theorem dispatch_step (invId : String) (i : Int)
    (hsave : ∀ auth, e.request ≠ .runInvestigations auth)
    (h : ExecutesOnce w e) :
    (if e.executes invId i then (connectorCalls rt w e).length else 0) +
      (if executedAt (step rt w e) invId i then 0 else 1) ≤
      if executedAt w invId i then 0 else 1 := by
  by_cases he : e.executes invId i = true
  · rw [if_pos he]
    obtain ⟨hw, hcalls, hs⟩ | ⟨hcalls, hdb⟩ := execute_cases rt h he
    · rw [hw, hs]
      simpa using hcalls
    · have hs : executedAt (step rt w e) invId i = executedAt w invId i := by
        unfold executedAt storedAction
        rw [hdb]
      rw [hcalls, hs]
      simp
  · rw [if_neg he]
    cases hw : executedAt w invId i with
    | true => simp [executedAt_step rt hsave hw]
    | false => split <;> simp

theorem repeatIsSilent_of_executesOnce (h : ExecutesOnce w e) : RepeatIsSilent rt w e := by
  intro id j he hexec
  obtain ⟨hw, _⟩ | ⟨hcalls, hdb⟩ := execute_cases rt h he
  · rw [hexec] at hw
    cases hw
  · unfold actionUsage storedAction
    rw [hdb]
    exact ⟨hcalls, rfl, rfl⟩

end

/-! ## Runs -/

/-- In a run of requests that respect the condition, every action is dispatched at most once,
    and executing it again does nothing. Only a run of the pipeline, which stores
    investigations, is left out. -/
theorem dispatched_at_most_once (rt : Runtime) {w w' : World} {es : List Event}
    (hsave : ∀ e ∈ es, ∀ auth, e.request ≠ .runInvestigations auth)
    (h : Steps (Guarded (Stepped rt) ExecutesOnce) w es w') : AtMostOnce rt w es := by
  induction h with
  | nil w =>
    refine ⟨fun invId i => Nat.zero_le _, fun before e after h => ?_⟩
    simp at h
  | @cons w v w' e es hs _ ih =>
    obtain ⟨rfl, hC⟩ := hs
    have ih := ih fun e he => hsave e (List.mem_cons_of_mem _ he)
    have he := hsave e (List.mem_cons_self ..)
    refine ⟨fun invId i => ?_, ?_⟩
    · have hstep := dispatch_step rt invId i he hC
      have hrest := ih.dispatches invId i
      unfold SentinelAI.dispatches
      omega
    · rintro (_ | ⟨b, before⟩) e' after hsplit
      · obtain ⟨rfl, _⟩ := List.cons.inj hsplit
        exact repeatIsSilent_of_executesOnce rt hC
      · obtain ⟨rfl, rfl⟩ := List.cons.inj hsplit
        exact ih.repeats before e' after rfl

/-- Approved and executed once, an action is dispatched and stored as executed. -/
theorem dispatched_at_most_once_run :
    AtMostOnce .plain (caseWorld [gatedAction]) [caseEvent (.approve 0), caseEvent (.execute 0)] := by
  have happrove : ExecutesOnce (caseWorld [gatedAction]) (caseEvent (.approve 0)) := by
    rintro invId i row a ⟨auth, p, hr, _⟩
    cases hr
  have hexecute : ExecutesOnce (step .plain (caseWorld [gatedAction]) (caseEvent (.approve 0)))
      (caseEvent (.execute 0)) := by
    intro invId i row a hreach
    have hstored : storedAction (step .plain (caseWorld [gatedAction]) (caseEvent (.approve 0)))
        "INV-1" 0 = some { gatedAction with requiresApproval := false } := by decide +kernel
    have ha := hreach.storedAction
    obtain ⟨auth, p, hr, _⟩ := hreach
    cases hr
    rw [hstored] at ha
    cases ha
    exact Or.inl ⟨rfl, _, rfl, fun send hm => by simp [caseEvent] at hm⟩
  refine dispatched_at_most_once .plain ?_
    (Steps.cons ⟨rfl, happrove⟩ (Steps.cons ⟨rfl, hexecute⟩ (Steps.nil _)))
  intro e he auth
  simp only [List.mem_cons, List.not_mem_nil, or_false] at he
  rcases he with rfl | rfl <;> simp [caseEvent]

/-- Executed twice, it is dispatched twice. -/
theorem dispatched_twice :
    ¬ ∀ (rt : Runtime) (w w' : World) (es : List Event),
      (∀ e ∈ es, ∀ auth, e.request ≠ .runInvestigations auth) → Steps (Stepped rt) w es w' →
        AtMostOnce rt w es := by
  intro h
  have hrun := h .plain (caseWorld [gatedAction]) _
    [caseEvent (.approve 0), caseEvent (.execute 0), caseEvent (.execute 0)]
    (fun e he auth => by
      simp only [List.mem_cons, List.not_mem_nil, or_false] at he
      rcases he with rfl | rfl | rfl <;> simp [caseEvent])
    (steps_iff_run.mpr rfl)
  have htwice : ¬ dispatches .plain "INV-1" 0 (caseWorld [gatedAction])
      [caseEvent (.approve 0), caseEvent (.execute 0), caseEvent (.execute 0)] ≤
        if executedAt (caseWorld [gatedAction]) "INV-1" 0 then 0 else 1 := by decide +kernel
  exact htwice (hrun.dispatches "INV-1" 0)

end SentinelAI
