import SentinelAI.Cases.Stamps

/-
  The order of a case's instants. The pipeline opens a case as `investigating` without
  acknowledging it, and only a transition back into `investigating` acknowledges, so a case can
  be contained or resolved with its acknowledgement clock still running. The instants of a case
  are in order and its clock stands still in every state of a run (`Chronological`) exactly
  when no request of the run contains or resolves a case nobody has acknowledged
  (`chronology_iff`).
-/

namespace SentinelAI

open Lib

/-! ## Chronology -/

/-- Contained at some time, or in a status that comes after `investigating`. -/
def ContainedOrLater (row : InvestigationRow) : Prop :=
  row.containedAt.isSome ∨ row.status = DetectionStatus.contained.value ∨
    row.status = DetectionStatus.resolved.value

/-- The instants of a stored case are in order, and once it is contained or later its
    acknowledgement clock cannot flip to breached. -/
structure Chronological (w : World) (id : String) : Prop where
  ordered : ∀ row c, caseAt w id = some row → row.containedAt = some c →
    ∃ a, row.acknowledgedAt = some a ∧ row.createdAt ≤ a ∧ a ≤ c
  clock_stopped : ∀ row now, caseAt w id = some row → ContainedOrLater row →
    (computeSla row.createdAt row.acknowledgedAt row.containedAt now).ackBreached = false

/-- An acknowledged case is never in breach, any other one is sixteen minutes after its
    creation. -/
theorem ackBreached_never_iff (created : Time) (acknowledged contained : Option Time) :
    (∀ now, (computeSla created acknowledged contained now).ackBreached = false) ↔
      acknowledged ≠ none := by
  constructor
  · rintro h rfl
    have helapsed : elapsedMinutes created (created + 960000000) = 16 := by
      unfold elapsedMinutes
      rw [add_sub_cancel_left]
      decide +kernel
    have hlate := h (created + 960000000)
    have hbreached : (computeSla created none contained (created + 960000000)).ackBreached =
        decide (slaAcknowledgeMin < elapsedMinutes created (created + 960000000)) := rfl
    rw [hbreached, helapsed] at hlate
    exact absurd hlate (by decide +kernel)
  · intro h now
    obtain ⟨a, rfl⟩ := Option.ne_none_iff_exists'.mp h
    rfl

/-! ## Requests that contain or resolve -/

/-- An admitted status request that takes the case to `contained` or `resolved`. -/
def ClosesByTransition (w : World) (e : Event) (id : String) (row : InvestigationRow) : Prop :=
  ∃ auth p target status, e.request = .case auth id (.status target) ∧
    Admitted w.db w.issued (e.env.now 0) auth .caseWrite p ∧
    ownRow w.db p.tenantId id = some row ∧ legalTransition target row = .ok status ∧
    (status = .contained ∨ status = .resolved)

/-- A request contains or resolves a case nobody has acknowledged. -/
def ClosesUnacknowledged (w : World) (e : Event) (id : String) : Prop :=
  ∃ row, (ContainsByExecution w e id row ∨ ClosesByTransition w e id row) ∧
    row.acknowledgedAt = none

/-- An admitted status request along an edge of the lifecycle is answered. -/
theorem transition_answered (rt : Runtime) {w : World} {e : Event} {auth : Authorization}
    {p : Principal} {id target : String} {row : InvestigationRow} {status : DetectionStatus}
    (he : e.request = .case auth id (.status target))
    (hp : Admitted w.db w.issued (e.env.now 0) auth .caseWrite p)
    (hrow : ownRow w.db p.tenantId id = some row)
    (hlegal : legalTransition target row = .ok status) : succeeds rt w e = true := by
  have hmove := CaseWorkflowMixin.transitionStatus_run e.env p.tenantId id target w.session.ticked
  rw [show ownRow w.session.ticked.db p.tenantId id = some row from hrow] at hmove
  simp only [hlegal] at hmove
  have hroute : ∃ inv t, (Routes.transitionStatus rt e.env auth id target).run w.session =
      .ok inv t := by
    unfold Routes.transitionStatus
    rw [run_bind_ok (require_eq_ok.mpr ⟨hp, rfl⟩), run_bind_ok hmove]
    exact ⟨_, _, run_bind_ok (AuditService.recordEntry_run ..)⟩
  obtain ⟨inv, t, hroute⟩ := hroute
  exact (succeeds_iff rt w e).mpr ⟨_, t, (handled_eq_ok he rfl).mpr ⟨inv, hroute, rfl⟩⟩

/-- What a request that closes an unacknowledged case stores. -/
theorem ClosesUnacknowledged.stored {w : World} {e : Event} {id : String}
    (h : ClosesUnacknowledged w e id) (rt : Runtime) :
    ∃ new, caseAt (step rt w e) id = some new ∧ new.acknowledgedAt = none ∧
      ContainedOrLater new := by
  obtain ⟨row, hexecution | ⟨auth, p, target, status, he, hp, hrow, hlegal, hclosed⟩, hack⟩ := h
  · obtain ⟨_, new, hnew, hstatus, hkept, _⟩ := hexecution.stored rt
    exact ⟨new, hnew, hkept.trans hack, Or.inr (Or.inl hstatus)⟩
  · have hs := transition_answered rt he hp hrow hlegal
    obtain hw | ⟨hf, _⟩ := case_step rt he (show CaseRequest.op e.env (.status target) = some _ from rfl)
    · obtain ⟨row', new, hrow', hcompute, hself, _⟩ := hw.rows
      cases (ownRow_eq_some.mp hrow).1.symm.trans hrow'
      obtain ⟨status', hlegal', rfl⟩ := transition_compute.mp hcompute
      cases hlegal.symm.trans hlegal'
      have hne : status ≠ .investigating := by
        rintro rfl
        obtain hc | hc := hclosed <;> cases hc
      refine ⟨_, hself, ?_, Or.inr ?_⟩
      · rw [transitionRow_acknowledgedAt, hack, if_neg hne]
        rfl
      · obtain rfl | rfl := hclosed
        · exact Or.inl rfl
        · exact Or.inr rfl
    · rw [hs] at hf
      cases hf

/-! ## The instants of a case and the clock -/

/-- The clock has yet to pass an instant in the requests to come. -/
def Before (t : Time) (es : List Event) : Prop := ∀ e ∈ es, ∀ i, t ≤ e.env.now i

/-- The instants of a row are in order, before all the clock has yet to show, and a row that is
    contained or later is acknowledged. -/
structure WellDated (row : InvestigationRow) (later : List Event) : Prop where
  created : Before row.createdAt later
  acknowledged : ∀ a, row.acknowledgedAt = some a → row.createdAt ≤ a ∧ Before a later
  contained : ∀ c, row.containedAt = some c → ∃ a, row.acknowledgedAt = some a ∧ a ≤ c
  closed : row.status = DetectionStatus.contained.value ∨
    row.status = DetectionStatus.resolved.value → row.acknowledgedAt ≠ none

theorem Before.tail {t : Time} {e : Event} {es : List Event} (h : Before t (e :: es)) :
    Before t es := fun e' he' => h e' (List.mem_cons_of_mem _ he')

theorem Before.head {t : Time} {e : Event} {es : List Event} (h : Before t (e :: es)) (i : Nat) :
    t ≤ e.env.now i := h e List.mem_cons_self i

theorem ClockRuns.tail {e : Event} {es : List Event} (h : ClockRuns (e :: es)) : ClockRuns es :=
  ⟨fun e' he' => h.1 e' (List.mem_cons_of_mem _ he'), (List.pairwise_cons.mp h.2).2⟩

theorem ClockRuns.before {e : Event} {es : List Event} (h : ClockRuns (e :: es)) (i : Nat) :
    Before (e.env.now i) es := fun e' he' j => (List.pairwise_cons.mp h.2).1 e' he' i j

section

variable {e : Event} {es : List Event} {row new : InvestigationRow}

/-- A row that keeps its instants, and its status unless it was acknowledged or leaves the
    closed ones. -/
theorem WellDated.keep (h : WellDated row (e :: es)) (hcreated : new.createdAt = row.createdAt)
    (hack : new.acknowledgedAt = row.acknowledgedAt) (hcont : new.containedAt = row.containedAt)
    (hclosed : new.status = DetectionStatus.contained.value ∨
      new.status = DetectionStatus.resolved.value → row.acknowledgedAt ≠ none) :
    WellDated new es := by
  constructor
  · rw [hcreated]
    exact h.created.tail
  · intro a ha
    obtain ⟨hle, hbefore⟩ := h.acknowledged a (hack ▸ ha)
    exact ⟨hcreated ▸ hle, hbefore.tail⟩
  · intro c hc
    obtain ⟨a, ha, hle⟩ := h.contained c (hcont ▸ hc)
    exact ⟨a, hack.trans ha, hle⟩
  · intro hs
    rw [hack]
    exact hclosed hs

theorem WellDated.opened {inv : Investigation} (hinv : inv.Drafted) (tenantId : String) (k : Nat)
    (hclock : ClockRuns (e :: es)) :
    WellDated (newInvestigationRow tenantId inv (e.env.now k)) es := by
  constructor
  · exact hclock.before k
  · intro a ha
    cases ha
  · intro c hc
    cases hc
  · intro hs
    have hdraft : inv.detection.status.value = DetectionStatus.contained.value ∨
        inv.detection.status.value = DetectionStatus.resolved.value := hs
    obtain hst | hst := hinv.status <;> rw [hst] at hdraft <;> exact absurd hdraft (by decide)

/-- Without an acknowledgement there is no containment. -/
theorem WellDated.not_contained (h : WellDated row (e :: es)) (hack : row.acknowledgedAt = none) :
    row.containedAt = none := by
  cases hc : row.containedAt with
  | none => rfl
  | some c =>
    obtain ⟨a, ha, _⟩ := h.contained c hc
    cases hack.symm.trans ha

/-- A transition of an unacknowledged case acknowledges it, if anything. -/
theorem WellDated.transition_none (h : WellDated row (e :: es)) (hclock : ClockRuns (e :: es))
    {status : DetectionStatus} (hack : row.acknowledgedAt = none)
    (hopen : ¬ (status = .contained ∨ status = .resolved)) :
    WellDated (transitionRow status (e.env.now 1) row) es := by
  constructor
  · exact h.created.tail
  · intro a ha
    rw [transitionRow_acknowledgedAt, hack, Option.none_or, Option.ite_none_right_eq_some] at ha
    obtain ⟨_, ha⟩ := ha
    cases ha
    exact ⟨h.created.head 1, hclock.before 1⟩
  · intro c hc
    rw [transitionRow_containedAt, h.not_contained hack, Option.none_or,
      if_neg fun hs => hopen (Or.inl hs)] at hc
    cases hc
  · intro hs
    refine absurd ?_ hopen
    exact Or.imp (fun hv => DetectionStatus.value_inj hv) (fun hv => DetectionStatus.value_inj hv) hs

/-- A transition of an acknowledged case keeps the acknowledgement, before all it stamps. -/
theorem WellDated.transition_some (h : WellDated row (e :: es)) {a : Time}
    (hack : row.acknowledgedAt = some a) (status : DetectionStatus) :
    WellDated (transitionRow status (e.env.now 1) row) es := by
  obtain ⟨hle, hbefore⟩ := h.acknowledged a hack
  have hkept : (transitionRow status (e.env.now 1) row).acknowledgedAt = some a := by
    rw [transitionRow_acknowledgedAt, hack, Option.some_or]
  constructor
  · exact h.created.tail
  · intro a' ha'
    cases hkept.symm.trans ha'
    exact ⟨hle, hbefore.tail⟩
  · intro c hc
    refine ⟨a, hkept, ?_⟩
    rw [transitionRow_containedAt, Option.or_eq_some_iff, Option.ite_none_right_eq_some] at hc
    obtain hc | ⟨_, _, hc⟩ := hc
    · obtain ⟨a', ha', hac⟩ := h.contained c hc
      cases hack.symm.trans ha'
      exact hac
    · cases hc
      exact hbefore.head 1
  · intro _
    rw [hkept]
    exact Option.some_ne_none a

/-- A transition stamps the clock's reading on what is not stamped, after all that is. -/
theorem WellDated.transition (h : WellDated row (e :: es)) (hclock : ClockRuns (e :: es))
    (status : DetectionStatus)
    (hclosed : status = .contained ∨ status = .resolved → row.acknowledgedAt ≠ none) :
    WellDated (transitionRow status (e.env.now 1) row) es := by
  cases hack : row.acknowledgedAt with
  | none => exact h.transition_none hclock hack fun hs => hclosed hs hack
  | some a => exact h.transition_some hack status

end

/-! ## Request by request -/

/-- Every stored case under an id is well dated. -/
def CaseDated (w : World) (id : String) (later : List Event) : Prop :=
  ∀ row, caseAt w id = some row → WellDated row later

section

variable {rt : Runtime} {w : World} {e : Event} {es : List Event} {id : String}

/-- An answered case request leaves a well-dated row, unless it closes an unacknowledged one. -/
theorem Writes.dated {auth : Authorization} {r : CaseRequest} {op : CaseOp}
    (he : e.request = .case auth id r) (hop : r.op e.env = some op)
    (h : Writes rt w e auth id r op) (hclock : ClockRuns (e :: es))
    (hdated : CaseDated w id (e :: es)) (hopen : ¬ ClosesUnacknowledged w e id) :
    CaseDated (step rt w e) id es := by
  obtain ⟨row, new, hrow, hcompute, hself, _⟩ := h.rows
  have hbefore : WellDated row (e :: es) := hdated row hrow
  intro new' hnew'
  have hsame : caseAt (step rt w e) id = some new := hself
  cases hsame.symm.trans hnew'
  cases r with
  | approve i =>
    cases hop
    obtain ⟨a, _, rfl⟩ := approve_compute.mp hcompute
    exact hbefore.keep rfl rfl rfl hbefore.closed
  | assign assignee =>
    cases hop
    cases hcompute
    exact hbefore.keep rfl rfl rfl hbefore.closed
  | note body => cases hop
  | execute i =>
    cases hop
    obtain ⟨a, res, _, _, _, rfl⟩ := execute_compute.mp hcompute
    obtain ⟨hack, hcont⟩ := executeRow_stamps i a res row
    refine hbefore.keep (executeRow_fixed i a res row).createdAt hack hcont fun hs => ?_
    by_cases hstatus : row.status = DetectionStatus.investigating.value
    · intro hnone
      exact hopen ⟨row, Or.inl (h.by_execution he hrow hstatus), hnone⟩
    · rw [executeRow_status, if_neg hstatus] at hs
      exact hbefore.closed hs
  | status target =>
    cases hop
    obtain ⟨status, hlegal, rfl⟩ := transition_compute.mp hcompute
    refine hbefore.transition hclock status fun hclosed hnone => hopen ⟨row, Or.inr ?_, hnone⟩
    obtain ⟨p, row', new', hadm, hown, _, _, _⟩ := h
    cases hrow.symm.trans (ownRow_eq_some.mp hown).1
    exact ⟨auth, p, target, status, he, hadm, hown, hlegal, hclosed⟩

/-- A request leaves the case well dated, unless it closes it unacknowledged. -/
theorem caseDated_step (hclock : ClockRuns (e :: es)) (hdated : CaseDated w id (e :: es))
    (hopen : ¬ ClosesUnacknowledged w e id) : CaseDated (step rt w e) id es := by
  have hkept (hsame : caseAt (step rt w e) id = caseAt w id) : CaseDated (step rt w e) id es := by
    intro row hrow
    have hbefore := hdated row (hsame ▸ hrow)
    exact hbefore.keep rfl rfl rfl hbefore.closed
  cases row_change rt w e id with
  | kept hsame => exact hkept hsame
  | written auth r op he hop hw => exact hw.dated he hop hclock hdated hopen
  | filed p orch hreach hs hfiled =>
    intro new hnew
    have hnew' : (step rt w e).db.investigations.find? id = some new := hnew
    generalize ho : w.db.investigations.find? id = o at hfiled
    rw [hnew'] at hfiled
    cases hfiled with
    | same => exact hkept (hnew'.trans ho.symm) new hnew
    | opened inv k hinv hid => exact WellDated.opened hinv p.tenantId k hclock
    | refiled row inv hinv hid hrow htenant =>
      refine (hdated row ho).keep rfl rfl rfl fun hs => ?_
      have hdraft : inv.detection.status.value = DetectionStatus.contained.value ∨
          inv.detection.status.value = DetectionStatus.resolved.value := hs
      obtain hst | hst := hinv.status <;> rw [hst] at hdraft <;> exact absurd hdraft (by decide)

theorem CaseDated.chronological {later : List Event} (h : CaseDated w id later) :
    Chronological w id := by
  constructor
  · intro row c hrow hc
    obtain ⟨a, ha, hac⟩ := (h row hrow).contained c hc
    exact ⟨a, ha, ((h row hrow).acknowledged a ha).1, hac⟩
  · intro row now hrow hlater
    refine (ackBreached_never_iff _ _ _).mpr ?_ now
    obtain hcont | hclosed := hlater
    · obtain ⟨c, hc⟩ := Option.isSome_iff_exists.mp hcont
      obtain ⟨a, ha, _⟩ := (h row hrow).contained c hc
      rw [ha]
      exact Option.some_ne_none a
    · exact (h row hrow).closed hclosed

/-! ## Along every run -/

theorem caseDated_run {later : List Event} (hclock : ClockRuns (es ++ later))
    (hdated : CaseDated w id (es ++ later))
    (hrun : Steps (Guarded (Stepped rt) fun w e => ¬ ClosesUnacknowledged w e id) w es
      (run rt w es)) : CaseDated (run rt w es) id later := by
  induction es generalizing w with
  | nil => exact hdated
  | cons e es ih =>
    obtain _ | ⟨⟨rfl, hopen⟩, hrest⟩ := hrun
    exact ih hclock.tail (caseDated_step hclock hdated hopen) hrest

/-- In every run of a clock that does not go back, from a world without the case: the instants
    of the case are in order and its acknowledgement clock stands still, in every state, exactly
    when no request of the run contains or resolves it unacknowledged. -/
theorem chronology_iff (hnew : caseAt w id = none) (hclock : ClockRuns es) :
    (∀ before after, es = before ++ after → Chronological (run rt w before) id) ↔
      Steps (Guarded (Stepped rt) fun w e => ¬ ClosesUnacknowledged w e id) w es
        (run rt w es) := by
  constructor
  · intro h
    refine guarded_run_iff.mpr fun before e after he hbad => ?_
    have hthen := h (before ++ [e]) after (by rw [he, List.append_assoc]; rfl)
    obtain ⟨new, hstored, hack, hlater⟩ := ClosesUnacknowledged.stored hbad rt
    rw [run_append] at hthen
    have hstopped := fun now => hthen.clock_stopped new now hstored hlater
    exact (ackBreached_never_iff _ _ _).mp hstopped hack
  · intro h before after he
    have hdated : CaseDated w id (before ++ after) := by
      intro row hrow
      cases hnew.symm.trans hrow
    refine (caseDated_run (he ▸ hclock) hdated (guarded_run_iff.mpr ?_)).chronological
    intro before' e after' he'
    refine guarded_run_iff.mp h before' e (after' ++ after) ?_
    rw [he, he', List.append_assoc]
    rfl

end

/-- An analyst changes the status so many minutes after the case was opened. -/
def movedAfter (minutes : Int) (status : String) : Event where
  env := { now := fun _ => minutes * 60000000, uuid4 := fun _ => "" }
  request := .case (.bearer adminToken) "INV-0a1b2c3d" (.status status)

/-- Closed as a false positive, and taken up again. -/
def reopened : List Event := [findingRun, movedAfter 5 "false_positive", movedAfter 20 "investigating"]

theorem reopened_clock : ClockRuns (reopened ++ [movedAfter 40 "contained"]) := by
  constructor
  · intro e he i j _
    simp only [reopened, List.cons_append, List.nil_append, List.mem_cons, List.not_mem_nil,
      or_false] at he
    obtain rfl | rfl | rfl | rfl := he <;> exact le_rfl
  · simp [reopened, findingRun, movedAfter]

/-- A request for another status neither contains nor resolves. -/
theorem movedAfter_open {minutes : Int} {status : String} (w : World)
    (hc : status ≠ DetectionStatus.contained.value) (hr : status ≠ DetectionStatus.resolved.value) :
    ¬ ClosesUnacknowledged w (movedAfter minutes status) "INV-0a1b2c3d" := by
  rintro ⟨row, ⟨i, a, r, ⟨auth, p, he, _⟩, _⟩ | ⟨auth, p, target, status', he, _, _, hl, hs⟩, _⟩
  · cases he
  · cases he
    obtain ⟨_, _, htarget, _⟩ := legalTransition_edge hl
    obtain rfl | rfl := hs
    · exact hc htarget
    · exact hr htarget

/-- A case opened, closed as a false positive, taken up after twenty minutes and contained after
    forty. -/
theorem chronology_reopened :
    (caseAt (run shortDigest (initech "pro") (reopened ++ [movedAfter 40 "contained"]))
        "INV-0a1b2c3d").map (fun r => (r.createdAt, r.acknowledgedAt, r.containedAt)) =
      some (0, some (20 * 60000000), some (40 * 60000000)) ∧
    Chronological (run shortDigest (initech "pro") (reopened ++ [movedAfter 40 "contained"]))
      "INV-0a1b2c3d" := by
  refine ⟨by decide +kernel, (@chronology_iff shortDigest (initech "pro") _ "INV-0a1b2c3d" rfl
    reopened_clock).mpr (Steps.cons ⟨rfl, ?_⟩ (Steps.cons ⟨rfl, movedAfter_open _ (by decide) (by decide)⟩
      (Steps.cons ⟨rfl, movedAfter_open _ (by decide) (by decide)⟩ (Steps.cons ⟨rfl, ?_⟩ (Steps.nil _)))))
    _ [] (List.append_nil _).symm⟩
  · rintro ⟨row, ⟨i, a, r, ⟨auth, p, he, _⟩, _⟩ | ⟨auth, p, target, status, he, _⟩, _⟩
    · cases he
    · cases he
  · -- the case has been acknowledged by then
    have hack : ∀ row, caseAt (run shortDigest (initech "pro") reopened) "INV-0a1b2c3d" = some row →
        row.acknowledgedAt = some (20 * 60000000) := by
      have hstored : (caseAt (run shortDigest (initech "pro") reopened) "INV-0a1b2c3d").map
          InvestigationRow.acknowledgedAt = some (some (20 * 60000000)) := by decide +kernel
      intro row hrow
      rw [hrow] at hstored
      exact Option.some.inj hstored
    rintro ⟨row, ⟨i, a, r, ⟨auth, p, he, _⟩, _⟩ | ⟨auth, p, target, status, he, _, hown, _⟩, hnone⟩
    · cases he
    · cases he
      exact absurd ((hack row (ownRow_eq_some.mp hown).1).symm.trans hnone) (by simp)

/-- A case opened and contained is never acknowledged. -/
theorem contained_unacknowledged :
    ¬ ∀ (rt : Runtime) (w : World) (es : List Event) (id : String), caseAt w id = none →
      ClockRuns es → Chronological (run rt w es) id := by
  intro h
  have hclock : ClockRuns [findingRun, moveTo "contained"] :=
    clockRuns_of_zero (by simp [findingRun, moveTo, adminRequest])
  have hchron := h shortDigest (initech "pro") [findingRun, moveTo "contained"] "INV-0a1b2c3d"
    rfl hclock
  have hstored : (caseAt (run shortDigest (initech "pro") [findingRun, moveTo "contained"])
      "INV-0a1b2c3d").map (fun r => (r.containedAt, r.acknowledgedAt)) = some (some 0, none) := by
    decide +kernel
  obtain ⟨row, hrow, hstamps⟩ := Option.map_eq_some_iff.mp hstored
  obtain ⟨hcont, hack⟩ := Prod.mk.inj hstamps
  obtain ⟨a, ha, _⟩ := hchron.ordered row 0 hrow hcont
  cases hack.symm.trans ha

end SentinelAI
