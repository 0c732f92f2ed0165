import SentinelAI.Lib.Interleaving
import SentinelAI.Security.CaseOps

/-
  Two requests on one investigation row. Each reads the row in its own transaction, computes
  its new row, and writes the columns it changed; nothing locks the row in between.

  Requests that do not overlap end in the serial row. Overlapping ones end in the last
  writer's changed columns over the first writer's row, the JSON payload being one column:
  an approval, an execution or an assignment the other request wrote there is lost.
-/

namespace SentinelAI

open Lib

/-- The columns that differ between the row read and the row computed, written over the row
    as it is now. -/
def writeChanged (snapshot new current : InvestigationRow) : InvestigationRow :=
  { current with
    status := if new.status = snapshot.status then current.status else new.status
    assignee := if new.assignee = snapshot.assignee then current.assignee else new.assignee
    acknowledgedAt :=
      if new.acknowledgedAt = snapshot.acknowledgedAt then current.acknowledgedAt
      else new.acknowledgedAt
    containedAt :=
      if new.containedAt = snapshot.containedAt then current.containedAt else new.containedAt
    payload := if new.payload = snapshot.payload then current.payload else new.payload }

/-- A request run alone; one that fails leaves the row. -/
def CaseOp.after (op : CaseOp) (row : InvestigationRow) : InvestigationRow :=
  (op.compute row).getD row

/-- The two requests, by number. -/
def pick (x y : CaseOp) : Bool → CaseOp
  | false => x
  | true => y

/-- The final row of one order of the two requests. -/
def Serial (x y : CaseOp) (row final : InvestigationRow) : Prop :=
  final = y.after (x.after row) ∨ final = x.after (y.after row)

/-! ## The repository computes these rows -/

/-- The repository call of a request. -/
def CaseOp.call (env : Env) (tenantId invId : String) : CaseOp → ApiM (Option Investigation)
  | .approve i => InvestigationRepository.approveAction tenantId invId i
  | .execute i _ => Except.toOption <$> InvestigationRepository.executeAction env tenantId invId i
  | .assign assignee => InvestigationRepository.setAssignee tenantId invId assignee
  | .transition target _ =>
    Except.toOption <$> CaseWorkflowMixin.transitionStatus env tenantId invId target

/-- The environment is the one the request is about. -/
def CaseOp.RunsIn (env : Env) (s : Session) : CaseOp → Prop
  | .execute _ connectors => connectors = env.connectors
  | .transition _ now => now = env.now s.ticks
  | _ => True

/-- On the row it loads, the repository flushes the row `compute` gives. -/
theorem call_run (env : Env) (tenantId invId : String) (op : CaseOp) (s : Session)
    (row new : InvestigationRow) (henv : op.RunsIn env s)
    (hrow : ownRow s.db tenantId invId = some row) (hnew : op.compute row = some new) :
    ∃ s', (op.call env tenantId invId).run s = .ok (some new.payload) s' ∧
      s'.db = (flushed new s).db := by
  cases op with
  | approve i =>
    refine ⟨flushed new s, ?_, rfl⟩
    rw [CaseOp.call, InvestigationRepository.approveAction_run, hrow, Option.bind_some]
    rw [show approveRow i row = some new from hnew]
  | execute i connectors =>
    obtain rfl : connectors = env.connectors := henv
    obtain ⟨a, res, ha, hp, hr, rfl⟩ := execute_compute.mp hnew
    have hexec := InvestigationRepository.executeAction_run env tenantId invId i s
    simp only [hrow, executableAction, ha, hp, Bool.false_eq_true, if_false, hr] at hexec
    exact ⟨flushed (executeRow i a res row) (dispatched env a s), run_bind_ok hexec, rfl⟩
  | assign assignee =>
    cases hnew
    refine ⟨flushed (setAssigneeRow assignee row) s, ?_, rfl⟩
    rw [CaseOp.call, InvestigationRepository.setAssignee_run, hrow]
  | transition target now =>
    obtain rfl : now = env.now s.ticks := henv
    obtain ⟨status, hl, rfl⟩ := transition_compute.mp hnew
    have htrans := CaseWorkflowMixin.transitionStatus_run env tenantId invId target s
    simp only [hrow, hl] at htrans
    exact ⟨flushed (transitionRow status (env.now s.ticks) row) s.ticked, run_bind_ok htrans, rfl⟩

/-- Every column `m` changed, `n` changed too. -/
structure Overwrites (r m n : InvestigationRow) : Prop where
  status : n.status = r.status → m.status = r.status
  assignee : n.assignee = r.assignee → m.assignee = r.assignee
  acknowledgedAt : n.acknowledgedAt = r.acknowledgedAt → m.acknowledgedAt = r.acknowledgedAt
  containedAt : n.containedAt = r.containedAt → m.containedAt = r.containedAt
  payload : n.payload = r.payload → m.payload = r.payload

/-- Then nothing of `m` is left where `n` is written. -/
theorem writeChanged_over {r m n : InvestigationRow} (hm : SameFixedColumns r m)
    (hn : SameFixedColumns r n) (h : Overwrites r m n) : writeChanged r n m = n := by
  have column : ∀ {γ : Type} [DecidableEq γ] {a b c : γ}, (c = a → b = a) →
      (if c = a then b else c) = c := by
    intro γ _ a b c hc
    split
    · exact (hc ‹_›).trans (‹c = a›).symm
    · rfl
  unfold writeChanged
  rw [column h.status, column h.assignee, column h.acknowledgedAt, column h.containedAt,
    column h.payload]
  obtain ⟨h₁, h₂, h₃, h₄, h₅, h₆, h₇, h₈⟩ := hm
  obtain ⟨k₁, k₂, k₃, k₄, k₅, k₆, k₇, k₈⟩ := hn
  rw [h₁, h₂, h₃, h₄, h₅, h₆, h₇, h₈, ← k₁, ← k₂, ← k₃, ← k₄, ← k₅, ← k₆, ← k₇, ← k₈]

/-- Over the row it was read from, a computed row is written whole. -/
theorem writeChanged_self {r r' : InvestigationRow} (h : SameFixedColumns r r') :
    writeChanged r r' r = r' :=
  writeChanged_over ⟨rfl, rfl, rfl, rfl, rfl, rfl, rfl, rfl⟩ h
    ⟨fun _ => rfl, fun _ => rfl, fun _ => rfl, fun _ => rfl, fun _ => rfl⟩

/-- Nothing changed, nothing written. -/
theorem writeChanged_same (r r' : InvestigationRow) : writeChanged r r r' = r' := by
  simp [writeChanged]

/-- Rewriting what is there leaves it. -/
theorem writeChanged_again (r r' : InvestigationRow) : writeChanged r r' r' = r' := by
  simp [writeChanged]

/-! ## Overlapping requests that still end serially -/

theorem setAction_setAction (r : InvestigationRow) (i : Int) (a b : IncidentAction) :
    (r.setAction i a).setAction i b = r.setAction i b := by
  simp [InvestigationRow.setAction]

theorem approveRow_again {r m : InvestigationRow} {i : Int} (h : approveRow i r = some m) :
    approveRow i m = some m := by
  obtain ⟨a, ha, rfl⟩ := Option.map_eq_some_iff.mp h
  unfold approveRow
  rw [actionAt_setAction ha, Option.map_some, setAction_setAction]

theorem executedWith_twice (a : IncidentAction) (x y : ExecutionResult) :
    (a.executedWith x).executedWith y = a.executedWith y := rfl

/-- A second execution of the same action replaces the result of the first. -/
theorem executeRow_twice (i : Int) (a : IncidentAction) (x y : ExecutionResult)
    (r : InvestigationRow) :
    executeRow i (a.executedWith x) y (executeRow i a x r) = executeRow i a y r := by
  have hs := executeRow_status_ne i a x r
  rw [executeRow, if_neg (by simpa using hs), executedWith_twice]
  unfold executeRow
  dsimp only
  split <;> simp [InvestigationRow.setAction, InvestigationRow.setStatus]

/-- Of two executions of one action, the later one decides. -/
theorem execute_after {i : Int} {cs cs' : List ActionConnector} {r m n : InvestigationRow}
    (hx : (CaseOp.execute i cs).compute r = some m)
    (hy : (CaseOp.execute i cs').compute r = some n) :
    (CaseOp.execute i cs').compute m = some n := by
  obtain ⟨a, x, ha, hp, hex, rfl⟩ := execute_compute.mp hx
  obtain ⟨a', y, ha', _, hey, rfl⟩ := execute_compute.mp hy
  rw [ha, Option.some.injEq] at ha'
  subst ha'
  exact execute_compute.mpr ⟨a.executedWith x, y, actionAt_executeRow ha, hp, hey,
    (executeRow_twice i a x y r).symm⟩

/-- The other columns of two executions from one row agree. -/
theorem execute_columns {i : Int} {cs cs' : List ActionConnector} {r m n : InvestigationRow}
    (hx : (CaseOp.execute i cs).compute r = some m)
    (hy : (CaseOp.execute i cs').compute r = some n) :
    n = { m with payload := n.payload } ∧ m.assignee = r.assignee ∧
      m.acknowledgedAt = r.acknowledgedAt ∧ m.containedAt = r.containedAt := by
  obtain ⟨a, x, ha, _, _, rfl⟩ := execute_compute.mp hx
  obtain ⟨a', y, _, _, _, rfl⟩ := execute_compute.mp hy
  unfold executeRow
  dsimp only
  split <;> exact ⟨rfl, rfl, rfl, rfl⟩

/-- Pairs of requests, the first writer first, that end serially even when they overlap. -/
inductive Compatible (r : InvestigationRow) : CaseOp → CaseOp → Prop
  | left {x : CaseOp} (y : CaseOp) (h : x.compute r = some r) : Compatible r x y
  | right (x : CaseOp) {y : CaseOp} (h : y.compute r = some r) : Compatible r x y
  | approve (i : Int) : Compatible r (.approve i) (.approve i)
  | execute (i : Int) (cs cs' : List ActionConnector) : Compatible r (.execute i cs) (.execute i cs')
  | assign (a b : Option String) (h : r.assignee = r.payload.assignee) :
    Compatible r (.assign a) (.assign b)
  /-- The later move may follow the earlier one. -/
  | moveOn {s s' : DetectionStatus} (now now' : Time) (hs : canTransition s s' = true)
    (h : r.status = r.payload.detection.status.value) :
    Compatible r (.transition s.value now) (.transition s'.value now')
  /-- The earlier move may not follow the later one, and leaves no mark of its own. -/
  | moveOver {s s' : DetectionStatus} (now now' : Time) (hs : canTransition s' s = false)
    (hmark : s = .contained → s' = .contained ∨ r.containedAt ≠ none)
    (h : r.status = r.payload.detection.status.value) :
    Compatible r (.transition s.value now) (.transition s'.value now')

theorem CaseOp.after_of_compute {op : CaseOp} {r m : InvestigationRow} (h : op.compute r = some m) :
    op.after r = m := by
  unfold CaseOp.after
  rw [h]
  rfl

theorem Serial.symm {x y : CaseOp} {r final : InvestigationRow} (h : Serial x y r final) :
    Serial y x r final := Or.symm h

/-! ### Two moves of the status -/

/-- From a status just entered, the lifecycle alone decides. -/
theorem legalTransition_transitionRow {s s' : DetectionStatus} {target : String} {now : Time}
    {r : InvestigationRow} (h : DetectionStatus.ofValue? target = some s') :
    legalTransition target (transitionRow s now r) = .ok s' ↔ canTransition s s' = true := by
  have hs : DetectionStatus.ofValue? (transitionRow s now r).status = some s :=
    DetectionStatus.ofValue?_value s
  rw [legalTransition_ok, hs, h]
  simp

/-- A clock two moves may stamp, only one of them this one: the second stamp goes over the
    first as over a row that has it. -/
theorem stamp_moveOn {P Q : Prop} [Decidable P] [Decidable Q] (h : P → ¬ Q) (old : Option Time)
    (now now' : Time) :
    (if (if Q ∧ old = none then some now' else old) = old then
        if P ∧ old = none then some now else old
      else if Q ∧ old = none then some now' else old) =
      if Q ∧ (if P ∧ old = none then some now else old) = none then some now'
      else if P ∧ old = none then some now else old := by
  by_cases hQ : Q
  · have hP : ¬ P := fun hP => h hP hQ
    cases old <;> simp [hP, hQ]
  · simp [hQ]

/-- The second stamp stands in for the first. -/
theorem stamp_over {P Q : Prop} [Decidable P] [Decidable Q] {old : Option Time} {now now' : Time}
    (h : P → Q ∨ old ≠ none) (hkept : (if Q ∧ old = none then some now' else old) = old) :
    (if P ∧ old = none then some now else old) = old := by
  by_cases hP : P ∧ old = none
  · rcases h hP.1 with hQ | hold
    · rw [if_pos ⟨hQ, hP.2⟩, hP.2] at hkept
      cases hkept
    · exact absurd hP.2 hold
  · rw [if_neg hP]

/-- Every status but `new`, which no move leads to, may go to `investigating`. -/
theorem investigating_of_blocked {current s : DetectionStatus} (h : canTransition current s = true)
    (hs : canTransition s .investigating = false) : s = .investigating := by
  revert h hs
  cases current <;> cases s <;> decide

/-- The target of a legal move is the status it goes to. -/
theorem target_of_legal {s t : DetectionStatus} {r : InvestigationRow}
    (h : legalTransition s.value r = .ok t) : s = t := by
  obtain ⟨_, _, htarget, _⟩ := legalTransition_ok.mp h
  rw [DetectionStatus.ofValue?_value, Option.some.injEq] at htarget
  exact htarget

/-- Where the lifecycle does not allow the other move, it fails after the first. -/
theorem transition_blocked {s s' : DetectionStatus} (hs : canTransition s' s = false)
    (now now' : Time) (r : InvestigationRow) :
    (CaseOp.transition s.value now).compute (transitionRow s' now' r) = none := by
  cases hm : (CaseOp.transition s.value now).compute (transitionRow s' now' r) with
  | none => rfl
  | some m =>
    obtain ⟨t, ht, _⟩ := transition_compute.mp hm
    obtain rfl := target_of_legal ht
    rw [legalTransition_transitionRow (DetectionStatus.ofValue?_value s), hs] at ht
    cases ht

/-- The status and the payload after a move are new, where header and payload agreed. -/
theorem moved {target : String} {s : DetectionStatus} {r : InvestigationRow}
    (h : legalTransition target r = .ok s) (hr : r.status = r.payload.detection.status.value) :
    r.status ≠ s.value ∧ r.payload.detection.status ≠ s := by
  obtain ⟨current, hcurrent, _, hallowed⟩ := legalTransition_ok.mp h
  have hp : r.payload.detection.status = current := by
    rw [hr, DetectionStatus.ofValue?_value, Option.some.injEq] at hcurrent
    exact hcurrent
  have hne : r.payload.detection.status ≠ s := by
    rintro rfl
    rw [hp, canTransition_self] at hallowed
    cases hallowed
  refine ⟨fun he => hne ?_, hne⟩
  rw [hr] at he
  have hv := congrArg DetectionStatus.ofValue? he
  rw [DetectionStatus.ofValue?_value, DetectionStatus.ofValue?_value, Option.some.injEq] at hv
  exact hv

/-- A later move goes over an earlier one as over a row that made it. -/
theorem writeChanged_moveOn {s s' : DetectionStatus} (hne : s ≠ s') (now now' : Time)
    {r : InvestigationRow} (hr : r.status ≠ s'.value) (hp : r.payload.detection.status ≠ s') :
    writeChanged r (transitionRow s' now' r) (transitionRow s now r) =
      transitionRow s' now' (transitionRow s now r) := by
  have hpayload : (transitionRow s' now' r).payload ≠ r.payload := fun he =>
    hp (congrArg (fun inv => inv.detection.status) he).symm
  have hstatus : (transitionRow s' now' r).status ≠ r.status := fun he => hr he.symm
  unfold writeChanged
  rw [if_neg hstatus, if_neg hpayload]
  unfold transitionRow InvestigationRow.setStatus
  dsimp only
  rw [stamp_moveOn (fun h h' => hne (h.trans h'.symm)),
    stamp_moveOn (fun h h' => hne (h.trans h'.symm))]
  simp only [ite_self]

/-! ### Pair by pair -/

section

variable {r m n final : InvestigationRow} {x y : CaseOp}

/-- The second request on the row the first one leaves. -/
theorem Serial.of_second (hx : x.compute r = some m) (h : y.after m = final) :
    Serial x y r final := by
  unfold Serial
  rw [CaseOp.after_of_compute hx]
  exact Or.inl h.symm

theorem Serial.of_first (hy : y.compute r = some n) (h : x.after n = final) :
    Serial x y r final := (Serial.of_second hy h).symm

/-- Of two executions of one action the later one stands, or the first if the second changed
    no payload. -/
theorem serial_execute {i : Int} {cs cs' : List ActionConnector}
    (hx : (CaseOp.execute i cs).compute r = some m)
    (hy : (CaseOp.execute i cs').compute r = some n) :
    Serial (.execute i cs) (.execute i cs') r (writeChanged r n m) := by
  obtain ⟨hn, h₁, h₂, h₃⟩ := execute_columns hx hy
  by_cases hp : n.payload = r.payload
  · refine Serial.of_first hy ?_
    rw [CaseOp.after_of_compute (execute_after hy hx)]
    rw [writeChanged, if_pos hp, hn]
    simp only [h₁, h₂, h₃, ite_self]
    rw [← h₁, ← h₂, ← h₃]
  · refine Serial.of_second hx ?_
    rw [CaseOp.after_of_compute (execute_after hx hy)]
    rw [writeChanged, if_neg hp, hn]
    simp only [h₁, h₂, h₃, ite_self]

/-- So of two assignments, where header and payload agreed. -/
theorem serial_assign {a b : Option String} (h : r.assignee = r.payload.assignee)
    (hx : (CaseOp.assign a).compute r = some m) (hy : (CaseOp.assign b).compute r = some n) :
    Serial (.assign a) (.assign b) r (writeChanged r n m) := by
  cases hx
  cases hy
  by_cases hb : b = r.assignee
  · right
    have hp : (setAssigneeRow b r).payload = r.payload := by
      simp only [setAssigneeRow, hb, h]
    rw [writeChanged, if_pos hp]
    simp [CaseOp.after, CaseOp.compute, setAssigneeRow, hb]
  · left
    have hp : (setAssigneeRow b r).payload ≠ r.payload := by
      intro he
      have := congrArg Investigation.assignee he
      exact hb (this.trans h.symm)
    rw [writeChanged, if_neg hp]
    simp [CaseOp.after, CaseOp.compute, setAssigneeRow, hb]

variable {s s' : DetectionStatus} {now now' : Time}

/-- A move that may follow the other one comes last. -/
theorem serial_moveOn (hss : canTransition s s' = true)
    (hr : r.status = r.payload.detection.status.value)
    (hx : (CaseOp.transition s.value now).compute r = some m)
    (hy : (CaseOp.transition s'.value now').compute r = some n) :
    Serial (.transition s.value now) (.transition s'.value now') r (writeChanged r n m) := by
  refine Serial.of_second hx ?_
  obtain ⟨t, ht, rfl⟩ := transition_compute.mp hx
  obtain ⟨t', ht', rfl⟩ := transition_compute.mp hy
  obtain rfl := target_of_legal ht
  obtain rfl := target_of_legal ht'
  obtain ⟨hstatus, hp⟩ := moved ht' hr
  have hne : s ≠ s' := by
    rintro rfl
    rw [canTransition_self] at hss
    cases hss
  have hnext : (CaseOp.transition s'.value now').compute (transitionRow s now r) =
      some (transitionRow s' now' (transitionRow s now r)) :=
    transition_compute.mpr
      ⟨s', (legalTransition_transitionRow (DetectionStatus.ofValue?_value s')).mpr hss, rfl⟩
  rw [writeChanged_moveOn hne now now' hstatus hp]
  exact CaseOp.after_of_compute hnext

/-- A move that may not follow the other one fails after it. -/
theorem serial_moveOver (hss : canTransition s' s = false)
    (hmark : s = .contained → s' = .contained ∨ r.containedAt ≠ none)
    (hr : r.status = r.payload.detection.status.value)
    (hx : (CaseOp.transition s.value now).compute r = some m)
    (hy : (CaseOp.transition s'.value now').compute r = some n) :
    Serial (.transition s.value now) (.transition s'.value now') r (writeChanged r n m) := by
  refine Serial.of_first hy ?_
  obtain ⟨t, ht, rfl⟩ := transition_compute.mp hx
  obtain ⟨t', ht', rfl⟩ := transition_compute.mp hy
  obtain rfl := target_of_legal ht
  obtain rfl := target_of_legal ht'
  obtain ⟨hstatus, hp⟩ := moved ht' hr
  obtain ⟨_, _, _, hallowed⟩ := legalTransition_ok.mp ht'
  have hover : Overwrites r (transitionRow s now r) (transitionRow s' now' r) := by
    refine ⟨fun he => absurd he.symm hstatus, fun _ => rfl, stamp_over fun h => ?_,
      stamp_over hmark,
      fun he => absurd (congrArg (fun inv => inv.detection.status) he).symm hp⟩
    subst h
    exact Or.inl (investigating_of_blocked hallowed hss)
  rw [writeChanged_over (compute_fixed hx) (compute_fixed hy) hover]
  unfold CaseOp.after
  rw [transition_blocked hss]
  rfl

/-- The last writer's changes over the first's, for compatible requests. -/
theorem Compatible.serial (hc : Compatible r x y) (hx : x.compute r = some m)
    (hy : y.compute r = some n) : Serial x y r (writeChanged r n m) := by
  cases hc with
  | left y h =>
    rw [h, Option.some.injEq] at hx
    subst hx
    rw [writeChanged_self (compute_fixed hy)]
    exact Serial.of_second h (CaseOp.after_of_compute hy)
  | right x h =>
    rw [h, Option.some.injEq] at hy
    subst hy
    rw [writeChanged_same]
    exact Serial.of_first h (CaseOp.after_of_compute hx)
  | approve i =>
    rw [hx, Option.some.injEq] at hy
    subst hy
    rw [writeChanged_again]
    have happ : (CaseOp.approve i).compute m = some m := approveRow_again hx
    exact Serial.of_second hx (CaseOp.after_of_compute happ)
  | execute i cs cs' => exact serial_execute hx hy
  | assign a b h => exact serial_assign h hx hy
  | moveOn now now' hss hr => exact serial_moveOn hss hr hx hy
  | moveOver now now' hss hmark hr => exact serial_moveOver hss hmark hr hx hy

end

/-! ## Every interleaving -/

/-- The two requests as transactions on the row. -/
def runPair (x y : CaseOp) (row : InvestigationRow) (steps : List Rmw) :
    Option (Shared InvestigationRow) :=
  rmwRun (fun k => (pick x y k).compute) writeChanged (.start row) steps

theorem serial_pick {x y : CaseOp} {k : Bool} {r final : InvestigationRow}
    (h : Serial (pick x y k) (pick x y (!k)) r final) : Serial x y r final := by
  cases k with
  | false => exact h
  | true => exact h.symm

/-- In every interleaving in which both requests succeed, let `m` be the row the first
    writer computed. Without overlap the second computes the final row from `m`. With
    overlap it computes from the row both read, and its changed columns go over `m`. The
    outcome is serial without overlap, and with overlap for compatible requests. -/
theorem interleaved_requests (x y : CaseOp) (row : InvestigationRow) (steps : List Rmw)
    (hsteps : steps ∈ interleavings (txn false) (txn true)) (s : Shared InvestigationRow)
    (hrun : runPair x y row steps = some s) :
    ∃ k m, firstWriter steps = some k ∧ (pick x y k).compute row = some m ∧
      (overlaps steps = false → (pick x y (!k)).compute m = some s.row) ∧
      (overlaps steps = true →
        ∃ n, (pick x y (!k)).compute row = some n ∧ s.row = writeChanged row n m) ∧
      (overlaps steps = false ∨ Compatible row (pick x y k) (pick x y (!k)) →
        Serial x y row s.row) := by
  obtain ⟨k, m, hk, hm, hser, hover⟩ := interleaving_cases
    (fun k r n h => writeChanged_self (compute_fixed h)) hsteps hrun
  refine ⟨k, m, hk, hm, hser, hover, fun h => serial_pick (k := k) ?_⟩
  cases ho : overlaps steps with
  | false =>
    left
    rw [CaseOp.after_of_compute hm, CaseOp.after_of_compute (hser ho)]
  | true =>
    rcases h with h | h
    · rw [ho] at h
      cases h
    · obtain ⟨n, hn, hrow⟩ := hover ho
      rw [hrow]
      exact h.serial hm hn

/-- A case with two planned actions that wait for approval. -/
def pendingCase : InvestigationRow :=
  openCase [{ actionType := "isolate_host", target := "ws-finance-07", rationale := "" },
    { actionType := "disable_user", target := "ws-finance-07", rationale := "" }]

/-- An approval and then an assignment, one after the other. -/
theorem interleaved_requests_in_turn :
    Serial (.approve 0) (.assign (some "alice")) pendingCase
      (CaseOp.after (.assign (some "alice")) (CaseOp.after (.approve 0) pendingCase)) := by
  obtain ⟨_, _, _, _, _, _, hserial⟩ := interleaved_requests (.approve 0) (.assign (some "alice"))
    pendingCase [.read false, .write false, .read true, .write true]
    (by rw [interleavings_txn]; exact List.mem_cons_self ..) ⟨_, _⟩ rfl
  exact hserial (Or.inl rfl)

/-- Two overlapping approvals of different actions: one is lost. -/
theorem overlapping_approvals :
    ¬ ∀ (x y : CaseOp) (row : InvestigationRow) (steps : List Rmw),
      steps ∈ interleavings (txn false) (txn true) →
      ∀ s : Shared InvestigationRow, runPair x y row steps = some s → Serial x y row s.row := by
  intro h
  have hs := h (.approve 0) (.approve 1) pendingCase
    [.read false, .read true, .write false, .write true]
    (by rw [interleavings_txn]; simp) ⟨_, _⟩ rfl
  -- serially both actions are approved, here only the second
  have hpending : ∀ final, Serial (.approve 0) (.approve 1) pendingCase final →
      final.payload.actions.map IncidentAction.requiresApproval = [false, false] := by
    rintro final (rfl | rfl) <;> decide
  exact absurd (hpending _ hs) (by decide)

end SentinelAI
