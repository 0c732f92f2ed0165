import SentinelAI.Security.AuditCoverage

/-
  What a refused request has done by the time it is refused.

  A route checks first and acts then: its checks keep the session (`Refuses.check`), and
  once it has acted nothing in it refuses (`Avoids`). Between the two stand the
  statements that load a row and change it, which have changed nothing when they find none
  (`Refuses.lookup`).
-/

namespace SentinelAI

open Lib

/-! ## Refusals -/

/-- An `HTTPException`: the answer of a route that refuses. -/
def Refusal : Exc → Prop
  | .http _ _ => True
  | _ => False

/-- Webhooks raise exceptions of their own, not answers. -/
def QuietChannels (env : Env) : Prop :=
  ∀ send, NotificationChannel.webhook send ∈ env.channels → ∀ n ex, send n = .error ex → ¬ Refusal ex

/-- So do clients, models and connectors. -/
structure NoRefusals (env : Env) : Prop where
  search : ∀ client k spl earliest latest ex,
    env.search client k spl earliest latest = .error ex → ¬ Refusal ex
  complete : ∀ model k system user ex, env.complete model k system user = .error ex → ¬ Refusal ex
  connectors : ∀ c ∈ env.connectors, ∀ actionType target ex,
    c.execute actionType target = .error ex → ¬ Refusal ex
  channels : QuietChannels env

section

variable {α β : Type}

/-- A statement that returns. -/
theorem avoids_of_ok {m : ApiM α} (h : ∀ s, ∃ a t, m.run s = .ok a t) : Avoids Refusal m := by
  intro s e t hrun
  obtain ⟨a, u, hok⟩ := h s
  cases hok.symm.trans hrun

@[grind ←] theorem get_avoids : Avoids Refusal (get : ApiM Session) :=
  avoids_of_ok fun _ => ⟨_, _, rfl⟩

@[grind ←] theorem modify_avoids (f : Session → Session) :
    Avoids Refusal (modify f : ApiM PUnit) := avoids_of_ok fun _ => ⟨_, _, rfl⟩

@[grind ←] theorem readClock_avoids (env : Env) : Avoids Refusal (readClock env) :=
  avoids_of_ok fun _ => ⟨_, _, rfl⟩

@[grind ←] theorem uuidHex_avoids (env : Env) : Avoids Refusal (uuidHex env) :=
  avoids_of_ok fun _ => ⟨_, _, rfl⟩

@[grind ←] theorem signToken_avoids (t : Token) : Avoids Refusal (signToken t) :=
  avoids_of_ok fun _ => ⟨_, _, rfl⟩

theorem raiseIf_avoids (c : Bool) {e : Exc} (h : ¬ Refusal e) : Avoids Refusal (raiseIf c e) := by
  cases c with
  | false => exact Avoids.pure ()
  | true => exact Avoids.throw h

theorem orRaise_avoids {e : Exc} (h : ¬ Refusal e) (o : Option α) :
    Avoids Refusal (orRaise e o) := by
  cases o with
  | none => exact Avoids.throw h
  | some a => exact Avoids.pure a

theorem ofExcept_avoids {x : Except Exc α} (h : ∀ ex, x = .error ex → ¬ Refusal ex) :
    Avoids Refusal (ofExcept x) := by
  cases x with
  | ok a => exact Avoids.pure a
  | error e => exact Avoids.throw (h e rfl)

/-- What an attempt hands back is what was raised. -/
theorem attempt_bind_avoids {m : ApiM α} {f : Except Exc α → ApiM β} (hm : Avoids Refusal m)
    (hok : ∀ a, Avoids Refusal (f (.ok a)))
    (herror : ∀ e, ¬ Refusal e → Avoids Refusal (f (.error e))) :
    Avoids Refusal (attempt m >>= f) := by
  intro s e t hrun
  rw [EStateM.run_bind, attempt_run] at hrun
  cases hm' : m.run s with
  | ok a u =>
    rw [hm'] at hrun
    exact hok a u e t hrun
  | error e' u =>
    rw [hm'] at hrun
    exact herror e' (hm s e' u hm') u e t hrun

end

section

variable {ρ : Type} [Keyed ρ String] {T : TableRef (KeyedTable ρ)}

@[grind ←] theorem selectAll_avoids (p : ρ → Bool) : Avoids Refusal (selectAll T p) :=
  avoids_of_ok fun _ => ⟨_, _, rfl⟩

@[grind ←] theorem selectOne_avoids (p : ρ → Bool) : Avoids Refusal (selectOne T p) := by
  refine Avoids.bind (selectAll_avoids p) fun rows => ?_
  match rows with
  | [] => exact Avoids.pure none
  | [r] => exact Avoids.pure (some r)
  | _ :: _ :: _ => exact Avoids.throw id

@[grind ←] theorem sessionGet_avoids (k : String) : Avoids Refusal (sessionGet T k) :=
  avoids_of_ok fun _ => ⟨_, _, rfl⟩

@[grind ←] theorem insertRow_avoids (row : ρ) : Avoids Refusal (insertRow T row) := by
  intro s e t hrun
  obtain ⟨u, _, hok⟩ | ⟨_, herror⟩ := insertRow_cases T row s
  · cases hok.symm.trans hrun
  · cases herror.symm.trans hrun
    exact id

@[grind ←] theorem updateRow_avoids (k : String) (f : ρ → ρ)
    (hf : ∀ r, Keyed.key (f r) = Keyed.key r) : Avoids Refusal (updateRow T k f hf) :=
  avoids_of_ok fun _ => ⟨_, _, rfl⟩

@[grind ←] theorem deleteRow_avoids (k : String) : Avoids Refusal (deleteRow T k) :=
  avoids_of_ok fun _ => ⟨_, _, rfl⟩

end

section

variable (rt : Runtime) (env : Env)

@[grind ←] theorem AuditService.recordEntry_avoids (e : AuditEntry) :
    Avoids Refusal (AuditService.recordEntry rt env e) :=
  avoids_of_ok fun s => ⟨_, _, AuditService.recordEntry_run rt env e s⟩

@[grind ←] theorem MeteringService.record_avoids (tenantId kind : String) (quantity : Int)
    (detail : String) :
    Avoids Refusal (MeteringService.record rt env tenantId kind quantity detail) := by
  refine avoids_of_ok fun s => ?_
  unfold MeteringService.record
  split
  · exact ⟨_, _, rfl⟩
  · exact ⟨_, _, rfl⟩

@[grind ←] theorem UserRepository.create_avoids (t u p r : String) (x : Option String) :
    Avoids Refusal (UserRepository.create env t u p r x) := by
  grind [UserRepository.create]

@[grind ←] theorem TenantRepository.create_avoids (n s p : String) :
    Avoids Refusal (TenantRepository.create env n s p) := by
  have hfree : Avoids Refusal (TenantRepository.checkNameFree n) :=
    Avoids.bind (selectAll_avoids _) fun taken => raiseIf_avoids _ id
  grind [TenantRepository.create]

@[grind ←] theorem TenantRepository.update_avoids (t : String) (f : TenantRow → TenantRow)
    (hf : ∀ r, (f r).id = r.id) : Avoids Refusal (TenantRepository.update t f hf) := by
  grind [TenantRepository.update, TenantRepository.get]

@[grind ←] theorem UserRepository.update_avoids (t u : String) (f : UserRow → UserRow)
    (hf : ∀ r, (f r).id = r.id) : Avoids Refusal (UserRepository.update t u f hf) := by
  grind [UserRepository.update, UserRepository.get]

@[grind ←] theorem UserRepository.delete_avoids (t u : String) :
    Avoids Refusal (UserRepository.delete t u) := by
  grind [UserRepository.delete, UserRepository.get]

@[grind ←] theorem UserRepository.list_avoids (t : String) :
    Avoids Refusal (UserRepository.list t) := by
  grind [UserRepository.list]

@[grind ←] theorem InvestigationRepository.getRow_avoids (t invId : String) :
    Avoids Refusal (InvestigationRepository.getRow t invId) := selectOne_avoids _

@[grind ←] theorem InvestigationRepository.flush_avoids (row : InvestigationRow) :
    Avoids Refusal (InvestigationRepository.flush row) := updateRow_avoids _ _ _

@[grind ←] theorem InvestigationRepository.save_avoids (t : String) (inv : Investigation) :
    Avoids Refusal (InvestigationRepository.save env t inv) := by
  grind [InvestigationRepository.save]

@[grind ←] theorem InvestigationRepository.list_avoids (t : String) (s v a : Option String)
    (n k : Nat) : Avoids Refusal (InvestigationRepository.list t s v a n k) := by
  grind [InvestigationRepository.list]

@[grind ←] theorem InvestigationRepository.approveAction_avoids (t invId : String) (i : Int) :
    Avoids Refusal (InvestigationRepository.approveAction t invId i) := by
  grind [InvestigationRepository.approveAction]

@[grind ←] theorem InvestigationRepository.setAssignee_avoids (t invId : String)
    (assignee : Option String) :
    Avoids Refusal (InvestigationRepository.setAssignee t invId assignee) := by
  grind [InvestigationRepository.setAssignee]

@[grind ←] theorem InvestigationRepository.addNote_avoids (t invId author body : String) :
    Avoids Refusal (InvestigationRepository.addNote env t invId author body) := by
  grind [InvestigationRepository.addNote]

@[grind ←] theorem CaseWorkflowMixin.transitionStatus_avoids (t invId target : String) :
    Avoids Refusal (CaseWorkflowMixin.transitionStatus env t invId target) := by
  unfold CaseWorkflowMixin.transitionStatus
  refine (InvestigationRepository.getRow_avoids t invId).bind fun row => ?_
  cases row with
  | none => exact Avoids.pure (Except.error CaseError.notFound)
  | some row =>
    dsimp only
    cases legalTransition target row with
    | error e => exact Avoids.pure (Except.error e)
    | ok status => grind

@[grind ←] theorem IncidentRepository.replaceAll_avoids (t : String) (incidents : List Incident) :
    Avoids Refusal (IncidentRepository.replaceAll env t incidents) := by
  grind [IncidentRepository.replaceAll, IncidentRepository.add]

@[grind ←] theorem RuleStateRepository.setEnabled_avoids (t r : String) (b : Bool) :
    Avoids Refusal (RuleStateRepository.setEnabled env t r b) := by
  grind [RuleStateRepository.setEnabled]

@[grind ←] theorem TokenRepository.revoke_avoids (t jti : String) :
    Avoids Refusal (TokenRepository.revoke env t jti) := by
  grind [TokenRepository.revoke]

@[grind ←] theorem CredentialRepository.upsert_avoids (t : String) (u : UpdateCredentials) :
    Avoids Refusal (CredentialRepository.upsert env t u) := by
  grind [CredentialRepository.upsert, CredentialRepository.getRow]

@[grind ←] theorem CredentialRepository.view_avoids (t : String) :
    Avoids Refusal (CredentialRepository.view t) := by
  grind [CredentialRepository.view, CredentialRepository.getRow]

@[grind ←] theorem issueToken_avoids (p : Principal) : Avoids Refusal (issueToken rt env p) := by
  grind [issueToken]

end

/-! ## What acts on the world -/

section

variable (rt : Runtime) {env : Env} (henv : NoRefusals env)

include henv

theorem ActionExecutor.execute_avoids (actionType target : String) :
    Avoids Refusal (ActionExecutor.execute env actionType target) := by
  refine Avoids.bind (modify_avoids _) fun _ => ofExcept_avoids fun ex h => ?_
  unfold executorResult at h
  cases hc : supportingConnector env.connectors actionType with
  | none =>
    rw [hc] at h
    cases h
  | some c =>
    rw [hc] at h
    exact henv.connectors c (List.mem_of_find?_eq_some hc) actionType target ex h

omit henv in
theorem NotificationService.notify_avoids (hchannels : QuietChannels env) (n : Notification) :
    Avoids Refusal (NotificationService.notify env n) := by
  have hall : ∀ cs : List NotificationChannel, (∀ c ∈ cs, c ∈ env.channels) →
      Avoids Refusal (cs.mapM (NotificationChannel.deliver n)) := by
    intro cs hcs
    induction cs with
    | nil =>
      rw [List.mapM_nil]
      exact Avoids.pure []
    | cons c cs ih =>
      obtain ⟨hc, hcs⟩ := List.forall_mem_cons.mp hcs
      rw [List.mapM_cons]
      refine Avoids.bind ?_ fun b => (ih hcs).bind fun bs => Avoids.pure (b :: bs)
      cases c with
      | capture => exact Avoids.bind (modify_avoids _) fun _ => Avoids.pure true
      | webhook send => exact ofExcept_avoids (hchannels send hc n)
  exact (hall env.channels fun _ h => h).bind fun accepted => Avoids.pure _

theorem SplunkClient.search_avoids (client : SplunkClient) (spl a b : String) :
    Avoids Refusal (client.search env spl a b) := by
  refine get_avoids.bind fun s => (modify_avoids _).bind fun _ => ofExcept_avoids ?_
  exact henv.search client _ spl a b

theorem AIModel.complete_avoids (model : AIModel) (sys user : String) :
    Avoids Refusal (model.complete env sys user) := by
  refine get_avoids.bind fun s => (modify_avoids _).bind fun _ => ofExcept_avoids ?_
  exact henv.complete model _ sys user

omit henv in
theorem retryLoop_avoids {α : Type} {func : ApiM α} (hfunc : Avoids Refusal func) (d : ℚ)
    (p : Exc → Bool) (k left : Nat) : Avoids Refusal (retryLoop env func d p k left) := by
  have hfail : Avoids Refusal (breakerFailure env) := by
    unfold breakerFailure
    refine get_avoids.bind fun s => Avoids.ite ?_ (modify_avoids _)
    exact (readClock_avoids env).bind fun now => modify_avoids _
  have hdone : ∀ a : α, Avoids Refusal (do breakerSuccess; return a : ApiM α) := fun a =>
    (modify_avoids _).bind fun _ => Avoids.pure a
  induction left generalizing k with
  | zero =>
    unfold retryLoop
    refine attempt_bind_avoids hfunc hdone fun e he => ?_
    exact Avoids.ite (Avoids.throw he) (hfail.bind fun _ => Avoids.throw he)
  | succ left ih =>
    unfold retryLoop
    refine attempt_bind_avoids hfunc hdone fun e he => ?_
    refine Avoids.ite (Avoids.throw he) (hfail.bind fun _ => ?_)
    exact (modify_avoids _).bind fun _ => ih (k + 1)

theorem DetectionAgent.runRule_avoids (splunk : SplunkClient) (disabled : List String)
    (rule : DetectionRule) :
    Avoids Refusal (DetectionAgent.runRule env splunk disabled rule) := by
  have hopen : Avoids Refusal (breakerIsOpen env) := by
    grind [breakerIsOpen]
  unfold DetectionAgent.runRule withRetry
  refine Avoids.ite (Avoids.pure none) (Avoids.bind ?_ fun result => ?_)
  · refine hopen.bind fun b => Avoids.ite (Avoids.throw id) ?_
    exact retryLoop_avoids (SplunkClient.search_avoids henv splunk _ _ _) _ _ _ _
  · grind [DetectionAgent.detectionOf]

theorem Orchestrator.runDetections_avoids (orch : Orchestrator) (disabled : List String) :
    Avoids Refusal (orch.runDetections env disabled) :=
  (Avoids.mapM (DetectionAgent.runRule_avoids henv orch.splunk disabled) _).bind fun _ =>
    Avoids.pure _

omit henv in
/-- What the verdict's fields raise are Python's own exceptions. -/
theorem TriageAgent.verdictOf_error {d : Detection} {data : List (String × JsonValue)} {ex : Exc}
    (h : TriageAgent.verdictOf rt d data = .error ex) : ¬ Refusal ex := by
  have hfloat : ∀ v ex, pyFloat rt v = .error ex → ¬ Refusal ex := by
    intro v ex hv
    unfold pyFloat at hv
    split at hv <;> try split at hv
    all_goals cases hv
    all_goals exact id
  have hitems : ∀ v ex, pyItems v = .error ex → ¬ Refusal ex := by
    intro v ex hv
    unfold pyItems at hv
    split at hv
    all_goals cases hv
    all_goals exact id
  unfold TriageAgent.verdictOf at h
  cases hc : pyFloat rt ((dictGet data "confidence").getD (.int 0)) with
  | error e =>
    rw [hc] at h
    cases h
    exact hfloat _ _ hc
  | ok c =>
    rw [hc] at h
    cases ha : pyItems ((dictGet data "suggested_actions").getD (.arr [])) with
    | error e =>
      simp only [bind, Except.bind, ha] at h
      cases h
      exact hitems _ _ ha
    | ok actions =>
      simp only [bind, Except.bind, ha] at h
      cases h

theorem TriageAgent.triage_avoids (model : AIModel) (d : Detection) :
    Avoids Refusal (TriageAgent.triage rt env model d) := by
  have hjson : Avoids Refusal (TriageAgent.completeJson rt env model TriageAgent.system
      (TriageAgent.prompt d)) := by
    refine (AIModel.complete_avoids henv model _ _).bind fun text => ?_
    cases rt.jsonLoads text with
    | ok v => exact Avoids.pure v
    | error name =>
      refine Avoids.throw ?_
      unfold TriageAgent.loadsFailure
      split <;> exact id
  unfold TriageAgent.triage
  refine attempt_bind_avoids hjson (fun v => ?_) fun e he => ?_
  · cases v with
    | obj data => exact ofExcept_avoids fun ex h => TriageAgent.verdictOf_error rt h
    | _ => exact Avoids.throw id
  · cases e with
    | aiModel m => exact Avoids.pure _
    | _ => exact Avoids.throw he

theorem Orchestrator.runFullPipeline_avoids (orch : Orchestrator) (disabled : List String) :
    Avoids Refusal (orch.runFullPipeline rt env disabled) := by
  refine (Orchestrator.runDetections_avoids henv orch disabled).bind fun ds => ?_
  refine Avoids.mapM (fun d => ?_) ds
  refine (TriageAgent.triage_avoids rt henv orch.model _).bind fun verdict => ?_
  refine (AIModel.complete_avoids henv orch.model _ _).bind fun summary => ?_
  grind

omit henv in
theorem correlate_avoids (investigations : List Investigation) :
    Avoids Refusal (correlate env investigations) := by
  unfold correlate
  refine (Avoids.mapM (fun g => ?_) _).bind fun _ => Avoids.pure _
  cases g.members with
  | nil => exact Avoids.pure none
  | cons first rest => grind [incidentOf]

omit henv in
theorem Routes.afterPipeline_avoids (hchannels : QuietChannels env) (p : Principal) (n : Int)
    (invs : List Investigation) : Avoids Refusal (Routes.afterPipeline rt env p n invs) := by
  have hsave : ∀ inv, Avoids Refusal (Routes.saveInvestigation rt env p inv) := by
    intro inv
    grind [Routes.saveInvestigation]
  have hmodel : Avoids Refusal (Routes.meterModelCalls rt env p.tenantId invs) := by
    grind [Routes.meterModelCalls]
  refine Avoids.bind (MeteringService.record_avoids rt env _ _ _ _) fun _ => ?_
  refine hmodel.bind fun _ => (Avoids.forM hsave invs).bind fun _ => ?_
  refine Avoids.bind (InvestigationRepository.list_avoids _ _ _ _ _ _) fun page => ?_
  refine (correlate_avoids _).bind fun correlated => ?_
  refine Avoids.bind (IncidentRepository.replaceAll_avoids env _ _) fun _ => ?_
  refine (Avoids.forM (fun inc => ?_) _).bind fun _ => Avoids.pure _
  unfold NotificationService.maybeAlertHighRisk
  split
  · exact (Avoids.pure _).bind fun _ => Avoids.pure _
  · exact (NotificationService.notify_avoids hchannels _).bind fun _ => Avoids.pure _

theorem Routes.afterExecution_avoids (p : Principal) (invId : String) (i : Int)
    (executed : IncidentAction) :
    Avoids Refusal (Routes.afterExecution rt env p invId i executed) := by
  refine Avoids.bind (MeteringService.record_avoids rt env _ _ _ _) fun _ => ?_
  refine Avoids.bind (AuditService.recordEntry_avoids rt env _) fun _ => ?_
  exact (NotificationService.notify_avoids henv.channels _).bind fun _ => Avoids.pure _

end

/-! ## What changes nothing when it finds nothing -/

theorem selectOne_keeps {ρ : Type} [Keyed ρ String] {T : TableRef (KeyedTable ρ)} {p : ρ → Bool}
    (s : Session) (o : Option ρ) (t : Session) (h : (selectOne T p).run s = .ok o t) : t = s :=
  (selectOne_eq_ok.mp h).2

theorem sessionGet_keeps {ρ : Type} [Keyed ρ String] {T : TableRef (KeyedTable ρ)} {k : String}
    (s : Session) (o : Option ρ) (t : Session) (h : (sessionGet T k).run s = .ok o t) : t = s := by
  cases h
  rfl

/-- An operation that ends by returning a value without `Q`. -/
theorem keepsIf_of_return {α β : Type} {Q : β → Prop} {m : ApiM α} {b : β} (hb : ¬ Q b) :
    KeepsIf Q (m >>= fun _ => pure b) :=
  KeepsIf.of_yields (Yields.bind_any fun _ => Yields.pure hb)

section

variable {t : String}

theorem TenantRepository.update_keeps (f : TenantRow → TenantRow) (hf : ∀ r, (f r).id = r.id) :
    KeepsIf (· = none) (TenantRepository.update t f hf) := by
  refine KeepsIf.bind sessionGet_keeps fun tenant => ?_
  cases tenant with
  | none => exact KeepsIf.pure none
  | some tenant => exact keepsIf_of_return (by simp)

theorem UserRepository.update_keeps (u : String) (f : UserRow → UserRow)
    (hf : ∀ r, (f r).id = r.id) : KeepsIf (· = none) (UserRepository.update t u f hf) := by
  refine KeepsIf.bind selectOne_keeps fun user => ?_
  cases user with
  | none => exact KeepsIf.pure none
  | some user => exact keepsIf_of_return (by simp)

theorem UserRepository.delete_keeps (u : String) :
    KeepsIf (· = false) (UserRepository.delete t u) := by
  refine KeepsIf.bind selectOne_keeps fun user => ?_
  cases user with
  | none => exact KeepsIf.pure false
  | some user => exact keepsIf_of_return (by simp)

namespace InvestigationRepository

variable {invId : String}

theorem approveAction_keeps (i : Int) : KeepsIf (· = none) (approveAction t invId i) := by
  refine KeepsIf.bind selectOne_keeps fun row => ?_
  cases row with
  | none => exact KeepsIf.pure none
  | some row =>
    dsimp only
    cases approveRow i row with
    | none => exact KeepsIf.pure none
    | some row' => exact keepsIf_of_return (by simp)

theorem setAssignee_keeps (assignee : Option String) :
    KeepsIf (· = none) (setAssignee t invId assignee) := by
  refine KeepsIf.bind selectOne_keeps fun row => ?_
  cases row with
  | none => exact KeepsIf.pure none
  | some row => exact keepsIf_of_return (by simp)

theorem addNote_keeps (env : Env) (author body : String) :
    KeepsIf (· = none) (addNote env t invId author body) := by
  refine KeepsIf.bind selectOne_keeps fun row => ?_
  cases row with
  | none => exact KeepsIf.pure none
  | some row =>
    refine KeepsIf.of_yields (Yields.bind_any fun _ => Yields.bind_any fun _ => ?_)
    exact Yields.bind_any fun _ => Yields.pure (by simp)

theorem executeAction_keeps (env : Env) (i : Int) :
    KeepsIf (fun r => ∃ e, r = .error e) (executeAction env t invId i) := by
  refine KeepsIf.bind selectOne_keeps fun row => ?_
  cases row with
  | none => exact KeepsIf.pure _
  | some row =>
    dsimp only
    cases executableAction i row with
    | error e => exact KeepsIf.pure _
    | ok action =>
      refine KeepsIf.of_yields (Yields.bind_any fun _ => ?_)
      exact Yields.bind_any fun _ => Yields.pure (by simp)

end InvestigationRepository

theorem CaseWorkflowMixin.transitionStatus_keeps (env : Env) (invId target : String) :
    KeepsIf (fun r => ∃ e, r = .error e)
      (CaseWorkflowMixin.transitionStatus env t invId target) := by
  refine KeepsIf.bind selectOne_keeps fun row => ?_
  cases row with
  | none => exact KeepsIf.pure _
  | some row =>
    dsimp only
    cases legalTransition target row with
    | error e => exact KeepsIf.pure _
    | ok status =>
      refine KeepsIf.of_yields (Yields.bind_any fun _ => ?_)
      exact Yields.bind_any fun _ => Yields.pure (by simp)

end

/-! ## Route by route -/

/-- A request that is refused has changed no resource. -/
abbrev Refuses {α : Type} (m : ApiM α) : Prop := Raising Refusal (Outside ([] : List Resource)) m

namespace Refuses

variable {α β : Type}

/-- A check, which keeps the session. -/
theorem check {x : ApiM α} {f : α → ApiM β} (hx : Touches ([] : List Resource) x)
    (hf : ∀ a, Refuses (f a)) : Refuses (x >>= f) := Raising.bind_kept hx.moves hf

/-- A route that only reads. -/
theorem read {m : ApiM α} (h : Touches ([] : List Resource) m) : Refuses m := h.moves.raising _

/-- What acts, once nothing in it is refused. -/
theorem act {m : ApiM α} (h : Avoids Refusal m) : Refuses m := h.raising _

/-- A step that has kept the session where the rest may still refuse. -/
theorem found {x : ApiM α} {f : α → ApiM β} {Q : α → Prop} (hx : Avoids Refusal x)
    (hkeeps : KeepsIf Q x) (hrefuse : ∀ a, Q a → Refuses (f a))
    (hact : ∀ a, ¬ Q a → Avoids Refusal (f a)) : Refuses (x >>= f) := by
  refine Raising.bind (hx.raising _) fun s a t hrun => ?_
  by_cases hQ : Q a
  · refine Or.inl ⟨?_, hrefuse a hQ⟩
    rw [hkeeps s a t hrun hQ]
    exact refl_of _ s
  · exact Or.inr (hact a hQ)

/-- A row looked up and changed, or a 404. -/
theorem lookup {x : ApiM (Option α)} {e : Exc} {k : α → ApiM β} (hx : Avoids Refusal x)
    (hkeeps : KeepsIf (· = none) x) (hk : ∀ a, Avoids Refusal (k a)) :
    Refuses (x >>= fun o => orRaise e o >>= k) := by
  refine found hx hkeeps ?_ fun o ho => ?_
  · rintro o rfl s ex t hrun _
    cases hrun
    exact refl_of _ s
  · obtain ⟨a, rfl⟩ := Option.ne_none_iff_exists'.mp ho
    exact (Avoids.pure a).bind hk

end Refuses

section

variable (rt : Runtime) (env : Env) (auth : Authorization)

theorem Routes.logout_refuses : Refuses (Routes.logout rt env auth) := by
  refine Refuses.check (Deps.getPrincipal_touches env auth) fun p => Refuses.act ?_
  cases p.jti with
  | none => grind
  | some jti => grind

theorem Routes.approveAction_refuses (invId : String) (i : Int) :
    Refuses (Routes.approveAction rt env auth invId i) := by
  refine Refuses.check (Deps.require_touches env auth _) fun p => ?_
  refine Refuses.lookup (InvestigationRepository.approveAction_avoids _ _ _)
    (InvestigationRepository.approveAction_keeps i) fun inv => ?_
  grind

theorem Routes.transitionStatus_refuses (invId status : String) :
    Refuses (Routes.transitionStatus rt env auth invId status) := by
  refine Refuses.check (Deps.require_touches env auth _) fun p => ?_
  refine Refuses.found (CaseWorkflowMixin.transitionStatus_avoids env _ _ _)
    (CaseWorkflowMixin.transitionStatus_keeps env invId status) ?_ fun r hr => ?_
  · rintro r ⟨e, rfl⟩
    exact Refuses.read (Touches.throw _)
  · cases r with
    | error e => exact absurd ⟨e, rfl⟩ hr
    | ok inv => grind

theorem Routes.assignInvestigation_refuses (invId : String) (assignee : Option String) :
    Refuses (Routes.assignInvestigation rt env auth invId assignee) := by
  refine Refuses.check (Deps.require_touches env auth _) fun p => ?_
  refine Refuses.lookup (InvestigationRepository.setAssignee_avoids _ _ _)
    (InvestigationRepository.setAssignee_keeps assignee) fun inv => ?_
  grind

theorem Routes.addNote_refuses (invId body : String) :
    Refuses (Routes.addNote rt env auth invId body) := by
  refine Refuses.check (Deps.require_touches env auth _) fun p => ?_
  refine Refuses.check (Deps.validateLength_touches ..) fun _ => ?_
  refine Refuses.lookup (InvestigationRepository.addNote_avoids env _ _ _ _)
    (InvestigationRepository.addNote_keeps env _ body) fun note => ?_
  grind

theorem Routes.toggleRule_refuses (ruleId : String) (enabled : Bool) :
    Refuses (Routes.toggleRule rt env auth ruleId enabled) := by
  refine Refuses.check (Deps.require_touches env auth _) fun p => ?_
  refine Refuses.check (orRaise_touches ..) fun rule => Refuses.act ?_
  grind

theorem AdminRoutes.createUser_refuses (body : AdminRoutes.CreateUserRequest) :
    Refuses (AdminRoutes.createUser rt env auth body) := by
  refine Refuses.check (Deps.require_touches env auth _) fun p => ?_
  refine Refuses.check (Deps.validateLength_touches ..) fun _ => ?_
  refine Refuses.check (Deps.validateLength_touches ..) fun _ => ?_
  refine Refuses.check (raiseIf_touches ..) fun _ => ?_
  refine Refuses.check (selectOne_touches _) fun existing => ?_
  refine Refuses.check (raiseIf_touches ..) fun _ => Refuses.act ?_
  grind

theorem AdminRoutes.updateRole_refuses (userId role : String) :
    Refuses (AdminRoutes.updateRole rt env auth userId role) := by
  refine Refuses.check (Deps.require_touches env auth _) fun p => ?_
  refine Refuses.check (raiseIf_touches ..) fun _ => ?_
  refine Refuses.lookup (UserRepository.update_avoids _ _ _ _)
    (UserRepository.update_keeps userId _ _) fun user => ?_
  grind

theorem AdminRoutes.linkIdentity_refuses (userId externalId : String) :
    Refuses (AdminRoutes.linkIdentity rt env auth userId externalId) := by
  refine Refuses.check (Deps.require_touches env auth _) fun p => ?_
  refine Refuses.check (Deps.validateLength_touches ..) fun _ => ?_
  refine Refuses.lookup (UserRepository.update_avoids _ _ _ _)
    (UserRepository.update_keeps userId _ _) fun user => ?_
  grind

theorem AdminRoutes.deleteUser_refuses (userId : String) :
    Refuses (AdminRoutes.deleteUser rt env auth userId) := by
  refine Refuses.check (Deps.require_touches env auth _) fun p => ?_
  refine Refuses.check (raiseIf_touches ..) fun _ => ?_
  refine Refuses.found (UserRepository.delete_avoids _ _) (UserRepository.delete_keeps userId) ?_
    fun ok hok => ?_
  · rintro ok rfl s ex t hrun _
    cases hrun
    exact refl_of _ s
  · cases ok with
    | false => exact absurd rfl hok
    | true => exact (Avoids.pure ()).bind fun _ => AuditService.recordEntry_avoids rt env _

theorem TenantRoutes.updateSettings_refuses (settings : List (String × JsonValue)) :
    Refuses (TenantRoutes.updateSettings rt env auth settings) := by
  refine Refuses.check (Deps.require_touches env auth _) fun p => ?_
  refine Refuses.lookup (TenantRepository.update_avoids _ _ _)
    (TenantRepository.update_keeps _ _) fun tenant => ?_
  grind

theorem TenantRoutes.updateCredentials_refuses (body : UpdateCredentials) :
    Refuses (TenantRoutes.updateCredentials rt env auth body) := by
  refine Refuses.check (Deps.require_touches env auth _) fun p => ?_
  refine Refuses.check (TenantRoutes.checkChoice_touches ..) fun _ => ?_
  refine Refuses.check (TenantRoutes.checkChoice_touches ..) fun _ => ?_
  refine Refuses.check (TenantRoutes.checkChoice_touches ..) fun _ => Refuses.act ?_
  grind

theorem ProviderRoutes.createTenant_refuses (body : ProviderRoutes.CreateTenantRequest) :
    Refuses (ProviderRoutes.createTenant rt env auth body) := by
  refine Refuses.check (Deps.requireProvider_touches env auth) fun p => ?_
  refine Refuses.check (Deps.validateLength_touches ..) fun _ => ?_
  refine Refuses.check (Deps.validateLength_touches ..) fun _ => ?_
  refine Refuses.check (Deps.validateLength_touches ..) fun _ => ?_
  refine Refuses.check (raiseIf_touches ..) fun _ => ?_
  refine Refuses.check (raiseIf_touches ..) fun _ => ?_
  refine Refuses.check (selectOne_touches _) fun existing => ?_
  refine Refuses.check (raiseIf_touches ..) fun _ => Refuses.act ?_
  grind

/-- A change of a tenant found by its id. -/
theorem ProviderRoutes.changeTenant_refuses (p : Principal) (tenantId action : String)
    (detail : List (String × JsonValue)) (f : TenantRow → TenantRow)
    (hf : ∀ r, (f r).id = r.id) :
    Refuses (TenantRepository.update tenantId f hf >>=
      ProviderRoutes.afterTenantChange rt env p tenantId action detail) := by
  refine Refuses.lookup (TenantRepository.update_avoids _ _ _)
    (TenantRepository.update_keeps _ _) fun tenant => ?_
  grind

theorem ProviderRoutes.setTenantStatus_refuses (tenantId status : String) :
    Refuses (ProviderRoutes.setTenantStatus rt env auth tenantId status) := by
  refine Refuses.check (Deps.requireProvider_touches env auth) fun p => ?_
  refine Refuses.check (raiseIf_touches ..) fun _ => ?_
  exact ProviderRoutes.changeTenant_refuses rt env p tenantId _ _ _ _

theorem ProviderRoutes.setTenantPlan_refuses (tenantId plan : String) :
    Refuses (ProviderRoutes.setTenantPlan rt env auth tenantId plan) := by
  refine Refuses.check (Deps.requireProvider_touches env auth) fun p => ?_
  refine Refuses.check (raiseIf_touches ..) fun _ => ?_
  exact ProviderRoutes.changeTenant_refuses rt env p tenantId _ _ _ _

theorem ProviderRoutes.impersonate_refuses (tenantId : String) :
    Refuses (ProviderRoutes.impersonate rt env auth tenantId) := by
  refine Refuses.check (Deps.requireProvider_touches env auth) fun p => ?_
  refine Refuses.check (TenantRepository.get_touches _) fun o => ?_
  refine Refuses.check (orRaise_touches ..) fun tenant => ?_
  refine Refuses.check (UserRepository.list_touches _) fun members => ?_
  refine Refuses.check (orRaise_touches ..) fun admin => Refuses.act ?_
  grind

end

section

variable (rt : Runtime) {env : Env} (henv : NoRefusals env) (auth : Authorization)

include henv

theorem Routes.executeAction_refuses (invId : String) (i : Int) :
    Refuses (Routes.executeAction rt env auth invId i) := by
  refine Refuses.check (Deps.require_touches env auth _) fun p => ?_
  have hexec : Avoids Refusal
      (InvestigationRepository.executeAction env p.tenantId invId i) := by
    unfold InvestigationRepository.executeAction
    refine (InvestigationRepository.getRow_avoids _ _).bind fun row => ?_
    cases row with
    | none => exact Avoids.pure (Except.error CaseError.notFound)
    | some row =>
      dsimp only
      cases executableAction i row with
      | error e => exact Avoids.pure (Except.error e)
      | ok action =>
        refine (ActionExecutor.execute_avoids henv _ _).bind fun result => ?_
        exact (InvestigationRepository.flush_avoids _).bind fun _ => Avoids.pure _
  refine Refuses.found hexec (InvestigationRepository.executeAction_keeps env i) ?_ fun r hr => ?_
  · rintro r ⟨e, rfl⟩
    exact Refuses.read (Touches.throw _)
  · cases r with
    | error e => exact absurd ⟨e, rfl⟩ hr
    | ok inv =>
      refine (orRaise_avoids id _).bind fun executed => ?_
      exact (Routes.afterExecution_avoids rt henv p invId i executed).bind fun _ => Avoids.pure inv

theorem Routes.runDetections_refuses : Refuses (Routes.runDetections rt env auth) := by
  refine Refuses.check (Deps.require_touches env auth _) fun p => ?_
  refine Refuses.check (Deps.getTenantOrchestrator_touches rt p) fun orch => Refuses.act ?_
  exact Orchestrator.runDetections_avoids henv orch []

theorem Routes.runInvestigations_refuses : Refuses (Routes.runInvestigations rt env auth) := by
  refine Refuses.check (Deps.require_touches env auth _) fun p => ?_
  refine Refuses.check (Deps.getTenantOrchestrator_touches rt p) fun orch => ?_
  refine Refuses.check (RuleStateRepository.disabledRuleIds_touches _) fun disabled => ?_
  refine Refuses.check (TenantRepository.get_touches _) fun tenant => ?_
  refine Refuses.check (Routes.checkSearchQuota_touches env _ _ _) fun _ => Refuses.act ?_
  exact (Orchestrator.runFullPipeline_avoids rt henv orch disabled).bind fun invs =>
    Routes.afterPipeline_avoids rt henv.channels p _ invs

end

/-! ## Without the channels -/

/-- The environment with other notification channels. -/
def Env.withChannels (env : Env) (channels : List NotificationChannel) : Env :=
  { env with channels := channels }

section

variable (rt : Runtime) {env : Env} (henv : NoRefusals env) (auth : Authorization)
  (channels : List NotificationChannel)

include henv

theorem Routes.executeAction_channels (invId : String) (i : Int) :
    RaisesAs Refusal (Routes.executeAction rt env auth invId i)
      (Routes.executeAction rt (env.withChannels channels) auth invId i) := by
  refine RaisesAs.bind (x := Deps.require env auth .actionApprove) fun p => ?_
  refine RaisesAs.bind (x := InvestigationRepository.executeAction env p.tenantId invId i)
    fun r => ?_
  cases r with
  | error e => exact RaisesAs.refl _
  | ok inv =>
    refine RaisesAs.of_avoids ((orRaise_avoids id _).bind fun executed => ?_)
    exact (Routes.afterExecution_avoids rt henv p invId i executed).bind fun _ => Avoids.pure inv

theorem Routes.runInvestigations_channels :
    RaisesAs Refusal (Routes.runInvestigations rt env auth)
      (Routes.runInvestigations rt (env.withChannels channels) auth) := by
  refine RaisesAs.bind (x := Deps.require env auth .investigationRun) fun p => ?_
  refine RaisesAs.bind (x := Deps.getTenantOrchestrator rt p) fun orch => ?_
  refine RaisesAs.bind (x := RuleStateRepository.disabledRuleIds p.tenantId) fun disabled => ?_
  refine RaisesAs.bind (x := TenantRepository.get p.tenantId) fun tenant => ?_
  refine RaisesAs.bind (x := Routes.checkSearchQuota env p.tenantId _ _) fun _ => ?_
  refine RaisesAs.of_avoids ?_
  exact (Orchestrator.runFullPipeline_avoids rt henv orch disabled).bind fun invs =>
    Routes.afterPipeline_avoids rt henv.channels p _ invs

theorem Routes.runDetections_channels :
    RaisesAs Refusal (Routes.runDetections rt env auth)
      (Routes.runDetections rt (env.withChannels channels) auth) := by
  refine RaisesAs.bind (x := Deps.require env auth .detectionRun) fun p => ?_
  refine RaisesAs.bind (x := Deps.getTenantOrchestrator rt p) fun orch => ?_
  exact RaisesAs.of_avoids (Orchestrator.runDetections_avoids henv orch [])

omit henv in
theorem Routes.listNotifications_channels :
    RaisesAs Refusal (Routes.listNotifications env auth)
      (Routes.listNotifications (env.withChannels channels) auth) := by
  refine RaisesAs.bind (x := Deps.require env auth .investigationRead) fun p => ?_
  refine RaisesAs.of_avoids (Avoids.ite (Avoids.pure []) ?_)
  exact get_avoids.bind fun s => Avoids.pure _

/-- A refusal is the same whatever the channels: none has been asked. -/
theorem handle_channels (q : Request) :
    RaisesAs Refusal (handle rt env q) (handle rt (env.withChannels channels) q) := by
  cases q with
  | runDetections auth => exact (Routes.runDetections_channels rt henv auth channels).map _
  | runInvestigations auth =>
    exact (Routes.runInvestigations_channels rt henv auth channels).map _
  | case auth invId r =>
    cases r with
    | execute i => exact (Routes.executeAction_channels rt henv auth channels invId i).map _
    | _ => exact RaisesAs.refl _
  | read auth r =>
    cases r with
    | notifications => exact (Routes.listNotifications_channels auth channels).map _
    | _ => exact RaisesAs.refl _
  | admin auth r => cases r <;> exact RaisesAs.refl _
  | provider auth r => cases r <;> exact RaisesAs.refl _
  | _ => exact RaisesAs.refl _

end

/-! ## Request by request -/

section

variable (rt : Runtime) {env : Env} (henv : NoRefusals env)

include henv

/-- Every request but a login and a search has changed nothing when it is refused. -/
theorem handle_refuses {q : Request} (hlogin : ∀ body, q ≠ .login body)
    (hsearch : ∀ auth spl earliest latest, q ≠ .search auth spl earliest latest) :
    Refuses (handle rt env q) := by
  cases q with
  | login body => exact absurd rfl (hlogin body)
  | logout auth => exact (Routes.logout_refuses rt env auth).map _
  | search auth spl earliest latest => exact absurd rfl (hsearch auth spl earliest latest)
  | runDetections auth => exact (Routes.runDetections_refuses rt henv auth).map _
  | runInvestigations auth => exact (Routes.runInvestigations_refuses rt henv auth).map _
  | case auth invId r =>
    cases r with
    | approve i => exact (Routes.approveAction_refuses rt env auth invId i).map _
    | execute i => exact (Routes.executeAction_refuses rt henv auth invId i).map _
    | status target => exact (Routes.transitionStatus_refuses rt env auth invId target).map _
    | assign assignee => exact (Routes.assignInvestigation_refuses rt env auth invId assignee).map _
    | note body => exact (Routes.addNote_refuses rt env auth invId body).map _
  | admin auth r =>
    cases r with
    | createUser body => exact (AdminRoutes.createUser_refuses rt env auth body).map _
    | updateRole userId role => exact (AdminRoutes.updateRole_refuses rt env auth userId role).map _
    | linkIdentity userId externalId =>
      exact (AdminRoutes.linkIdentity_refuses rt env auth userId externalId).map _
    | deleteUser userId => exact (AdminRoutes.deleteUser_refuses rt env auth userId).map _
    | toggleRule ruleId enabled => exact (Routes.toggleRule_refuses rt env auth ruleId enabled).map _
    | updateSettings settings =>
      exact (TenantRoutes.updateSettings_refuses rt env auth settings).map _
    | updateCredentials body =>
      exact (TenantRoutes.updateCredentials_refuses rt env auth body).map _
  | provider auth r =>
    cases r with
    | createTenant body => exact (ProviderRoutes.createTenant_refuses rt env auth body).map _
    | setStatus tenantId status =>
      exact (ProviderRoutes.setTenantStatus_refuses rt env auth tenantId status).map _
    | setPlan tenantId plan =>
      exact (ProviderRoutes.setTenantPlan_refuses rt env auth tenantId plan).map _
    | impersonate tenantId => exact (ProviderRoutes.impersonate_refuses rt env auth tenantId).map _
    | listTenants => exact (Refuses.read (ProviderRoutes.listTenants_touches env auth)).map _
    | listUsers => exact (Refuses.read (ProviderRoutes.listAllUsers_touches env auth)).map _
    | usage => exact (Refuses.read (ProviderRoutes.usage_touches env auth)).map _
  | read auth r => exact Refuses.read (handleRead_touches rt env auth r)

omit rt in
/-- A search is refused before it is sent, or by Splunk. -/
theorem Routes.search_refused {auth : Authorization} {spl earliest latest : String}
    {s t : Session} {ex : Exc}
    (h : (Routes.search env auth spl earliest latest).run s = .error ex t) (hex : Refusal ex) :
    Outside ([] : List Resource) s t ∨
      Outside [Resource.searches] s t ∧ t.searches = s.searches ++ [⟨.managed, spl⟩] ∧
        ∃ err, env.search .managed s.searches.length spl earliest latest =
          .error (.splunk err) := by
  obtain hraised | ⟨p, u, hp, hrest⟩ := run_bind_eq_error.mp h
  · exact Or.inl ((Deps.require_touches env auth _).moves.of_error hraised)
  obtain ⟨_, rfl⟩ := require_eq_ok.mp hp
  have hout : Outside [Resource.searches] s t := by
    have htouches : Touches [Resource.searches] (Routes.search env auth spl earliest latest) := by
      grind [Routes.search]
    exact htouches.moves.of_error h
  have hsearch : (SplunkClient.managed.search env spl earliest latest).run s.ticked =
      (ofExcept (env.search .managed s.searches.length spl earliest latest)).run
        { s.ticked with searches := s.searches ++ [⟨.managed, spl⟩] } := rfl
  rw [EStateM.run_bind, attempt_run, hsearch, ofExcept_run] at hrest
  cases hanswer : env.search .managed s.searches.length spl earliest latest with
  | ok r =>
    rw [hanswer] at hrest
    cases hrest
  | error e =>
    rw [hanswer] at hrest
    cases e with
    | splunk err =>
      cases hrest
      exact Or.inr ⟨hout, rfl, err, rfl⟩
    | _ =>
      cases hrest
      exact absurd hex (henv.search _ _ _ _ _ _ hanswer)

end

/-! ## Refused requests -/

/-- Nothing changed is nothing added, changed or deleted, and nobody asked. -/
theorem unchanged_of_outside {w : World} {t : Session}
    (h : Outside ([] : List Resource) w.session t) :
    t.db = w.db ∧ t.connectorCalls = [] ∧ t.completions = [] ∧ t.captured = w.captured ∧
      t.searches = [] := by
  have hwider : Outside [Resource.searches, .completions] w.session t :=
    fun r _ => h r (List.not_mem_nil)
  exact ⟨db_eq_of_outside hwider, h .connectors (by decide), h .completions (by decide),
    h .captured (by decide), h .searches (by decide)⟩

/-- A refused request has changed nothing, or is a failed login, or a search that Splunk was
    sent. -/
theorem refused_cases (rt : Runtime) {w : World} {e : Event} (henv : NoRefusals e.env) {ex : Exc}
    {t : Session} (h : handled rt w e = .error ex t) (hex : Refusal ex) :
    Outside ([] : List Resource) w.session t ∨
      (∃ body tenant, e.request = .login body ∧ FailsLogin rt w.db body tenant ∧
        (Routes.login rt e.env body).run w.session = .error ex t) ∨
      ∃ auth spl earliest latest err, e.request = .search auth spl earliest latest ∧
        Outside [Resource.searches] w.session t ∧ t.searches = [⟨.managed, spl⟩] ∧
          e.env.search .managed 0 spl earliest latest = .error (.splunk err) := by
  by_cases hlogin : ∃ body, e.request = .login body
  · obtain ⟨body, he⟩ := hlogin
    have hraised : (Routes.login rt e.env body).run w.session = .error ex t :=
      (handled_eq_error he rfl).mp h
    obtain ⟨tenant, hfails⟩ | hout := Routes.login_error hraised
    · exact Or.inr (Or.inl ⟨body, tenant, he, hfails, hraised⟩)
    · exact Or.inl hout
  by_cases hsearch : ∃ auth spl earliest latest, e.request = .search auth spl earliest latest
  · obtain ⟨auth, spl, earliest, latest, he⟩ := hsearch
    have hraised : (Routes.search e.env auth spl earliest latest).run w.session = .error ex t :=
      (handled_eq_error he rfl).mp h
    obtain hout | ⟨hout, hsent, err, hanswer⟩ := Routes.search_refused henv hraised hex
    · exact Or.inl hout
    · exact Or.inr (Or.inr ⟨auth, spl, earliest, latest, err, he, hout, hsent, hanswer⟩)
  · exact Or.inl (handle_refuses rt henv (fun body he => hlogin ⟨body, he⟩)
      (fun auth spl earliest latest he => hsearch ⟨auth, spl, earliest, latest, he⟩)
      w.session _ t h hex)

/-- A request that is refused, as it is answered and before the rollback: its rows are the
    world's, but for the entry of a failed login; it has asked no connector and no model, and
    Splunk only if it is a search Splunk refused; it has captured no notification, and would
    have been answered the same with any other channels. -/
theorem refused_requests_do_nothing (rt : Runtime) (w : World) (e : Event)
    (henv : NoRefusals e.env) {status : Nat} {detail : ErrorDetail} {t : Session}
    (h : handled rt w e = .error (.http status detail) t) :
    (t.db = w.db ∨ ∃ body tenant row, e.request = .login body ∧ FailsLogin rt w.db body tenant ∧
      t.db = { w.db with auditLog := w.db.auditLog.insert row }) ∧
    t.connectorCalls = [] ∧ t.completions = [] ∧ t.captured = w.captured ∧
    (t.searches = [] ∨ ∃ auth spl earliest latest err,
      e.request = .search auth spl earliest latest ∧ t.searches = [⟨.managed, spl⟩] ∧
        e.env.search .managed 0 spl earliest latest = .error (.splunk err)) ∧
    ∀ channels, handled rt w { e with env := e.env.withChannels channels } =
      .error (.http status detail) t := by
  have hex : Refusal (.http status detail) := trivial
  have hchannels : ∀ channels, handled rt w { e with env := e.env.withChannels channels } =
      .error (.http status detail) t :=
    fun channels => handle_channels rt henv channels e.request w.session _ t h hex
  obtain hout | ⟨body, tenant, he, hfails, hraised⟩ |
    ⟨auth, spl, earliest, latest, err, he, hout, hsent, hanswer⟩ := refused_cases rt henv h hex
  · obtain ⟨hdb, hconnectors, hcompletions, hcaptured, hsearches⟩ := unchanged_of_outside hout
    exact ⟨Or.inl hdb, hconnectors, hcompletions, hcaptured, Or.inl hsearches, hchannels⟩
  · cases hraised.symm.trans hfails.run
    exact ⟨Or.inr ⟨body, tenant, _, he, hfails, rfl⟩, rfl, rfl, rfl, Or.inl rfl, hchannels⟩
  · have hwider : Outside [Resource.searches, .completions] w.session t :=
      fun r hr => hout r fun hmem => hr (List.mem_append_left [Resource.completions] hmem)
    exact ⟨Or.inl (db_eq_of_outside hwider), hout .connectors (by decide),
      hout .completions (by decide), hout .captured (by decide),
      Or.inr ⟨auth, spl, earliest, latest, err, he, hsent, hanswer⟩, hchannels⟩

/-- The approval of an action of an investigation that is not there. -/
def approveUnknown : Event :=
  adminRequest (.case (.bearer adminToken) "INV-0" (.approve 0))

theorem noRefusals_admin (r : Request) : NoRefusals (adminRequest r).env where
  search _ _ _ _ _ ex h := by
    cases h
    exact id
  complete _ _ _ _ ex h := by
    cases h
    exact id
  connectors c hc actionType target ex h := by
    obtain rfl := List.mem_singleton.mp hc
    unfold mockConnector at h
    dsimp only at h
    split at h
    · cases h
      exact id
    · cases h
  channels send hsend := by cases List.mem_singleton.mp hsend

/-- The 404 it is answered with leaves nothing behind. -/
theorem refused_requests_do_nothing_unknown :
    ∃ t, handled .plain (initech "pro") approveUnknown =
        .error (httpError 404 "Investigation or action not found") t ∧
      t.connectorCalls = [] ∧ t.completions = [] ∧ t.captured = [] := by
  have hrun : handled .plain (initech "pro") approveUnknown =
      .error (httpError 404 "Investigation or action not found") (initech "pro").session.ticked :=
    rfl
  obtain ⟨_, hconnectors, hcompletions, hcaptured, _⟩ := refused_requests_do_nothing .plain
    (initech "pro") approveUnknown (noRefusals_admin _) hrun
  exact ⟨_, hrun, hconnectors, hcompletions, hcaptured⟩

end SentinelAI
