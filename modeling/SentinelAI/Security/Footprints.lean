import SentinelAI.Api.Deps
import SentinelAI.Services.Audit
import SentinelAI.Services.Quotas
import SentinelAI.Lib.Footprint

/-
  What the statements, services and repositories may change, of the five parts of a session
  the security results follow: the users, the investigations, the tokens signed, the
  connectors invoked, and what has been committed.
-/

namespace SentinelAI

open Lib

/-! ## The parts of a session -/

inductive Part where
  | users
  | investigations
  | tokens
  | connectors
  | committed
  deriving DecidableEq

/-- A table the session left as it was, and committed as it was if it committed. -/
def KeptTable {τ : Type} (T : Database → τ) (s t : Session) : Prop :=
  T t.db = T s.db ∧ (T t.committed = T s.committed ∨ T t.committed = T s.db)

def Part.Same (s t : Session) : Part → Prop
  | .users => KeptTable Database.users s t
  | .investigations => KeptTable Database.investigations s t
  | .tokens => t.issued = s.issued
  | .connectors => t.connectorCalls = s.connectorCalls
  | .committed => t.committed = s.committed

theorem KeptTable.refl {τ : Type} (T : Database → τ) (s : Session) : KeptTable T s s :=
  ⟨rfl, Or.inl rfl⟩

theorem KeptTable.trans {τ : Type} {T : Database → τ} {s t w : Session} (h : KeptTable T s t)
    (h' : KeptTable T t w) : KeptTable T s w := by
  refine ⟨h'.1.trans h.1, ?_⟩
  rcases h'.2 with h₂ | h₂
  · rcases h.2 with h₁ | h₁
    · exact Or.inl (h₂.trans h₁)
    · exact Or.inr (h₂.trans h₁)
  · exact Or.inr (h₂.trans h.1)

instance : Parts Session Part where
  Same p s t := p.Same s t
  refl p s := by
    cases p with
    | users => exact KeptTable.refl _ s
    | investigations => exact KeptTable.refl _ s
    | tokens => rfl
    | connectors => rfl
    | committed => rfl
  trans p s t w h h' := by
    cases p with
    | users => exact KeptTable.trans h h'
    | investigations => exact KeptTable.trans h h'
    | tokens => exact Eq.trans h' h
    | connectors => exact Eq.trans h' h
    | committed => exact Eq.trans h' h

/-! ## Resources -/

/-- A session in full detail: every table, and every log that outlives a statement. -/
inductive Resource where
  | tenants
  | users
  | investigations
  | caseNotes
  | ruleStates
  | incidents
  | auditLog
  | usageEvents
  | tenantCredentials
  | revokedTokens
  | searches
  | completions
  | connectors
  | captured
  | tokens
  | committed
  deriving DecidableEq

def Resource.Same (s t : Session) : Resource → Prop
  | .tenants => KeptTable Database.tenants s t
  | .users => KeptTable Database.users s t
  | .investigations => KeptTable Database.investigations s t
  | .caseNotes => KeptTable Database.caseNotes s t
  | .ruleStates => KeptTable Database.ruleStates s t
  | .incidents => KeptTable Database.incidents s t
  | .auditLog => KeptTable Database.auditLog s t
  | .usageEvents => KeptTable Database.usageEvents s t
  | .tenantCredentials => KeptTable Database.tenantCredentials s t
  | .revokedTokens => KeptTable Database.revokedTokens s t
  | .searches => t.searches = s.searches
  | .completions => t.completions = s.completions
  | .connectors => t.connectorCalls = s.connectorCalls
  | .captured => t.captured = s.captured
  | .tokens => t.issued = s.issued
  | .committed => t.committed = s.committed

/-- Rows a database kept; no condition for a resource that is no table. -/
def Resource.Kept (db db' : Database) : Resource → Prop
  | .tenants => db'.tenants = db.tenants
  | .users => db'.users = db.users
  | .investigations => db'.investigations = db.investigations
  | .caseNotes => db'.caseNotes = db.caseNotes
  | .ruleStates => db'.ruleStates = db.ruleStates
  | .incidents => db'.incidents = db.incidents
  | .auditLog => db'.auditLog = db.auditLog
  | .usageEvents => db'.usageEvents = db.usageEvents
  | .tenantCredentials => db'.tenantCredentials = db.tenantCredentials
  | .revokedTokens => db'.revokedTokens = db.revokedTokens
  | _ => True

theorem Resource.Same.refl (r : Resource) (s : Session) : r.Same s s := by
  cases r <;> first | exact KeptTable.refl _ s | rfl

theorem Resource.Same.trans {r : Resource} {s t w : Session} (h : r.Same s t) (h' : r.Same t w) :
    r.Same s w := by
  cases r <;> first | exact KeptTable.trans h h' | exact Eq.trans h' h

instance : Parts Session Resource where
  Same r s t := r.Same s t
  refl := Resource.Same.refl
  trans _ _ _ _ h h' := h.trans h'

/-- A step that writes rows only keeps every resource whose rows it kept. -/
theorem Resource.same_of_kept {r : Resource} {s : Session} {db : Database} (h : r.Kept s.db db) :
    r.Same s { s with db := db } := by
  cases r <;> first | exact ⟨h, Or.inl rfl⟩ | rfl

/-! ## Footprints over parts and over resources -/

/-- A choice of parts, each of them a resource. -/
class Follows (π : Type) extends Parts Session π where
  resource : π → Resource
  same_iff : ∀ p s t, Same p s t ↔ (resource p).Same s t

instance : Follows Resource where
  resource r := r
  same_iff _ _ _ := Iff.rfl

def Part.resource : Part → Resource
  | .users => .users
  | .investigations => .investigations
  | .tokens => .tokens
  | .connectors => .connectors
  | .committed => .committed

instance : Follows Part where
  resource := Part.resource
  same_iff p _ _ := by cases p <;> rfl

/-- The footprint has what is followed of a resource. -/
class Covers {π : Type} [Follows π] (F : List π) (r : Resource) : Prop where
  mem : ∀ p : π, Follows.resource p = r → p ∈ F

instance (r : Resource) (F : List Resource) : Covers (r :: F) r :=
  ⟨fun _ h => h ▸ List.mem_cons_self⟩

instance {π : Type} [Follows π] (p : π) (F : List π) (r : Resource) [h : Covers F r] :
    Covers (p :: F) r := ⟨fun q hq => List.mem_cons_of_mem p (h.mem q hq)⟩

instance (F : List Part) : Covers (Part.committed :: F) .committed :=
  ⟨fun p hp => by
    cases p with
    | committed => exact List.mem_cons_self
    | _ => cases hp⟩

/-- A resource none of the five parts is. -/
theorem Covers.of_unfollowed {F : List Part} {r : Resource} (h : ∀ p : Part, p.resource ≠ r) :
    Covers F r := ⟨fun p hp => absurd hp (h p)⟩

section

variable (F : List Part)

instance : Covers F .tenants := .of_unfollowed (by rintro ⟨⟩ <;> decide)
instance : Covers F .caseNotes := .of_unfollowed (by rintro ⟨⟩ <;> decide)
instance : Covers F .ruleStates := .of_unfollowed (by rintro ⟨⟩ <;> decide)
instance : Covers F .incidents := .of_unfollowed (by rintro ⟨⟩ <;> decide)
instance : Covers F .auditLog := .of_unfollowed (by rintro ⟨⟩ <;> decide)
instance : Covers F .usageEvents := .of_unfollowed (by rintro ⟨⟩ <;> decide)
instance : Covers F .tenantCredentials := .of_unfollowed (by rintro ⟨⟩ <;> decide)
instance : Covers F .revokedTokens := .of_unfollowed (by rintro ⟨⟩ <;> decide)
instance : Covers F .searches := .of_unfollowed (by rintro ⟨⟩ <;> decide)
instance : Covers F .completions := .of_unfollowed (by rintro ⟨⟩ <;> decide)
instance : Covers F .captured := .of_unfollowed (by rintro ⟨⟩ <;> decide)

end

variable {π : Type} [Follows π] {F : List π} {α : Type}

/-- A computation whose runs keep every resource the footprint leaves out. -/
theorem touches_of_same {m : ApiM α}
    (h : ∀ s r, ¬ Covers F r → r.Same s (stateOf (m.run s))) : Touches F m := by
  refine ⟨fun s p hp => (Follows.same_iff p _ _).mpr (h s _ fun hc => ?_)⟩
  exact hp (hc.mem p rfl)

/-- A footprint over all resources gives one over any parts that cover it. -/
theorem touches_of_resources {W : List Resource} {m : ApiM α} (h : Touches W m)
    (hW : ∀ r ∈ W, Covers F r) : Touches F m :=
  touches_of_same fun s r hr => h.same (fun hmem => hr (hW r hmem)) s

/-- A change of one log. -/
theorem modify_touches (r : Resource) [hF : Covers F r] (f : Session → Session)
    (h : ∀ s q, q ≠ r → q.Same s (f s)) : Touches F (modify f : ApiM PUnit) :=
  touches_of_same fun s q hq => h s q fun he => hq (he ▸ hF)

/-- A change of what no resource holds. -/
theorem modify_touches_none (f : Session → Session) (h : ∀ s q, Resource.Same s (f s) q) :
    Touches F (modify f : ApiM PUnit) :=
  touches_of_same fun s q _ => h s q

/-! ## Primitives -/

@[grind ←] theorem query_touches (f : Database → α) : Touches F (query f) :=
  Touches.of_keeps fun _ => rfl

@[grind ←] theorem get_touches : Touches F (get : ApiM Session) := Touches.of_keeps fun _ => rfl

@[grind ←] theorem readClock_touches (env : Env) : Touches F (readClock env) :=
  touches_of_same fun s r _ => by cases r <;> first | exact KeptTable.refl _ s | rfl

@[grind ←] theorem uuidHex_touches (env : Env) : Touches F (uuidHex env) :=
  touches_of_same fun s r _ => by cases r <;> first | exact KeptTable.refl _ s | rfl

@[grind ←] theorem commit_touches [h : Covers F .committed] : Touches F commit := by
  refine touches_of_same fun s r hr => ?_
  cases r with
  | committed => exact absurd h hr
  | searches | completions | connectors | captured | tokens => rfl
  | _ => exact ⟨rfl, Or.inr rfl⟩

@[grind ←] theorem signToken_touches (t : Token) [Covers F .tokens] : Touches F (signToken t) := by
  refine modify_touches .tokens _ fun s r hr => ?_
  cases r <;> first | exact absurd rfl hr | exact KeptTable.refl _ s | rfl

@[grind ←] theorem raiseIf_touches (c : Bool) (e : Exc) : Touches F (raiseIf c e) := by
  grind [raiseIf]

@[grind ←] theorem orRaise_touches (e : Exc) (o : Option α) : Touches F (orRaise e o) := by
  cases o <;> grind [orRaise]

@[grind ←] theorem ofExcept_touches (x : Except Exc α) : Touches F (ofExcept x) := by
  cases x <;> grind [ofExcept]

@[grind ←] theorem attempt_touches {m : ApiM α} (h : Touches F m) : Touches F (attempt m) := by
  grind [attempt]

@[grind ←] theorem ActionExecutor.execute_touches (env : Env) (actionType target : String)
    [Covers F .connectors] : Touches F (ActionExecutor.execute env actionType target) := by
  refine Touches.bind ?_ fun _ => ofExcept_touches _
  refine modify_touches .connectors _ fun s r hr => ?_
  cases r <;> first | exact absurd rfl hr | exact KeptTable.refl _ s | rfl

@[grind ←] theorem NotificationChannel.deliver_touches (n : Notification) (c : NotificationChannel)
    [Covers F .captured] : Touches F (NotificationChannel.deliver n c) := by
  cases c with
  | capture =>
    refine Touches.bind ?_ fun _ => Touches.pure true
    refine modify_touches .captured _ fun s r hr => ?_
    cases r <;> first | exact absurd rfl hr | exact KeptTable.refl _ s | rfl
  | webhook send => exact ofExcept_touches _

@[grind ←] theorem NotificationService.notify_touches (env : Env) (n : Notification)
    [Covers F .captured] : Touches F (NotificationService.notify env n) := by
  grind [NotificationService.notify]

@[grind ←] theorem SplunkClient.search_touches (env : Env) (c : SplunkClient) (spl a b : String)
    [Covers F .searches] : Touches F (c.search env spl a b) := by
  refine get_touches.bind fun s => Touches.bind ?_ fun _ => ofExcept_touches _
  refine modify_touches .searches _ fun s r hr => ?_
  cases r <;> first | exact absurd rfl hr | exact KeptTable.refl _ s | rfl

@[grind ←] theorem AIModel.complete_touches (env : Env) (m : AIModel) (sys user : String)
    [Covers F .completions] : Touches F (m.complete env sys user) := by
  refine get_touches.bind fun s => Touches.bind ?_ fun _ => ofExcept_touches _
  refine modify_touches .completions _ fun s r hr => ?_
  cases r <;> first | exact absurd rfl hr | exact KeptTable.refl _ s | rfl

/-- The breaker and the sleeps are no resource. -/
theorem same_of_breaker (s : Session) (b : CircuitBreaker) (r : Resource) :
    r.Same s { s with breaker := b } := by
  cases r <;> first | exact KeptTable.refl _ s | rfl

@[grind ←] theorem breakerIsOpen_touches (env : Env) : Touches F (breakerIsOpen env) := by
  grind [breakerIsOpen]

@[grind ←] theorem breakerSuccess_touches : Touches F breakerSuccess :=
  modify_touches_none _ fun s r => same_of_breaker s _ r

@[grind ←] theorem breakerFailure_touches (env : Env) : Touches F (breakerFailure env) := by
  unfold breakerFailure
  refine get_touches.bind fun s => Touches.ite ((readClock_touches env).bind fun now => ?_) ?_
  · exact modify_touches_none _ fun s r => same_of_breaker s _ r
  · exact modify_touches_none _ fun s r => same_of_breaker s _ r

@[grind ←] theorem sleep_touches (seconds : ℚ) : Touches F (sleep seconds) :=
  modify_touches_none _ fun s r => by cases r <;> first | exact KeptTable.refl _ s | rfl

/-! ## Statements -/

/-- Writing the table keeps the rows of every other one. -/
class TableRef.Writes {τ : Type} (T : TableRef τ) (r : outParam Resource) : Prop where
  kept : ∀ db t, ∀ q, q ≠ r → Resource.Kept db (T.set db t) q

instance : Tables.tenants.Writes .tenants := ⟨by rintro db t ⟨⟩ h <;> first | exact absurd rfl h | rfl | trivial⟩
instance : Tables.users.Writes .users := ⟨by rintro db t ⟨⟩ h <;> first | exact absurd rfl h | rfl | trivial⟩
instance : Tables.investigations.Writes .investigations :=
  ⟨by rintro db t ⟨⟩ h <;> first | exact absurd rfl h | rfl | trivial⟩
instance : Tables.caseNotes.Writes .caseNotes := ⟨by rintro db t ⟨⟩ h <;> first | exact absurd rfl h | rfl | trivial⟩
instance : Tables.ruleStates.Writes .ruleStates := ⟨by rintro db t ⟨⟩ h <;> first | exact absurd rfl h | rfl | trivial⟩
instance : Tables.incidents.Writes .incidents := ⟨by rintro db t ⟨⟩ h <;> first | exact absurd rfl h | rfl | trivial⟩
instance : Tables.auditLog.Writes .auditLog := ⟨by rintro db t ⟨⟩ h <;> first | exact absurd rfl h | rfl | trivial⟩
instance : Tables.usageEvents.Writes .usageEvents := ⟨by rintro db t ⟨⟩ h <;> first | exact absurd rfl h | rfl | trivial⟩
instance : Tables.tenantCredentials.Writes .tenantCredentials :=
  ⟨by rintro db t ⟨⟩ h <;> first | exact absurd rfl h | rfl | trivial⟩
instance : Tables.revokedTokens.Writes .revokedTokens :=
  ⟨by rintro db t ⟨⟩ h <;> first | exact absurd rfl h | rfl | trivial⟩

/-- A statement that leaves the table it names in some state, and nothing else changed. -/
theorem touches_of_table {τ : Type} {T : TableRef τ} {r : Resource} [hT : T.Writes r]
    [hF : Covers F r] {m : ApiM α}
    (h : ∀ s, stateOf (m.run s) = s ∨ ∃ t, stateOf (m.run s) = { s with db := T.set s.db t }) :
    Touches F m := by
  refine touches_of_same fun s q hq => ?_
  obtain hrun | ⟨t, hrun⟩ := h s
  · rw [hrun]
    exact Resource.Same.refl q s
  · rw [hrun]
    exact Resource.same_of_kept (hT.kept s.db t q fun he => hq (he ▸ hF))

section

variable {ρ : Type} [Keyed ρ String] {T : TableRef (KeyedTable ρ)}

@[grind ←] theorem selectAll_touches (p : ρ → Bool) : Touches F (selectAll T p) :=
  Touches.of_keeps fun _ => rfl

omit [Keyed ρ String] in
@[grind ←] theorem oneOrNone_touches (rows : List ρ) : Touches F (oneOrNone rows) := by
  unfold oneOrNone
  split <;> grind

@[grind ←] theorem selectOne_touches (p : ρ → Bool) : Touches F (selectOne T p) := by
  grind [selectOne]

@[grind ←] theorem sessionGet_touches (k : String) : Touches F (sessionGet T k) :=
  Touches.of_keeps fun _ => rfl

@[grind ←] theorem insertRow_touches {r : Resource} [T.Writes r] [Covers F r] (row : ρ) :
    Touches F (insertRow T row) := by
  refine touches_of_table (T := T) fun s => ?_
  obtain ⟨t, _, hrun⟩ | ⟨_, hrun⟩ := insertRow_cases T row s
  · exact Or.inr ⟨t, by rw [hrun]; rfl⟩
  · exact Or.inl (by rw [hrun]; rfl)

@[grind ←] theorem updateRow_touches {r : Resource} [T.Writes r] [Covers F r] (k : String)
    (f : ρ → ρ) (hf : ∀ r, Keyed.key (f r) = Keyed.key r) : Touches F (updateRow T k f hf) :=
  touches_of_table (T := T) fun _ => Or.inr ⟨_, rfl⟩

@[grind ←] theorem deleteRow_touches {r : Resource} [T.Writes r] [Covers F r] (k : String) :
    Touches F (deleteRow T k) :=
  touches_of_table (T := T) fun _ => Or.inr ⟨_, rfl⟩

end

section

variable {β : Type} {T : TableRef (AutoTable β)}

@[grind ←] theorem insertAuto_touches {r : Resource} [T.Writes r] [Covers F r] (row : β) :
    Touches F (insertAuto T row) := touches_of_table (T := T) fun _ => Or.inr ⟨_, rfl⟩

@[grind ←] theorem selectIds_touches (p : β → Bool) : Touches F (selectIds T p) :=
  Touches.of_keeps fun _ => rfl

end

/-! ## Repositories and services -/

@[grind ←] theorem AuditService.recordEntry_touches (rt : Runtime) (env : Env) (e : AuditEntry)
    [Covers F .auditLog] :
    Touches F (AuditService.recordEntry rt env e) := by
  grind [AuditService.recordEntry, AuditService.recordRow]

@[grind ←] theorem MeteringService.record_touches (rt : Runtime) (env : Env) (tenantId kind : String) (q : Int)
    (d : String) [Covers F .usageEvents] : Touches F (MeteringService.record rt env tenantId kind q d) := by
  grind [MeteringService.record]

@[grind ←] theorem UserRepository.create_touches (env : Env) (t u p r : String) (x : Option String)
    [Covers F .users] : Touches F (UserRepository.create env t u p r x) := by
  grind [UserRepository.create]

@[grind ←] theorem UserRepository.update_touches (t u : String) (f : UserRow → UserRow)
    (hf : ∀ r, (f r).id = r.id) [Covers F .users] : Touches F (UserRepository.update t u f hf) := by
  grind [UserRepository.update, UserRepository.get]

@[grind ←] theorem UserRepository.delete_touches (t u : String) [Covers F .users] :
    Touches F (UserRepository.delete t u) := by
  grind [UserRepository.delete, UserRepository.get]

@[grind ←] theorem TenantRepository.update_touches (t : String) (f : TenantRow → TenantRow)
    (hf : ∀ r, (f r).id = r.id) [Covers F .tenants] : Touches F (TenantRepository.update t f hf) := by
  grind [TenantRepository.update, TenantRepository.get]

@[grind ←] theorem TenantRepository.create_touches (env : Env) (n s p : String)
    [Covers F .tenants] :
    Touches F (TenantRepository.create env n s p) := by
  grind [TenantRepository.create, TenantRepository.checkNameFree]

@[grind ←] theorem InvestigationRepository.getRow_touches (t i : String) :
    Touches F (InvestigationRepository.getRow t i) := by
  grind [InvestigationRepository.getRow]

@[grind ←] theorem InvestigationRepository.flush_touches (row : InvestigationRow) [Covers F .investigations] :
    Touches F (InvestigationRepository.flush row) := by
  grind [InvestigationRepository.flush]

@[grind ←] theorem InvestigationRepository.save_touches (env : Env) (t : String) (inv : Investigation)
    [Covers F .investigations] : Touches F (InvestigationRepository.save env t inv) := by
  grind [InvestigationRepository.save]

@[grind ←] theorem IncidentRepository.replaceAll_touches (env : Env) (t : String)
    (incidents : List Incident) [Covers F .incidents] :
    Touches F (IncidentRepository.replaceAll env t incidents) := by
  grind [IncidentRepository.replaceAll, IncidentRepository.add]

@[grind ←] theorem CredentialRepository.upsert_touches (env : Env) (t : String)
    (u : UpdateCredentials) [Covers F .tenantCredentials] :
    Touches F (CredentialRepository.upsert env t u) := by
  grind [CredentialRepository.upsert, CredentialRepository.getRow]

@[grind ←] theorem RuleStateRepository.setEnabled_touches (env : Env) (t r : String) (b : Bool)
    [Covers F .ruleStates] :
    Touches F (RuleStateRepository.setEnabled env t r b) := by
  grind [RuleStateRepository.setEnabled]

@[grind ←] theorem issueToken_touches (rt : Runtime) (env : Env) (p : Principal)
    [Covers F .tokens] : Touches F (issueToken rt env p) := by
  grind [issueToken]

@[grind ←] theorem TokenRepository.revoke_touches (env : Env) (t jti : String)
    [Covers F .revokedTokens] : Touches F (TokenRepository.revoke env t jti) := by
  grind [TokenRepository.revoke]

@[grind ←] theorem TokenRepository.isRevoked_touches (jti : String) :
    Touches F (TokenRepository.isRevoked jti) := by
  grind [TokenRepository.isRevoked]

@[grind ←] theorem TenantRepository.get_touches (t : String) : Touches F (TenantRepository.get t) := by
  grind [TenantRepository.get]

@[grind ←] theorem InvestigationRepository.get_touches (t invId : String) :
    Touches F (InvestigationRepository.get t invId) := by
  grind [InvestigationRepository.get]

@[grind ←] theorem CaseWorkflowMixin.sla_touches (env : Env) (t invId : String) :
    Touches F (CaseWorkflowMixin.sla env t invId) := by
  grind [CaseWorkflowMixin.sla]

theorem InvestigationRepository.approveAction_touches (t invId : String) (i : Int)
    [Covers F .investigations] :
    Touches F (InvestigationRepository.approveAction t invId i) := by
  grind [InvestigationRepository.approveAction]

theorem InvestigationRepository.executeAction_touches (env : Env) (t invId : String) (i : Int)
    [Covers F .investigations] [Covers F .connectors] :
    Touches F (InvestigationRepository.executeAction env t invId i) := by
  unfold InvestigationRepository.executeAction
  refine (InvestigationRepository.getRow_touches t invId).bind fun row => ?_
  cases row with
  | none => exact Touches.pure (Except.error CaseError.notFound)
  | some row =>
    dsimp only
    cases executableAction i row with
    | error e => exact Touches.pure (Except.error e)
    | ok action => grind

theorem InvestigationRepository.setAssignee_touches (t invId : String) (assignee : Option String)
    [Covers F .investigations] :
    Touches F (InvestigationRepository.setAssignee t invId assignee) := by
  grind [InvestigationRepository.setAssignee]

@[grind ←] theorem InvestigationRepository.addNote_touches (env : Env) (t invId u b : String)
    [Covers F .caseNotes] :
    Touches F (InvestigationRepository.addNote env t invId u b) := by
  unfold InvestigationRepository.addNote
  refine (InvestigationRepository.getRow_touches t invId).bind fun row => ?_
  cases row with
  | none => exact Touches.pure none
  | some row => grind

@[grind ←] theorem InvestigationRepository.list_touches (t : String) (s v a : Option String)
    (n k : Nat) : Touches F (InvestigationRepository.list t s v a n k) := by
  grind [InvestigationRepository.list]

theorem CaseWorkflowMixin.transitionStatus_touches (env : Env) (t invId target : String)
    [Covers F .investigations] :
    Touches F (CaseWorkflowMixin.transitionStatus env t invId target) := by
  unfold CaseWorkflowMixin.transitionStatus
  refine (InvestigationRepository.getRow_touches t invId).bind fun row => ?_
  cases row with
  | none => exact Touches.pure (Except.error CaseError.notFound)
  | some row => grind

@[grind ←] theorem QuotaService.status_touches (env : Env) (t p k : String) (n : Int) :
    Touches F (QuotaService.status env t p k n) := by
  grind [QuotaService.status, QuotaService.usedThisMonth]

@[grind ←] theorem MeteringService.rollup_touches (t : String) (a b : Option Time) :
    Touches F (MeteringService.rollup t a b) := by
  grind [MeteringService.rollup]

@[grind ←] theorem UserRepository.list_touches (t : String) : Touches F (UserRepository.list t) := by
  grind [UserRepository.list]

@[grind ←] theorem UserRepository.authenticate_touches (rt : Runtime) (t u p : String) :
    Touches F (UserRepository.authenticate rt t u p) := by
  grind [UserRepository.authenticate, UserRepository.getByUsername]

@[grind ←] theorem RuleStateRepository.disabledRuleIds_touches (t : String) :
    Touches F (RuleStateRepository.disabledRuleIds t) := by
  grind [RuleStateRepository.disabledRuleIds]

@[grind ←] theorem CredentialRepository.view_touches (t : String) :
    Touches F (CredentialRepository.view t) := by
  grind [CredentialRepository.view, CredentialRepository.getRow]

/-! ## Dependencies -/

@[grind ←] theorem Deps.principalOfToken_touches (env : Env) (t : Token) :
    Touches F (Deps.principalOfToken env t) := by
  unfold Deps.principalOfToken
  refine Touches.bind (readClock_touches env) fun now => Touches.bind get_touches fun s => ?_
  refine Touches.bind (ofExcept_touches _) fun principal => ?_
  grind

@[grind ←] theorem Deps.getPrincipal_touches (env : Env) (auth : Authorization) :
    Touches F (Deps.getPrincipal env auth) := by
  cases auth <;> grind [Deps.getPrincipal]

@[grind ←] theorem Deps.require_touches (env : Env) (auth : Authorization) (p : Permission) :
    Touches F (Deps.require env auth p) := by
  grind [Deps.require]

@[grind ←] theorem Deps.requireProvider_touches (env : Env) (auth : Authorization) :
    Touches F (Deps.requireProvider env auth) := by
  grind [Deps.requireProvider]

@[grind ←] theorem Deps.getTenantOrchestrator_touches (rt : Runtime) (p : Principal) :
    Touches F (Deps.getTenantOrchestrator rt p) := by
  grind [Deps.getTenantOrchestrator, CredentialRepository.getRow]

@[grind ←] theorem Deps.validateLength_touches (f : String) (lo hi : Nat) (v : String) :
    Touches F (Deps.validateLength f lo hi v) := by
  grind [Deps.validateLength]

@[grind ←] theorem Deps.validateRange_touches (f : String) (lo : Int) (hi : Option Int) (v : Int) :
    Touches F (Deps.validateRange f lo hi v) := by
  grind [Deps.validateRange]

@[grind ←] theorem bindOffset_touches (offset : Int) : Touches F (bindOffset offset) := by
  grind [bindOffset]

end SentinelAI
