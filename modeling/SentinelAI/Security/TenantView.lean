import SentinelAI.Security.RequestFootprints
import SentinelAI.Security.TenantOps

/-
  What a tenant can see of the whole service: its rows, its own tenant, its revocations, its
  notifications and its tokens. Two sessions are alike to a tenant if it sees the same in
  both, at the same point of a request. What is confined to the tenant in the database keeps
  them alike (`Steady.of_confined`); so do the gate, the pipeline and the notifications.
-/

namespace SentinelAI

open Lib

/-! ## The view of a tenant and the rest -/

structure TenantView where
  rows : TenantRows
  tenant : List TenantRow
  revokedTokens : List RevokedTokenRow
  captured : List Notification
  issued : List Token

/-- What a tenant does not see. The two tables without a tenant's rows are not in `rows`. -/
structure Rest where
  rows : OtherRows
  tenants : List TenantRow
  revokedTokens : List RevokedTokenRow
  captured : List Notification
  issued : List Token

def World.view (w : World) (tenantId : String) : TenantView where
  rows := w.db.rowsOf tenantId
  tenant := w.db.tenants.select fun t => t.id == tenantId
  revokedTokens := w.db.revokedTokens.select fun r => r.tenantId == tenantId
  captured := w.captured.filter fun n => n.tenantId == tenantId
  issued := w.issued.filter fun k => k.tenantId == tenantId

def World.rest (w : World) (tenantId : String) : Rest where
  rows := { w.db.rowsBut tenantId with tenants := .empty, revokedTokens := .empty }
  tenants := w.db.tenants.select fun t => !(t.id == tenantId)
  revokedTokens := w.db.revokedTokens.select fun r => !(r.tenantId == tenantId)
  captured := w.captured.filter fun n => !(n.tenantId == tenantId)
  issued := w.issued.filter fun k => !(k.tenantId == tenantId)

/-- The rest of a database with these two tables. -/
def Rest.pinned (v : Rest) (db : Database) : OtherRows :=
  { v.rows with tenants := db.tenants, revokedTokens := db.revokedTokens }

/-! ## Alike sessions -/

/-- Two lists with the same items under `p`; the other items are `o` and `o'`. -/
structure ListsAgree {α : Type} (p : α → Bool) (o o' l l' : List α) : Prop where
  own : l.filter p = l'.filter p
  left : (l.filter fun a => !p a) = o
  right : (l'.filter fun a => !p a) = o'

theorem ListsAgree.append {α : Type} {p : α → Bool} {o o' l l' : List α}
    (h : ListsAgree p o o' l l') {a : α} (ha : p a = true) :
    ListsAgree p o o' (l ++ [a]) (l' ++ [a]) := by
  have hkept : List.filter (fun a => !p a) [a] = [] := by simp [ha]
  constructor
  · rw [List.filter_append, List.filter_append, h.own]
  · rw [List.filter_append, hkept, List.append_nil, h.left]
  · rw [List.filter_append, hkept, List.append_nil, h.right]

/-- Two databases with the same rows of a tenant; the rest is `v` and `v'`. -/
structure SameRows (tenantId : String) (v v' : Rest) (db db' : Database) : Prop where
  own : db.rowsOf tenantId = db'.rowsOf tenantId
  left : db.rowsBut tenantId = v.pinned db
  right : db'.rowsBut tenantId = v'.pinned db'
  tenants : KeyedTable.AgreeOn (fun t => t.id == tenantId) v.tenants v'.tenants db.tenants db'.tenants
  revokedTokens : KeyedTable.AgreeOn (fun r => r.tenantId == tenantId) v.revokedTokens
    v'.revokedTokens db.revokedTokens db'.revokedTokens

/-- Two sessions a tenant cannot tell apart, at the same point of its request. -/
structure Alike (tenantId : String) (v v' : Rest) (s t : Session) : Prop where
  db : SameRows tenantId v v' s.db t.db
  committed : SameRows tenantId v v' s.committed t.committed
  captured : ListsAgree (fun n => n.tenantId == tenantId) v.captured v'.captured s.captured t.captured
  issued : ListsAgree (fun k => k.tenantId == tenantId) v.issued v'.issued s.issued t.issued
  ticks : s.ticks = t.ticks
  uuids : s.uuids = t.uuids
  breaker : s.breaker = t.breaker
  searches : s.searches = t.searches
  completions : s.completions = t.completions

/-- The sessions of one request in two worlds with the same view. -/
theorem alike_of_view {tenantId : String} {w w' : World} (h : w.view tenantId = w'.view tenantId) :
    Alike tenantId (w.rest tenantId) (w'.rest tenantId) w.session w'.session := by
  injection h with hrows htenant hrevoked hcaptured hissued
  have hdb : SameRows tenantId (w.rest tenantId) (w'.rest tenantId) w.db w'.db :=
    ⟨hrows, rfl, rfl, ⟨htenant, rfl, rfl⟩, ⟨hrevoked, rfl, rfl⟩⟩
  exact ⟨hdb, hdb, ⟨hcaptured, rfl, rfl⟩, ⟨hissued, rfl, rfl⟩, rfl, rfl, rfl, rfl, rfl⟩

/-- The world a request leaves behind: rows, and what its session holds besides. -/
def World.after (db : Database) (s : Session) : World where
  db := db
  issued := s.issued
  captured := s.captured

/-- Worlds made of alike sessions have the same view, and the rests they started with. -/
theorem view_of_alike {tenantId : String} {w w' : World} {db db' : Database} {s t : Session}
    (hdb : SameRows tenantId (w.rest tenantId) (w'.rest tenantId) db db')
    (h : Alike tenantId (w.rest tenantId) (w'.rest tenantId) s t) :
    (World.after db s).view tenantId = (World.after db' t).view tenantId ∧
      (World.after db s).rest tenantId = w.rest tenantId ∧
      (World.after db' t).rest tenantId = w'.rest tenantId := by
  refine ⟨?_, ?_, ?_⟩
  · unfold World.view World.after
    dsimp only
    rw [hdb.own, hdb.tenants.own, hdb.revokedTokens.own, h.captured.own, h.issued.own]
  · have hrest : (World.after db s).rest tenantId = ⟨{ db.rowsBut tenantId with
        tenants := .empty, revokedTokens := .empty }, (w.rest tenantId).tenants,
        (w.rest tenantId).revokedTokens, (w.rest tenantId).captured, (w.rest tenantId).issued⟩ := by
      rw [← hdb.tenants.left, ← hdb.revokedTokens.left, ← h.captured.left, ← h.issued.left]
      rfl
    rw [hrest, hdb.left]
    rfl
  · have hrest : (World.after db' t).rest tenantId = ⟨{ db'.rowsBut tenantId with
        tenants := .empty, revokedTokens := .empty }, (w'.rest tenantId).tenants,
        (w'.rest tenantId).revokedTokens, (w'.rest tenantId).captured, (w'.rest tenantId).issued⟩ := by
      rw [← hdb.tenants.right, ← hdb.revokedTokens.right, ← h.captured.right, ← h.issued.right]
      rfl
    rw [hrest, hdb.right]
    rfl

/-! ## What keeps sessions alike -/

/-- Started in alike sessions, `m` ends alike in both. -/
abbrev Steady {α : Type} (tenantId : String) (v v' : Rest) (m : ApiM α) : Prop :=
  Agree (Alike tenantId v v') Eq m m

/-- What a statement leaves of a session, besides rows, clock and uuids. -/
structure Aside (s t : Session) : Prop where
  committed : t.committed = s.committed
  captured : t.captured = s.captured
  issued : t.issued = s.issued
  breaker : t.breaker = s.breaker
  searches : t.searches = s.searches
  completions : t.completions = s.completions

instance : IsPreorder Session Aside where
  refl _ := ⟨rfl, rfl, rfl, rfl, rfl, rfl⟩
  trans _ _ _ h h' := ⟨h'.committed.trans h.committed, h'.captured.trans h.captured,
    h'.issued.trans h.issued, h'.breaker.trans h.breaker, h'.searches.trans h.searches,
    h'.completions.trans h.completions⟩

/-- A computation that leaves it. -/
structure Statements {α : Type} (m : ApiM α) : Prop where
  moves : Moves Aside m

section

variable {α β : Type}

namespace Statements

theorem of_fields {m : ApiM α} (h : ∀ s, Aside s (stateOf (m.run s))) : Statements m := ⟨h⟩

@[grind ←] theorem pure (a : α) : Statements (Pure.pure a) := ⟨Moves.pure a⟩

@[grind ←] theorem throw (e : Exc) : Statements (MonadExcept.throw e : ApiM α) := ⟨Moves.throw e⟩

@[grind ←] theorem bind {x : ApiM α} {f : α → ApiM β} (hx : Statements x)
    (hf : ∀ a, Statements (f a)) : Statements (x >>= f) := ⟨hx.moves.bind fun a => (hf a).moves⟩

@[grind ←] theorem map {x : ApiM α} (f : α → β) (hx : Statements x) : Statements (f <$> x) :=
  ⟨hx.moves.map f⟩

@[grind ←] theorem forM {γ : Type} {f : γ → ApiM PUnit} (hf : ∀ c, Statements (f c)) (cs : List γ) :
    Statements (cs.forM f) := ⟨Moves.forM (fun c => (hf c).moves) cs⟩

@[grind ←] theorem attempt {m : ApiM α} (h : Statements m) : Statements (attempt m) := by
  refine ⟨fun s => ?_⟩
  have hs := h.moves s
  rw [attempt_run]
  cases hm : m.run s <;> rwa [hm] at hs

end Statements

@[grind ←] theorem query_statements (f : Database → α) : Statements (query f) :=
  .of_fields fun s => refl_of Aside s

@[grind ←] theorem readClock_statements (env : Env) : Statements (readClock env) :=
  .of_fields fun _ => ⟨rfl, rfl, rfl, rfl, rfl, rfl⟩

@[grind ←] theorem uuidHex_statements (env : Env) : Statements (uuidHex env) :=
  .of_fields fun _ => ⟨rfl, rfl, rfl, rfl, rfl, rfl⟩

@[grind ←] theorem raiseIf_statements (c : Bool) (e : Exc) : Statements (raiseIf c e) := by
  cases c <;> grind [raiseIf]

@[grind ←] theorem ofExcept_statements (x : Except Exc α) : Statements (ofExcept x) := by
  cases x <;> grind [ofExcept]

@[grind ←] theorem dbCall_statements (f : Database → Except Exc (α × Database)) :
    Statements (dbCall f) := by
  refine .of_fields fun s => ?_
  show Aside s (stateOf (dbCall f s))
  unfold dbCall
  cases f s.db with
  | ok x => exact ⟨rfl, rfl, rfl, rfl, rfl, rfl⟩
  | error e => exact refl_of Aside s

@[grind ←] theorem execute_statements (env : Env) (actionType target : String) :
    Statements (ActionExecutor.execute env actionType target) := by
  refine .of_fields fun s => ?_
  rw [ActionExecutor.execute_run, ofExcept_run]
  cases executorResult env.connectors actionType target <;> exact ⟨rfl, rfl, rfl, rfl, rfl, rfl⟩

end

section

variable {ρ : Type} [Keyed ρ String] {T : TableRef (KeyedTable ρ)}

@[grind ←] theorem selectAll_statements (p : ρ → Bool) : Statements (selectAll T p) :=
  query_statements _

@[grind ←] theorem selectOne_statements (p : ρ → Bool) : Statements (selectOne T p) := by
  unfold selectOne
  refine Statements.bind (selectAll_statements p) fun rows => ?_
  unfold oneOrNone
  split <;> grind

@[grind ←] theorem sessionGet_statements (k : String) : Statements (sessionGet T k) :=
  query_statements _

@[grind ←] theorem insertRow_statements (row : ρ) : Statements (insertRow T row) :=
  dbCall_statements _

@[grind ←] theorem updateRow_statements (k : String) (f : ρ → ρ)
    (hf : ∀ r, Keyed.key (f r) = Keyed.key r) : Statements (updateRow T k f hf) :=
  dbCall_statements _

@[grind ←] theorem deleteRow_statements (k : String) : Statements (deleteRow T k) :=
  dbCall_statements _

@[grind ←] theorem insertAuto_statements {α : Type} {T : TableRef (AutoTable α)} (row : α) :
    Statements (insertAuto T row) := dbCall_statements _

@[grind ←] theorem selectIds_statements {α : Type} {T : TableRef (AutoTable α)} (p : α → Bool) :
    Statements (selectIds T p) := query_statements _

end

@[grind ←] theorem InvestigationRepository.getRow_statements (tenantId invId : String) :
    Statements (InvestigationRepository.getRow tenantId invId) := selectOne_statements _

@[grind ←] theorem InvestigationRepository.flush_statements (row : InvestigationRow) :
    Statements (InvestigationRepository.flush row) := updateRow_statements _ _ _

/-! ## Confined statements -/

section

variable {α : Type} {tenantId : String} {v v' : Rest}

theorem Alike.isolated {s t : Session} (h : Alike tenantId v v' s t) :
    Isolated tenantId (v.pinned s.db) (v'.pinned t.db) s t :=
  isolated_iff.mpr ⟨h.db.own, h.db.left, h.db.right, h.ticks, h.uuids⟩

/-- Sessions that a statement leaves isolated, it leaves alike. -/
theorem Alike.of_isolated {s t s' t' : Session} (h : Alike tenantId v v' s t)
    (hi : Isolated tenantId (v.pinned s.db) (v'.pinned t.db) s' t') (hs : Aside s s') (ht : Aside t t') :
    Alike tenantId v v' s' t' := by
  obtain ⟨hown, hleft, hright, hticks, huuids⟩ := isolated_iff.mp hi
  refine ⟨⟨hown, ?_, ?_, ?_, ?_⟩, ?_, ?_, ?_, hticks, huuids, ?_, ?_, ?_⟩
  · rw [hleft, Rest.pinned, Rest.pinned, hi.tenants.1, hi.revokedTokens.1]
    rfl
  · rw [hright, Rest.pinned, Rest.pinned, hi.tenants.2, hi.revokedTokens.2]
    rfl
  · rw [hi.tenants.1, hi.tenants.2]
    exact h.db.tenants
  · rw [hi.revokedTokens.1, hi.revokedTokens.2]
    exact h.db.revokedTokens
  · rw [hs.committed, ht.committed]
    exact h.committed
  · rw [hs.captured, ht.captured]
    exact h.captured
  · rw [hs.issued, ht.issued]
    exact h.issued
  · rw [hs.breaker, ht.breaker, h.breaker]
  · rw [hs.searches, ht.searches, h.searches]
  · rw [hs.completions, ht.completions, h.completions]

/-- What is confined to the tenant's rows, whatever the two tables of all tenants hold. -/
theorem agree_of_confined {Q : α → α → Prop} {m : ApiM α} (hm : Statements m)
    (h : ∀ db db', Agree (Isolated tenantId (v.pinned db) (v'.pinned db')) Q m m) :
    Agree (Alike tenantId v v') Q m m := by
  intro s t hst
  have hagree := h s.db t.db s t hst.isolated
  have hs := hm.moves s
  have ht := hm.moves t
  cases hrun : m.run s with
  | ok a s' =>
    cases hrun' : m.run t with
    | ok b t' =>
      rw [hrun, hrun'] at hagree
      rw [hrun] at hs
      rw [hrun'] at ht
      exact ⟨hagree.1, hst.of_isolated hagree.2 hs ht⟩
    | error e t' =>
      rw [hrun, hrun'] at hagree
      exact hagree.elim
  | error e s' =>
    cases hrun' : m.run t with
    | ok b t' =>
      rw [hrun, hrun'] at hagree
      exact hagree.elim
    | error e' t' =>
      rw [hrun, hrun'] at hagree
      rw [hrun] at hs
      rw [hrun'] at ht
      exact ⟨hagree.1, hst.of_isolated hagree.2 hs ht⟩

end

/-! ## Clock, checks and answers of the world -/

section

variable {α β : Type} {tenantId : String} {v v' : Rest}

theorem readClock_steady (env : Env) : Steady tenantId v v' (readClock env) :=
  agree_of_confined (by grind) fun _ _ => readClock_confined env

theorem uuidHex_steady (env : Env) :
    Agree (Alike tenantId v v') (fun a b => a = b ∧ ∃ n, a = env.uuid4 n) (uuidHex env) (uuidHex env) :=
  agree_of_confined (by grind) fun _ _ => uuidHex_confined env

theorem raiseIf_steady (c : Bool) (e : Exc) : Steady tenantId v v' (raiseIf c e) :=
  Agree.ite (Agree.throw _ e) (Agree.pure rfl)

theorem orRaise_steady (e : Exc) (o : Option α) : Steady tenantId v v' (orRaise e o) := by
  cases o with
  | none => exact Agree.throw _ e
  | some a => exact Agree.pure rfl

theorem ofExcept_steady (x : Except Exc α) : Steady tenantId v v' (ofExcept x) := by
  cases x with
  | error e => exact Agree.throw _ e
  | ok a => exact Agree.pure rfl

theorem attempt_steady {m : ApiM α} (h : Steady tenantId v v' m) : Steady tenantId v v' (attempt m) := by
  intro s t hst
  have hm := h s t hst
  rw [attempt_run, attempt_run]
  cases hs : m.run s with
  | ok a s' =>
    cases ht : m.run t with
    | ok b t' =>
      rw [hs, ht] at hm
      exact ⟨congrArg Except.ok hm.1, hm.2⟩
    | error e t' =>
      rw [hs, ht] at hm
      exact hm.elim
  | error e s' =>
    cases ht : m.run t with
    | ok b t' =>
      rw [hs, ht] at hm
      exact hm.elim
    | error e' t' =>
      rw [hs, ht] at hm
      exact ⟨congrArg Except.error hm.1, hm.2⟩

/-- A first step that reads the session. -/
theorem get_steady {f : Session → ApiM α}
    (h : ∀ s t, Alike tenantId v v' s t → Agree (Alike tenantId v v') Eq (f s) (f t)) :
    Steady tenantId v v' (get >>= f) :=
  Agree.bind (Q := Alike tenantId v v') (fun _ _ h => ⟨h, h⟩) h

theorem mapM_steady {γ : Type} {f : γ → ApiM β} (hf : ∀ c, Steady tenantId v v' (f c)) :
    ∀ cs : List γ, Steady tenantId v v' (cs.mapM f)
  | [] => by
      rw [List.mapM_nil]
      exact Agree.pure rfl
  | c :: cs => by
      rw [List.mapM_cons]
      exact Agree.bind_eq (hf c) fun b => Agree.bind_eq (mapM_steady hf cs) fun bs => Agree.pure rfl

/-! ## Searches, completions and the breaker -/

theorem search_steady (env : Env) (client : SplunkClient) (spl a b : String) :
    Steady tenantId v v' (client.search env spl a b) := by
  unfold SplunkClient.search
  refine get_steady fun s t hst => ?_
  dsimp only
  rw [hst.searches]
  refine Agree.bind_eq (fun s t h => ⟨rfl, { h with searches := ?_ }⟩) fun _ => ofExcept_steady _
  exact congrArg (· ++ [⟨client, spl⟩]) h.searches

theorem complete_steady (env : Env) (model : AIModel) (sys user : String) :
    Steady tenantId v v' (model.complete env sys user) := by
  unfold AIModel.complete
  refine get_steady fun s t hst => ?_
  dsimp only
  rw [hst.completions]
  refine Agree.bind_eq (fun s t h => ⟨rfl, { h with completions := ?_ }⟩) fun _ => ofExcept_steady _
  exact congrArg (· ++ [model]) h.completions

theorem breakerIsOpen_steady (env : Env) : Steady tenantId v v' (breakerIsOpen env) := by
  unfold breakerIsOpen
  refine get_steady fun s t hst => ?_
  dsimp only
  rw [hst.breaker]
  cases t.breaker.openedAt with
  | none => exact Agree.pure rfl
  | some opened => exact Agree.bind_eq (readClock_steady env) fun _ => Agree.pure rfl

/-- A change of the breaker that depends on nothing else. -/
theorem modifyBreaker_steady (f : CircuitBreaker → CircuitBreaker) :
    Steady tenantId v v' (modify fun s => { s with breaker := f s.breaker }) :=
  fun _ _ h => ⟨rfl, { h with breaker := congrArg f h.breaker }⟩

theorem breakerFailure_steady (env : Env) : Steady tenantId v v' (breakerFailure env) := by
  unfold breakerFailure
  refine get_steady fun s t hst => ?_
  dsimp only
  rw [hst.breaker]
  refine Agree.ite (Agree.bind_eq (readClock_steady env) fun now => ?_) ?_
  · exact modifyBreaker_steady fun b => b.recordFailure now
  · exact modifyBreaker_steady fun b => b.recordFailure 0

theorem retryLoop_steady (env : Env) {func : ApiM α} (hfunc : Steady tenantId v v' func) (baseDelay : ℚ)
    (dontRetry : Exc → Bool) : ∀ left k : Nat,
      Steady tenantId v v' (retryLoop env func baseDelay dontRetry k left)
  | left, k => by
    unfold retryLoop
    refine Agree.bind_eq (attempt_steady hfunc) fun o => ?_
    cases o with
    | ok a => exact Agree.bind_eq (modifyBreaker_steady _) fun _ => Agree.pure rfl
    | error e =>
      refine Agree.ite (Agree.throw _ e) (Agree.bind_eq (breakerFailure_steady env) fun _ => ?_)
      cases left with
      | zero => exact Agree.throw _ e
      | succ left =>
        refine Agree.bind_eq (fun s t h => ⟨rfl, { h with }⟩) fun _ => ?_
        exact retryLoop_steady env hfunc baseDelay dontRetry left (k + 1)

theorem withRetry_steady (env : Env) {func : ApiM α} (hfunc : Steady tenantId v v' func)
    (dontRetry : Exc → Bool) : Steady tenantId v v' (withRetry env func dontRetry) := by
  unfold withRetry
  refine Agree.bind_eq (breakerIsOpen_steady env) fun o => ?_
  exact Agree.ite (Agree.throw _ _) (retryLoop_steady env hfunc _ _ _ _)

/-! ## The pipeline -/

theorem uuid_steady (env : Env) : Steady tenantId v v' (uuidHex env) :=
  (uuidHex_steady env).mono fun _ _ h => h.1

theorem runDetections_steady (env : Env) (orch : Orchestrator) (disabled : List String) :
    Steady tenantId v v' (orch.runDetections env disabled) := by
  refine Agree.bind_eq (mapM_steady (fun rule => ?_) _) fun _ => Agree.pure rfl
  unfold DetectionAgent.runRule
  refine Agree.ite (Agree.pure rfl) ?_
  refine Agree.bind_eq (withRetry_steady env (search_steady env _ _ _ _) _) fun result => ?_
  refine Agree.ite (Agree.pure rfl) (Agree.bind_eq ?_ fun _ => Agree.pure rfl)
  refine Agree.bind_eq (uuid_steady env) fun _ => ?_
  exact Agree.bind_eq (readClock_steady env) fun _ => Agree.pure rfl

theorem triage_steady (rt : Runtime) (env : Env) (model : AIModel) (d : Detection) :
    Steady tenantId v v' (TriageAgent.triage rt env model d) := by
  unfold TriageAgent.triage
  refine Agree.bind_eq (attempt_steady ?_) fun o => ?_
  · refine Agree.bind_eq (complete_steady env model _ _) fun text => ?_
    cases rt.jsonLoads text with
    | ok value => exact Agree.pure rfl
    | error name => exact Agree.throw _ _
  · cases o with
    | ok data =>
      cases data with
      | obj fields => exact ofExcept_steady _
      | _ => exact Agree.throw _ _
    | error e =>
      cases e with
      | aiModel text => exact Agree.pure rfl
      | _ => exact Agree.throw _ _

theorem runFullPipeline_steady (rt : Runtime) (env : Env) (orch : Orchestrator) (disabled : List String) :
    Steady tenantId v v' (orch.runFullPipeline rt env disabled) := by
  refine Agree.bind_eq (runDetections_steady env orch disabled) fun ds => mapM_steady (fun d => ?_) ds
  refine Agree.bind_eq (triage_steady rt env _ _) fun verdict => ?_
  refine Agree.bind_eq (complete_steady env _ _ _) fun summary => ?_
  refine Agree.bind_eq (uuid_steady env) fun uuid => ?_
  exact Agree.bind_eq (readClock_steady env) fun now => Agree.pure rfl

theorem correlate_steady (env : Env) (invs : List Investigation) :
    Steady tenantId v v' (correlate env invs) := by
  refine Agree.bind_eq (mapM_steady (fun g => ?_) _) fun _ => Agree.pure rfl
  cases g.members with
  | nil => exact Agree.pure rfl
  | cons first rest =>
    refine (Agree.bind_eq (uuid_steady env) fun uuid => ?_).map _ _ fun a b h => congrArg some h
    exact Agree.bind_eq (readClock_steady env) fun now => Agree.pure rfl

/-! ## Notifications and tokens -/

theorem notify_steady (env : Env) {n : Notification} (h : n.tenantId = tenantId) :
    Steady tenantId v v' (NotificationService.notify env n) := by
  refine Agree.bind_eq (mapM_steady (fun c => ?_) _) fun _ => Agree.pure rfl
  cases c with
  | capture =>
    refine Agree.bind_eq (fun s t hst => ⟨rfl, { hst with captured := ?_ }⟩) fun _ => Agree.pure rfl
    exact hst.captured.append (by simpa using h)
  | webhook send => exact ofExcept_steady _

theorem issueToken_steady (rt : Runtime) (env : Env) {p : Principal} (h : p.tenantId = tenantId) :
    Steady tenantId v v' (issueToken rt env p) := by
  refine Agree.bind_eq (readClock_steady env) fun now => ?_
  refine Agree.bind_eq (uuid_steady env) fun jti => ?_
  refine Agree.bind_eq (fun s t hst => ⟨rfl, { hst with issued := ?_ }⟩) fun _ => Agree.pure rfl
  exact hst.issued.append (by simpa [newToken] using h)

theorem commit_steady : Steady tenantId v v' commit := fun _ _ h => ⟨rfl, { h with committed := h.db }⟩

end

/-! ## The tenant and its revocations -/

section

variable {tenantId : String} {v v' : Rest}

/-- The tenant's id is no other tenant's. -/
theorem SameRows.free_tenant {db db' : Database} (h : SameRows tenantId v v' db db') :
    KeyedTable.FreeKey v.tenants v'.tenants tenantId := by
  have hother {t : KeyedTable TenantRow} {o : List TenantRow}
      (ho : (t.select fun t => !(t.id == tenantId)) = o) : ∀ r ∈ o, Keyed.key r ≠ tenantId := by
    rintro r hr hkey
    rw [← ho] at hr
    obtain ⟨_, hp⟩ := KeyedTable.mem_select.mp hr
    have hid : r.id = tenantId := hkey
    simp [hid] at hp
  exact ⟨hother h.tenants.left, hother h.tenants.right⟩

theorem tenantGet_steady :
    Agree (Alike tenantId v v') (fun a b => a = b ∧ ∀ t ∈ a, t.id = tenantId)
      (TenantRepository.get tenantId) (TenantRepository.get tenantId) := by
  intro s t h
  refine ⟨⟨h.db.tenants.find?_eq h.db.free_tenant, fun r hr => ?_⟩, h⟩
  exact ((s.db.tenants.find?_eq_some tenantId r).mp hr).2

/-- The same rows, with other tables of tenants and revocations that agree. -/
theorem SameRows.withTables {db db' : Database} (h : SameRows tenantId v v' db db')
    {u u' : KeyedTable TenantRow} {x x' : KeyedTable RevokedTokenRow}
    (hu : KeyedTable.AgreeOn (fun t => t.id == tenantId) v.tenants v'.tenants u u')
    (hx : KeyedTable.AgreeOn (fun r => r.tenantId == tenantId) v.revokedTokens v'.revokedTokens x x') :
    SameRows tenantId v v' { db with tenants := u, revokedTokens := x }
      { db' with tenants := u', revokedTokens := x' } := by
  have hpinned {db : Database} {v : Rest} {u : KeyedTable TenantRow} {x : KeyedTable RevokedTokenRow}
      (hrest : db.rowsBut tenantId = v.pinned db) :
      Database.rowsBut { db with tenants := u, revokedTokens := x } tenantId =
        v.pinned { db with tenants := u, revokedTokens := x } := by
    unfold Database.rowsBut Rest.pinned at *
    injection hrest with h₁ h₂ h₃ h₄ h₅ h₆ h₇ h₈
    rw [h₁, h₂, h₃, h₄, h₅, h₆, h₇, h₈]
  exact ⟨h.own, hpinned h.left, hpinned h.right, hu, hx⟩

theorem tenantUpdate_steady (f : TenantRow → TenantRow) (hf : ∀ r, (f r).id = r.id) :
    Steady tenantId v v' (TenantRepository.update tenantId f hf) := by
  refine tenantGet_steady.bind ?_
  rintro (_ | tenant) _ ⟨rfl, hid⟩
  · exact Agree.pure rfl
  · have hkey : tenant.id = tenantId := hid tenant rfl
    refine Agree.bind_eq (fun s t h => ⟨rfl, { h with db := h.db.withTables ?_ h.db.revokedTokens }⟩) fun _ =>
      Agree.pure rfl
    refine h.db.tenants.modify (hkey ▸ h.db.free_tenant) hf fun r hr => ?_
    have hr' : r.id = tenantId := by simpa using hr
    simpa [hf] using hr'

/-- No other tenant has revoked a token of this id. -/
abbrev FreeJti (v v' : Rest) (jti : String) : Prop :=
  KeyedTable.FreeKey v.revokedTokens v'.revokedTokens jti

theorem isRevoked_steady {jti : String} (h : FreeJti v v' jti) :
    Steady tenantId v v' (TokenRepository.isRevoked jti) := by
  refine Agree.bind_eq (fun s t hst => ⟨?_, hst⟩) fun _ => Agree.pure rfl
  exact hst.db.revokedTokens.find?_eq h

theorem revoke_steady (env : Env) {jti : String} (h : FreeJti v v' jti) :
    Steady tenantId v v' (TokenRepository.revoke env tenantId jti) := by
  refine Agree.bind_eq (fun s t hst => ⟨hst.db.revokedTokens.find?_eq h, hst⟩) fun o => ?_
  cases o with
  | some row => exact Agree.pure rfl
  | none =>
    refine Agree.bind_eq (readClock_steady env) fun now s t hst => ?_
    let row : RevokedTokenRow := { jti := jti, tenantId := tenantId, revokedAt := now }
    have hs := insertRow_cases Tables.revokedTokens row s
    have ht := insertRow_cases Tables.revokedTokens row t
    have hown : (row.tenantId == tenantId) = true := by simp [row]
    obtain ⟨hn, hn'⟩ | ⟨u, u', hu, hu', hagree⟩ := hst.db.revokedTokens.insert? hown h
    · obtain ⟨_, hins, _⟩ | ⟨_, hs⟩ := hs
      · cases hn.symm.trans hins
      obtain ⟨_, hins, _⟩ | ⟨_, ht⟩ := ht
      · cases hn'.symm.trans hins
      rw [hs, ht]
      exact ⟨rfl, hst⟩
    · obtain ⟨_, hins, hs⟩ | ⟨hins, _⟩ := hs
      · cases hu.symm.trans hins
        obtain ⟨_, hins, ht⟩ | ⟨hins, _⟩ := ht
        · cases hu'.symm.trans hins
          rw [hs, ht]
          exact ⟨rfl, { hst with db := hst.db.withTables hst.db.tenants hagree }⟩
        · cases hu'.symm.trans hins
      · cases hu.symm.trans hins

/-! ## The gate -/

/-- A header with a token of the tenant, if with any, whose id no other tenant has revoked. -/
def AuthOf (tenantId : String) (v v' : Rest) (auth : Authorization) : Prop :=
  ∀ token, auth = .bearer token → token.tenantId = tenantId ∧ FreeJti v v' token.jti

variable {auth : Authorization}

theorem getPrincipal_steady (env : Env) (h : AuthOf tenantId v v' auth) :
    Agree (Alike tenantId v v')
      (fun p q => p = q ∧ p.tenantId = tenantId ∧ ∀ jti ∈ p.jti, FreeJti v v' jti)
      (Deps.getPrincipal env auth) (Deps.getPrincipal env auth) := by
  cases auth with
  | missing => exact Agree.throw _ _
  | unsigned => exact Agree.throw _ _
  | bearer token =>
    obtain ⟨hown, hjti⟩ := h token rfl
    refine Agree.bind_eq (readClock_steady env) fun now => ?_
    refine Agree.bind (Q := Alike tenantId v v') (fun _ _ h => ⟨h, h⟩) fun s t hst => ?_
    have hsigned : token ∈ s.issued ↔ token ∈ t.issued := by
      have hmem {l : List Token} : token ∈ l ↔ token ∈ l.filter fun k => k.tenantId == tenantId := by
        simp [hown]
      rw [hmem, hst.issued.own, ← hmem]
    have hdecode : principalFromToken s.issued now token = principalFromToken t.issued now token := by
      unfold principalFromToken decodeAccessToken
      simp only [hsigned]
    dsimp only
    rw [hdecode]
    refine Agree.bind (Q := fun p q => p = q ∧ p = token.principal) ?_ ?_
    · cases hp : principalFromToken t.issued now token with
      | error e => exact Agree.throw _ e
      | ok p => exact Agree.pure ⟨rfl, (principalFromToken_ok hp).2.2.2⟩
    rintro p _ ⟨rfl, rfl⟩
    refine Agree.bind_eq (isRevoked_steady hjti) fun revoked => ?_
    refine Agree.bind_eq (raiseIf_steady _ _) fun _ => ?_
    have htenant : token.principal.tenantId = tenantId := hown
    rw [htenant]
    refine Agree.bind_eq (tenantGet_steady.mono fun _ _ h => h.1) fun tenant => ?_
    refine Agree.bind_eq (raiseIf_steady _ _) fun _ => Agree.pure ⟨rfl, hown, ?_⟩
    rintro jti hmem
    cases hmem
    exact hjti

/-- What a route does for the principal of a header. -/
theorem require_steady {α : Type} {Q : α → α → Prop} {env : Env} (h : AuthOf tenantId v v' auth)
    {perm : Permission} {k : Principal → ApiM α}
    (hk : ∀ p, p.tenantId = tenantId → Agree (Alike tenantId v v') Q (k p) (k p)) :
    Agree (Alike tenantId v v') Q (Deps.require env auth perm >>= k)
      (Deps.require env auth perm >>= k) := by
  refine Agree.bind (Q := fun p q => p = q ∧ p.tenantId = tenantId) ?_ fun p q hpq => hpq.1 ▸ hk p hpq.2
  refine (getPrincipal_steady env h).bind fun p q hpq => ?_
  obtain ⟨rfl, hown, _⟩ := hpq
  exact Agree.bind_eq (raiseIf_steady _ _) fun _ => Agree.pure ⟨rfl, hown⟩

end

end SentinelAI
