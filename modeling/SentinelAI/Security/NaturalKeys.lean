import SentinelAI.Lib.Transactions
import SentinelAI.Security.LastAdministrator

/-
  The natural keys of `users` and `rule_states` under concurrency. `create_user` looks for its
  username and `set_enabled` for its rule before they insert, each in a transaction of its own,
  READ COMMITTED; neither table has a unique constraint on the key.

  A transaction that runs alone does what its route does (`createUser_alone`,
  `toggleRule_alone`). `advances_keyStep` reads every step as one of `Lib/Transactions`, and
  `natural_keys_iff` follows: once all have committed, no key has two rows exactly if each
  transaction that found its key free was then the only one.
-/

namespace SentinelAI

open Lib

/-! ## Keys -/

/-- What a row is looked up by. -/
inductive NaturalKey where
  | username (tenantId username : String)
  | rule (tenantId ruleId : String)
  deriving DecidableEq

/-- The statement of `set_enabled`. -/
def statesOf (db : Database) (tenantId ruleId : String) : List RuleStateRow :=
  db.ruleStates.select fun r => r.tenantId == tenantId && r.ruleId == ruleId

/-- How many rows have a key. -/
def rowsUnder (db : Database) : NaturalKey → Nat
  | .username tenantId username => (usersNamed db tenantId username).length
  | .rule tenantId ruleId => (statesOf db tenantId ruleId).length

/-- The lookups of `authenticate` and `set_enabled` never find two rows. -/
structure SingleRows (db : Database) : Prop where
  authenticate : ∀ rt tenantId username password t,
    (UserRepository.authenticate rt tenantId username password).run (.start db [] []) ≠
      .error .multipleResults t
  setEnabled : ∀ env tenantId ruleId enabled t,
    (RuleStateRepository.setEnabled env tenantId ruleId enabled).run (.start db [] []) ≠
      .error .multipleResults t

/-! ## Transactions -/

/-- A request past its checks: `POST /admin/users` or `PUT /rules/{id}`. -/
inductive KeyRequest where
  | createUser (e : Event) (p : Principal) (body : AdminRoutes.CreateUserRequest)
  | toggleRule (e : Event) (p : Principal) (ruleId : String) (enabled : Bool)

/-- How far the transaction of a request is. -/
inductive KeyPhase where
  | begun
  /-- no row has the key -/
  | free
  | found (row : RuleStateRow)
  | inserted
  | updated (row : RuleStateRow)
  | committed
  /-- 409 or `MultipleResultsFound`, and rolled back -/
  | refused

namespace KeyPhase

/-- Between its query and its commit. -/
def isOpen : KeyPhase → Bool
  | .begun | .committed | .refused => false
  | _ => true

/-- It has found its key free and has not committed its row. -/
def isPending : KeyPhase → Bool
  | .free | .inserted => true
  | _ => false

end KeyPhase

namespace KeyRequest

def key : KeyRequest → NaturalKey
  | createUser _ p body => .username p.tenantId body.username
  | toggleRule _ p ruleId _ => .rule p.tenantId ruleId

/-- The row `set_enabled` adds. -/
def newState (e : Event) (p : Principal) (ruleId : String) (enabled : Bool) : RuleStateRow where
  id := e.env.uuid4 0
  tenantId := p.tenantId
  ruleId := ruleId
  enabled := enabled

/-- The query, on what is committed. -/
def look (db : Database) : KeyRequest → KeyPhase
  | createUser _ p body =>
    match usersNamed db p.tenantId body.username with
    | [] => .free
    | _ => .refused
  | toggleRule _ p ruleId _ =>
    match statesOf db p.tenantId ruleId with
    | [] => .free
    | [row] => .found row
    | _ => .refused

/-- The commit of an inserted row; none when its id is taken. -/
def commitInsert (db : Database) : KeyRequest → Option Database
  | createUser e p body =>
    (db.users.insert? (createdAccount e p body)).map fun users => { db with users := users }
  | toggleRule e p ruleId enabled =>
    (db.ruleStates.insert? (newState e p ruleId enabled)).map fun states =>
      { db with ruleStates := states }

theorem enabled_key (enabled : Bool) (r : RuleStateRow) :
    Keyed.key { r with enabled := enabled } = Keyed.key r := rfl

/-- The commit of an updated row; `create_user` updates none. -/
def commitUpdate (db : Database) (row : RuleStateRow) : KeyRequest → Database
  | createUser _ _ _ => db
  | toggleRule _ _ _ enabled =>
    { db with ruleStates :=
        db.ruleStates.modify row.id (fun r => { r with enabled := enabled }) (enabled_key enabled) }

/-- The statements of a request: the query, the flush and the commit. -/
def advance (r : KeyRequest) : KeyPhase → Database → Option (KeyPhase × Database)
  | .begun, db => some (r.look db, db)
  | .free, db => some (.inserted, db)
  | .found row, db => some (.updated row, db)
  | .inserted, db => (r.commitInsert db).map fun db' => (.committed, db')
  | .updated row, db => some (.committed, r.commitUpdate db row)
  | .committed, _ => none
  | .refused, _ => none

end KeyRequest

/-- The concurrent requests. -/
abbrev KeyState : Type := Concurrent Nat Database KeyPhase

/-- One of the requests takes its next statement. -/
def KeyAdvances (req : Nat → KeyRequest) : KeyState → Nat → KeyState → Prop :=
  Concurrent.Advances fun k => (req k).advance

/-- A request that finds its key free does so while no other one has found it free and not
    committed. -/
def FindsAlone (req : Nat → KeyRequest) (s : KeyState) (k : Nat) : Prop :=
  s.txn k = .begun → rowsUnder s.db (req k).key = 0 →
    ∀ j, (s.txn j).isPending = true → (req j).key ≠ (req k).key

/-! ## A request alone -/

section

variable {req : Nat → KeyRequest} {k : Nat} {db : Database}

theorem alone_free {db' : Database} (hlook : (req k).look db = .free)
    (hcommit : (req k).commitInsert db = some db') :
    ∃ s, Steps (KeyAdvances req) (.start db .begun) [k, k, k] s ∧ s.txn k = .committed ∧
      s.db = db' := by
  have hsolo : Concurrent.solo (req k).advance 3 .begun db = some (.committed, db') := by
    simp only [Concurrent.solo, KeyRequest.advance, hlook, hcommit, Option.bind_some,
      Option.map_some]
  exact Concurrent.steps_of_solo (fun k => (req k).advance) (.start db .begun) hsolo

theorem alone_found {row : RuleStateRow} (hlook : (req k).look db = .found row) :
    ∃ s, Steps (KeyAdvances req) (.start db .begun) [k, k, k] s ∧ s.txn k = .committed ∧
      s.db = (req k).commitUpdate db row := by
  have hsolo : Concurrent.solo (req k).advance 3 .begun db =
      some (.committed, (req k).commitUpdate db row) := by
    simp only [Concurrent.solo, KeyRequest.advance, hlook, Option.bind_some]
  exact Concurrent.steps_of_solo (fun k => (req k).advance) (.start db .begun) hsolo

end

section

variable {rt : Runtime} {w : World} {e : Event} {auth : Authorization} {t : Session}

/-- Alone, a transaction does to the two tables what an answered `POST /admin/users` does. -/
theorem createUser_alone {body : AdminRoutes.CreateUserRequest} {r : AdminRoutes.UserResponse}
    (h : (AdminRoutes.createUser rt e.env auth body).run w.session = .ok r t) :
    ∃ p, Admitted w.db w.issued (e.env.now 0) auth .admin p ∧
      ∀ (req : Nat → KeyRequest) (k : Nat), req k = .createUser e p body →
        ∃ s, Steps (KeyAdvances req) (.start w.db .begun) [k, k, k] s ∧ s.txn k = .committed ∧
          s.db.users = t.db.users ∧ s.db.ruleStates = t.db.ruleStates := by
  obtain ⟨p, hp, _, _, _, hfree, hins, hstates⟩ := createUser_stores h
  refine ⟨p, hp, fun req k hk => ?_⟩
  have hnone : usersNamed w.db p.tenantId body.username = [] := by
    refine List.eq_nil_iff_forall_not_mem.mpr fun u hu => ?_
    obtain ⟨hrow, hof, hname⟩ := mem_usersNamed.mp hu
    exact hfree u hrow hof hname
  have hlook : (req k).look w.db = .free := by
    rw [hk, KeyRequest.look, hnone]
  have hcommit : (req k).commitInsert w.db = some { w.db with users := t.db.users } := by
    rw [hk, KeyRequest.commitInsert, hins]
    rfl
  obtain ⟨s, hsteps, hdone, hdb⟩ := alone_free hlook hcommit
  exact ⟨s, hsteps, hdone, by rw [hdb], by rw [hdb, hstates]⟩

/-- The same of `PUT /rules/{id}`. -/
theorem toggleRule_alone {ruleId : String} {enabled : Bool} {r : Routes.RuleResponse}
    (h : (Routes.toggleRule rt e.env auth ruleId enabled).run w.session = .ok r t) :
    ∃ p, Admitted w.db w.issued (e.env.now 0) auth .admin p ∧
      ∀ (req : Nat → KeyRequest) (k : Nat), req k = .toggleRule e p ruleId enabled →
        ∃ s, Steps (KeyAdvances req) (.start w.db .begun) [k, k, k] s ∧ s.txn k = .committed ∧
          s.db.users = t.db.users ∧ s.db.ruleStates = t.db.ruleStates := by
  unfold Routes.toggleRule at h
  simp only [run_bind_eq_ok, require_eq_ok, orRaise_eq_ok] at h
  obtain ⟨p, _, ⟨hp, rfl⟩, rule, _, ⟨_, rfl⟩, _, u, hset, _, _, hrec, hret⟩ := h
  cases hret
  rw [AuditService.recordEntry_run] at hrec
  cases hrec
  refine ⟨p, hp, fun req k hk => ?_⟩
  unfold RuleStateRepository.setEnabled at hset
  obtain ⟨o, v, hlookup, hwrite⟩ := run_bind_eq_ok.mp hset
  obtain ⟨hselect, rfl⟩ := selectOne_eq_ok.mp hlookup
  have hsel : statesOf w.db p.tenantId ruleId = o.toList := hselect
  cases o with
  | none =>
    rw [run_bind_ok (uuidHex_run e.env _)] at hwrite
    obtain ⟨states, hins, rfl⟩ := insertRow_eq_ok.mp hwrite
    have hlook : (req k).look w.db = .free := by
      rw [hk, KeyRequest.look, hsel]
      rfl
    have hcommit : (req k).commitInsert w.db = some { w.db with ruleStates := states } := by
      rw [hk, KeyRequest.commitInsert]
      exact Option.map_eq_some_iff.mpr ⟨states, hins, rfl⟩
    obtain ⟨s, hsteps, hdone, hdb⟩ := alone_free hlook hcommit
    exact ⟨s, hsteps, hdone, by rw [hdb]; rfl, by rw [hdb]; rfl⟩
  | some row =>
    cases hwrite
    have hlook : (req k).look w.db = .found row := by
      rw [hk, KeyRequest.look, hsel]
      rfl
    obtain ⟨s, hsteps, hdone, hdb⟩ := alone_found hlook
    refine ⟨s, hsteps, hdone, ?_, ?_⟩
    · rw [hdb, hk]
      rfl
    · rw [hdb, hk]
      rfl

end

/-! ## What a statement does -/

namespace KeyRequest

variable (r : KeyRequest) {db db' : Database}

theorem look_isPending : (r.look db).isPending = true ↔ rowsUnder db r.key = 0 := by
  cases r with
  | createUser e p body =>
    unfold look key rowsUnder
    dsimp only
    cases usersNamed db p.tenantId body.username with
    | nil => simp [KeyPhase.isPending]
    | cons u us => simp [KeyPhase.isPending]
  | toggleRule e p ruleId enabled =>
    unfold look key rowsUnder
    dsimp only
    match statesOf db p.tenantId ruleId with
    | [] => simp [KeyPhase.isPending]
    | [row] => simp [KeyPhase.isPending]
    | _ :: _ :: _ => simp [KeyPhase.isPending]

/-- A committed insertion adds one row, under the request's key. -/
theorem commitInsert_rowsUnder (h : r.commitInsert db = some db') (q : NaturalKey) :
    rowsUnder db' q = rowsUnder db q + if q = r.key then 1 else 0 := by
  cases r with
  | createUser e p body =>
    obtain ⟨users, hins, rfl⟩ := Option.map_eq_some_iff.mp h
    cases q with
    | username tenantId username =>
      refine (KeyedTable.length_select_insert? _ hins).trans
        (Nat.add_left_cancel_iff.mpr (if_congr ?_ rfl rfl))
      rw [Bool.and_eq_true, beq_iff_eq, beq_iff_eq, key, NaturalKey.username.injEq]
      exact and_congr eq_comm eq_comm
    | rule tenantId ruleId =>
      rw [if_neg (by unfold key; exact NaturalKey.noConfusion)]
      rfl
  | toggleRule e p ruleId enabled =>
    obtain ⟨states, hins, rfl⟩ := Option.map_eq_some_iff.mp h
    cases q with
    | username tenantId username =>
      rw [if_neg (by unfold key; exact NaturalKey.noConfusion)]
      rfl
    | rule tenantId ruleId' =>
      refine (KeyedTable.length_select_insert? _ hins).trans
        (Nat.add_left_cancel_iff.mpr (if_congr ?_ rfl rfl))
      rw [Bool.and_eq_true, beq_iff_eq, beq_iff_eq, key, NaturalKey.rule.injEq]
      exact and_congr eq_comm eq_comm

/-- A committed update moves no row to another key. -/
theorem commitUpdate_rowsUnder (row : RuleStateRow) (q : NaturalKey) :
    rowsUnder (r.commitUpdate db row) q = rowsUnder db q := by
  cases r with
  | createUser => rfl
  | toggleRule e p ruleId enabled =>
    cases q with
    | username => rfl
    | rule tenantId ruleId' =>
      have hstates := db.ruleStates.select_modify row.id
        (fun r : RuleStateRow => { r with enabled := enabled }) (enabled_key enabled)
        (fun r => r.tenantId == tenantId && r.ruleId == ruleId') fun _ => rfl
      exact (congrArg List.length hstates).trans (List.length_map _)

end KeyRequest

section

variable {req : Nat → KeyRequest} {s s' : KeyState} {k : Nat}

/-- The rows and the transactions about to insert, key by key. -/
def keyClaims (s : KeyState) : KeyClaims Nat NaturalKey :=
  ⟨rowsUnder s.db, fun k => (s.txn k).isPending = true⟩

theorem pending_moved (s : KeyState) (k : Nat) (ph : KeyPhase) (db : Database) (j : Nat) :
    (keyClaims (s.moved k ph db)).pending j ↔
      ((keyClaims s).pending j ∧ j ≠ k) ∨ (j = k ∧ ph.isPending = true) := by
  unfold keyClaims
  by_cases hj : j = k
  · subst hj
    simp
  · simp [hj]

/-- A step that moves no key and leaves `k` as pending as it was. -/
theorem keyStep_other {ph : KeyPhase} {db : Database}
    (hdb : ∀ q, rowsUnder db q = rowsUnder s.db q) (hph : ph.isPending = (s.txn k).isPending) :
    KeyStep (fun k => (req k).key) (keyClaims s) k (keyClaims (s.moved k ph db)) := by
  refine KeyStep.other (funext hdb) fun j => ?_
  rw [pending_moved, hph]
  unfold keyClaims
  by_cases hj : j = k
  · subst hj
    simp
  · simp [hj]

/-- Every step looks for a key, inserts under one, or leaves the keys as they are. -/
theorem advances_keyStep (h : KeyAdvances req s k s') :
    KeyStep (fun k => (req k).key) (keyClaims s) k (keyClaims s') := by
  obtain ⟨ph, db, hnext, rfl⟩ := Concurrent.advances_iff.mp h
  cases hk : s.txn k with
  | begun =>
    rw [hk] at hnext
    cases hnext
    by_cases hfree : rowsUnder s.db (req k).key = 0
    · have hidle : ¬ (keyClaims s).pending k := by simp [keyClaims, hk, KeyPhase.isPending]
      refine KeyStep.found hfree hidle rfl fun j => ?_
      rw [pending_moved, (req k).look_isPending.mpr hfree]
      by_cases hj : j = k
      · simp [hj]
      · simp [hj]
    · refine keyStep_other (fun _ => rfl) ?_
      rw [hk, Bool.eq_iff_iff, (req k).look_isPending]
      simp [hfree, KeyPhase.isPending]
  | free =>
    rw [hk] at hnext
    cases hnext
    exact keyStep_other (fun _ => rfl) (by rw [hk]; rfl)
  | found row =>
    rw [hk] at hnext
    cases hnext
    exact keyStep_other (fun _ => rfl) (by rw [hk]; rfl)
  | inserted =>
    rw [hk] at hnext
    obtain ⟨db', hcommit, hpair⟩ := Option.map_eq_some_iff.mp hnext
    cases hpair
    have hk' : (keyClaims s).pending k := by simp [keyClaims, hk, KeyPhase.isPending]
    refine KeyStep.inserted hk' ((req k).commitInsert_rowsUnder hcommit) fun j => ?_
    rw [pending_moved]
    simp [KeyPhase.isPending]
  | updated row =>
    rw [hk] at hnext
    cases hnext
    exact keyStep_other ((req k).commitUpdate_rowsUnder row) (by rw [hk]; rfl)
  | committed =>
    rw [hk] at hnext
    cases hnext
  | refused =>
    rw [hk] at hnext
    cases hnext

/-- A step is taken alone exactly if, read as a step on keys, it is. -/
theorem findsAlone_iff (h : KeyAdvances req s k s') :
    FindsAlone req s k ↔ (¬ (keyClaims s).pending k → (keyClaims s').pending k →
      Exclusive.Alone (fun k => (req k).key) (keyClaims s) k) := by
  obtain ⟨ph, db, hnext, rfl⟩ := Concurrent.advances_iff.mp h
  constructor
  · intro halone hidle hpending
    have hph : ph.isPending = true := by
      obtain ⟨_, hne⟩ | ⟨_, hph⟩ := (pending_moved s k ph db k).mp hpending
      · exact absurd rfl hne
      · exact hph
    cases hk : s.txn k with
    | begun =>
      rw [hk] at hnext
      cases hnext
      exact halone hk ((req k).look_isPending.mp hph)
    | free => exact absurd (by simp [keyClaims, hk, KeyPhase.isPending]) hidle
    | inserted => exact absurd (by simp [keyClaims, hk, KeyPhase.isPending]) hidle
    | found row =>
      rw [hk] at hnext
      cases hnext
      cases hph
    | updated row =>
      rw [hk] at hnext
      cases hnext
      cases hph
    | committed =>
      rw [hk] at hnext
      cases hnext
    | refused =>
      rw [hk] at hnext
      cases hnext
  · intro halone hk hfree
    rw [hk] at hnext
    cases hnext
    refine halone (by simp [keyClaims, hk, KeyPhase.isPending]) ?_
    rw [pending_moved]
    exact Or.inr ⟨rfl, (req k).look_isPending.mpr hfree⟩

end

/-! ## Single rows -/

/-- Where no key has two rows, no lookup raises. -/
theorem singleRows_of_keys {db : Database} (h : ∀ q, rowsUnder db q ≤ 1) : SingleRows db where
  authenticate rt tenantId username password t := by
    have hlength : (usersNamed db tenantId username).length ≤ 1 := h (.username tenantId username)
    obtain ⟨o, ho⟩ := selectOne_run_of_length (T := Tables.users) (s := .start db [] []) hlength
    unfold UserRepository.authenticate
    rw [run_bind_ok (show (UserRepository.getByUsername tenantId username).run _ = _ from ho)]
    intro he
    cases o with
    | none => cases he
    | some user =>
      dsimp only at he
      split at he <;> cases he
  setEnabled env tenantId ruleId enabled t := by
    have hlength : (statesOf db tenantId ruleId).length ≤ 1 := h (.rule tenantId ruleId)
    obtain ⟨o, ho⟩ := selectOne_run_of_length (T := Tables.ruleStates) (s := .start db [] []) hlength
    unfold RuleStateRepository.setEnabled
    rw [run_bind_ok ho]
    intro he
    cases o with
    | none =>
      dsimp only at he
      rw [run_bind_ok (uuidHex_run env _)] at he
      obtain ⟨_, _, hrun⟩ | ⟨_, hrun⟩ := insertRow_cases Tables.ruleStates
        { id := env.uuid4 0, tenantId := tenantId, ruleId := ruleId, enabled := enabled }
        { Session.start db [] [] with uuids := 1 }
      · cases hrun.symm.trans he
      · cases hrun.symm.trans he
    | some row => cases he

/-- Start from a database in which no key has two rows, and let any number of requests run in
    any interleaving. Once all are through, no key has two rows, and no lookup raises, exactly
    if each request that found its key free found it alone. -/
theorem natural_keys_iff (req : Nat → KeyRequest) (db : Database) (hdb : ∀ q, rowsUnder db q ≤ 1)
    (schedule : List Nat) (s : KeyState)
    (hrun : Steps (KeyAdvances req) (.start db .begun) schedule s)
    (hclosed : ∀ k, (s.txn k).isOpen = false) :
    ((∀ q, rowsUnder s.db q ≤ 1) ∧ SingleRows s.db) ↔
      Steps (Guarded (KeyAdvances req) (FindsAlone req)) (.start db .begun) schedule s := by
  have hstart : Exclusive (fun k => (req k).key) (keyClaims (.start db .begun)) := by
    refine ⟨hdb, fun j hj => ?_, fun i j hi _ _ => ?_⟩
    · cases hj
    · cases hi
  constructor
  · rintro ⟨hkeys, _⟩
    have hend : Exclusive (fun k => (req k).key) (keyClaims s) := by
      have hnone : ∀ j, ¬ (keyClaims s).pending j := by
        intro j hj
        have hopen := hclosed j
        unfold keyClaims at hj
        dsimp only at hj
        cases hph : s.txn j <;> simp [hph, KeyPhase.isOpen, KeyPhase.isPending] at hopen hj
      exact ⟨hkeys, fun j hj => absurd hj (hnone j), fun i j hi _ _ => absurd hi (hnone i)⟩
    have hback : ∀ s k s', KeyAdvances req s k s' → True →
        Exclusive (fun k => (req k).key) (keyClaims s') →
        Exclusive (fun k => (req k).key) (keyClaims s) ∧ FindsAlone req s k := by
      intro s k s' hstep _ hafter
      obtain ⟨hbefore, halone⟩ := hafter.back (advances_keyStep hstep)
      exact ⟨hbefore, (findsAlone_iff hstep).mpr halone⟩
    exact (hrun.guarded_of_end (I := fun _ => True) (fun _ _ _ _ _ => trivial) hback trivial hend).2
  · intro hg
    have hend := hg.inv (I := fun s => Exclusive (fun k => (req k).key) (keyClaims s))
      (fun _ _ _ h hi => hi.step (advances_keyStep h.1) ((findsAlone_iff h.1).mp h.2)) hstart
    exact ⟨hend.single, singleRows_of_keys hend.single⟩

/-! ## Two requests for one username -/

def bob : AdminRoutes.CreateUserRequest where
  username := "bob"
  password := "correct horse"

/-- The administrator creates the account, under an id of its own each time. -/
def createsBob (k : Nat) : KeyRequest :=
  .createUser
    { env := { now := fun _ => 0, uuid4 := fun _ => if k = 0 then "b0" else "b1" }
      request := .admin (.bearer rootToken) (.createUser bob) }
    rootToken.principal bob

theorem empty_keys : ∀ q, rowsUnder .empty q ≤ 1
  | .username _ _ => Nat.zero_le 1
  | .rule _ _ => Nat.zero_le 1

/-- A third request disables a rule meanwhile. -/
def besideRule : Nat → KeyRequest
  | 2 => .toggleRule
    { env := { now := fun _ => 0, uuid4 := fun _ => "s0" }
      request := .admin (.bearer rootToken) (.toggleRule "R001" false) }
    rootToken.principal "R001" false
  | k => createsBob k

/-- The requests for the account take turns, and the second is refused. -/
theorem natural_keys_iff_turns :
    ∃ s, Steps (KeyAdvances besideRule) (.start .empty .begun) [0, 2, 0, 2, 0, 1, 2] s ∧
      rowsUnder s.db (.username "t1" "bob") = 1 ∧ (∀ q, rowsUnder s.db q ≤ 1) ∧ SingleRows s.db := by
  have hturns : ∃ s, Steps (Guarded (KeyAdvances besideRule) (FindsAlone besideRule))
      (.start .empty .begun) [0, 2, 0, 2, 0, 1, 2] s ∧ rowsUnder s.db (.username "t1" "bob") = 1 ∧
        ∀ k, (s.txn k).isOpen = false := by
    refine ⟨_, .cons ⟨rfl, fun _ _ j hj => ?_⟩ (.cons ⟨rfl, fun _ _ j hj => ?_⟩
      (.cons ⟨rfl, fun h => ?_⟩ (.cons ⟨rfl, fun h => ?_⟩ (.cons ⟨rfl, fun h => ?_⟩
        (.cons ⟨rfl, fun _ hfree => ?_⟩ (.cons ⟨rfl, fun h => ?_⟩ (.nil _))))))), ?_, ?_⟩
    · cases hj
    · -- the first has found another key free
      match j with
      | 0 => decide
      | 1 => cases hj
      | 2 => cases hj
      | j + 3 => cases hj
    · cases h
    · cases h
    · cases h
    · exact absurd hfree (by decide)
    · cases h
    · decide
    · intro k
      match k with
      | 0 => rfl
      | 1 => rfl
      | 2 => rfl
      | k + 3 => rfl
  obtain ⟨s, hrun, hone, hclosed⟩ := hturns
  have hsteps : Steps (KeyAdvances besideRule) (.start .empty .begun) [0, 2, 0, 2, 0, 1, 2] s :=
    hrun.unguarded
  exact ⟨s, hsteps, hone, (natural_keys_iff besideRule .empty empty_keys _ s hsteps hclosed).mpr hrun⟩

/-- Two requests that look before either has committed store two rows. -/
theorem username_stored_twice :
    ¬ ∀ (req : Nat → KeyRequest) (db : Database), (∀ q, rowsUnder db q ≤ 1) →
      ∀ (schedule : List Nat) (s : KeyState),
        Steps (KeyAdvances req) (.start db .begun) schedule s →
        (∀ k, (s.txn k).isOpen = false) → ∀ q, rowsUnder s.db q ≤ 1 := by
  intro h
  have hsingle := h createsBob .empty empty_keys [0, 1, 0, 1, 0, 1] _
    (.cons rfl (.cons rfl (.cons rfl (.cons rfl (.cons rfl (.cons rfl (.nil _)))))))
    (by
      intro k
      by_cases h₁ : k = 1
      · subst h₁
        rfl
      · by_cases h₀ : k = 0
        · subst h₀
          rfl
        · simp [h₀, h₁, Concurrent.start, KeyPhase.isOpen])
    (.username "t1" "bob")
  revert hsingle
  decide

end SentinelAI
