import SentinelAI.Db.Volume

/-
  Volumes in deployment, over any run of starts, migrations and service. A volume at a revision
  stays at one: every upgrade and downgrade along the chain goes through, and a walk of them
  comes to the same as the straight way over the lowest revision it visits (`migrations_walk`).
  A start brings the volume to the head, where it has the tables the ORM reads, and loses
  nothing; but on PostgreSQL a volume with tables and no `alembic_version` is never stamped
  (`starts_reach_head`).
-/

namespace SentinelAI

open Lib Migrations

namespace Volume

abbrev base : Ddl.Catalogue SqlType SqlValue := KeyedTable.empty

theorem sound_base : Ddl.Sound base := fun _ ht => absurd ht List.not_mem_nil

theorem consistent : Ddl.Consistent base migrations where
  undo := by decide +kernel
  fills := by decide +kernel
  defined := by decide +kernel

theorem lawful : (Ddl.chain migrations).Lawful (Ddl.AtVersion base migrations) :=
  consistent.lawful sound_base

/-- The volume is at revision `k`, and says so. -/
structure Tracked (k : Nat) (v : Volume) : Prop where
  position : v.position = some k
  db : Ddl.AtVersion base migrations k v.db

/-- The tables of the baseline, from a build without Alembic: there is no `alembic_version`
    table. With an empty one the question for a stamp would not fail, and PostgreSQL stamp. -/
structure Legacy (v : Volume) : Prop where
  unstamped : v.versionTable = none
  db : Ddl.AtVersion base migrations 1 v.db

/-- The stamp a migration leaves says where it led to. -/
theorem position_up {k : Nat} {r : Revision} (hr : revisions[k]? = some r)
    (db : Ddl.Database SqlType SqlValue) :
    position ⟨some (some r.revision), db⟩ = some (k + 1) := by
  have hall : ∀ i : Fin revisions.length,
      (revisions.findIdx? fun r => r.revision = (revisions.get i).revision) = some i.val := by
    decide +kernel
  obtain ⟨hlt, rfl⟩ := List.getElem?_eq_some_iff.mp hr
  exact congrArg (Option.map (· + 1)) (hall ⟨k, hlt⟩)

theorem position_down {k : Nat} {r : Revision} (hr : revisions[k]? = some r)
    (db : Ddl.Database SqlType SqlValue) : position ⟨some r.downRevision, db⟩ = some k := by
  have hall : ∀ i : Fin revisions.length,
      position ⟨some (revisions.get i).downRevision, ⟨base, fun _ => []⟩⟩ = some i.val := by
    decide +kernel
  obtain ⟨hlt, rfl⟩ := List.getElem?_eq_some_iff.mp hr
  exact hall ⟨k, hlt⟩

theorem migration_of {k : Nat} {r : Revision} (hr : revisions[k]? = some r) :
    migrations[k]? = some ⟨r.upgrade, r.downgrade⟩ := by
  unfold migrations
  rw [List.getElem?_map, hr]
  rfl

variable {d : Dialect} {v v' w : Volume} {k n : Nat}

/-! ## Alembic's commands -/

theorem Tracked.up (hv : Tracked k v) (hk : k < revisions.length) :
    ∃ v', upgradeOne k v = some v' ∧ Tracked (k + 1) v' ∧
      (Ddl.chain migrations).up k v.db = some v'.db ∧
      (Ddl.chain migrations).down k v'.db = some v.db := by
  obtain ⟨r, hr⟩ : ∃ r, revisions[k]? = some r := ⟨_, List.getElem?_eq_getElem hk⟩
  have hm := migration_of hr
  obtain ⟨db', hup, hat, hback⟩ := consistent.upgrade_ok sound_base hm hv.db
  refine ⟨⟨some (some r.revision), db'⟩, ?_, ⟨position_up hr db', hat⟩, ?_, ?_⟩
  · unfold upgradeOne
    rw [hr]
    show (Ddl.applyAll v.db r.upgrade).bind _ = _
    rw [hup]
    rfl
  · show migrations[k]?.bind _ = _
    rw [hm]
    exact hup
  · show migrations[k]?.bind _ = _
    rw [hm]
    exact hback

theorem Tracked.down (hv : Tracked (k + 1) v) :
    ∃ v', downgradeOne k v = some v' ∧ Tracked k v' ∧
      (Ddl.chain migrations).down k v.db = some v'.db := by
  have hlength : migrations.length = revisions.length := List.length_map _
  have hk : k < revisions.length := hlength ▸ hv.db.within
  obtain ⟨r, hr⟩ : ∃ r, revisions[k]? = some r := ⟨_, List.getElem?_eq_getElem hk⟩
  have hm := migration_of hr
  obtain ⟨db', hdown, hat⟩ := consistent.downgrade_ok sound_base hm hv.db
  refine ⟨⟨some r.downRevision, db'⟩, ?_, ⟨position_down hr db', hat⟩, ?_⟩
  · unfold downgradeOne
    rw [hr]
    show (Ddl.applyAll v.db r.downgrade).bind _ = _
    rw [hdown]
    rfl
  · show migrations[k]?.bind _ = _
    rw [hm]
    exact hdown

/-- A walk of Alembic's commands is a walk of the database. -/
theorem Tracked.walk (hv : Tracked k v) {ms : List Move}
    (hpos : Chain.position revisions.length k ms = some n) :
    ∃ v', v.walk ms = some v' ∧ Tracked n v' ∧
      (Ddl.chain migrations).walk ms (k, v.db) = some (n, v'.db) := by
  induction ms generalizing k v with
  | nil =>
    cases hpos
    exact ⟨v, rfl, hv, rfl⟩
  | cons m ms ih =>
    cases m with
    | up =>
      rw [Chain.position] at hpos
      split at hpos
      · next hk =>
        obtain ⟨v₁, hup, hv₁, hdb, -⟩ := hv.up hk
        obtain ⟨v', hwalk, hv', hchain⟩ := ih hv₁ hpos
        refine ⟨v', ?_, hv', ?_⟩
        · unfold Volume.walk
          rw [List.foldlM_cons, show v.move .up = some v₁ by rw [Volume.move, hv.position]; exact hup]
          exact hwalk
        · rw [Chain.walk_up hk hdb]
          exact hchain
      · cases hpos
    | down =>
      cases k with
      | zero => cases hpos
      | succ k =>
        obtain ⟨v₁, hdown, hv₁, hdb⟩ := hv.down
        obtain ⟨v', hwalk, hv', hchain⟩ := ih hv₁ hpos
        refine ⟨v', ?_, hv', ?_⟩
        · unfold Volume.walk
          rw [List.foldlM_cons,
            show v.move .down = some v₁ by rw [Volume.move, hv.position]; exact hdown]
          exact hwalk
        · rw [Chain.walk_down hdb]
          exact hchain

/-- The tables of a volume at the head are the ORM's. -/
theorem Tracked.matchesMetadata (hv : Tracked revisions.length v) :
    MatchesMetadata v.db.catalogue := by
  have hhead : ∀ c, Ddl.catalogueAt base migrations revisions.length = some c →
      MatchesMetadata c := by
    have hall : ((Ddl.catalogueAt base migrations revisions.length).map
        fun c => decide (MatchesMetadata c)) = some true := by decide +kernel
    intro c hc
    rw [hc] at hall
    exact of_decide_eq_true (Option.some.inj hall)
  exact hhead _ hv.db.catalogue

/-- A volume at a revision, and Alembic commands that keep to the chain: every one goes
    through, the volume ends at the revision they lead to with its stamp, its rows still meet
    their constraints, at the head it has the ORM's tables, and its database is the one the
    straight way over the lowest revision visited would have left. -/
theorem migrations_walk (hv : Tracked k v) {ms : List Move}
    (hpos : Chain.position revisions.length k ms = some n) :
    ∃ v' v'', v.walk ms = some v' ∧ Tracked n v' ∧
      v.walk (Chain.straight k (Chain.lowest k ms) n) = some v'' ∧ v''.db = v'.db ∧
      (n = revisions.length → MatchesMetadata v'.db.catalogue) := by
  obtain ⟨v', hwalk, hv', hchain⟩ := hv.walk hpos
  have hlength : (Ddl.chain migrations).length = revisions.length := List.length_map _
  have hsame := lawful.walk_eq hv.db ((congrArg (Chain.position · k ms) hlength).trans hpos)
  have hk : k ≤ revisions.length := hlength ▸ hv.db.within
  obtain ⟨v'', hwalk', hv'', hchain'⟩ := hv.walk (Chain.position_straight (Chain.lowest_le k ms)
    (Chain.lowest_le_position hpos) (Chain.position_le hk hpos))
  rw [hsame, hchain'] at hchain
  have hdb : v''.db = v'.db := (Prod.mk.inj (Option.some.inj hchain)).2
  refine ⟨v', v'', hwalk, hv', hwalk', hdb, ?_⟩
  rintro rfl
  exact hv'.matchesMetadata

/-- The tables of a revision, with one row in `tenants`. -/
def withTenant (k : Nat) (row : Ddl.Row SqlValue) : Ddl.Database SqlType SqlValue where
  catalogue := (Ddl.catalogueAt base migrations k).getD base
  rows := fun name => if name = "tenants" then [row] else []

def acme : Ddl.Row SqlValue :=
  [("id", some (.text "t1")), ("name", some (.text "acme")), ("created_at", some (.timestamp 0))]

theorem acme_atVersion : Ddl.AtVersion base migrations 1 (withTenant 1 acme) where
  within := by decide
  catalogue := by
    obtain ⟨c, hc⟩ := Option.isSome_iff_exists.mp (consistent.isSome_catalogueAt 1)
    unfold withTenant
    rw [hc]
    rfl
  fits := by
    refine ⟨by decide +kernel, by decide +kernel, by decide +kernel, fun name hname => ?_⟩
    have hne : name ≠ "tenants" := by
      rintro rfl
      exact absurd hname (by decide +kernel)
    exact if_neg hne

/-- Two migrations up from the baseline, back, and up to the head. -/
theorem migrations_walk_acme :
    let v : Volume := ⟨some (some baseline), withTenant 1 acme⟩
    ∃ v' v'', v.walk [.up, .up, .down, .down, .up, .up, .up] = some v' ∧ Tracked 4 v' ∧
      v.walk [.up, .up, .up] = some v'' ∧ v''.db = v'.db ∧ MatchesMetadata v'.db.catalogue := by
  have hv : Tracked 1 ⟨some (some baseline), withTenant 1 acme⟩ := ⟨rfl, acme_atVersion⟩
  obtain ⟨v', v'', hwalk, htracked, hstraight, hdb, hmatches⟩ :=
    @migrations_walk _ 1 4 hv [.up, .up, .down, .down, .up, .up, .up] rfl
  exact ⟨v', v'', hwalk, htracked, hstraight, hdb, hmatches rfl⟩

/-! ## Starts -/

/-- Going down from the head to the revision it was at gives the database back. -/
def GivesBack (k : Nat) (v v' : Volume) : Prop :=
  (Ddl.chain migrations).walk (List.replicate (revisions.length - k) .down)
    (revisions.length, v'.db) = some (k, v.db)

/-- The next migrations up, and back. -/
theorem Tracked.climb {j : Nat} (hv : Tracked k v) (hj : k + j ≤ revisions.length) :
    ∃ v', (List.range' k j).foldlM (fun v i => upgradeOne i v) v = some v' ∧ Tracked (k + j) v' ∧
      (Ddl.chain migrations).walk (List.replicate j .down) (k + j, v'.db) = some (k, v.db) := by
  induction j generalizing k v with
  | zero => exact ⟨v, rfl, hv, rfl⟩
  | succ j ih =>
    obtain ⟨v₁, hup, hv₁, -, hback⟩ := hv.up (by omega)
    obtain ⟨v', hrest, hv', hdown⟩ := ih hv₁ (by omega)
    have hsum : k + (j + 1) = k + 1 + j := by omega
    refine ⟨v', ?_, hsum ▸ hv', ?_⟩
    · rw [List.range'_succ, List.foldlM_cons, hup]
      exact hrest
    · rw [hsum, List.replicate_succ', Chain.walk_append, hdown]
      exact Chain.walk_down hback []

theorem Tracked.upgradeHead (hv : Tracked k v) :
    ∃ v', v.upgradeHead = some v' ∧ Tracked revisions.length v' ∧ GivesBack k v v' := by
  have hlength : migrations.length = revisions.length := List.length_map _
  have hk : k ≤ revisions.length := hlength ▸ hv.db.within
  have hsum : k + (revisions.length - k) = revisions.length := by omega
  obtain ⟨v', hclimb, hv', hback⟩ := hv.climb (j := revisions.length - k) (by omega)
  rw [hsum] at hv' hback
  refine ⟨v', ?_, hv', hback⟩
  unfold Volume.upgradeHead
  rw [hv.position]
  exact hclimb

/-- A tracked volume is not stamped again. -/
theorem Tracked.reconcile (hv : Tracked k v) (d : Dialect) : v.reconcile d = v := by
  cases hjoin : v.versionTable.join with
  | some rev =>
    unfold Volume.reconcile hasVersion
    rw [hjoin]
    rfl
  | none =>
    have hk : k = 0 := by
      have hposition := hv.position
      unfold Volume.position at hposition
      rw [hjoin] at hposition
      exact (Option.some.inj hposition).symm
    have hcatalogue : v.db.catalogue = base := by
      have hat := hv.db.catalogue
      rw [hk] at hat
      exact (Option.some.inj hat).symm
    have htenants : v.hasTenants d = false := by
      unfold hasTenants
      rw [hcatalogue]
      rfl
    unfold Volume.reconcile
    rw [htenants, Bool.and_false]
    rfl

theorem started_iff (h : (v.reconcile d).upgradeHead = some v') : Started d v w ↔ w = v' := by
  constructor
  · intro hstart
    cases hstart with
    | upgraded h' => exact Option.some.inj (h'.symm.trans h)
    | failed h' _ =>
      rw [h] at h'
      cases h'
  · rintro rfl
    exact .upgraded h

/-- A start of a tracked volume. -/
theorem Tracked.started (hv : Tracked k v) (hstart : Started d v w) :
    Tracked revisions.length w ∧ GivesBack k v w := by
  obtain ⟨v', hup, hv', hback⟩ := hv.upgradeHead
  rw [← hv.reconcile d] at hup
  obtain rfl := (started_iff hup).mp hstart
  exact ⟨hv', hback⟩

/-- Tables without a stamp are stamped where the second question is answered. -/
theorem Legacy.reconcile (hv : Legacy v) :
    v.reconcile d = if d = .postgresql then v else { v with versionTable := some (some baseline) } := by
  have hfound : (v.db.catalogue.find? "tenants").isSome = true := by
    have hall : ((Ddl.catalogueAt base migrations 1).map
        fun c => (c.find? "tenants").isSome) = some true := by decide +kernel
    rw [hv.db.catalogue] at hall
    exact Option.some.inj hall
  unfold Volume.reconcile hasVersion hasTenants
  rw [hv.unstamped, hfound]
  cases d <;> rfl

/-- On SQLite a start stamps the baseline and goes on from it. -/
theorem Legacy.started_sqlite (hv : Legacy v) (hstart : Started .sqlite v w) :
    Tracked revisions.length w ∧ GivesBack 1 v w := by
  have hstamped : Tracked 1 { v with versionTable := some (some baseline) } :=
    ⟨position_up (k := 0) rfl v.db, hv.db⟩
  obtain ⟨v', hup, hv', hback⟩ := hstamped.upgradeHead
  have hreconcile : v.reconcile .sqlite = { v with versionTable := some (some baseline) } := by
    rw [hv.reconcile]
    rfl
  rw [← hreconcile] at hup
  obtain rfl := (started_iff hup).mp hstart
  exact ⟨hv', hback⟩

/-- The first migration wants to create tables that are there. -/
theorem Legacy.upgrade_fails (hv : Legacy v) : upgradeOne 0 v = none := by
  have hfound : (v.db.catalogue.find? "audit_log").isSome = true := by
    have hall : ((Ddl.catalogueAt base migrations 1).map
        fun c => (c.find? "audit_log").isSome) = some true := by decide +kernel
    rw [hv.db.catalogue] at hall
    exact Option.some.inj hall
  have hcreate : Ddl.Change.apply v.db (.createTable auditLog) = none := by
    have hinsert : v.db.catalogue.insert? auditLog = none := KeyedTable.insert?_eq_none.mpr hfound
    unfold Ddl.Change.apply
    rw [Ddl.Change.define, hinsert]
    simp
  unfold upgradeOne
  show (Ddl.applyAll v.db initialSchema.upgrade).bind _ = none
  unfold Ddl.applyAll initialSchema
  rw [List.foldlM_cons, hcreate]
  rfl

theorem Legacy.started_postgresql (hv : Legacy v) (hstart : Started .postgresql v w) : w = v := by
  have hreconcile : v.reconcile .postgresql = v := by
    rw [hv.reconcile]
    rfl
  have hfails : v.upgradeHead = none := by
    unfold Volume.upgradeHead Volume.position
    rw [hv.unstamped]
    show (List.range' 0 revisions.length).foldlM (fun v i => upgradeOne i v) v = none
    show (upgradeOne 0 v).bind _ = none
    rw [hv.upgrade_fails]
    rfl
  cases hstart with
  | upgraded h =>
    rw [hreconcile, hfails] at h
    cases h
  | failed _ hv' => exact (hv' rfl).trans hreconcile

/-- No upgrade or downgrade goes through on tables without a stamp. -/
theorem Legacy.move_fails (hv : Legacy v) (m : Move) : v.move m = none := by
  have hposition : v.position = some 0 := by
    unfold Volume.position
    rw [hv.unstamped]
    rfl
  cases m with
  | up =>
    rw [Volume.move, hposition]
    exact hv.upgrade_fails
  | down =>
    rw [Volume.move, hposition]
    rfl

/-! ## Runs -/

theorem Tracked.served (hv : Tracked k v) (hversion : w.versionTable = v.versionTable)
    (hcatalogue : w.db.catalogue = v.db.catalogue) (hfits : Ddl.Fits w.db) : Tracked k w where
  position := by
    have hposition := hv.position
    unfold Volume.position at hposition ⊢
    rw [hversion]
    exact hposition
  db := ⟨hv.db.within, hcatalogue ▸ hv.db.catalogue, hfits⟩

/-- The volume is at a revision, or has the baseline's tables without a stamp. -/
def Known (v : Volume) : Prop := (∃ k, Tracked k v) ∨ Legacy v

theorem Tracked.step (hv : Tracked k v) {e : Event} (hstep : Step d v e w) : ∃ n, Tracked n w := by
  cases hstep with
  | started h => exact ⟨_, (hv.started h).1⟩
  | @moved _ m h =>
    cases m with
    | up =>
      rw [Volume.move, hv.position] at h
      by_cases hk : k < revisions.length
      · obtain ⟨v', hup, hv', -⟩ := hv.up hk
        obtain rfl := Option.some.inj (hup.symm.trans h)
        exact ⟨_, hv'⟩
      · have hnone : upgradeOne k v = none := by
          unfold upgradeOne
          rw [List.getElem?_eq_none (Nat.le_of_not_lt hk)]
          rfl
        cases hnone.symm.trans h
    | down =>
      rw [Volume.move, hv.position] at h
      cases k with
      | zero => cases h
      | succ k =>
        obtain ⟨v', hdown, hv', -⟩ := hv.down
        obtain rfl := Option.some.inj (hdown.symm.trans h)
        exact ⟨_, hv'⟩
  | served hversion hcatalogue hfits => exact ⟨k, hv.served hversion hcatalogue hfits⟩

theorem Legacy.step (hv : Legacy v) {e : Event} (hstep : Step d v e w) :
    Legacy w ∨ d = .sqlite ∧ ∃ n, Tracked n w := by
  cases hstep with
  | started h =>
    cases d with
    | sqlite => exact Or.inr ⟨rfl, _, (hv.started_sqlite h).1⟩
    | postgresql => exact Or.inl (hv.started_postgresql h ▸ hv)
  | moved h =>
    rw [hv.move_fails] at h
    cases h
  | served hversion hcatalogue hfits =>
    exact Or.inl ⟨hversion.trans hv.unstamped, hv.db.within, hcatalogue ▸ hv.db.catalogue, hfits⟩

/-- Tables without a stamp stay without one on PostgreSQL. -/
theorem Legacy.stays {events : List Event} (hrun : Steps (Step .postgresql) v events w)
    (hv : Legacy v) : Legacy w :=
  hrun.inv (fun s e t hstep hs => (hs.step hstep).resolve_right fun h => by cases h.1) hv

theorem Known.step {e : Event} (hv : Known v) (hstep : Step d v e w) : Known w := by
  obtain ⟨k, hk⟩ | hlegacy := hv
  · exact Or.inl (hk.step hstep)
  · exact (hlegacy.step hstep).symm.imp_left fun h => h.2

/-- Whatever starts, upgrades and downgrades along the chain, and requests have made of a volume
    at a revision, or with the baseline's tables and no `alembic_version`: a start brings it to
    the head with the ORM's tables, and going back down gives back the database it found; except
    that on PostgreSQL the tables without `alembic_version` stay as they are, and they are not the
    ORM's. -/
theorem starts_reach_head {events : List Event} {w' : Volume}
    (hrun : Steps (Step d) v events w) (hv : Known v) (hstart : Started d w w') :
    (¬ (d = .postgresql ∧ Legacy v) → Tracked revisions.length w' ∧
      MatchesMetadata w'.db.catalogue ∧
      ∃ k, Ddl.AtVersion base migrations k w.db ∧ GivesBack k w w') ∧
    (d = .postgresql ∧ Legacy v → w' = w ∧ ¬ MatchesMetadata w'.db.catalogue) := by
  constructor
  · intro hexcept
    have hw : (∃ k, Tracked k w) ∨ Legacy w ∧ d = .sqlite := by
      obtain ⟨k, hk⟩ | hlegacy := hv
      · exact Or.inl (hrun.inv (I := fun u => ∃ n, Tracked n u)
          (fun s e t hstep ⟨n, hn⟩ => hn.step hstep) ⟨k, hk⟩)
      · have hd : d = .sqlite := by
          cases d with
          | sqlite => rfl
          | postgresql => exact absurd ⟨rfl, hlegacy⟩ hexcept
        have hknown : Known w := hrun.inv (I := Known)
          (fun _ _ _ hstep hs => hs.step hstep) (Or.inr hlegacy)
        exact hknown.imp_right fun h => ⟨h, hd⟩
    obtain ⟨k, hk⟩ | ⟨hlegacy, rfl⟩ := hw
    · obtain ⟨hhead, hback⟩ := hk.started hstart
      exact ⟨hhead, hhead.matchesMetadata, k, hk.db, hback⟩
    · obtain ⟨hhead, hback⟩ := hlegacy.started_sqlite hstart
      exact ⟨hhead, hhead.matchesMetadata, 1, hlegacy.db, hback⟩
  · rintro ⟨rfl, hlegacy⟩
    have hstays := hlegacy.stays hrun
    obtain rfl := hstays.started_postgresql hstart
    refine ⟨rfl, ?_⟩
    have hall : ((Ddl.catalogueAt base migrations 1).map
        fun c => decide (MatchesMetadata c)) = some false := by decide +kernel
    rw [hstays.db.catalogue] at hall
    exact of_decide_eq_false (Option.some.inj hall)

/-- A volume that predates Alembic, its first start on SQLite and its second. -/
theorem starts_reach_head_acme :
    ∃ w w', Steps (Step .sqlite) ⟨none, withTenant 1 acme⟩ [.started] w ∧
      Started .sqlite w w' ∧ Tracked 4 w' ∧ MatchesMetadata w'.db.catalogue ∧
      (w'.db.rows "tenants").map (fun r => (r.get "name", r.get "status", r.get "plan")) =
        [(some (.text "acme"), some (.text "active"), some (.text "enterprise"))] := by
  have hlegacy : Legacy ⟨none, withTenant 1 acme⟩ := ⟨rfl, acme_atVersion⟩
  have hrows : ((reconcile .sqlite ⟨none, withTenant 1 acme⟩).upgradeHead.bind upgradeHead).map
      (fun w => (w.db.rows "tenants").map fun r => (r.get "name", r.get "status", r.get "plan")) =
        some [(some (.text "acme"), some (.text "active"), some (.text "enterprise"))] := by
    decide +kernel
  obtain ⟨w', hw', hrows⟩ := Option.map_eq_some_iff.mp hrows
  obtain ⟨w, hfirst, hsecond⟩ := Option.bind_eq_some_iff.mp hw'
  have hstart : Started .sqlite ⟨none, withTenant 1 acme⟩ w := .upgraded hfirst
  have hstart' : Started .sqlite w w' := by
    rw [← (hlegacy.started_sqlite hstart).1.reconcile .sqlite] at hsecond
    exact .upgraded hsecond
  have hrun : Steps (Step .sqlite) ⟨none, withTenant 1 acme⟩ [.started] w :=
    .cons (.started hstart) (.nil w)
  obtain ⟨htracked, hmatches, -⟩ :=
    (starts_reach_head hrun (Or.inr hlegacy) hstart').1 fun h => by cases h.1
  exact ⟨w, w', hrun, hstart', htracked, hmatches, hrows⟩

end Volume

end SentinelAI
