import SentinelAI.Db.Migrations
import SentinelAI.Lib.Run

/-
  A database volume in deployment: upgrades and downgrades along the chain of revisions, and the
  container's start (`entrypoint.sh` with `SENTINEL_DB_CREATE_ALL=false`). The start asks whether
  the volume has a stamp and whether it has tables, stamps the baseline on tables without a
  stamp, and runs `alembic upgrade head`; if that fails it serves all the same. Of an operator's
  commands only those that succeed are steps here, and `alembic stamp`, which can put any stamp
  on any tables, is none.

  On PostgreSQL a statement that fails fails the rest of its transaction, and a migration that
  fails leaves nothing behind. On SQLite a failed statement is over with, and what a failed
  migration leaves behind is not said here.
-/

namespace SentinelAI

open Lib Migrations

inductive Dialect where
  | sqlite
  | postgresql
  deriving DecidableEq, Repr

structure Volume where
  /-- `alembic_version`: none without the table, else its row if it has one -/
  versionTable : Option (Option String)
  db : Ddl.Database SqlType SqlValue

namespace Volume

/-- The migrations applied, by the stamp; none is "Can't locate revision". -/
def position (v : Volume) : Option Nat :=
  match v.versionTable.join with
  | none => some 0
  | some rev => (revisions.findIdx? fun r => r.revision = rev).map (· + 1)

/-- The `k`-th migration up. -/
def upgradeOne (k : Nat) (v : Volume) : Option Volume := do
  let r ← revisions[k]?
  let db ← Ddl.applyAll v.db r.upgrade
  return ⟨some (some r.revision), db⟩

/-- The `k`-th migration down. -/
def downgradeOne (k : Nat) (v : Volume) : Option Volume := do
  let r ← revisions[k]?
  let db ← Ddl.applyAll v.db r.downgrade
  return ⟨some r.downRevision, db⟩

/-- `alembic upgrade +1` and `alembic downgrade -1`. -/
def move (v : Volume) : Move → Option Volume
  | .up => v.position.bind fun k => upgradeOne k v
  | .down => v.position.bind fun
    | 0 => none
    | k + 1 => downgradeOne k v

/-- Moves in order. -/
def walk (v : Volume) (ms : List Move) : Option Volume := ms.foldlM move v

/-- `alembic upgrade head`. -/
def upgradeHead (v : Volume) : Option Volume := do
  let k ← v.position
  (List.range' k (revisions.length - k)).foldlM (fun v i => upgradeOne i v) v

/-! ## The start of a container -/

/-- `BASELINE` -/
def baseline : String := "cace9457d0b0"

def hasVersion (v : Volume) : Bool := v.versionTable.join.isSome

/-- The question for `tenants` follows, in one transaction, the one for the stamp. -/
def hasTenants (d : Dialect) (v : Volume) : Bool :=
  (v.db.catalogue.find? "tenants").isSome && !(d = .postgresql && v.versionTable.isNone)

def reconcile (d : Dialect) (v : Volume) : Volume :=
  if !v.hasVersion && v.hasTenants d then { v with versionTable := some (some baseline) } else v

inductive Started (d : Dialect) : Volume → Volume → Prop
  | upgraded {v v' : Volume} (h : (v.reconcile d).upgradeHead = some v') : Started d v v'
  | failed {v v' : Volume} (h : (v.reconcile d).upgradeHead = none)
      (hv' : d = .postgresql → v' = v.reconcile d) : Started d v v'

inductive Event where
  | started
  /-- an operator's `alembic upgrade +1` or `alembic downgrade -1`, done -/
  | moved (m : Move)
  /-- the service reads and writes rows -/
  | served

inductive Step (d : Dialect) : Volume → Event → Volume → Prop
  | started {v v' : Volume} (h : Started d v v') : Step d v .started v'
  | moved {v v' : Volume} {m : Move} (h : v.move m = some v') : Step d v (.moved m) v'
  /-- the database holds the service to the constraints -/
  | served {v v' : Volume} (hversion : v'.versionTable = v.versionTable)
      (hcatalogue : v'.db.catalogue = v.db.catalogue) (hfits : Ddl.Fits v'.db) :
      Step d v .served v'

end Volume

end SentinelAI
