import SentinelAI.Api.System
import SentinelAI.Db.Bootstrap

/-
  The life of a deployment (`lifespan` of `app/main.py`): the process starts, serves requests,
  and is started again. A start seeds the database it finds; tokens signed before it stay
  valid, and what the capture channel held is gone with the process. `init_db` creates the
  tables that are missing, so the rows stay.
-/

namespace SentinelAI

open Lib

/-- What happens to a deployment. -/
inductive Occurrence where
  | start (env : Env)
  | request (e : Event)

/-- The world after a start: `seed_default` commits by itself, or raises and commits nothing. -/
def start (env : Env) (w : World) : World :=
  let s := stateOf ((Bootstrap.seedDefault env).run w.session)
  { db := s.committed, issued := s.issued }

def occur (rt : Runtime) (w : World) : Occurrence → World
  | .start env => start env w
  | .request e => step rt w e

/-- A deployment, from its first start on if the world is new. -/
def live (rt : Runtime) (w : World) (os : List Occurrence) : World := os.foldl (occur rt) w

/-- No rows, no tokens. -/
def World.new : World := { db := .empty }

theorem live_append (rt : Runtime) (w : World) (os os' : List Occurrence) :
    live rt w (os ++ os') = live rt (live rt w os) os' := List.foldl_append

/-- What every occurrence keeps, a deployment keeps. -/
theorem live_keeps {rt : Runtime} {I : World → Prop} (h : ∀ w o, I w → I (occur rt w o)) {w : World}
    (hw : I w) (os : List Occurrence) : I (live rt w os) := by
  induction os generalizing w with
  | nil => exact hw
  | cons o os ih => exact ih (h w o hw)

/-! ## The default tenant in small examples -/

/-- The environment of another start. -/
def laterStart : Env := { now := fun _ => 0, uuid4 := fun i => "s" ++ toString i }

/-- The default tenant's administrator logs in. -/
def analystSignsIn (jti : String) : Event where
  env := { now := fun _ => 0, uuid4 := fun _ => jti }
  request := .login { username := Bootstrap.defaultUser, password := Bootstrap.defaultPassword,
                      tenant := Bootstrap.defaultTenant }

def analystToken : Token where
  sub := "analyst"
  uid := "u0"
  tenantId := "t0"
  role := "admin"
  jti := "j1"
  exp := 3600

end SentinelAI
