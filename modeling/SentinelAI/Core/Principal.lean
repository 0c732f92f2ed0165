import SentinelAI.Core.Rbac
import SentinelAI.Models.Domain

/-
  Request principals and the claims of access tokens (`app/core/principal.py`).

  A token is its claims; that its signature verifies is membership in the list of tokens
  the platform has signed, which a session carries (`Core/Session.lean`).
-/

namespace SentinelAI

/-- The authenticated identity of a request. -/
structure Principal where
  userId : String
  username : String
  tenantId : String
  role : String
  jti : Option String := none
  deriving DecidableEq, Repr

def Principal.can (p : Principal) (permission : Permission) : Bool :=
  hasPermission p.role permission

/-- The claims `create_access_token` signs. -/
structure Token where
  sub : String
  uid : String
  tenantId : String
  role : String
  jti : String
  /-- seconds since the epoch -/
  exp : Int
  deriving DecidableEq, Repr

/-- The `Authorization` header. -/
inductive Authorization where
  /-- does not start with "bearer " -/
  | missing
  /-- a bearer text no key of the platform signed -/
  | unsigned
  | bearer (t : Token)
  deriving DecidableEq, Repr

/-- Whole seconds of an instant, as a JWT carries it. -/
def Time.seconds (t : Time) : Int := t / 1000000

/-- Microseconds of a number of minutes. -/
def minutes (n : Int) : Int := n * 60000000

/-- A token without one of its identity claims. -/
def Token.claimsMissing (t : Token) : Bool :=
  t.sub == "" || t.tenantId == "" || t.role == "" || t.uid == ""

def Token.principal (t : Token) : Principal where
  userId := t.uid
  username := t.sub
  tenantId := t.tenantId
  role := t.role
  jti := some t.jti

end SentinelAI
