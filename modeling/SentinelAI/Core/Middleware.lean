import Mathlib.Algebra.Order.Field.Rat
import Mathlib.Logic.Function.Basic

/-
  Rate limiting (`app/core/middleware.py`). `dispatch` looks at the clock, its own deque and
  the client's host, and does not await before it passes the request on, so the calls of
  concurrent requests happen one after the other. Clock readings are exact seconds.
-/

namespace SentinelAI

structure JSONResponse where
  statusCode : Nat
  detail : String
  deriving DecidableEq, Repr

structure RateLimitMiddleware where
  limit : Int
  /-- `defaultdict(deque)`: the hits of each client host, the oldest first -/
  hits : String → List ℚ

namespace RateLimitMiddleware

/-- What `dispatch` reads of a request, and `time.time()` when it does. -/
structure Arrival where
  /-- `request.client.host`, if the server knows the peer -/
  host : Option String
  now : ℚ
  deriving DecidableEq

/-- `request.client.host if request.client else "unknown"`. -/
def Arrival.client (r : Arrival) : String := r.host.getD "unknown"

def init (limitPerMinute : Int) : RateLimitMiddleware := ⟨limitPerMinute, fun _ => []⟩

/-- `while window and now - window[0] > 60.0: window.popleft()`. -/
def popExpired (now : ℚ) : List ℚ → List ℚ
  | [] => []
  | t :: window => if now - t > 60 then popExpired now window else t :: window

/-- The response, none if the request is passed on. -/
def dispatch (m : RateLimitMiddleware) (r : Arrival) : Option JSONResponse × RateLimitMiddleware :=
  let window := popExpired r.now (m.hits r.client)
  if (window.length : Int) ≥ m.limit then
    (some ⟨429, "Rate limit exceeded"⟩, { m with hits := Function.update m.hits r.client window })
  else
    (none, { m with hits := Function.update m.hits r.client (window ++ [r.now]) })

/-- The middleware after a sequence of requests. -/
def serve (m : RateLimitMiddleware) (rs : List Arrival) : RateLimitMiddleware :=
  rs.foldl (fun m r => (m.dispatch r).2) m

/-- The responses to a sequence of requests. -/
def responses (m : RateLimitMiddleware) : List Arrival → List (Option JSONResponse)
  | [] => []
  | r :: rs => (m.dispatch r).1 :: responses (m.dispatch r).2 rs

end RateLimitMiddleware

end SentinelAI
