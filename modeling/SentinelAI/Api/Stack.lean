import SentinelAI.Core.Metrics
import SentinelAI.Core.Middleware

/-
  The middleware around the routes (`create_app` in `app/main.py`,
  `RequestLoggingMiddleware` in `app/core/middleware.py`). The middleware added last runs
  first: CORS answers a preflight itself, the request logger waits for the response of
  everything inside it, the rate limiter answers or passes on. Between the limiter's decision
  and the logger's record other requests come and go; each of the two is one uninterrupted
  stretch of the event loop.
-/

namespace SentinelAI

open RateLimitMiddleware

/-- A request from the limiter's decision on. -/
structure Stack.Exchange where
  method : String
  /-- the response of the limiter, none if it passed the request on -/
  refusal : Option JSONResponse
  deriving DecidableEq, Repr

structure Stack where
  limiter : RateLimitMiddleware
  metrics : Metrics
  /-- the requests whose response the logger waits for -/
  inFlight : List Stack.Exchange

namespace Stack

/-- `create_app` with `settings.rate_limit_per_minute`. -/
def start (rateLimitPerMinute : Int) : Stack :=
  ⟨RateLimitMiddleware.init rateLimitPerMinute, Metrics.init, []⟩

inductive Moment where
  /-- `CORSMiddleware` answers an `OPTIONS` request for a preflight -/
  | preflight
  | arrived (method : String) (arrival : Arrival)
  | recorded (x : Exchange) (statusCode : Nat)
  /-- `call_next` raises: nothing is recorded -/
  | raised (x : Exchange)
  /-- `metrics_endpoint` renders its response -/
  | scraped (text : String)

/-- The logger calls the limiter, which decides. -/
def arrive (s : Stack) (method : String) (arrival : Arrival) : Stack where
  limiter := (s.limiter.dispatch arrival).2
  metrics := s.metrics
  inFlight := s.inFlight ++ [⟨method, (s.limiter.dispatch arrival).1⟩]

/-- The logger has the response and records it. -/
def record (s : Stack) (x : Exchange) (statusCode : Nat) : Stack where
  limiter := s.limiter
  metrics := s.metrics.recordRequest x.method statusCode
  inFlight := s.inFlight.erase x

inductive Step : Stack → Moment → Stack → Prop
  | preflight (s : Stack) : Step s .preflight s
  /-- the server accepts a request line whose method is a token -/
  | arrived (s : Stack) {method : String} (arrival : Arrival)
      (htoken : ∀ c ∈ method.toList, Metrics.isTokenChar c = true) :
      Step s (.arrived method arrival) (s.arrive method arrival)
  /-- the status is the limiter's, or whatever the application answers -/
  | recorded {s : Stack} {x : Exchange} {statusCode : Nat} (hx : x ∈ s.inFlight)
      (hstatus : ∀ r, x.refusal = some r → statusCode = r.statusCode) :
      Step s (.recorded x statusCode) (s.record x statusCode)
  | raised {s : Stack} {x : Exchange} (hx : x ∈ s.inFlight) :
      Step s (.raised x) { s with inFlight := s.inFlight.erase x }
  /-- a request that was passed on gets the counters as they are; the average is digits and a
      point -/
  | scraped {s : Stack} {x : Exchange} {avg : String} (hx : x ∈ s.inFlight)
      (hpassed : x.refusal = none) (havg : '\n' ∉ avg.toList) :
      Step s (.scraped (s.metrics.render avg)) s

end Stack

end SentinelAI
