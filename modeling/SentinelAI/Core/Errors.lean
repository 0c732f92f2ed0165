/-
  Exceptions a request can end in. `http` is the `HTTPException` a route raises on purpose
  (a 4xx answer); every other one escapes the route and is answered with a 500.
-/

namespace SentinelAI

/-- The Splunk error hierarchy (`app/splunk/client.py`). -/
inductive SplunkError where
  | auth (msg : String)
  | query (msg : String)
  | connection (msg : String)
  deriving DecidableEq, Repr

def SplunkError.message : SplunkError → String
  | .auth m => m
  | .query m => m
  | .connection m => m

/-- `HTTPException.detail`: a text, the dict of a refused quota, or the request field that
    failed validation. -/
inductive ErrorDetail where
  | text (s : String)
  | invalidField (name : String)
  | quotaExceeded (kind : String) (used limit : Int) (message : String)
  deriving DecidableEq, Repr

inductive Exc where
  | http (status : Nat) (detail : ErrorDetail)
  | splunk (e : SplunkError)
  | circuitOpen
  | aiModel (msg : String)
  | quota (kind : String) (used limit : Int)
  | integrity
  | multipleResults
  | secretCipher
  /-- any other exception class, by name -/
  | other (name : String)
  deriving DecidableEq, Repr

/-- `HTTPException(status_code, detail=text)`. -/
def httpError (status : Nat) (detail : String) : Exc := .http status (.text detail)

end SentinelAI
