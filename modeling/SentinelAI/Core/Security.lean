import SentinelAI.Core.Session

/-
  Passwords and access tokens (`app/core/security.py`, `app/core/principal.py`) and the
  cipher of stored secrets (`app/core/crypto.py`).
-/

namespace SentinelAI

/-- `_encode`: at most 72 bytes of UTF-8. -/
def encodePassword (password : String) : List UInt8 :=
  password.toUTF8.toList.take 72

def hashPassword (env : Env) (password : String) : String :=
  env.hashpw (encodePassword password)

/-- `verify_password`: false when the stored hash is malformed. -/
def verifyPassword (rt : Runtime) (plain hashed : String) : Bool :=
  (rt.checkpw (encodePassword plain) hashed).getD false

/-- The token `create_access_token` signs for a principal. -/
def newToken (rt : Runtime) (p : Principal) (now : Time) (jti : String) : Token where
  sub := p.username
  uid := p.userId
  tenantId := p.tenantId
  role := p.role
  jti := jti
  exp := Time.seconds (now + minutes rt.settings.jwtExpireMinutes)

/-- `issue_token`. -/
def issueToken (rt : Runtime) (env : Env) (p : Principal) : ApiM Token := do
  let now ← readClock env
  let jti ← uuidHex env
  let token := newToken rt p now jti
  signToken token
  return token

/-- `decode_access_token`: the signature verifies and the token has not expired. -/
def decodeAccessToken (issued : List Token) (now : Time) (token : Token) : Except Exc Token :=
  if token ∈ issued ∧ Time.seconds now ≤ token.exp then .ok token
  else .error (httpError 401 "Invalid or expired token")

/-- `principal_from_token`, its errors as the 401 answers they become. -/
def principalFromToken (issued : List Token) (now : Time) (token : Token) :
    Except Exc Principal := do
  let t ← decodeAccessToken issued now token
  if t.claimsMissing then .error (httpError 401 "Token missing required identity claims")
  else .ok t.principal

/-- `encrypt_secret`. -/
def encryptSecret (env : Env) (plaintext : String) : String :=
  if plaintext == "" then "" else env.fernetEncrypt plaintext

/-- `decrypt_secret`. -/
def decryptSecret (rt : Runtime) (token : String) : Except Exc String :=
  if token == "" then .ok ""
  else
    match rt.fernetDecrypt token with
    | some plaintext => .ok plaintext
    | none => .error .secretCipher

theorem principalFromToken_ok {issued : List Token} {now : Time} {token : Token} {p : Principal}
    (h : principalFromToken issued now token = .ok p) :
    token ∈ issued ∧ Time.seconds now ≤ token.exp ∧ token.claimsMissing = false ∧
      p = token.principal := by
  unfold principalFromToken decodeAccessToken at h
  by_cases hd : token ∈ issued ∧ Time.seconds now ≤ token.exp
  · rw [if_pos hd] at h
    cases hc : token.claimsMissing with
    | true => simp [hc, bind, Except.bind] at h
    | false =>
      simp only [bind, Except.bind, hc, Bool.false_eq_true, if_false, Except.ok.injEq] at h
      exact ⟨hd.1, hd.2, rfl, h.symm⟩
  · rw [if_neg hd] at h
    cases h

end SentinelAI
