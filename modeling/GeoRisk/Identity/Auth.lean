import Mathlib
import GeoRisk.Identity.Store

/-! Login, refresh and logout, each a transaction at READ COMMITTED. Nothing is locked between the read
    that finds a token unrevoked and the commit that revokes it. -/

namespace GeoRisk.Identity

/-- Why `jwt.decode`, or the reading of what it returns, fails. -/
inductive JwtError where
  | expiredSignature | invalidToken | malformedPayload
  deriving DecidableEq

/-- The libraries the handlers rest on: password hashing (with the salt that is drawn for a hash),
    token hashing, and signed access tokens, decoded at an instant in seconds. -/
structure Ports where
  verify : String → String → Bool
  hash : String → String → String
  hashToken : String → String
  encode : AccessTokenPayload → String
  decode : ℕ → String → Except JwtError AccessTokenPayload
  ttlSeconds : ℕ

/-- `int(time.time())`. -/
def epochSeconds (now : Timestamp) : ℕ := now / 1000000

namespace Ports

/-- What `JwtAccessTokenIssuer.issue` signs, with the drawn `jti`. -/
def payload (ports : Ports) (now : Timestamp) (jti : String) (claims : AccessTokenClaims) :
    AccessTokenPayload where
  sub := claims.userId
  tenantId := claims.tenantId
  role := claims.roleName
  permissions := claims.permissions
  type := "access"
  iat := epochSeconds now
  exp := epochSeconds now + ports.ttlSeconds
  jti := jti
  gen := claims.tokenGeneration

/-- `JwtAccessTokenIssuer.issue`. -/
def issue (ports : Ports) (now : Timestamp) (jti : String) (claims : AccessTokenClaims) :
    IssuedAccessToken :=
  ⟨ports.encode (ports.payload now jti claims), ports.ttlSeconds⟩

/-- The claims read back from a payload. -/
def claimsOf (payload : AccessTokenPayload) : AccessTokenClaims where
  userId := payload.sub
  tenantId := payload.tenantId
  roleName := payload.role
  permissions := payload.permissions
  tokenGeneration := payload.gen
  jti := payload.jti

/-- `JwtAccessTokenIssuer.decode`. -/
def decodeClaims (ports : Ports) (now : Timestamp) (token : String) :
    Except IdentityError AccessTokenClaims :=
  match ports.decode (epochSeconds now) token with
  | .error .expiredSignature => .error ⟨.authenticationFailed, "Access token has expired"⟩
  | .error .invalidToken => .error ⟨.authenticationFailed, "Access token is invalid"⟩
  | .error .malformedPayload => .error ⟨.authenticationFailed, "Access token payload is malformed"⟩
  | .ok payload =>
    if payload.type ≠ "access" then
      .error ⟨.authenticationFailed, "Token is not an access token"⟩
    else .ok (claimsOf payload)

end Ports

/-! ### Handlers -/

/-- A refresh token's identifier and value, and the `jti` of an access token, as drawn for one
    request. -/
structure Draw where
  id : RefreshTokenId
  raw : String
  jti : String

structure AuthenticatedSession where
  user : User
  rawRefreshToken : String
  accessToken : IssuedAccessToken

structure RefreshedSession where
  rawRefreshToken : String
  accessToken : IssuedAccessToken

/-- What a request comes back with. -/
inductive Reply where
  | authenticated (s : AuthenticatedSession)
  | refreshed (s : RefreshedSession)
  | loggedOut
  | user (u : User)
  | invited (u : User) (rawInvitationToken : String)
  | tenant (t : Tenant)
  | registered (t : Tenant) (owner : User)
  | done

abbrev AuthTxn := Lib.Txn Db Timestamp (Except IdentityError Reply)

section Handlers

variable (ports : Ports)

/-- A failed login is recorded, and then raises. -/
def recordFailure (email reason : String) (now : Timestamp) (error : IdentityError) : AuthTxn :=
  .commit (flush [.append "LoginAttempt" email (.userLoginFailed ⟨email, reason⟩) none now])
    (.error error)

/-- `LoginHandler.handle`. -/
def login (email password : String) (draw : Draw) : AuthTxn :=
  .query fun now db =>
    match db.getUserByEmail email with
    | none => recordFailure email "user_not_found" now
        ⟨.invalidCredentials, "Invalid email or password"⟩
    | some loaded =>
      if !loaded.isLoginEligible then
        recordFailure email s!"status_{loaded.status.lower}" now
          ⟨.userNotActive, "This account is not active"⟩
      else if !loaded.hashedPassword.any (ports.verify password) then
        recordFailure email "wrong_password" now ⟨.invalidCredentials, "Invalid email or password"⟩
      else
        let user := loaded.recordLogin now
        saveUser user fun now saved =>
        let token := RefreshToken.issue draw.id user.id user.tenantId (ports.hashToken draw.raw) now
        .commit (flush [saved, .insertToken token,
          userEvent user (.userLoggedIn ⟨user.id, user.tenantId⟩) now,
          tokenEvent token.id user.tenantId
            (.refreshTokenIssued ⟨user.id, user.tenantId, token.id⟩) now])
          (.ok (.authenticated ⟨user, draw.raw, ports.issue now draw.jti (claimsFor user)⟩))

/-- A revoked token was presented again: every session of its user is ended. -/
def reuseDetected (token : RefreshToken) : AuthTxn :=
  .query fun now db =>
    .commit (flush (revokeModels (db.activeTokensOf token.userId) now ++
      [tokenEvent token.id token.tenantId
        (.refreshTokenReuseDetected ⟨token.userId, token.tenantId, token.id⟩) now]))
      (.error ⟨.refreshTokenReuseDetected, "This refresh token has already been used — " ++
        "all sessions for this account have been revoked"⟩)

/-- The token is exchanged for a new one. -/
def rotate (loaded : RefreshToken) (draw : Draw) : AuthTxn :=
  .query fun now db =>
    match db.users.get loaded.userId with
    | none => .rollback (.error ⟨.userNotActive, "This account is not active"⟩)
    | some user =>
      if !user.isLoginEligible then
        .rollback (.error ⟨.userNotActive, "This account is not active"⟩)
      else
        let newToken :=
          RefreshToken.issue draw.id loaded.userId loaded.tenantId (ports.hashToken draw.raw) now
        let token := loaded.revoke (some newToken.id) now
        saveToken token fun now saved =>
        .commit (flush [.insertToken newToken, saved,
          tokenEvent newToken.id user.tenantId
            (.refreshTokenRotated ⟨user.id, user.tenantId, token.id, newToken.id⟩) now])
          (.ok (.refreshed ⟨draw.raw, ports.issue now draw.jti (claimsFor user)⟩))

/-- `RefreshAccessTokenHandler.handle`. -/
def refreshAccessToken (refreshToken : String) (draw : Draw) : AuthTxn :=
  .query fun now db =>
    match db.getByTokenHash (ports.hashToken refreshToken) with
    | none => .rollback (.error ⟨.invalidOrExpiredToken, "Refresh token not found"⟩)
    | some token =>
      if token.revokedAt.isSome then reuseDetected token
      else
        match token.assertActive now with
        | .error e => .rollback (.error e)
        | .ok () => rotate ports token draw

/-- A logout commits its writes, if it has any. -/
def finishLogout : List Write → AuthTxn
  | [] => .rollback (.ok .loggedOut)
  | writes => .commit (flush writes) (.ok .loggedOut)

/-- The denylist half of a logout, after the token half with these writes. -/
def logoutAccessToken (claims : Option AccessTokenClaims) (expiresAt : Option Timestamp)
    (writes : List Write) : AuthTxn :=
  match claims, expiresAt with
  | some claims, some expiresAt =>
    if claims.jti = "" then finishLogout writes
    else
      .query fun now db =>
        if db.isRevoked claims.jti then finishLogout writes
        else
          saveRevoked
            (RevokedAccessToken.issue claims.jti claims.userId claims.tenantId expiresAt now)
            fun _ saved => finishLogout (writes ++ [saved])
  | _, _ => finishLogout writes

/-- `LogoutHandler.handle`. -/
def logout (refreshToken : String) (claims : Option AccessTokenClaims)
    (expiresAt : Option Timestamp) : AuthTxn :=
  .query fun now db =>
    match db.getByTokenHash (ports.hashToken refreshToken) with
    | none => logoutAccessToken claims expiresAt []
    | some loaded =>
      if loaded.revokedAt.isSome then logoutAccessToken claims expiresAt []
      else
        let token := loaded.revoke none now
        saveToken token fun now saved =>
        logoutAccessToken claims expiresAt [saved, tokenEvent token.id token.tenantId
          (.refreshTokenRevoked ⟨token.userId, token.tenantId, token.id, "logout"⟩) now]

end Handlers

end GeoRisk.Identity
