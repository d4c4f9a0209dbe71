import Mathlib
import GeoRisk.SharedKernel

/-! The aggregates of identity: tenants, users with their role, refresh tokens, password-reset and
    invitation tokens, and the denylist of access tokens. Only the hash of a token is stored. A
    redeemed refresh token is revoked and points at the token that replaced it, so the tokens of one
    login form a chain:

        login ─▶ token ──replaced_by──▶ token ──replaced_by──▶ token (the one in use) -/

namespace GeoRisk.Identity

structure RefreshTokenId where
  value : UUID
  deriving DecidableEq

structure PasswordResetTokenId where
  value : UUID
  deriving DecidableEq

structure InvitationTokenId where
  value : UUID
  deriving DecidableEq

instance : ToString RefreshTokenId := ⟨fun i => UUID.str i.value⟩
instance : ToString PasswordResetTokenId := ⟨fun i => UUID.str i.value⟩
instance : ToString InvitationTokenId := ⟨fun i => UUID.str i.value⟩

inductive RoleName where
  | owner | admin | analyst | viewer
  deriving DecidableEq

inductive PermissionCode where
  | tenantManage | userInvite | userManageRole | userManageStatus | userView | roleView
  | assessmentView | assessmentManage | assessmentArchive | assessmentCancel
  | workflowTemplateManage | workflowTemplateView
  | validationView | validationManage
  | datasetView | datasetManage
  | alertRuleView | alertRuleManage
  | notificationSubscriptionView | notificationSubscriptionManage
  | notificationView | notificationManage
  | dashboardView
  deriving DecidableEq

inductive UserStatus where
  | invited | active | suspended | deactivated
  deriving DecidableEq

/-- `RoleName(name)`. -/
def RoleName.ofString : String → Option RoleName
  | "OWNER" => some .owner
  | "ADMIN" => some .admin
  | "ANALYST" => some .analyst
  | "VIEWER" => some .viewer
  | _ => none

def UserStatus.value : UserStatus → String
  | .invited => "INVITED"
  | .active => "ACTIVE"
  | .suspended => "SUSPENDED"
  | .deactivated => "DEACTIVATED"

instance : ToString UserStatus := ⟨UserStatus.value⟩

/-- `status.value.lower()`. -/
def UserStatus.lower : UserStatus → String
  | .invited => "invited"
  | .active => "active"
  | .suspended => "suspended"
  | .deactivated => "deactivated"

/-! ### Errors and events -/

/-- The error classes the handlers raise; `valueError` and `assertionError` are Python's own. -/
inductive IdentityErrorKind where
  | invalidCredentials | userNotActive | invalidOrExpiredToken | refreshTokenReuseDetected
  | optimisticConcurrency | userNotFound | roleNotFound | emailAlreadyRegistered
  | tenantSlugAlreadyExists | illegalUserStatusTransition | lastOwnerRemoval | weakPassword
  | authenticationFailed | valueError | assertionError
  deriving DecidableEq

structure IdentityError where
  kind : IdentityErrorKind
  message : String
  deriving DecidableEq

structure UserLoggedIn where
  userId : UserId
  tenantId : TenantId
  deriving DecidableEq

structure UserLoginFailed where
  email : String
  reason : String
  deriving DecidableEq

structure RefreshTokenIssued where
  userId : UserId
  tenantId : TenantId
  refreshTokenId : RefreshTokenId
  deriving DecidableEq

structure RefreshTokenRotated where
  userId : UserId
  tenantId : TenantId
  oldRefreshTokenId : RefreshTokenId
  newRefreshTokenId : RefreshTokenId
  deriving DecidableEq

structure RefreshTokenReuseDetected where
  userId : UserId
  tenantId : TenantId
  refreshTokenId : RefreshTokenId
  deriving DecidableEq

structure RefreshTokenRevoked where
  userId : UserId
  tenantId : TenantId
  refreshTokenId : RefreshTokenId
  reason : String
  deriving DecidableEq

structure TenantRegistered where
  tenantId : TenantId
  name : String
  slug : String
  deriving DecidableEq

structure UserRegistered where
  userId : UserId
  tenantId : TenantId
  email : String
  roleName : RoleName
  status : UserStatus
  deriving DecidableEq

structure UserInvited where
  userId : UserId
  tenantId : TenantId
  email : String
  roleName : RoleName
  invitedBy : String
  deriving DecidableEq

structure UserActivated where
  userId : UserId
  tenantId : TenantId
  deriving DecidableEq

structure UserRoleChanged where
  userId : UserId
  tenantId : TenantId
  oldRoleName : RoleName
  newRoleName : RoleName
  changedBy : String
  deriving DecidableEq

structure UserStatusChanged where
  userId : UserId
  tenantId : TenantId
  oldStatus : UserStatus
  newStatus : UserStatus
  changedBy : String
  reason : String := ""
  deriving DecidableEq

structure PasswordChanged where
  userId : UserId
  tenantId : TenantId
  deriving DecidableEq

structure PasswordResetRequested where
  userId : UserId
  tenantId : TenantId
  deriving DecidableEq

structure PasswordResetCompleted where
  userId : UserId
  tenantId : TenantId
  deriving DecidableEq

structure AllSessionsRevoked where
  userId : UserId
  tenantId : TenantId
  reason : String
  deriving DecidableEq

inductive IdentityEvent where
  | userLoggedIn (e : UserLoggedIn)
  | userLoginFailed (e : UserLoginFailed)
  | refreshTokenIssued (e : RefreshTokenIssued)
  | refreshTokenRotated (e : RefreshTokenRotated)
  | refreshTokenReuseDetected (e : RefreshTokenReuseDetected)
  | refreshTokenRevoked (e : RefreshTokenRevoked)
  | tenantRegistered (e : TenantRegistered)
  | userRegistered (e : UserRegistered)
  | userInvited (e : UserInvited)
  | userActivated (e : UserActivated)
  | userRoleChanged (e : UserRoleChanged)
  | userStatusChanged (e : UserStatusChanged)
  | passwordChanged (e : PasswordChanged)
  | passwordResetRequested (e : PasswordResetRequested)
  | passwordResetCompleted (e : PasswordResetCompleted)
  | allSessionsRevoked (e : AllSessionsRevoked)
  deriving DecidableEq

/-! ### Tenants and users -/

structure ContactInfo where
  email : String
  phone : String := ""
  address : String := ""
  deriving DecidableEq

structure Branding where
  logoUrl : String := ""
  deriving DecidableEq

structure Tenant where
  id : TenantId
  name : String
  slug : String
  contact : ContactInfo
  branding : Branding
  isActive : Bool
  createdAt : Timestamp
  updatedAt : Timestamp
  deriving DecidableEq

/-- `Tenant.register`, under a fresh `id`. -/
def Tenant.register (id : TenantId) (name slug : String) (contact : ContactInfo) (now : Timestamp) :
    Tenant × TenantRegistered :=
  ({ id, name, slug, contact, branding := {}, isActive := true, createdAt := now, updatedAt := now },
    ⟨id, name, slug⟩)

structure Role where
  name : RoleName
  permissions : Finset PermissionCode
  deriving DecidableEq

structure User where
  id : UserId
  tenantId : TenantId
  email : String
  hashedPassword : Option String
  role : Role
  status : UserStatus
  createdAt : Timestamp
  updatedAt : Timestamp
  lastLoginAt : Option Timestamp := none
  version : ℕ := 0
  tokenGeneration : ℕ := 0
  deriving DecidableEq

def User.recordLogin (self : User) (now : Timestamp) : User := { self with lastLoginAt := some now }

def User.isLoginEligible (self : User) : Bool := self.status = .active

/-! ### Tokens -/

/-- Thirty days, an instant being counted in microseconds. -/
def REFRESH_TOKEN_TTL : ℕ := 30 * 24 * 60 * 60 * 1000000

structure RefreshToken where
  id : RefreshTokenId
  userId : UserId
  tenantId : TenantId
  tokenHash : String
  issuedAt : Timestamp
  expiresAt : Timestamp
  revokedAt : Option Timestamp := none
  replacedById : Option RefreshTokenId := none
  deriving DecidableEq

namespace RefreshToken

/-- A new token, under a fresh `id`. -/
def issue (id : RefreshTokenId) (userId : UserId) (tenantId : TenantId) (tokenHash : String)
    (now : Timestamp) : RefreshToken :=
  { id, userId, tenantId, tokenHash, issuedAt := now, expiresAt := now + REFRESH_TOKEN_TTL }

def isActive (self : RefreshToken) (now : Timestamp) : Bool :=
  self.revokedAt.isNone && now < self.expiresAt

def revoke (self : RefreshToken) (replacedById : Option RefreshTokenId) (now : Timestamp) :
    RefreshToken :=
  { self with revokedAt := some now, replacedById }

def assertActive (self : RefreshToken) (now : Timestamp) : Except IdentityError Unit :=
  if self.isActive now then .ok ()
  else .error ⟨.invalidOrExpiredToken, s!"Refresh token {self.id} is expired or revoked"⟩

end RefreshToken

/-- A token that is mailed out and used once; `ι` tells password-reset and invitation tokens apart. -/
structure OneTimeToken (ι : Type) where
  id : ι
  userId : UserId
  tenantId : TenantId
  tokenHash : String
  createdAt : Timestamp
  expiresAt : Timestamp
  usedAt : Option Timestamp := none
  deriving DecidableEq

abbrev PasswordResetToken := OneTimeToken PasswordResetTokenId
abbrev InvitationToken := OneTimeToken InvitationTokenId

/-- One hour. -/
def PASSWORD_RESET_TOKEN_TTL : ℕ := 60 * 60 * 1000000

/-- Seven days. -/
def INVITATION_TOKEN_TTL : ℕ := 7 * 24 * 60 * 60 * 1000000

namespace OneTimeToken

variable {ι : Type}

/-- A new token, under a fresh `id`. -/
def issue (ttl : ℕ) (id : ι) (userId : UserId) (tenantId : TenantId) (tokenHash : String)
    (now : Timestamp) : OneTimeToken ι :=
  { id, userId, tenantId, tokenHash, createdAt := now, expiresAt := now + ttl }

def isValid (self : OneTimeToken ι) (now : Timestamp) : Bool :=
  self.usedAt.isNone && now < self.expiresAt

def markUsed (self : OneTimeToken ι) (now : Timestamp) : OneTimeToken ι :=
  { self with usedAt := some now }

/-- `assert_valid`; `kind` is the word its message begins with. -/
def assertValid [ToString ι] (kind : String) (self : OneTimeToken ι) (now : Timestamp) :
    Except IdentityError Unit :=
  if self.isValid now then .ok ()
  else .error ⟨.invalidOrExpiredToken, s!"{kind} token {self.id} is expired or already used"⟩

end OneTimeToken

def PasswordResetToken.assertValid (self : PasswordResetToken) (now : Timestamp) :
    Except IdentityError Unit :=
  OneTimeToken.assertValid "Password reset" self now

def InvitationToken.assertValid (self : InvitationToken) (now : Timestamp) :
    Except IdentityError Unit :=
  OneTimeToken.assertValid "Invitation" self now

/-- An entry of the denylist. -/
structure RevokedAccessToken where
  jti : String
  userId : UserId
  tenantId : TenantId
  revokedAt : Timestamp
  expiresAt : Timestamp
  deriving DecidableEq

def RevokedAccessToken.issue (jti : String) (userId : UserId) (tenantId : TenantId)
    (expiresAt now : Timestamp) : RevokedAccessToken :=
  { jti, userId, tenantId, revokedAt := now, expiresAt }

/-- What an access token says of its bearer. -/
structure AccessTokenClaims where
  userId : UserId
  tenantId : TenantId
  roleName : RoleName
  permissions : Finset PermissionCode
  tokenGeneration : ℕ := 0
  jti : String := ""
  deriving DecidableEq

/-- What is signed into an access token; `iat` and `exp` are in seconds. -/
structure AccessTokenPayload where
  sub : UserId
  tenantId : TenantId
  role : RoleName
  permissions : Finset PermissionCode
  type : String
  iat : ℕ
  exp : ℕ
  jti : String
  gen : ℕ
  deriving DecidableEq

structure IssuedAccessToken where
  token : String
  expiresInSeconds : ℕ
  deriving DecidableEq

def claimsFor (user : User) : AccessTokenClaims where
  userId := user.id
  tenantId := user.tenantId
  roleName := user.role.name
  permissions := user.role.permissions
  tokenGeneration := user.tokenGeneration

end GeoRisk.Identity
