import Mathlib
import GeoRisk.Lib.ReadCommitted
import GeoRisk.Lib.Table
import GeoRisk.Identity.Tokens

/-! The tables of identity, and how the repositories write them. A handler works on a copy of a row it
    has loaded. `save` reads the row again and copies the whole entity onto it; what differs from the
    row as `save` has read it is written at the commit:

        load          save                commit
        loaded ─▶ entity ─▶ model ─────▶ current, with the columns in which entity and model differ

    For a user, `save` also compares the version of `model` with the one that was loaded. -/

namespace GeoRisk.Identity

structure Db where
  users : Lib.Table User.id
  refreshTokens : Lib.Table RefreshToken.id
  revokedAccessTokens : Lib.Table RevokedAccessToken.jti
  passwordResetTokens : Lib.Table (@OneTimeToken.id PasswordResetTokenId)
  invitationTokens : Lib.Table (@OneTimeToken.id InvitationTokenId)
  roles : Lib.Table Role.name
  tenants : Lib.Table Tenant.id
  outbox : List (OutboxEvent IdentityEvent)

/-! ### Rows -/

/-- The row `current` after a token was saved over `model`, the row that `save` has read. -/
def RefreshToken.flush (model token current : RefreshToken) : RefreshToken where
  id := current.id
  userId := Lib.flushed model.userId token.userId current.userId
  tenantId := Lib.flushed model.tenantId token.tenantId current.tenantId
  tokenHash := Lib.flushed model.tokenHash token.tokenHash current.tokenHash
  issuedAt := Lib.flushed model.issuedAt token.issuedAt current.issuedAt
  expiresAt := Lib.flushed model.expiresAt token.expiresAt current.expiresAt
  revokedAt := Lib.flushed model.revokedAt token.revokedAt current.revokedAt
  replacedById := Lib.flushed model.replacedById token.replacedById current.replacedById

/-- The same of a one-time token. -/
def OneTimeToken.flush {ι : Type} (model token current : OneTimeToken ι) : OneTimeToken ι where
  id := current.id
  userId := Lib.flushed model.userId token.userId current.userId
  tenantId := Lib.flushed model.tenantId token.tenantId current.tenantId
  tokenHash := Lib.flushed model.tokenHash token.tokenHash current.tokenHash
  createdAt := Lib.flushed model.createdAt token.createdAt current.createdAt
  expiresAt := Lib.flushed model.expiresAt token.expiresAt current.expiresAt
  usedAt := Lib.flushed model.usedAt token.usedAt current.usedAt

/-- The same of a denylist entry. -/
def RevokedAccessToken.flush (model entry current : RevokedAccessToken) : RevokedAccessToken where
  jti := current.jti
  userId := Lib.flushed model.userId entry.userId current.userId
  tenantId := Lib.flushed model.tenantId entry.tenantId current.tenantId
  revokedAt := Lib.flushed model.revokedAt entry.revokedAt current.revokedAt
  expiresAt := Lib.flushed model.expiresAt entry.expiresAt current.expiresAt

/-- The row `current` after a user was saved over `model`, the row that `save` has read and whose
    version it has counted up. -/
def User.flush (model user current : User) : User where
  id := current.id
  tenantId := Lib.flushed model.tenantId user.tenantId current.tenantId
  email := Lib.flushed model.email user.email current.email
  hashedPassword := Lib.flushed model.hashedPassword user.hashedPassword current.hashedPassword
  role := Lib.flushed model.role user.role current.role
  status := Lib.flushed model.status user.status current.status
  createdAt := Lib.flushed model.createdAt user.createdAt current.createdAt
  updatedAt := Lib.flushed model.updatedAt user.updatedAt current.updatedAt
  lastLoginAt := Lib.flushed model.lastLoginAt user.lastLoginAt current.lastLoginAt
  version := Lib.flushed model.version (model.version + 1) current.version
  tokenGeneration := Lib.flushed model.tokenGeneration user.tokenGeneration current.tokenGeneration

/-! ### Tables -/

namespace Db

def getUserByEmail (db : Db) (email : String) : Option User :=
  db.users.rows.find? (·.email = email)

def emailExists (db : Db) (email : String) : Bool := db.users.rows.any (·.email = email)

def slugExists (db : Db) (slug : String) : Bool := db.tenants.rows.any (·.slug = slug)

/-- The rows `count_active_owners` counts. -/
def activeOwners (db : Db) (tenantId : TenantId) : List User :=
  db.users.rows.filter fun u => u.tenantId = tenantId ∧ u.role.name = .owner ∧ u.status = .active

def countActiveOwners (db : Db) (tenantId : TenantId) : ℕ := (db.activeOwners tenantId).length

def getByTokenHash (db : Db) (tokenHash : String) : Option RefreshToken :=
  db.refreshTokens.rows.find? (·.tokenHash = tokenHash)

/-- The tokens `revoke_all_active_for_user` selects. -/
def activeTokensOf (db : Db) (userId : UserId) : List RefreshToken :=
  db.refreshTokens.rows.filter fun t => t.userId = userId ∧ t.revokedAt = none

def isRevoked (db : Db) (jti : String) : Bool := (db.revokedAccessTokens.get jti).isSome

def getResetByTokenHash (db : Db) (tokenHash : String) : Option PasswordResetToken :=
  db.passwordResetTokens.rows.find? (·.tokenHash = tokenHash)

def getInvitationByTokenHash (db : Db) (tokenHash : String) : Option InvitationToken :=
  db.invitationTokens.rows.find? (·.tokenHash = tokenHash)

/-- The insert of a new user: its key and its email must not be in use. -/
def insertUser (user : User) (db : Db) : Option Db :=
  if (db.users.get user.id).isSome ∨ db.emailExists user.email then none
  else some { db with users := db.users.put user }

/-- The update of a user saved over `model`. -/
def updateUser (model user : User) (db : Db) : Option Db :=
  (db.users.get model.id).map fun current =>
    { db with users := db.users.put (model.flush user current) }

/-- The insert of a new token: its key and its hash must not be in use. -/
def insertToken (token : RefreshToken) (db : Db) : Option Db :=
  if (db.refreshTokens.get token.id).isSome ∨ (db.getByTokenHash token.tokenHash).isSome then none
  else some { db with refreshTokens := db.refreshTokens.put token }

/-- The update of a token saved over `model`. -/
def updateToken (model token : RefreshToken) (db : Db) : Option Db :=
  (db.refreshTokens.get model.id).map fun current =>
    { db with refreshTokens := db.refreshTokens.put (model.flush token current) }

/-- The insert of a denylist entry. -/
def insertRevoked (entry : RevokedAccessToken) (db : Db) : Option Db :=
  if (db.revokedAccessTokens.get entry.jti).isSome then none
  else some { db with revokedAccessTokens := db.revokedAccessTokens.put entry }

def updateRevoked (model entry : RevokedAccessToken) (db : Db) : Option Db :=
  (db.revokedAccessTokens.get model.jti).map fun current =>
    { db with revokedAccessTokens := db.revokedAccessTokens.put (model.flush entry current) }

def insertReset (token : PasswordResetToken) (db : Db) : Option Db :=
  if (db.passwordResetTokens.get token.id).isSome ∨ (db.getResetByTokenHash token.tokenHash).isSome
  then none
  else some { db with passwordResetTokens := db.passwordResetTokens.put token }

def updateReset (model token : PasswordResetToken) (db : Db) : Option Db :=
  (db.passwordResetTokens.get model.id).map fun current =>
    { db with passwordResetTokens := db.passwordResetTokens.put (model.flush token current) }

def insertInvitation (token : InvitationToken) (db : Db) : Option Db :=
  if (db.invitationTokens.get token.id).isSome ∨
    (db.getInvitationByTokenHash token.tokenHash).isSome
  then none
  else some { db with invitationTokens := db.invitationTokens.put token }

def updateInvitation (model token : InvitationToken) (db : Db) : Option Db :=
  (db.invitationTokens.get model.id).map fun current =>
    { db with invitationTokens := db.invitationTokens.put (model.flush token current) }

/-- The insert of a new tenant: its key and its slug must not be in use. -/
def insertTenant (tenant : Tenant) (db : Db) : Option Db :=
  if (db.tenants.get tenant.id).isSome ∨ db.slugExists tenant.slug then none
  else some { db with tenants := db.tenants.put tenant }

def append (aggregateType aggregateId : String) (event : IdentityEvent) (tenantId : Option TenantId)
    (now : Timestamp) (db : Db) : Db :=
  { db with outbox := appendEvent db.outbox aggregateType aggregateId event tenantId now }

end Db

/-! ### Writes -/

/-- One write of a transaction. -/
inductive Write where
  | insertUser (user : User)
  | updateUser (model user : User)
  | insertToken (token : RefreshToken)
  | updateToken (model token : RefreshToken)
  | insertRevoked (entry : RevokedAccessToken)
  | updateRevoked (model entry : RevokedAccessToken)
  | insertReset (token : PasswordResetToken)
  | updateReset (model token : PasswordResetToken)
  | insertInvitation (token : InvitationToken)
  | updateInvitation (model token : InvitationToken)
  | insertTenant (tenant : Tenant)
  | append (aggregateType aggregateId : String) (event : IdentityEvent) (tenantId : Option TenantId)
      (now : Timestamp)

def Write.apply (db : Db) : Write → Option Db
  | .insertUser user => db.insertUser user
  | .updateUser model user => db.updateUser model user
  | .insertToken token => db.insertToken token
  | .updateToken model token => db.updateToken model token
  | .insertRevoked entry => db.insertRevoked entry
  | .updateRevoked model entry => db.updateRevoked model entry
  | .insertReset token => db.insertReset token
  | .updateReset model token => db.updateReset model token
  | .insertInvitation token => db.insertInvitation token
  | .updateInvitation model token => db.updateInvitation model token
  | .insertTenant tenant => db.insertTenant tenant
  | .append aggregateType aggregateId event tenantId now =>
    some (db.append aggregateType aggregateId event tenantId now)

/-- The writes, one after the other; the first that is refused undoes them all. -/
def flush (writes : List Write) (db : Db) : Option Db := writes.foldlM Write.apply db

/-- `append_event` on a user. -/
def userEvent (user : User) (event : IdentityEvent) (now : Timestamp) : Write :=
  .append "User" (toString user.id) event (some user.tenantId) now

/-- `append_event` on a refresh token. -/
def tokenEvent (id : RefreshTokenId) (tenantId : TenantId) (event : IdentityEvent)
    (now : Timestamp) : Write :=
  .append "RefreshToken" (toString id) event (some tenantId) now

/-- The writes of `revoke_all_active_for_user` on the tokens it has selected. -/
def revokeModels (models : List RefreshToken) (now : Timestamp) : List Write :=
  models.map fun model => .updateToken model { model with revokedAt := some now }

/-! ### Saving -/

section Save

variable {A : Type}

/-- `save`: the row is read again, and the entity is written over it, or is a new row. -/
def saveRow {Row : Type} (get : Db → Option Row) (insert : Write) (update : Row → Write)
    (next : Timestamp → Write → Lib.Txn Db Timestamp A) : Lib.Txn Db Timestamp A :=
  .query fun now db => next now ((get db).elim insert update)

def saveToken (token : RefreshToken) :
    (Timestamp → Write → Lib.Txn Db Timestamp A) → Lib.Txn Db Timestamp A :=
  saveRow (·.refreshTokens.get token.id) (.insertToken token) (.updateToken · token)

/-- `SqlAlchemyRevokedAccessTokenRepository.revoke`. -/
def saveRevoked (entry : RevokedAccessToken) :
    (Timestamp → Write → Lib.Txn Db Timestamp A) → Lib.Txn Db Timestamp A :=
  saveRow (·.revokedAccessTokens.get entry.jti) (.insertRevoked entry) (.updateRevoked · entry)

def saveReset (token : PasswordResetToken) :
    (Timestamp → Write → Lib.Txn Db Timestamp A) → Lib.Txn Db Timestamp A :=
  saveRow (·.passwordResetTokens.get token.id) (.insertReset token) (.updateReset · token)

def saveInvitation (token : InvitationToken) :
    (Timestamp → Write → Lib.Txn Db Timestamp A) → Lib.Txn Db Timestamp A :=
  saveRow (·.invitationTokens.get token.id) (.insertInvitation token) (.updateInvitation · token)

/-- `save(user, expected_version=user.version)`. -/
def saveUser (user : User)
    (next : Timestamp → Write → Lib.Txn Db Timestamp (Except IdentityError A)) :
    Lib.Txn Db Timestamp (Except IdentityError A) :=
  .query fun now db =>
    match db.users.get user.id with
    | none => next now (.insertUser { user with version := 0 })
    | some model =>
      if model.version ≠ user.version then
        .rollback (.error ⟨.optimisticConcurrency, s!"User {user.id} was modified concurrently " ++
          s!"(expected version {user.version}, found {model.version})"⟩)
      else next now (.updateUser model user)

end Save

end GeoRisk.Identity
