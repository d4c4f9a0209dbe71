import Mathlib
import GeoRisk.Identity.Users
import GeoRisk.Identity.Auth

/-! The commands on accounts: tenants are registered, users invited, accepted, given roles, suspended,
    reactivated and deactivated, passwords changed and reset, sessions revoked. Each is a transaction
    whose commit flushes a list of writes. Five of them end with the same step, which selects the
    user's unrevoked refresh tokens and revokes what it selected. -/

namespace GeoRisk.Identity

/-! ### Steps that several handlers share -/

/-- The rest of a handler after a check, unless the check raises. -/
def orRaise {α : Type} (check : Except IdentityError α) (next : α → AuthTxn) : AuthTxn :=
  match check with
  | .error e => .rollback (.error e)
  | .ok a => next a

/-- `get_by_id` on behalf of an actor of this tenant: a user elsewhere is not found either. -/
def loadSameTenant (tenantId : TenantId) (userId : Spelled UserId)
    (next : Timestamp → User → AuthTxn) : AuthTxn :=
  .query fun now db =>
    match db.users.get userId.id with
    | none => .rollback (.error ⟨.userNotFound, s!"User {userId.text} not found"⟩)
    | some user =>
      if user.tenantId ≠ tenantId then
        .rollback (.error ⟨.userNotFound, s!"User {user.id} not found"⟩)
      else next now user

/-- `_assert_not_last_owner`, asked of the user's own tenant. -/
def assertNotLastOwner (user : User) (now : Timestamp) (next : Timestamp → AuthTxn) : AuthTxn :=
  if user.role.name ≠ .owner then next now
  else
    .query fun now db =>
      if db.countActiveOwners user.tenantId ≤ 1 then
        .rollback (.error ⟨.lastOwnerRemoval,
          s!"Tenant {user.tenantId} must retain at least one active OWNER; " ++
          s!"refusing to change the last one (user {user.id})"⟩)
      else next now

/-- `revoke_all_active_for_user` and the rest of the commit: the tokens that are selected are revoked
    along with the other writes. -/
def revokeAllActiveForUser (user : User) (before : List Write) (after : Timestamp → List Write)
    (reply : Reply) : AuthTxn :=
  .query fun now db =>
    .commit (flush (before ++ revokeModels (db.activeTokensOf user.id) now ++ after now)) (.ok reply)

/-- The event at the end of every bulk revocation. -/
def allSessionsRevoked (user : User) (reason : String) (now : Timestamp) : Write :=
  userEvent user (.allSessionsRevoked ⟨user.id, user.tenantId, reason⟩) now

section Handlers

variable (ports : Ports)

/-! ### Users -/

/-- What is drawn for an invitation: the user's identifier, the token's, and its value. -/
structure InvitationDraw where
  userId : UserId
  id : InvitationTokenId
  raw : String

/-- `InviteUserHandler.handle`. -/
def inviteUser (tenantId : TenantId) (email roleName invitedBy : String) (draw : InvitationDraw) :
    AuthTxn :=
  .query fun _ db =>
    if db.emailExists email then
      .rollback (.error ⟨.emailAlreadyRegistered, s!"{email} is already registered"⟩)
    else
      match RoleName.ofString roleName with
      | none => .rollback (.error ⟨.valueError, s!"{pyRepr roleName} is not a valid RoleName"⟩)
      | some name =>
        .query fun now db =>
          match db.roles.get name with
          | none => .rollback (.error ⟨.roleNotFound, s!"Role {pyRepr roleName} does not exist"⟩)
          | some role =>
            let (user, event) := User.invite draw.userId tenantId email role invitedBy now
            let invitation := OneTimeToken.issue INVITATION_TOKEN_TTL draw.id user.id tenantId
              (ports.hashToken draw.raw) now
            .commit (flush [.insertUser user, userEvent user (.userInvited event) now,
              .insertInvitation invitation]) (.ok (.invited user draw.raw))

/-- `AcceptInvitationHandler.handle`. -/
def acceptInvitation (invitationToken password salt : String) : AuthTxn :=
  orRaise (PasswordPolicy.validate password) fun _ =>
  .query fun now db =>
    match db.getInvitationByTokenHash (ports.hashToken invitationToken) with
    | none => .rollback (.error ⟨.invalidOrExpiredToken, "Invitation token not found"⟩)
    | some invitation =>
      orRaise (InvitationToken.assertValid invitation now) fun _ =>
      .query fun now db =>
        match db.users.get invitation.userId with
        | none => .rollback (.error ⟨.userNotFound, s!"User {invitation.userId} not found"⟩)
        | some loaded =>
          orRaise (loaded.activate (ports.hash salt password) now) fun (user, event) =>
          saveUser user fun now saved =>
          saveInvitation (invitation.markUsed now) fun now used =>
          .commit (flush [saved, used, userEvent user (.userActivated event) now]) (.ok (.user user))

/-- `ChangeUserRoleHandler.handle`. -/
def changeUserRole (tenantId : TenantId) (userId : Spelled UserId) (newRoleName changedBy : String) :
    AuthTxn :=
  loadSameTenant tenantId userId fun _ loaded =>
  match RoleName.ofString newRoleName with
  | none => .rollback (.error ⟨.valueError, s!"{pyRepr newRoleName} is not a valid RoleName"⟩)
  | some name =>
    .query fun now db =>
      match db.roles.get name with
      | none => .rollback (.error ⟨.roleNotFound, s!"Role {pyRepr newRoleName} does not exist"⟩)
      | some newRole =>
        let change (now : Timestamp) : AuthTxn :=
          let (user, event) := loaded.changeRole newRole changedBy now
          saveUser user fun now saved =>
          .commit (flush [saved, userEvent user (.userRoleChanged event) now]) (.ok (.user user))
        if newRole.name ≠ loaded.role.name then assertNotLastOwner loaded now change
        else change now

/-- `SuspendUserHandler.handle`. -/
def suspendUser (tenantId : TenantId) (userId : Spelled UserId) (changedBy reason : String) :
    AuthTxn :=
  loadSameTenant tenantId userId fun now loaded =>
  assertNotLastOwner loaded now fun now =>
  orRaise (loaded.suspend changedBy reason now) fun (suspended, event) =>
  let user := suspended.revokeAllSessions now
  saveUser user fun _ saved =>
  revokeAllActiveForUser user [saved]
    (fun now => [userEvent user (.userStatusChanged event) now,
      allSessionsRevoked user "user suspended" now]) (.user user)

/-- `ReactivateUserHandler.handle`. -/
def reactivateUser (tenantId : TenantId) (userId : Spelled UserId) (changedBy : String) : AuthTxn :=
  loadSameTenant tenantId userId fun now loaded =>
  orRaise (loaded.reactivate changedBy now) fun (user, event) =>
  saveUser user fun now saved =>
  .commit (flush [saved, userEvent user (.userStatusChanged event) now]) (.ok (.user user))

/-- `DeactivateUserHandler.handle`. -/
def deactivateUser (tenantId : TenantId) (userId : Spelled UserId) (changedBy reason : String) :
    AuthTxn :=
  loadSameTenant tenantId userId fun now loaded =>
  assertNotLastOwner loaded now fun now =>
  orRaise (loaded.deactivateAccount changedBy reason now) fun (deactivated, event) =>
  let user := deactivated.revokeAllSessions now
  saveUser user fun _ saved =>
  revokeAllActiveForUser user [saved]
    (fun now => [userEvent user (.userStatusChanged event) now,
      allSessionsRevoked user "user deactivated" now]) (.user user)

/-- `ChangePasswordHandler.handle`. -/
def changePassword (userId : Spelled UserId) (currentPassword newPassword salt : String) : AuthTxn :=
  .query fun now db =>
    match db.users.get userId.id with
    | none => .rollback (.error ⟨.userNotFound, s!"User {userId.text} not found"⟩)
    | some loaded =>
      if !loaded.hashedPassword.any (ports.verify currentPassword) then
        .rollback (.error ⟨.invalidCredentials, "Current password is incorrect"⟩)
      else
        orRaise (PasswordPolicy.validate newPassword) fun _ =>
        let user := (loaded.setPassword (ports.hash salt newPassword) now).revokeAllSessions now
        saveUser user fun _ saved =>
        revokeAllActiveForUser user [saved]
          (fun now => [userEvent user (.passwordChanged ⟨user.id, user.tenantId⟩) now,
            allSessionsRevoked user "password changed" now]) (.user user)

/-! ### Password reset -/

/-- What is drawn for a reset link. -/
structure ResetDraw where
  id : PasswordResetTokenId
  raw : String

/-- `RequestPasswordResetHandler.handle`. -/
def requestPasswordReset (email : String) (draw : ResetDraw) : AuthTxn :=
  .query fun now db =>
    match db.getUserByEmail email with
    | none => .rollback (.ok .done)
    | some user =>
      let token := OneTimeToken.issue PASSWORD_RESET_TOKEN_TTL draw.id user.id user.tenantId
        (ports.hashToken draw.raw) now
      .commit (flush [.insertReset token,
        userEvent user (.passwordResetRequested ⟨user.id, user.tenantId⟩) now]) (.ok .done)

/-- `ResetPasswordHandler.handle`. -/
def resetPassword (resetToken newPassword salt : String) : AuthTxn :=
  orRaise (PasswordPolicy.validate newPassword) fun _ =>
  .query fun now db =>
    match db.getResetByTokenHash (ports.hashToken resetToken) with
    | none => .rollback (.error ⟨.invalidOrExpiredToken, "Password reset token not found"⟩)
    | some token =>
      orRaise (PasswordResetToken.assertValid token now) fun _ =>
      .query fun now db =>
        match db.users.get token.userId with
        | none => .rollback (.error ⟨.userNotFound, s!"User {token.userId} not found"⟩)
        | some loaded =>
          let user := (loaded.setPassword (ports.hash salt newPassword) now).revokeAllSessions now
          saveUser user fun now saved =>
          saveReset (token.markUsed now) fun _ used =>
          revokeAllActiveForUser user [saved, used]
            (fun now => [userEvent user (.passwordResetCompleted ⟨user.id, user.tenantId⟩) now,
              allSessionsRevoked user "password reset" now]) (.user user)

/-- `RevokeAllSessionsHandler.handle`. -/
def revokeAllSessions (userId : Spelled UserId) : AuthTxn :=
  .query fun now db =>
    match db.users.get userId.id with
    | none => .rollback (.error ⟨.userNotFound, s!"User {userId.text} not found"⟩)
    | some loaded =>
      let user := loaded.revokeAllSessions now
      saveUser user fun _ saved =>
      revokeAllActiveForUser user [saved]
        (fun now => [allSessionsRevoked user "user requested" now]) .done

/-! ### Tenants -/

/-- What `lower` leaves of a character that may stay in a slug, `'-'` for every other one. -/
def slugChars (c : Char) : List Char :=
  if c.isLower ∨ c.isDigit then [c]
  else if c.isUpper then [c.toLower]
  -- the Kelvin sign and the dotted capital I have ASCII lower-case forms
  else if c.toNat = 0x212A then ['k']
  else if c.toNat = 0x130 then ['i', '-']
  else ['-']

/-- `_slugify`. -/
def slugify (name : String) : String :=
  let words := ((name.toList.flatMap slugChars).splitOn '-').filter (· ≠ [])
  let slug := String.ofList (List.intercalate ['-'] words)
  if slug = "" then "tenant" else slug

structure RegisterTenant where
  name : String
  tenantEmail : String
  ownerEmail : String
  ownerPassword : String
  tenantPhone : String := ""
  tenantAddress : String := ""

/-- What is drawn for a registration. -/
structure RegistrationDraw where
  tenantId : TenantId
  tokenHex : String
  userId : UserId
  salt : String

/-- `_create_tenant`, once the slug is found. -/
def insertTenantWithSlug (command : RegisterTenant) (slug : String) (draw : RegistrationDraw)
    (now : Timestamp) : AuthTxn :=
  if '@' ∉ command.tenantEmail.toList then
    .rollback (.error ⟨.valueError,
      s!"ContactInfo.email is not a valid email address: {pyRepr command.tenantEmail}"⟩)
  else
    let contact : ContactInfo := ⟨command.tenantEmail, command.tenantPhone, command.tenantAddress⟩
    let (tenant, event) := Tenant.register draw.tenantId command.name slug contact now
    .commit (flush [.insertTenant tenant,
      .append "Tenant" (toString tenant.id) (.tenantRegistered event) (some tenant.id) now])
      (.ok (.tenant tenant))

/-- `_create_tenant`. -/
def createTenant (command : RegisterTenant) (draw : RegistrationDraw) : AuthTxn :=
  .query fun now db =>
    let baseSlug := slugify command.name
    if db.slugExists baseSlug then
      let slug := baseSlug ++ "-" ++ draw.tokenHex
      .query fun now db =>
        if db.slugExists slug then
          .rollback (.error ⟨.tenantSlugAlreadyExists,
            s!"Could not derive a unique slug from {pyRepr command.name}"⟩)
        else insertTenantWithSlug command slug draw now
    else insertTenantWithSlug command baseSlug draw now

/-- `_create_owner`. -/
def createOwner (tenant : Tenant) (command : RegisterTenant) (draw : RegistrationDraw) : AuthTxn :=
  .query fun _ db =>
    if db.emailExists command.ownerEmail then
      .rollback (.error ⟨.emailAlreadyRegistered, s!"{command.ownerEmail} is already registered"⟩)
    else
      .query fun now db =>
        match db.roles.get .owner with
        | none => .rollback (.error ⟨.assertionError,
            "OWNER role must be seeded by the identity migration"⟩)
        | some ownerRole =>
          let (owner, event) := User.createOwner draw.userId tenant.id command.ownerEmail
            (ports.hash draw.salt command.ownerPassword) ownerRole now
          .commit (flush [.insertUser owner,
            .append "User" (toString owner.id) (.userRegistered event) (some tenant.id) now])
            (.ok (.user owner))

end Handlers

end GeoRisk.Identity
