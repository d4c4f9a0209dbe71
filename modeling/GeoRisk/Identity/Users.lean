import Mathlib
import GeoRisk.Identity.Tokens

/-! The life of a user. `_transition_status` is the only way between the statuses, apart from
    `activate`, by which an invited user accepts with a password:

        INVITED ──▶ ACTIVE ◀──▶ SUSPENDED
                    │    ▲          │
                    ▼    │          │
                  DEACTIVATED ◀─────┘

    The table also lets `reactivate` take an invited user to ACTIVE, password or not. -/

namespace GeoRisk.Identity

/-- `_LEGAL_STATUS_TRANSITIONS`. -/
def legalStatusTransitions : UserStatus → List UserStatus
  | .invited => [.active]
  | .active => [.suspended, .deactivated]
  | .suspended => [.active, .deactivated]
  | .deactivated => [.active]

namespace User

/-- An invited user, under a fresh `id`. -/
def invite (id : UserId) (tenantId : TenantId) (email : String) (role : Role) (invitedBy : String)
    (now : Timestamp) : User × UserInvited :=
  ({ id, tenantId, email, hashedPassword := none, role, status := .invited, createdAt := now,
     updatedAt := now },
    ⟨id, tenantId, email, role.name, invitedBy⟩)

/-- The first user of a tenant, under a fresh `id`. -/
def createOwner (id : UserId) (tenantId : TenantId) (email hashedPassword : String)
    (ownerRole : Role) (now : Timestamp) : User × UserRegistered :=
  ({ id, tenantId, email, hashedPassword := some hashedPassword, role := ownerRole,
     status := .active, createdAt := now, updatedAt := now },
    ⟨id, tenantId, email, ownerRole.name, .active⟩)

def transitionStatus (self : User) (newStatus : UserStatus) (changedBy reason : String)
    (now : Timestamp) : Except IdentityError (User × UserStatusChanged) :=
  if newStatus ∉ legalStatusTransitions self.status then
    .error ⟨.illegalUserStatusTransition,
      s!"User {self.id} cannot transition from {self.status} to {newStatus}"⟩
  else
    .ok ({ self with status := newStatus, updatedAt := now },
      ⟨self.id, self.tenantId, self.status, newStatus, changedBy, reason⟩)

def activate (self : User) (hashedPassword : String) (now : Timestamp) :
    Except IdentityError (User × UserActivated) :=
  if self.status ≠ .invited then
    .error ⟨.illegalUserStatusTransition,
      s!"User {self.id} cannot accept an invitation from status {self.status}"⟩
  else
    .ok ({ self with hashedPassword := some hashedPassword, status := .active, updatedAt := now },
      ⟨self.id, self.tenantId⟩)

def suspend (self : User) (changedBy reason : String) (now : Timestamp) :
    Except IdentityError (User × UserStatusChanged) :=
  self.transitionStatus .suspended changedBy reason now

def reactivate (self : User) (changedBy : String) (now : Timestamp) :
    Except IdentityError (User × UserStatusChanged) :=
  self.transitionStatus .active changedBy "" now

def deactivateAccount (self : User) (changedBy reason : String) (now : Timestamp) :
    Except IdentityError (User × UserStatusChanged) :=
  self.transitionStatus .deactivated changedBy reason now

def changeRole (self : User) (newRole : Role) (changedBy : String) (now : Timestamp) :
    User × UserRoleChanged :=
  ({ self with role := newRole, updatedAt := now },
    ⟨self.id, self.tenantId, self.role.name, newRole.name, changedBy⟩)

def setPassword (self : User) (hashedPassword : String) (now : Timestamp) : User :=
  { self with hashedPassword := some hashedPassword, updatedAt := now }

/-- The generation of the access tokens issued from now on. -/
def revokeAllSessions (self : User) (now : Timestamp) : User :=
  { self with tokenGeneration := self.tokenGeneration + 1, updatedAt := now }

theorem transitionStatus_ok {self user : User} {newStatus : UserStatus} {changedBy reason : String}
    {now : Timestamp} {event : UserStatusChanged}
    (h : self.transitionStatus newStatus changedBy reason now = .ok (user, event)) :
    newStatus ∈ legalStatusTransitions self.status ∧
      user = { self with status := newStatus, updatedAt := now } := by
  unfold transitionStatus at h
  split at h
  · cases h
  · next hlegal =>
    cases h
    exact ⟨not_not.mp hlegal, rfl⟩

theorem activate_ok {self user : User} {hashedPassword : String} {now : Timestamp}
    {event : UserActivated} (h : self.activate hashedPassword now = .ok (user, event)) :
    self.status = .invited ∧ user = { self with
      hashedPassword := some hashedPassword, status := .active, updatedAt := now } := by
  unfold activate at h
  split at h
  · cases h
  · next hstatus =>
    cases h
    exact ⟨not_not.mp hstatus, rfl⟩

end User

/-- `PasswordPolicy.validate`. -/
def PasswordPolicy.validate (password : String) : Except IdentityError Unit :=
  if password.length < 12 then
    .error ⟨.weakPassword, "Password must be at least 12 characters long"⟩
  else .ok ()

end GeoRisk.Identity
