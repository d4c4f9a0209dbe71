import Mathlib
import GeoRisk.Lib.Traces
import GeoRisk.Identity.Accounts

/-! All the identity commands, and what each of them writes. `Work` is the inversion of the handlers:
    one clause for each way a handler comes to its commit, with what it has read on the way. Every
    later result, sequential or concurrent, starts from it.

    Run one at a time, the commands are the steps of a sequential history, which keeps an account of
    the sessions it has issued. -/

namespace GeoRisk.Identity

/-- The commands of one transaction; registering a tenant takes two. -/
inductive Command where
  | login (email password : String) (draw : Draw)
  | refreshAccessToken (refreshToken : String) (draw : Draw)
  | logout (refreshToken : String) (accessTokenClaims : Option AccessTokenClaims)
      (accessTokenExpiresAt : Option Timestamp)
  | inviteUser (tenantId : TenantId) (email roleName invitedBy : String) (draw : InvitationDraw)
  | acceptInvitation (invitationToken password salt : String)
  | changeUserRole (tenantId : TenantId) (userId : Spelled UserId) (newRoleName changedBy : String)
  | suspendUser (tenantId : TenantId) (userId : Spelled UserId) (changedBy reason : String)
  | reactivateUser (tenantId : TenantId) (userId : Spelled UserId) (changedBy : String)
  | deactivateUser (tenantId : TenantId) (userId : Spelled UserId) (changedBy reason : String)
  | changePassword (userId : Spelled UserId) (currentPassword newPassword salt : String)
  | requestPasswordReset (email : String) (draw : ResetDraw)
  | resetPassword (resetToken newPassword salt : String)
  | revokeAllSessions (userId : Spelled UserId)
  | createTenant (command : RegisterTenant) (draw : RegistrationDraw)
  | createOwner (tenant : Tenant) (command : RegisterTenant) (draw : RegistrationDraw)

def Command.txn (ports : Ports) : Command → AuthTxn
  | .login email password draw => Identity.login ports email password draw
  | .refreshAccessToken refreshToken draw => Identity.refreshAccessToken ports refreshToken draw
  | .logout refreshToken claims expiresAt => Identity.logout ports refreshToken claims expiresAt
  | .inviteUser tenantId email roleName invitedBy draw =>
    Identity.inviteUser ports tenantId email roleName invitedBy draw
  | .acceptInvitation invitationToken password salt =>
    Identity.acceptInvitation ports invitationToken password salt
  | .changeUserRole tenantId userId newRoleName changedBy =>
    Identity.changeUserRole tenantId userId newRoleName changedBy
  | .suspendUser tenantId userId changedBy reason =>
    Identity.suspendUser tenantId userId changedBy reason
  | .reactivateUser tenantId userId changedBy => Identity.reactivateUser tenantId userId changedBy
  | .deactivateUser tenantId userId changedBy reason =>
    Identity.deactivateUser tenantId userId changedBy reason
  | .changePassword userId currentPassword newPassword salt =>
    Identity.changePassword ports userId currentPassword newPassword salt
  | .requestPasswordReset email draw => Identity.requestPasswordReset ports email draw
  | .resetPassword resetToken newPassword salt =>
    Identity.resetPassword ports resetToken newPassword salt
  | .revokeAllSessions userId => Identity.revokeAllSessions userId
  | .createTenant command draw => Identity.createTenant command draw
  | .createOwner tenant command draw => Identity.createOwner ports tenant command draw

end GeoRisk.Identity
