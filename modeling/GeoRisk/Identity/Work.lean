import Mathlib
import GeoRisk.Lib.Traces
import GeoRisk.Identity.Writes
import GeoRisk.Identity.Commands

/-! What the identity commands write. `Work` is the inversion of the handlers, one clause for each way
    to a commit, with what was read on the way; `command_ends` proves it of every command, and all
    later results, sequential or concurrent, start from it. -/

namespace GeoRisk.Identity

/-! ### The inversion of the handlers -/

/-- The guard of the last owner has let this user pass. -/
def OwnerGuard (loaded : User) (reads : List (Timestamp × Db)) : Prop :=
  loaded.role.name ≠ .owner ∨ ∃ read ∈ reads, 1 < read.2.countActiveOwners loaded.tenantId

/-- `save` has read this row of the user, in the version that it expects. -/
def SavedOver (db : Db) (user model : User) : Prop :=
  db.users.get user.id = some model ∧ model.version = user.version

/-- The commands that revoke all sessions of a user, up to the revocation: the user as loaded, as saved,
    and the row it is saved over, what was read so far, and what is written besides. -/
inductive Revoking (ports : Ports) :
    Command → List (Timestamp × Db) → User → User → User → List Write → Prop where
  | suspendUser {tenantId userId changedBy reason now db rest loaded user event now' now₁ db₁ model}
      (hload : db.users.get userId.id = some loaded) (htenant : loaded.tenantId = tenantId)
      (hguard : OwnerGuard loaded ((now, db) :: rest))
      (hsuspend : loaded.suspend changedBy reason now' = .ok (user, event))
      (hsave : SavedOver db₁ (user.revokeAllSessions now') model) :
    Revoking ports (.suspendUser tenantId userId changedBy reason)
      ((now, db) :: rest ++ [(now₁, db₁)]) loaded (user.revokeAllSessions now') model []
  | deactivateUser {tenantId userId changedBy reason now db rest loaded user event now' now₁ db₁
        model}
      (hload : db.users.get userId.id = some loaded) (htenant : loaded.tenantId = tenantId)
      (hguard : OwnerGuard loaded ((now, db) :: rest))
      (hdeactivate : loaded.deactivateAccount changedBy reason now' = .ok (user, event))
      (hsave : SavedOver db₁ (user.revokeAllSessions now') model) :
    Revoking ports (.deactivateUser tenantId userId changedBy reason)
      ((now, db) :: rest ++ [(now₁, db₁)]) loaded (user.revokeAllSessions now') model []
  | changePassword {userId currentPassword newPassword salt now db loaded now₁ db₁ model}
      (hload : db.users.get userId.id = some loaded)
      (hverify : loaded.hashedPassword.any (ports.verify currentPassword))
      (hsave : SavedOver db₁
        ((loaded.setPassword (ports.hash salt newPassword) now).revokeAllSessions now) model) :
    Revoking ports (.changePassword userId currentPassword newPassword salt)
      [(now, db), (now₁, db₁)] loaded
      ((loaded.setPassword (ports.hash salt newPassword) now).revokeAllSessions now) model []
  | resetPassword {resetToken newPassword salt now db now' db' now₁ db₁ now₂ db₂ token loaded model
        used}
      (hpolicy : PasswordPolicy.validate newPassword = .ok ())
      (htoken : db.getResetByTokenHash (ports.hashToken resetToken) = some token)
      (hvalid : token.isValid now) (hload : db'.users.get token.userId = some loaded)
      (hsave : SavedOver db₁
        ((loaded.setPassword (ports.hash salt newPassword) now').revokeAllSessions now') model)
      (hused : db₂.passwordResetTokens.get token.id = some used) :
    Revoking ports (.resetPassword resetToken newPassword salt)
      [(now, db), (now', db'), (now₁, db₁), (now₂, db₂)] loaded
      ((loaded.setPassword (ports.hash salt newPassword) now').revokeAllSessions now') model
      [.updateReset used (token.markUsed now₁)]
  | revokeAllSessions {userId now db loaded now₁ db₁ model}
      (hload : db.users.get userId.id = some loaded)
      (hsave : SavedOver db₁ (loaded.revokeAllSessions now) model) :
    Revoking ports (.revokeAllSessions userId) [(now, db), (now₁, db₁)] loaded
      (loaded.revokeAllSessions now) model []

/-- The ways of the commands to a commit: what was read, what is written, what is returned. -/
inductive Work (ports : Ports) :
    Command → List (Timestamp × Db) → List Write → Except IdentityError Reply → Prop where
  | loginFailed {email password draw reads event error} (hevent : Write.IsEvent event)
      (herror : error.kind ≠ .refreshTokenReuseDetected) :
    Work ports (.login email password draw) reads [event] (.error error)
  | login {email password draw now db now' db' loaded model events}
      (hread : db.getUserByEmail email = some loaded) (hactive : loaded.isLoginEligible)
      (hverify : loaded.hashedPassword.any (ports.verify password))
      (hsave : SavedOver db' (loaded.recordLogin now) model)
      (hevents : ∀ w ∈ events, Write.IsEvent w) :
    Work ports (.login email password draw) [(now, db), (now', db')]
      (.updateUser model (loaded.recordLogin now) :: .insertToken (RefreshToken.issue draw.id
        loaded.id loaded.tenantId (ports.hashToken draw.raw) now') :: events)
      (.ok (.authenticated ⟨loaded.recordLogin now, draw.raw,
        ports.issue now' draw.jti (claimsFor (loaded.recordLogin now))⟩))
  | rotate {raw draw now db now' db' now₁ db₁ token user model}
      (htoken : db.getByTokenHash (ports.hashToken raw) = some token)
      (hactive : token.isActive now) (huser : db'.users.get token.userId = some user)
      (heligible : user.isLoginEligible) (hsave : db₁.refreshTokens.get token.id = some model) :
    Work ports (.refreshAccessToken raw draw) [(now, db), (now', db'), (now₁, db₁)]
      [.insertToken (RefreshToken.issue draw.id token.userId token.tenantId
        (ports.hashToken draw.raw) now'), .updateToken model (token.revoke (some draw.id) now'),
        tokenEvent draw.id user.tenantId
          (.refreshTokenRotated ⟨user.id, user.tenantId, token.id, draw.id⟩) now₁]
      (.ok (.refreshed ⟨draw.raw, ports.issue now₁ draw.jti (claimsFor user)⟩))
  | reuse {raw draw now db now' db' token event message}
      (htoken : db.getByTokenHash (ports.hashToken raw) = some token)
      (hrevoked : token.revokedAt ≠ none) (hevent : Write.IsEvent event) :
    Work ports (.refreshAccessToken raw draw) [(now, db), (now', db')]
      (revokeModels (db'.activeTokensOf token.userId) now' ++ [event])
      (.error ⟨.refreshTokenReuseDetected, message⟩)
  | logout {raw claims expiresAt now db now' db' rest token model event entry}
      (htoken : db.getByTokenHash (ports.hashToken raw) = some token)
      (hrevoked : token.revokedAt = none) (hsave : db'.refreshTokens.get token.id = some model)
      (hevent : Write.IsEvent event) (hentry : ∀ w ∈ entry, Write.Denies w) :
    Work ports (.logout raw claims expiresAt) ((now, db) :: (now', db') :: rest)
      (.updateToken model (token.revoke none now) :: event :: entry) (.ok .loggedOut)
  | logoutAccess {raw claims expiresAt now db rest entry}
      (htoken : ∀ token, db.getByTokenHash (ports.hashToken raw) = some token →
        token.revokedAt ≠ none) (hentry : ∀ w ∈ entry, Write.Denies w) :
    Work ports (.logout raw claims expiresAt) ((now, db) :: rest) entry (.ok .loggedOut)
  | inviteUser {tenantId email roleName invitedBy draw reads role now event invitation}
      (hevent : Write.IsEvent event) :
    Work ports (.inviteUser tenantId email roleName invitedBy draw) reads
      [.insertUser (User.invite draw.userId tenantId email role invitedBy now).1, event,
        .insertInvitation invitation]
      (.ok (.invited (User.invite draw.userId tenantId email role invitedBy now).1 draw.raw))
  | acceptInvitation {invitationToken password salt now db now' db' now₁ db₁ now₂ db₂ invitation
        loaded user event model used ev}
      (hinvitation : db.getInvitationByTokenHash (ports.hashToken invitationToken) = some invitation)
      (hload : db'.users.get invitation.userId = some loaded)
      (hactivate : loaded.activate (ports.hash salt password) now' = .ok (user, event))
      (hsave : SavedOver db₁ user model)
      (hused : db₂.invitationTokens.get invitation.id = some used) (hevent : Write.IsEvent ev) :
    Work ports (.acceptInvitation invitationToken password salt)
      [(now, db), (now', db'), (now₁, db₁), (now₂, db₂)]
      [.updateUser model user, .updateInvitation used (invitation.markUsed now₁), ev]
      (.ok (.user user))
  | changeUserRole {tenantId userId newRoleName changedBy now db now₁ db₁ rest loaded name newRole
        now' now₂ db₂ model event}
      (hload : db.users.get userId.id = some loaded) (htenant : loaded.tenantId = tenantId)
      (hname : RoleName.ofString newRoleName = some name)
      (hrole : db₁.roles.get name = some newRole)
      (hguard : newRole.name = loaded.role.name ∨
        OwnerGuard loaded ((now, db) :: (now₁, db₁) :: rest))
      (hsave : SavedOver db₂ (loaded.changeRole newRole changedBy now').1 model)
      (hevent : Write.IsEvent event) :
    Work ports (.changeUserRole tenantId userId newRoleName changedBy)
      ((now, db) :: (now₁, db₁) :: rest ++ [(now₂, db₂)])
      [.updateUser model (loaded.changeRole newRole changedBy now').1, event]
      (.ok (.user (loaded.changeRole newRole changedBy now').1))
  | reactivateUser {tenantId userId changedBy now db loaded user event now₁ db₁ model ev}
      (hload : db.users.get userId.id = some loaded) (htenant : loaded.tenantId = tenantId)
      (hreactivate : loaded.reactivate changedBy now = .ok (user, event))
      (hsave : SavedOver db₁ user model) (hevent : Write.IsEvent ev) :
    Work ports (.reactivateUser tenantId userId changedBy) [(now, db), (now₁, db₁)]
      [.updateUser model user, ev] (.ok (.user user))
  | revoking {command reads loaded user model extra now db events reply}
      (hrevoking : Revoking ports command reads loaded user model extra)
      (hevents : ∀ w ∈ events, Write.IsEvent w) (hreply : reply = .user user ∨ reply = .done) :
    Work ports command (reads ++ [(now, db)])
      (.updateUser model user :: extra ++ revokeModels (db.activeTokensOf user.id) now ++ events)
      (.ok reply)
  | requestPasswordReset {email draw now db user event} (huser : db.getUserByEmail email = some user)
      (hevent : Write.IsEvent event) :
    Work ports (.requestPasswordReset email draw) [(now, db)]
      [.insertReset (OneTimeToken.issue PASSWORD_RESET_TOKEN_TTL draw.id user.id user.tenantId
        (ports.hashToken draw.raw) now), event] (.ok .done)
  | createTenant {command draw reads tenant event} (hevent : Write.IsEvent event) :
    Work ports (.createTenant command draw) reads [.insertTenant tenant, event]
      (.ok (.tenant tenant))
  | createOwner {tenant command draw reads role now event} (hevent : Write.IsEvent event)
      (hrole : role.name = .owner) :
    Work ports (.createOwner tenant command draw) reads
      [.insertUser (User.createOwner draw.userId tenant.id command.ownerEmail
        (ports.hash draw.salt command.ownerPassword) role now).1, event]
      (.ok (.user (User.createOwner draw.userId tenant.id command.ownerEmail
        (ports.hash draw.salt command.ownerPassword) role now).1))

/-- What a command may come back with when it writes nothing. -/
def Quiet (command : Command) : Except IdentityError Reply → Prop
  | .error e => e.kind ≠ .refreshTokenReuseDetected
  | .ok .loggedOut => ∃ raw claims expiresAt, command = .logout raw claims expiresAt
  | .ok .done => ∃ email draw, command = .requestPasswordReset email draw
  | .ok _ => False

/-- A commit flushes the writes of some work. -/
def Flushes (ports : Ports) (command : Command) (reads : List (Timestamp × Db))
    (write : Db → Option Db) (result : Except IdentityError Reply) : Prop :=
  ∃ ws, write = flush ws ∧ Work ports command reads ws result

/-- What was there at a read is there at those that follow. -/
def InOrder (reads : List (Timestamp × Db)) : Prop := reads.Pairwise fun r r' => r.2.Grows r'.2

/-- A commit does so if the reads came in order. -/
def CommitsWork (ports : Ports) (command : Command) (reads : List (Timestamp × Db))
    (write : Db → Option Db) (result : Except IdentityError Reply) : Prop :=
  InOrder reads → Flushes ports command reads write result

section Ends

variable {ports : Ports} {command : Command} {reads : List (Timestamp × Db)}

/-- The command ends in work, or quietly. -/
abbrev EndsWell (ports : Ports) (command : Command) (reads : List (Timestamp × Db)) (txn : AuthTxn) :
    Prop :=
  txn.Ends (CommitsWork ports command) (Quiet command) reads

/-- It may commit anything. -/
abbrev EndsSomehow (command : Command) (txn : AuthTxn) : Prop :=
  ∀ reads, txn.Ends (fun _ _ _ => True) (Quiet command) reads

theorem ends_commit {ws : List Write} {result : Except IdentityError Reply}
    (h : Work ports command reads ws result) :
    EndsWell ports command reads (.commit (flush ws) result) := fun _ => ⟨ws, rfl, h⟩

/-- Reads in order do not come here. -/
theorem ends_outOfOrder {txn : AuthTxn} (h : ¬ InOrder reads) (hends : EndsSomehow command txn) :
    EndsWell ports command reads txn :=
  (hends reads).mono fun _ _ _ _ hr =>
    absurd (List.Pairwise.sublist (List.sublist_append_left ..) hr) h

theorem ends_raise {kind : IdentityErrorKind} (message : String)
    (h : kind ≠ .refreshTokenReuseDetected) :
    EndsWell ports command reads (.rollback (.error ⟨kind, message⟩)) := h

theorem ends_orRaise {α : Type} {check : Except IdentityError α} {next : α → AuthTxn}
    (herror : ∀ e, check = .error e → e.kind ≠ .refreshTokenReuseDetected)
    (h : ∀ a, check = .ok a → EndsWell ports command reads (next a)) :
    EndsWell ports command reads (orRaise check next) := by
  cases check with
  | error e => exact herror e rfl
  | ok a => exact h a rfl

theorem InOrder.last {r r' : Timestamp × Db} (h : InOrder (reads ++ [r])) (hr : r' ∈ reads) :
    r'.2.Grows r.2 :=
  (List.pairwise_append.mp h).2.2 r' hr r (List.mem_singleton_self r)

/-- `save` finds the row that was loaded. -/
theorem ends_saveRow {Row : Type} {get : Db → Option Row} {insert : Write} {update : Row → Write}
    {next : Timestamp → Write → AuthTxn}
    (hgrows : ∀ d d', Db.Grows d d' → (get d).isSome → (get d').isSome)
    (hloaded : ∃ r ∈ reads, (get r.2).isSome) (hends : ∀ now w, EndsSomehow command (next now w))
    (h : ∀ now db model, get db = some model →
      EndsWell ports command (reads ++ [(now, db)]) (next now (update model))) :
    EndsWell ports command reads (saveRow get insert update next) := by
  intro now db
  dsimp only
  cases hget : get db with
  | none =>
    refine ends_outOfOrder (fun hr => ?_) (hends _ _)
    obtain ⟨r, hr', hthere⟩ := hloaded
    have hthere' := hgrows _ _ (hr.last hr') hthere
    rw [hget] at hthere'
    cases hthere'
  | some model => exact h now db model hget

theorem ends_saveUser {user : User} {next : Timestamp → Write → AuthTxn}
    (hloaded : ∃ r ∈ reads, (r.2.users.get user.id).isSome)
    (hends : ∀ now w, EndsSomehow command (next now w))
    (h : ∀ now db model, SavedOver db user model →
      EndsWell ports command (reads ++ [(now, db)]) (next now (.updateUser model user))) :
    EndsWell ports command reads (saveUser user next) := by
  intro now db
  dsimp only
  split
  · next hnone =>
    refine ends_outOfOrder (fun hr => ?_) (hends _ _)
    obtain ⟨r, hr', hthere⟩ := hloaded
    have hthere' := (hr.last hr').users _ hthere
    rw [hnone] at hthere'
    cases hthere'
  · next model hmodel =>
    split
    · exact ends_raise _ (by simp)
    · next hversion => exact h now db model ⟨hmodel, not_not.mp hversion⟩

theorem ends_loadSameTenant {tenantId : TenantId} {userId : Spelled UserId}
    {next : Timestamp → User → AuthTxn}
    (h : ∀ now db user, db.users.get userId.id = some user → user.tenantId = tenantId →
      EndsWell ports command (reads ++ [(now, db)]) (next now user)) :
    EndsWell ports command reads (loadSameTenant tenantId userId next) := by
  intro now db
  dsimp only
  split
  · exact ends_raise _ (by simp)
  · next user huser =>
    split
    · exact ends_raise _ (by simp)
    · next htenant => exact h now db user huser (not_not.mp htenant)

theorem ends_assertNotLastOwner {user : User} {now : Timestamp} {next : Timestamp → AuthTxn}
    (h : ∀ now rest, OwnerGuard user (reads ++ rest) →
      EndsWell ports command (reads ++ rest) (next now)) :
    EndsWell ports command reads (assertNotLastOwner user now next) := by
  unfold assertNotLastOwner
  split
  · next hrole =>
    have := h now [] (Or.inl hrole)
    rwa [List.append_nil] at this
  · intro now db
    dsimp only
    split
    · exact ends_raise _ (by simp)
    · next hcount => exact h now [(now, db)] (Or.inr ⟨(now, db), by simp, not_le.mp hcount⟩)

theorem ends_revokeAll {loaded user model : User} {extra : List Write}
    {after : Timestamp → List Write} {reply : Reply}
    (hrevoking : Revoking ports command reads loaded user model extra)
    (hafter : ∀ now, ∀ w ∈ after now, Write.IsEvent w) (hreply : reply = .user user ∨ reply = .done) :
    EndsWell ports command reads
      (revokeAllActiveForUser user (.updateUser model user :: extra) after reply) :=
  fun now _ => ends_commit (.revoking hrevoking (hafter now) hreply)

/-- The user that was loaded, under the key of the one that is saved. -/
theorem loaded_there {db : Db} {now : Timestamp} {loaded user : User} {id : UserId}
    {reads : List (Timestamp × Db)} (hread : (now, db) ∈ reads) (hload : db.users.get id = some loaded)
    (hid : user.id = loaded.id) : ∃ r ∈ reads, (r.2.users.get user.id).isSome := by
  refine ⟨_, hread, ?_⟩
  rw [hid, Lib.Table.key_of_get hload, hload]
  rfl

/-! ### Every handler -/

theorem validate_kind {password : String} {e : IdentityError}
    (h : PasswordPolicy.validate password = .error e) : e.kind ≠ .refreshTokenReuseDetected := by
  unfold PasswordPolicy.validate at h
  split at h <;> cases h
  simp

theorem assertValid_kind {ι : Type} [ToString ι] {kind : String} {token : OneTimeToken ι}
    {now : Timestamp} {e : IdentityError} (h : token.assertValid kind now = .error e) :
    e.kind ≠ .refreshTokenReuseDetected := by
  unfold OneTimeToken.assertValid at h
  split at h <;> cases h
  simp

theorem transitionStatus_kind {user : User} {newStatus : UserStatus} {changedBy reason : String}
    {now : Timestamp} {e : IdentityError}
    (h : user.transitionStatus newStatus changedBy reason now = .error e) :
    e.kind ≠ .refreshTokenReuseDetected := by
  unfold User.transitionStatus at h
  split at h <;> cases h
  simp

theorem activate_kind {user : User} {hashedPassword : String} {now : Timestamp} {e : IdentityError}
    (h : user.activate hashedPassword now = .error e) : e.kind ≠ .refreshTokenReuseDetected := by
  unfold User.activate at h
  split at h <;> cases h
  simp

theorem login_ends (ports : Ports) (email password : String) (draw : Draw) :
    EndsWell ports (.login email password draw) [] (login ports email password draw) := by
  have hfailed : ∀ reads reason now error, error.kind ≠ .refreshTokenReuseDetected →
      EndsWell ports (.login email password draw) reads (recordFailure email reason now error) :=
    fun reads reason now error herror => ends_commit (.loginFailed rfl herror)
  intro now db
  dsimp only
  split
  · exact hfailed _ _ _ _ (by simp)
  · next loaded hread =>
    split
    · exact hfailed _ _ _ _ (by simp)
    · next hactive =>
      split
      · exact hfailed _ _ _ _ (by simp)
      · next hverify =>
        have hload := Lib.Table.get_of_mem (List.mem_of_find?_eq_some hread)
        refine ends_saveUser (loaded_there (List.mem_cons_self ..) hload rfl)
          (fun _ _ _ => trivial) fun now' db' model hsave => ends_commit ?_
        exact .login hread (by simpa using hactive) (by simpa using hverify) hsave
          (by simp [userEvent, tokenEvent, Write.IsEvent, IdentityEvent.rotated])

theorem reuseDetected_ends {raw : String} (draw : Draw) (now : Timestamp) {db : Db}
    {token : RefreshToken} (htoken : db.getByTokenHash (ports.hashToken raw) = some token)
    (hrevoked : token.revokedAt ≠ none) :
    EndsWell ports (.refreshAccessToken raw draw) [(now, db)] (reuseDetected token) :=
  fun _ _ => ends_commit (.reuse htoken hrevoked rfl)

/-- The token that was looked up, under the key of the one that is saved. -/
theorem token_there {db : Db} {now : Timestamp} {token saved : RefreshToken} {tokenHash : String}
    (hread : (now, db) ∈ reads) (htoken : db.getByTokenHash tokenHash = some token)
    (hid : saved.id = token.id) : ∃ r ∈ reads, (r.2.refreshTokens.get saved.id).isSome := by
  refine ⟨_, hread, ?_⟩
  rw [hid, Lib.Table.get_of_mem (getByTokenHash_some htoken).1]
  rfl

theorem rotate_ends {raw : String} {draw : Draw} {now : Timestamp} {db : Db}
    {token : RefreshToken} (htoken : db.getByTokenHash (ports.hashToken raw) = some token)
    (hactive : token.isActive now) :
    EndsWell ports (.refreshAccessToken raw draw) [(now, db)] (rotate ports token draw) := by
  intro now' db'
  dsimp only
  split
  · exact ends_raise _ (by simp)
  · next user huser =>
    split
    · exact ends_raise _ (by simp)
    · next heligible =>
      refine ends_saveRow (fun _ _ hgrows => hgrows.refreshTokens _)
        (token_there (List.mem_append_left _ (List.mem_cons_self ..)) htoken rfl)
        (fun _ _ _ => trivial) fun now₁ db₁ model hsave => ends_commit ?_
      exact .rotate htoken hactive huser (by simpa using heligible) hsave

theorem refreshAccessToken_ends (ports : Ports) (raw : String) (draw : Draw) :
    EndsWell ports (.refreshAccessToken raw draw) [] (refreshAccessToken ports raw draw) := by
  intro now db
  dsimp only
  split
  · exact ends_raise _ (by simp)
  · next token htoken =>
    split
    · next hrevoked => exact reuseDetected_ends draw now htoken (Option.isSome_iff_ne_none.mp hrevoked)
    · split
      · next e he =>
        unfold RefreshToken.assertActive at he
        split at he <;> cases he
        exact ends_raise _ (by simp)
      · next he =>
        unfold RefreshToken.assertActive at he
        split at he
        · next hactive => exact rotate_ends htoken hactive
        · cases he

/-- The second half of a logout denies the access token, or not, and commits what there is. -/
theorem logoutAccessToken_ends {C : List (Timestamp × Db) → (Db → Option Db) →
      Except IdentityError Reply → Prop} {raw : String} {claims₀ : Option AccessTokenClaims}
    {expiresAt₀ : Option Timestamp} {reads : List (Timestamp × Db)} {ws : List Write}
    (claims : Option AccessTokenClaims) (expiresAt : Option Timestamp)
    (h : ∀ entry rest, ws ++ entry ≠ [] → (∀ w ∈ entry, Write.Denies w) →
      C (reads ++ rest) (flush (ws ++ entry)) (.ok .loggedOut)) :
    (logoutAccessToken claims expiresAt ws).Ends C (Quiet (.logout raw claims₀ expiresAt₀))
      reads := by
  have hfinish : ∀ entry rest, (∀ w ∈ entry, Write.Denies w) →
      (finishLogout (ws ++ entry)).Ends C (Quiet (.logout raw claims₀ expiresAt₀))
        (reads ++ rest) := by
    intro entry rest hentry
    have hcommit := h entry rest
    generalize ws ++ entry = writes at hcommit ⊢
    cases writes with
    | nil => exact ⟨_, _, _, rfl⟩
    | cons w ws => exact hcommit (by simp) hentry
  have hnothing : ∀ rest, (finishLogout ws).Ends C (Quiet (.logout raw claims₀ expiresAt₀))
      (reads ++ rest) := by
    intro rest
    simpa using hfinish [] rest (by simp)
  unfold logoutAccessToken
  split
  · next claims expiresAt =>
    split
    · simpa using hnothing []
    · intro now db
      dsimp only
      split
      · exact hnothing _
      · intro now' db'
        rw [List.append_assoc]
        refine hfinish [_] _ fun w hw => ?_
        rw [List.mem_singleton.mp hw]
        dsimp only
        generalize db'.revokedAccessTokens.get _ = row
        cases row <;> trivial
  · simpa using hnothing []

theorem logout_ends (ports : Ports) (raw : String) (claims : Option AccessTokenClaims)
    (expiresAt : Option Timestamp) :
    EndsWell ports (.logout raw claims expiresAt) [] (logout ports raw claims expiresAt) := by
  -- without a token to revoke, the denial is all there is
  have haccess : ∀ now db, (∀ token, db.getByTokenHash (ports.hashToken raw) = some token →
      token.revokedAt ≠ none) → EndsWell ports (.logout raw claims expiresAt) [(now, db)]
        (logoutAccessToken claims expiresAt []) := by
    intro now db htoken
    refine logoutAccessToken_ends claims expiresAt fun entry rest _ hentry _ => ⟨_, rfl, ?_⟩
    exact .logoutAccess htoken hentry
  intro now db
  dsimp only
  split
  · next hnone => exact haccess now db fun token ht => by rw [hnone] at ht; cases ht
  · next token htoken =>
    split
    · next hrevoked =>
      refine haccess now db fun token' ht => ?_
      rw [htoken] at ht
      cases ht
      exact Option.isSome_iff_ne_none.mp hrevoked
    · next hrevoked =>
      refine ends_saveRow (fun _ _ hgrows => hgrows.refreshTokens _)
        (token_there (List.mem_cons_self ..) htoken rfl)
        (fun _ _ _ => logoutAccessToken_ends claims expiresAt fun _ _ _ _ => trivial) ?_
      intro now' db' model hsave
      refine logoutAccessToken_ends claims expiresAt fun entry rest _ hentry _ => ⟨_, rfl, ?_⟩
      exact .logout htoken (by simpa using hrevoked) hsave rfl hentry

theorem inviteUser_ends (ports : Ports) (tenantId : TenantId) (email roleName invitedBy : String)
    (draw : InvitationDraw) :
    EndsWell ports (.inviteUser tenantId email roleName invitedBy draw) []
      (inviteUser ports tenantId email roleName invitedBy draw) := by
  intro _ db
  dsimp only
  split
  · exact ends_raise _ (by simp)
  · split
    · exact ends_raise _ (by simp)
    · intro now db'
      dsimp only
      split
      · exact ends_raise _ (by simp)
      · exact ends_commit (.inviteUser rfl)

theorem acceptInvitation_ends (ports : Ports) (invitationToken password salt : String) :
    EndsWell ports (.acceptInvitation invitationToken password salt) []
      (acceptInvitation ports invitationToken password salt) := by
  refine ends_orRaise (fun _ => validate_kind) fun _ _ now db => ?_
  dsimp only
  split
  · exact ends_raise _ (by simp)
  · next invitation hinvitation =>
    refine ends_orRaise (fun _ => assertValid_kind) fun _ _ now' db' => ?_
    dsimp only
    split
    · exact ends_raise _ (by simp)
    · next loaded hload =>
      refine ends_orRaise (fun _ => activate_kind) fun (user, event) hactivate => ?_
      obtain ⟨-, hsaved⟩ := User.activate_ok hactivate
      have hid : user.id = loaded.id := by rw [hsaved]
      refine ends_saveUser (loaded_there (List.mem_append_right _ (List.mem_cons_self ..)) hload hid)
        (fun _ _ _ _ _ => trivial) ?_
      intro now₁ db₁ model hsave
      refine ends_saveRow (fun _ _ hgrows => hgrows.invitationTokens _) ⟨(now, db), by simp, ?_⟩
        (fun _ _ _ => trivial) fun now₂ db₂ used hused => ends_commit ?_
      · have hmem := Lib.Table.get_of_mem (List.mem_of_find?_eq_some hinvitation)
        exact Option.isSome_iff_exists.mpr ⟨invitation, hmem⟩
      · exact .acceptInvitation hinvitation hload hactivate hsave hused rfl

theorem changeUserRole_ends (ports : Ports) (tenantId : TenantId) (userId : Spelled UserId)
    (newRoleName changedBy : String) :
    EndsWell ports (.changeUserRole tenantId userId newRoleName changedBy) []
      (changeUserRole tenantId userId newRoleName changedBy) := by
  refine ends_loadSameTenant fun now db loaded hload htenant => ?_
  dsimp only
  split
  · exact ends_raise _ (by simp)
  · next name hname =>
    intro now' db'
    dsimp only
    split
    · exact ends_raise _ (by simp)
    · next newRole hrole =>
      have hwork : ∀ now'' rest, newRole.name = loaded.role.name ∨
          OwnerGuard loaded ((now, db) :: (now', db') :: rest) →
          EndsWell ports (.changeUserRole tenantId userId newRoleName changedBy)
            ((now, db) :: (now', db') :: rest)
            (saveUser (loaded.changeRole newRole changedBy now'').1 fun now saved =>
              .commit (flush [saved, userEvent (loaded.changeRole newRole changedBy now'').1
                (.userRoleChanged (loaded.changeRole newRole changedBy now'').2) now])
                (.ok (.user (loaded.changeRole newRole changedBy now'').1))) := by
        intro now'' rest hguard
        refine ends_saveUser (loaded_there (List.mem_cons_self ..) hload rfl)
          (fun _ _ _ => trivial) fun now₁ db₁ model hsave => ends_commit ?_
        exact .changeUserRole hload htenant hname hrole hguard hsave rfl
      split
      · exact ends_assertNotLastOwner fun now'' rest hguard => hwork now'' rest (Or.inr hguard)
      · next hsame => exact hwork now' [] (Or.inl (not_not.mp hsame))

theorem suspendUser_ends (ports : Ports) (tenantId : TenantId) (userId : Spelled UserId)
    (changedBy reason : String) :
    EndsWell ports (.suspendUser tenantId userId changedBy reason) []
      (suspendUser tenantId userId changedBy reason) := by
  refine ends_loadSameTenant fun now db loaded hload htenant => ?_
  refine ends_assertNotLastOwner fun now' rest hguard => ?_
  refine ends_orRaise (fun _ => transitionStatus_kind) fun (user, event) hsuspend => ?_
  obtain ⟨-, hsaved⟩ := User.transitionStatus_ok hsuspend
  have hid : (user.revokeAllSessions now').id = loaded.id := by rw [User.revokeAllSessions, hsaved]
  refine ends_saveUser (loaded_there (List.mem_cons_self ..) hload hid)
    (fun _ _ _ _ _ => trivial) fun now₁ db₁ model hsave => ?_
  exact ends_revokeAll (.suspendUser hload htenant hguard hsuspend hsave)
    (by simp [userEvent, allSessionsRevoked, Write.IsEvent, IdentityEvent.rotated]) (Or.inl rfl)

theorem reactivateUser_ends (ports : Ports) (tenantId : TenantId) (userId : Spelled UserId)
    (changedBy : String) :
    EndsWell ports (.reactivateUser tenantId userId changedBy) []
      (reactivateUser tenantId userId changedBy) := by
  refine ends_loadSameTenant fun now db loaded hload htenant => ?_
  refine ends_orRaise (fun _ => transitionStatus_kind) fun (user, event) hreactivate => ?_
  obtain ⟨-, hsaved⟩ := User.transitionStatus_ok hreactivate
  have hid : user.id = loaded.id := by rw [hsaved]
  refine ends_saveUser (loaded_there (List.mem_cons_self ..) hload hid)
    (fun _ _ _ => trivial) fun now₁ db₁ model hsave => ends_commit ?_
  exact .reactivateUser hload htenant hreactivate hsave rfl

theorem deactivateUser_ends (ports : Ports) (tenantId : TenantId) (userId : Spelled UserId)
    (changedBy reason : String) :
    EndsWell ports (.deactivateUser tenantId userId changedBy reason) []
      (deactivateUser tenantId userId changedBy reason) := by
  refine ends_loadSameTenant fun now db loaded hload htenant => ?_
  refine ends_assertNotLastOwner fun now' rest hguard => ?_
  refine ends_orRaise (fun _ => transitionStatus_kind) fun (user, event) hdeactivate => ?_
  obtain ⟨-, hsaved⟩ := User.transitionStatus_ok hdeactivate
  have hid : (user.revokeAllSessions now').id = loaded.id := by rw [User.revokeAllSessions, hsaved]
  refine ends_saveUser (loaded_there (List.mem_cons_self ..) hload hid)
    (fun _ _ _ _ _ => trivial) fun now₁ db₁ model hsave => ?_
  exact ends_revokeAll (.deactivateUser hload htenant hguard hdeactivate hsave)
    (by simp [userEvent, allSessionsRevoked, Write.IsEvent, IdentityEvent.rotated]) (Or.inl rfl)

theorem changePassword_ends (ports : Ports) (userId : Spelled UserId)
    (currentPassword newPassword salt : String) :
    EndsWell ports (.changePassword userId currentPassword newPassword salt) []
      (changePassword ports userId currentPassword newPassword salt) := by
  intro now db
  dsimp only
  split
  · exact ends_raise _ (by simp)
  · next loaded hload =>
    split
    · exact ends_raise _ (by simp)
    · next hverify =>
      refine ends_orRaise (fun _ => validate_kind) fun _ _ => ?_
      refine ends_saveUser (loaded_there (List.mem_cons_self ..) hload rfl)
        (fun _ _ _ _ _ => trivial) fun now₁ db₁ model hsave => ?_
      exact ends_revokeAll (.changePassword hload (by simpa using hverify) hsave)
        (by simp [userEvent, allSessionsRevoked, Write.IsEvent, IdentityEvent.rotated]) (Or.inl rfl)

theorem requestPasswordReset_ends (ports : Ports) (email : String) (draw : ResetDraw) :
    EndsWell ports (.requestPasswordReset email draw) [] (requestPasswordReset ports email draw) := by
  intro now db
  dsimp only
  split
  · exact ⟨_, _, rfl⟩
  · next user huser => exact ends_commit (.requestPasswordReset huser rfl)

theorem resetPassword_ends (ports : Ports) (resetToken newPassword salt : String) :
    EndsWell ports (.resetPassword resetToken newPassword salt) []
      (resetPassword ports resetToken newPassword salt) := by
  refine ends_orRaise (fun _ => validate_kind) fun _ hpolicy now db => ?_
  dsimp only
  split
  · exact ends_raise _ (by simp)
  · next token htoken =>
    refine ends_orRaise (fun _ => assertValid_kind) fun _ hvalid now' db' => ?_
    dsimp only
    split
    · exact ends_raise _ (by simp)
    · next loaded hload =>
      have hvalid : token.isValid now := by
        unfold PasswordResetToken.assertValid OneTimeToken.assertValid at hvalid
        split at hvalid
        · assumption
        · cases hvalid
      refine ends_saveUser (loaded_there (List.mem_append_right _ (List.mem_cons_self ..)) hload rfl)
        (fun _ _ _ _ _ _ _ => trivial) ?_
      intro now₁ db₁ model hsave
      refine ends_saveRow (fun _ _ hgrows => hgrows.passwordResetTokens _) ⟨(now, db), by simp, ?_⟩
        (fun _ _ _ _ _ => trivial) fun now₂ db₂ used hused => ?_
      · have hmem := Lib.Table.get_of_mem (List.mem_of_find?_eq_some htoken)
        exact Option.isSome_iff_exists.mpr ⟨token, hmem⟩
      · exact ends_revokeAll (.resetPassword hpolicy htoken hvalid hload hsave
          hused) (by simp [userEvent, allSessionsRevoked, Write.IsEvent, IdentityEvent.rotated])
          (Or.inl rfl)

theorem revokeAllSessions_ends (ports : Ports) (userId : Spelled UserId) :
    EndsWell ports (.revokeAllSessions userId) [] (revokeAllSessions userId) := by
  intro now db
  dsimp only
  split
  · exact ends_raise _ (by simp)
  · next loaded hload =>
    refine ends_saveUser (loaded_there (List.mem_cons_self ..) hload rfl)
      (fun _ _ _ _ _ => trivial) fun now₁ db₁ model hsave => ?_
    exact ends_revokeAll (.revokeAllSessions hload hsave)
      (by simp [userEvent, allSessionsRevoked, Write.IsEvent, IdentityEvent.rotated]) (Or.inr rfl)

theorem createTenant_ends (ports : Ports) (command : RegisterTenant) (draw : RegistrationDraw) :
    EndsWell ports (.createTenant command draw) [] (createTenant command draw) := by
  have hinsert : ∀ reads slug now, EndsWell ports (.createTenant command draw) reads
      (insertTenantWithSlug command slug draw now) := by
    intro reads slug now
    unfold insertTenantWithSlug
    split
    · exact ends_raise _ (by simp)
    · exact ends_commit (.createTenant rfl)
  intro now db
  dsimp only
  split
  · intro now' db'
    dsimp only
    split
    · exact ends_raise _ (by simp)
    · exact hinsert _ _ _
  · exact hinsert _ _ _

theorem createOwner_ends (ports : Ports) (tenant : Tenant) (command : RegisterTenant)
    (draw : RegistrationDraw) :
    EndsWell ports (.createOwner tenant command draw) [] (createOwner ports tenant command draw) := by
  intro _ db
  dsimp only
  split
  · exact ends_raise _ (by simp)
  · intro now db'
    dsimp only
    split
    · exact ends_raise _ (by simp)
    · next role hrole => exact ends_commit (.createOwner rfl (Lib.Table.key_of_get hrole))

/-- Every command ends in work, or quietly. -/
theorem command_ends (ports : Ports) (command : Command) :
    EndsWell ports command [] (command.txn ports) := by
  cases command with
  | login email password draw => exact login_ends ports email password draw
  | refreshAccessToken raw draw => exact refreshAccessToken_ends ports raw draw
  | logout raw claims expiresAt => exact logout_ends ports raw claims expiresAt
  | inviteUser tenantId email roleName invitedBy draw =>
    exact inviteUser_ends ports tenantId email roleName invitedBy draw
  | acceptInvitation token password salt => exact acceptInvitation_ends ports token password salt
  | changeUserRole tenantId userId newRoleName changedBy =>
    exact changeUserRole_ends ports tenantId userId newRoleName changedBy
  | suspendUser tenantId userId changedBy reason =>
    exact suspendUser_ends ports tenantId userId changedBy reason
  | reactivateUser tenantId userId changedBy =>
    exact reactivateUser_ends ports tenantId userId changedBy
  | deactivateUser tenantId userId changedBy reason =>
    exact deactivateUser_ends ports tenantId userId changedBy reason
  | changePassword userId currentPassword newPassword salt =>
    exact changePassword_ends ports userId currentPassword newPassword salt
  | requestPasswordReset email draw => exact requestPasswordReset_ends ports email draw
  | resetPassword token newPassword salt => exact resetPassword_ends ports token newPassword salt
  | revokeAllSessions userId => exact revokeAllSessions_ends ports userId
  | createTenant command draw => exact createTenant_ends ports command draw
  | createOwner tenant command draw => exact createOwner_ends ports tenant command draw

end Ends

/-! ### What all work has in common -/

/-- The refresh tokens of each read, and of `db`, came later than those of the reads before. -/
structure LedTo (reads : List (Timestamp × Db)) (db : Db) : Prop where
  ordered : reads.Pairwise fun r r' => TokensLater r.2.refreshTokens r'.2.refreshTokens
  later : ∀ r ∈ reads, TokensLater r.2.refreshTokens db.refreshTokens

theorem LedTo.alone {reads : List (Timestamp × Db)} {db : Db} (h : ∀ r ∈ reads, r.2 = db) :
    LedTo reads db := by
  refine ⟨List.pairwise_of_forall_mem_list fun r hr r' hr' => ?_, fun r hr => ?_⟩
  · rw [h r hr, h r' hr']
    exact .refl _
  · rw [h r hr]
    exact .refl _

section Work

variable {ports : Ports} {command : Command} {reads : List (Timestamp × Db)} {ws : List Write}
  {result : Except IdentityError Reply} {loaded user model : User} {more : List Write} {db : Db}

theorem Write.IsEvent.lawful {tokens : Lib.Table RefreshToken.id} {w : Write} (h : w.IsEvent) :
    w.Lawful tokens := by
  cases w <;> trivial

theorem Write.Denies.lawful {tokens : Lib.Table RefreshToken.id} {w : Write} (h : w.Denies) :
    w.Lawful tokens := by
  cases w <;> trivial

theorem Revoking.extra (h : Revoking ports command reads loaded user model more) :
    more = [] ∨ ∃ used token now, more = [.updateReset used (OneTimeToken.markUsed token now)] := by
  cases h with
  | resetPassword => exact Or.inr ⟨_, _, _, rfl⟩
  | _ => exact Or.inl rfl

theorem activeTokensOf_unrevoked {userId : UserId} :
    ∀ t ∈ db.activeTokensOf userId, t.revokedAt = none :=
  fun _ ht => (of_decide_eq_true (List.mem_filter.mp ht).2).2

/-- A token that was loaded is saved over a row with its hash and owner; whether that row was revoked
    or not, it is now. -/
theorem savedToken_lawful {d d' : Db} {tokenHash : String} {token model : RefreshToken}
    (htoken : d.getByTokenHash tokenHash = some token)
    (hsave : d'.refreshTokens.get token.id = some model)
    (hloaded : TokensLater d.refreshTokens d'.refreshTokens)
    (hsaved : TokensLater d'.refreshTokens db.refreshTokens) (by' : Option RefreshTokenId)
    (now : Timestamp) : (Write.updateToken model (token.revoke by' now)).Lawful db.refreshTokens := by
  obtain ⟨model', hmodel', hhash, huser, -⟩ :=
    hloaded _ _ (Lib.Table.get_of_mem (getByTokenHash_some htoken).1)
  rw [hsave] at hmodel'
  cases hmodel'
  refine ⟨hhash.symm, huser.symm, by simp [RefreshToken.revoke], fun heq => ?_⟩
  rw [← Lib.Table.key_of_get hsave] at hsave
  obtain ⟨t, ht, -, -, hstays⟩ := hsaved _ model hsave
  exact ⟨t, ht, hstays (by rw [← heq]; simp [RefreshToken.revoke])⟩

/-- Of the tokens it updates, a command only revokes. -/
theorem Work.lawful (h : Work ports command reads ws result) (hreads : LedTo reads db) :
    ∀ w ∈ ws, w.Lawful db.refreshTokens := by
  have hevents : ∀ {ws : List Write}, (∀ w ∈ ws, Write.IsEvent w) →
      ∀ w ∈ ws, w.Lawful db.refreshTokens := fun h w hw => (h w hw).lawful
  cases h with
  | loginFailed hevent => simpa using hevent.lawful
  | login _ _ _ _ hev => simpa [Write.Lawful, RefreshToken.issue] using hevents hev
  | @rotate raw draw now d now' d' now₁ d₁ token user model htoken _ _ _ hsave =>
    have hloaded := List.rel_of_pairwise_cons hreads.ordered (show (now₁, d₁) ∈ _ by simp)
    have hsaved := hreads.later (now₁, d₁) (by simp)
    have hupdate := savedToken_lawful htoken hsave hloaded hsaved (some draw.id) now'
    intro w hw
    simp only [List.mem_cons, List.not_mem_nil, or_false] at hw
    rcases hw with rfl | rfl | rfl
    · rfl
    · exact hupdate
    · trivial
  | reuse _ _ hevent =>
    intro w hw
    rcases List.mem_append.mp hw with hw | hw
    · exact revokeModels_lawful activeTokensOf_unrevoked _ w hw
    · rw [List.mem_singleton.mp hw]
      exact hevent.lawful
  | @logout raw claims expiresAt now d now' d' rest token model event entry htoken _ hsave hevent
      hentry =>
    have hloaded := List.rel_of_pairwise_cons hreads.ordered (show (now', d') ∈ _ by simp)
    have hsaved := hreads.later (now', d') (by simp)
    have hupdate := savedToken_lawful htoken hsave hloaded hsaved none now
    intro w hw
    rcases List.mem_cons.mp hw with rfl | hw
    · exact hupdate
    · rcases List.mem_cons.mp hw with rfl | hw
      · exact hevent.lawful
      · exact (hentry w hw).lawful
  | logoutAccess _ hentry => exact fun w hw => (hentry w hw).lawful
  | revoking hrevoking hev =>
    intro w hw
    rcases List.mem_append.mp hw with hw | hw
    · rcases List.mem_append.mp hw with hw | hw
      · rcases hrevoking.extra with rfl | ⟨used, token, now, rfl⟩
        · rw [List.mem_singleton.mp hw]
          trivial
        · rcases List.mem_pair.mp hw with rfl | rfl <;> trivial
      · exact revokeModels_lawful activeTokensOf_unrevoked _ w hw
    · exact hevents hev w hw
  | inviteUser hevent | acceptInvitation _ _ _ _ _ hevent | changeUserRole _ _ _ _ _ _ hevent
  | reactivateUser _ _ _ _ hevent | requestPasswordReset _ hevent | createTenant hevent
  | createOwner hevent => simpa [Write.Lawful] using hevent.lawful

/-- Whatever a command commits, refresh tokens keep hash and owner and stay revoked. -/
theorem Work.tokensLater {db' : Db} (h : Work ports command reads ws result)
    (hreads : LedTo reads db) (hflush : flush ws db = some db') :
    TokensLater db.refreshTokens db'.refreshTokens :=
  foldlM_onTokens_later (h.lawful hreads) (flush_tokens hflush)

theorem Work.sound {db' : Db} (h : Work ports command reads ws result) (hreads : LedTo reads db)
    (hdb : db.Sound) (hflush : flush ws db = some db') : db'.Sound :=
  flush_sound hdb (h.lawful hreads) hflush

/-! ### Users -/

/-- The users a command creates. -/
inductive NewUser (ports : Ports) : Command → User → Prop where
  | invited {tenantId email roleName invitedBy draw role now} :
    NewUser ports (.inviteUser tenantId email roleName invitedBy draw)
      (User.invite draw.userId tenantId email role invitedBy now).1
  | owner {tenant command draw role now} :
    NewUser ports (.createOwner tenant command draw)
      (User.createOwner draw.userId tenant.id command.ownerEmail
        (ports.hash draw.salt command.ownerPassword) role now).1

/-- A user as a command has loaded it and as it saves it. -/
inductive Edit (ports : Ports) : Command → List (Timestamp × Db) → User → User → Prop where
  | login {email password draw now db rest loaded} (hread : db.getUserByEmail email = some loaded)
      (hactive : loaded.isLoginEligible) :
    Edit ports (.login email password draw) ((now, db) :: rest) loaded (loaded.recordLogin now)
  | acceptInvitation {invitationToken password salt now db now' db' rest userId loaded user event}
      (hload : db'.users.get userId = some loaded)
      (hactivate : loaded.activate (ports.hash salt password) now' = .ok (user, event)) :
    Edit ports (.acceptInvitation invitationToken password salt) ((now, db) :: (now', db') :: rest)
      loaded user
  | changeUserRole {tenantId userId newRoleName changedBy now db now₁ db₁ rest loaded name newRole
        now'}
      (hload : db.users.get userId.id = some loaded) (htenant : loaded.tenantId = tenantId)
      (hname : RoleName.ofString newRoleName = some name)
      (hrole : db₁.roles.get name = some newRole)
      (hguard : newRole.name = loaded.role.name ∨
        OwnerGuard loaded ((now, db) :: (now₁, db₁) :: rest)) :
    Edit ports (.changeUserRole tenantId userId newRoleName changedBy)
      ((now, db) :: (now₁, db₁) :: rest) loaded (loaded.changeRole newRole changedBy now').1
  | reactivateUser {tenantId userId changedBy now db rest loaded user event}
      (hload : db.users.get userId.id = some loaded) (htenant : loaded.tenantId = tenantId)
      (hreactivate : loaded.reactivate changedBy now = .ok (user, event)) :
    Edit ports (.reactivateUser tenantId userId changedBy) ((now, db) :: rest) loaded user
  | revoking {command reads last loaded user model more}
      (hrevoking : Revoking ports command reads loaded user model more) :
    Edit ports command (reads ++ [last]) loaded user

theorem OwnerGuard.mono {reads' : List (Timestamp × Db)} (h : OwnerGuard loaded reads)
    (hsub : ∀ r ∈ reads, r ∈ reads') : OwnerGuard loaded reads' :=
  h.imp_right fun ⟨r, hr, hcount⟩ => ⟨r, hsub r hr, hcount⟩

theorem Revoking.saved (h : Revoking ports command reads loaded user model more) :
    ∃ r ∈ reads, SavedOver r.2 user model := by
  cases h with
  | suspendUser _ _ _ _ hsave | deactivateUser _ _ _ _ hsave =>
    exact ⟨_, List.mem_append_right _ (List.mem_cons_self ..), hsave⟩
  | changePassword _ _ hsave | revokeAllSessions _ hsave =>
    exact ⟨_, List.mem_cons_of_mem _ (List.mem_cons_self ..), hsave⟩
  | @resetPassword _ _ _ now d now' d' now₁ d₁ _ _ _ _ _ _ _ _ _ _ hsave =>
    exact ⟨(now₁, d₁), by simp, hsave⟩

theorem Edit.read (h : Edit ports command reads loaded user) :
    ∃ r ∈ reads, r.2.users.get loaded.id = some loaded := by
  have hof : ∀ {reads' : List (Timestamp × Db)} {now : Timestamp} {db : Db} {id : UserId},
      (now, db) ∈ reads' → db.users.get id = some loaded →
      ∃ r ∈ reads', r.2.users.get loaded.id = some loaded := by
    intro reads' now db id hmem hload
    exact ⟨(now, db), hmem, by rw [Lib.Table.key_of_get hload]; exact hload⟩
  cases h with
  | login hread =>
    exact hof (List.mem_cons_self ..) (Lib.Table.get_of_mem (List.mem_of_find?_eq_some hread))
  | acceptInvitation hload =>
    exact hof (List.mem_cons_of_mem _ (List.mem_cons_self ..)) hload
  | changeUserRole hload | reactivateUser hload => exact hof (List.mem_cons_self ..) hload
  | revoking hrevoking =>
    cases hrevoking with
    | suspendUser hload | deactivateUser hload | changePassword hload | revokeAllSessions hload =>
      exact hof (List.mem_append_left _ (List.mem_cons_self ..)) hload
    | resetPassword _ _ _ hload =>
      exact hof (List.mem_append_left _ (List.mem_cons_of_mem _ (List.mem_cons_self ..))) hload

/-- A bulk revocation is of the user that was loaded, and begins a new generation. -/
theorem Revoking.generation (h : Revoking ports command reads loaded user model more) :
    user.id = loaded.id ∧ user.tenantId = loaded.tenantId ∧
      user.tokenGeneration = loaded.tokenGeneration + 1 := by
  cases h with
  | suspendUser _ _ _ hsuspend =>
    obtain ⟨_, rfl⟩ := User.transitionStatus_ok hsuspend
    exact ⟨rfl, rfl, rfl⟩
  | deactivateUser _ _ _ hdeactivate =>
    obtain ⟨_, rfl⟩ := User.transitionStatus_ok hdeactivate
    exact ⟨rfl, rfl, rfl⟩
  | changePassword | resetPassword | revokeAllSessions => exact ⟨rfl, rfl, rfl⟩

/-- A user keeps its identity; it leaves a generation behind or stays active in it. -/
theorem Edit.generation (h : Edit ports command reads loaded user) :
    user.id = loaded.id ∧ user.tenantId = loaded.tenantId ∧
      loaded.tokenGeneration ≤ user.tokenGeneration ∧
      (user.tokenGeneration = loaded.tokenGeneration → loaded.status = .active →
        user.status = .active) := by
  cases h with
  | login => exact ⟨rfl, rfl, le_rfl, fun _ h => h⟩
  | acceptInvitation _ hactivate =>
    obtain ⟨_, rfl⟩ := User.activate_ok hactivate
    exact ⟨rfl, rfl, le_rfl, fun _ _ => rfl⟩
  | changeUserRole => exact ⟨rfl, rfl, le_rfl, fun _ h => h⟩
  | reactivateUser _ _ hreactivate =>
    obtain ⟨_, rfl⟩ := User.transitionStatus_ok hreactivate
    exact ⟨rfl, rfl, le_rfl, fun _ _ => rfl⟩
  | revoking hrevoking =>
    obtain ⟨hid, htenant, hgen⟩ := hrevoking.generation
    exact ⟨hid, htenant, by omega, by omega⟩

/-- A command writes one user at most, first of all: it creates one, or saves one it has loaded over the
    row that is there when it does. -/
theorem Work.users (h : Work ports command reads ws result) :
    SkipUsers ws ∨
    (∃ user rest, NewUser ports command user ∧ ws = .insertUser user :: rest ∧ SkipUsers rest) ∨
    (∃ loaded user model rest, Edit ports command reads loaded user ∧
      (∃ r ∈ reads, SavedOver r.2 user model) ∧ ws = .updateUser model user :: rest ∧
      SkipUsers rest) := by
  have hmodels : ∀ {models : List RefreshToken} {now : Timestamp},
      SkipUsers (revokeModels models now) := by
    intro models now w hw users
    obtain ⟨model, _, rfl⟩ := mem_revokeModels hw
    rfl
  have hevents : ∀ {events : List Write}, (∀ w ∈ events, Write.IsEvent w) → SkipUsers events :=
    fun hev w hw => (hev w hw).skips.1
  cases h with
  | loginFailed hev => exact Or.inl (hevents (by simpa using hev))
  | login hread hactive _ hsave hev =>
    exact Or.inr (Or.inr ⟨_, _, _, _, .login hread hactive,
      ⟨_, List.mem_cons_of_mem _ (List.mem_cons_self ..), hsave⟩, rfl,
      List.forall_mem_cons.mpr ⟨fun _ => rfl, hevents hev⟩⟩)
  | rotate => exact Or.inl (by simp [SkipUsers, Write.onUsers, tokenEvent])
  | reuse _ _ hev =>
    exact Or.inl (List.forall_mem_append.mpr ⟨hmodels, hevents (by simpa using hev)⟩)
  | logout _ _ _ hev hentry =>
    refine Or.inl (List.forall_mem_cons.mpr ⟨fun _ => rfl, List.forall_mem_cons.mpr ⟨?_, ?_⟩⟩)
    · exact hev.skips.1
    · exact fun w hw => (hentry w hw).skips.1
  | logoutAccess _ hentry => exact Or.inl fun w hw => (hentry w hw).skips.1
  | inviteUser hev =>
    exact Or.inr (Or.inl ⟨_, _, .invited, rfl,
      List.forall_mem_cons.mpr ⟨hev.skips.1, List.forall_mem_singleton.mpr fun _ => rfl⟩⟩)
  | acceptInvitation _ hload hactivate hsave _ hev =>
    exact Or.inr (Or.inr ⟨_, _, _, _, .acceptInvitation hload hactivate,
      ⟨_, List.mem_cons_of_mem _ (List.mem_cons_of_mem _ (List.mem_cons_self ..)), hsave⟩, rfl,
      List.forall_mem_cons.mpr ⟨fun _ => rfl, hevents (by simpa using hev)⟩⟩)
  | changeUserRole hload htenant hname hrole hguard hsave hev =>
    have hguard' := fun last => hguard.imp_right fun h => h.mono fun _ => List.mem_append_left [last]
    exact Or.inr (Or.inr ⟨_, _, _, _, .changeUserRole hload htenant hname hrole (hguard' _),
      ⟨_, List.mem_append_right _ (List.mem_cons_self ..), hsave⟩, rfl,
      hevents (by simpa using hev)⟩)
  | reactivateUser hload htenant hreactivate hsave hev =>
    exact Or.inr (Or.inr ⟨_, _, _, _, .reactivateUser hload htenant hreactivate,
      ⟨_, List.mem_cons_of_mem _ (List.mem_cons_self ..), hsave⟩, rfl,
      hevents (by simpa using hev)⟩)
  | @revoking _ _ _ _ _ extra now db events _ hrevoking hev =>
    obtain ⟨r, hr, hsave⟩ := hrevoking.saved
    have hextra : SkipUsers extra := by
      rcases hrevoking.extra with rfl | ⟨used, token, now, rfl⟩ <;> simp [SkipUsers, Write.onUsers]
    refine Or.inr (Or.inr ⟨_, _, _, _, .revoking hrevoking, ⟨r, List.mem_append_left _ hr, hsave⟩,
      rfl, ?_⟩)
    exact List.forall_mem_append.mpr ⟨List.forall_mem_append.mpr ⟨hextra, hmodels⟩, hevents hev⟩
  | requestPasswordReset _ hev =>
    exact Or.inl (List.forall_mem_cons.mpr ⟨fun _ => rfl, hevents (by simpa using hev)⟩)
  | createTenant hev =>
    exact Or.inl (List.forall_mem_cons.mpr ⟨fun _ => rfl, hevents (by simpa using hev)⟩)
  | createOwner hev =>
    exact Or.inr (Or.inl ⟨_, _, .owner, rfl, hevents (by simpa using hev)⟩)

end Work

end GeoRisk.Identity
