import Mathlib
import GeoRisk.Identity.FinalRevocation

/-! Is a user without a password the same as an invited user? An invitation is accepted with a password,
    and nothing takes a password away. But the table of transitions lets a reactivation make an
    invited user active, and a password reset gives an invited user a password:

        no password, INVITED ──accept──▶ password, ACTIVE
                     │  └──reactivate──▶ no password, ACTIVE
                     └──reset password─▶ password, INVITED -/

namespace GeoRisk.Identity

/-- It has no password as long as it is invited. -/
def User.Credentialed (u : User) : Prop := u.hashedPassword = none ↔ u.status = .invited

def Db.Credentialed (db : Db) : Prop := ∀ u ∈ db.users.rows, u.Credentialed

/-- The tables after a command on its own. -/
def Db.after (ports : Ports) (db : Db) (a : Command × Timestamp) : Db := (a.1.exec ports a.2 db).1

/-- Neither does it reactivate an invited user of its tenant, nor does it redeem a valid reset token of
    an invited user with an acceptable password. -/
def SparesInvited (ports : Ports) (db : Db) (a : Command × Timestamp) : Prop :=
  match a.1 with
  | .reactivateUser tenantId userId _ =>
    ∀ u, db.users.get userId.id = some u → u.tenantId = tenantId → u.status ≠ .invited
  | .resetPassword resetToken newPassword _ =>
    PasswordPolicy.validate newPassword = .ok () →
      ∀ token, db.getResetByTokenHash (ports.hashToken resetToken) = some token →
        token.isValid a.2 → ∀ u, db.users.get token.userId = some u → u.status ≠ .invited
  | _ => True

section Keeps

variable {ports : Ports} {command : Command} {now : Timestamp} {db db' : Db}

/-- A user that is credentialed as it was read is so as it is saved. -/
theorem Edit.credentialed {reads : List (Timestamp × Db)} {loaded user : User}
    (h : Edit ports command reads loaded user) (hreads : ∀ r ∈ reads, r = (now, db))
    (hspares : SparesInvited ports db (command, now)) (hloaded : loaded.Credentialed) :
    user.Credentialed := by
  unfold User.Credentialed at hloaded ⊢
  cases h with
  | login | changeUserRole => exact hloaded
  | acceptInvitation _ hactivate =>
    obtain ⟨_, rfl⟩ := User.activate_ok hactivate
    simp
  | @reactivateUser tenantId userId changedBy now₁ db₁ _ _ _ _ hload htenant hreactivate =>
    obtain ⟨_, rfl⟩ := User.transitionStatus_ok hreactivate
    have hr := hreads (now₁, db₁) (List.mem_cons_self ..)
    cases hr
    have hpassword := mt hloaded.mp (hspares loaded hload htenant)
    simp [hpassword]
  | revoking hrevoking =>
    -- what can be suspended or deactivated is not invited
    have hleft : ∀ {status : UserStatus}, status ∈ legalStatusTransitions loaded.status →
        status ≠ .active → status ≠ .invited ∧ loaded.hashedPassword ≠ none := by
      intro status hlegal hne
      rw [ne_eq loaded.hashedPassword, hloaded]
      revert hlegal hne
      cases loaded.status <;> cases status <;> decide
    cases hrevoking with
    | suspendUser _ _ _ hsuspend =>
      obtain ⟨hlegal, rfl⟩ := User.transitionStatus_ok hsuspend
      obtain ⟨hstatus, hpassword⟩ := hleft hlegal (by decide)
      simp [User.revokeAllSessions, hpassword]
    | deactivateUser _ _ _ hdeactivate =>
      obtain ⟨hlegal, rfl⟩ := User.transitionStatus_ok hdeactivate
      obtain ⟨hstatus, hpassword⟩ := hleft hlegal (by decide)
      simp [User.revokeAllSessions, hpassword]
    | changePassword _ hverify =>
      have hpassword : loaded.hashedPassword ≠ none := by
        rintro hnone
        rw [hnone] at hverify
        cases hverify
      simpa [User.revokeAllSessions, User.setPassword] using mt hloaded.mpr hpassword
    | @resetPassword _ _ _ now₁ db₁ now₂ db₂ _ _ _ _ token _ _ _ hpolicy htoken hvalid hload =>
      have hr₁ := hreads (now₁, db₁) (List.mem_append_left _ (List.mem_cons_self ..))
      have hr₂ := hreads (now₂, db₂)
        (List.mem_append_left _ (List.mem_cons_of_mem _ (List.mem_cons_self ..)))
      cases hr₁
      cases hr₂
      simpa [User.revokeAllSessions, User.setPassword] using
        hspares hpolicy token htoken hvalid loaded hload
    | revokeAllSessions => exact hloaded

theorem NewUser.credentialed {user : User} (h : NewUser ports command user) : user.Credentialed := by
  cases h with
  | invited => simp [User.invite, User.Credentialed]
  | owner => simp [User.createOwner, User.Credentialed]

/-- A command that spares the invited users keeps the credentials. -/
theorem credentialed_after (hdb : db.Credentialed) (a : Command × Timestamp)
    (hspares : SparesInvited ports db a) : (db.after ports a).Credentialed := by
  obtain ⟨command, now⟩ := a
  have h := exec_cases ports command now db
  unfold Db.after
  generalize command.exec ports now db = out at h ⊢
  cases h with
  | refused | rolledBack => exact hdb
  | @committed reads _ _ db' hreads hcommit hwrite =>
    obtain ⟨ws, rfl, hwork⟩ := hcommit
    have husers := flush_users hwrite
    intro u hu
    rcases hwork.users with hskip | ⟨user, rest, hnew, rfl, hskip⟩ |
      ⟨loaded, user, model, rest, hedit, hsaved, rfl, hskip⟩
    · rw [foldlM_skip hskip] at husers
      exact hdb u (Option.some.inj husers ▸ hu)
    · rw [foldlM_onUsers_head hskip] at husers
      obtain ⟨-, heq⟩ := onUsers_insert husers
      rw [heq] at hu
      rcases Lib.Table.mem_put_rows.mp hu with rfl | ⟨hold, -⟩
      · exact hnew.credentialed
      · exact hdb u hold
    · obtain ⟨hread, rfl⟩ := hedit.alone hsaved fun r hr => by rw [hreads r hr]
      obtain ⟨current, hcurrent, hput⟩ := flush_updateUser hskip hwrite
      rw [hread] at hcurrent
      cases hcurrent
      rw [hput, User.flush_loaded] at hu
      rcases Lib.Table.mem_put_rows.mp hu with rfl | ⟨hold, -⟩
      · exact hedit.credentialed hreads hspares (hdb model (Lib.Table.mem_of_get hread))
      · exact hdb u hold

end Keeps

/-! ### The two ways to lose it -/

section Breaks

variable {ports : Ports} {now : Timestamp} {db : Db}

/-- Saving a user that was read, with events and updates of rows that are there, goes through. -/
theorem flush_saved {loaded : User} (user : User) {ws : List Write}
    (hload : db.users.get loaded.id = some loaded)
    (hfits : ∀ w ∈ ws, w.Fits db) (husers : ∀ w ∈ ws, ∀ users, w.onUsers users = some users) :
    ∃ db', flush (.updateUser loaded user :: ws) db = some db' ∧
      { user with id := loaded.id, version := loaded.version + 1 } ∈ db'.users.rows := by
  obtain ⟨db', hflush⟩ : ∃ db', flush (.updateUser loaded user :: ws) db = some db' := by
    refine flush_fits fun w hw => ?_
    rcases List.mem_cons.mp hw with rfl | hw
    · rw [Write.Fits, hload]
      rfl
    · exact hfits w hw
  obtain ⟨current, hcurrent, hput⟩ := flush_updateUser husers hflush
  rw [hload] at hcurrent
  cases hcurrent
  refine ⟨db', hflush, ?_⟩
  rw [hput, User.flush_loaded]
  exact Lib.Table.mem_put_rows.mpr (Or.inl rfl)

/-- An invited user that is reactivated has no password. -/
theorem reactivated_invited {tenantId : TenantId} {userId : Spelled UserId} {changedBy : String}
    {loaded : User} (hload : db.users.get userId.id = some loaded)
    (htenant : loaded.tenantId = tenantId) (hinvited : loaded.status = .invited)
    (hloaded : loaded.Credentialed) :
    ¬ (db.after ports (.reactivateUser tenantId userId changedBy, now)).Credentialed := by
  have hkey : loaded.id = userId.id := Lib.Table.key_of_get hload
  let user : User := { loaded with status := .active, updatedAt := now }
  let event : UserStatusChanged :=
    ⟨loaded.id, loaded.tenantId, .invited, .active, changedBy, ""⟩
  have hrest : ∀ w ∈ [userEvent user (.userStatusChanged event) now],
      w.Fits db ∧ ∀ users, w.onUsers users = some users := by
    intro w hw
    rw [List.mem_singleton.mp hw]
    exact ⟨trivial, fun _ => rfl⟩
  obtain ⟨db', hflush, hmem⟩ := flush_saved user (hkey ▸ hload)
    (fun w hw => (hrest w hw).1) (fun w hw => (hrest w hw).2)
  have hsave : SavedOver db user loaded := ⟨hkey ▸ hload, rfl⟩
  have hafter : db.after ports (.reactivateUser tenantId userId changedBy, now) = db' := by
    have hlegal : loaded.reactivate changedBy now = .ok (user, event) := by
      rw [User.reactivate, User.transitionStatus, hinvited, if_neg (by decide)]
    simp only [Db.after, Command.exec, Command.txn, reactivateUser, loadSameTenant, Lib.Txn.exec, hload]
    rw [if_neg (by simpa using htenant), hlegal, orRaise]
    dsimp only
    rw [saveUser_exec hsave, Lib.Txn.exec, hflush]
    rfl
  rw [hafter]
  intro hdb
  have hpassword : loaded.hashedPassword = none := hloaded.mpr hinvited
  exact absurd ((hdb _ hmem).mp hpassword) (by simp [user])

/-- An invited user whose password is reset has a password. -/
theorem reset_invited {resetToken newPassword salt : String} {token : PasswordResetToken}
    {loaded : User} (hpolicy : PasswordPolicy.validate newPassword = .ok ())
    (htoken : db.getResetByTokenHash (ports.hashToken resetToken) = some token)
    (hvalid : token.isValid now) (hload : db.users.get token.userId = some loaded)
    (hinvited : loaded.status = .invited) :
    ¬ (db.after ports (.resetPassword resetToken newPassword salt, now)).Credentialed := by
  have hkey : loaded.id = token.userId := Lib.Table.key_of_get hload
  let user := (loaded.setPassword (ports.hash salt newPassword) now).revokeAllSessions now
  let events := [userEvent user (.passwordResetCompleted ⟨user.id, user.tenantId⟩) now,
    allSessionsRevoked user "password reset" now]
  have hreset : db.passwordResetTokens.get token.id = some token :=
    Lib.Table.get_of_mem (List.mem_of_find?_eq_some htoken)
  have hmodels : ∀ w ∈ revokeModels (db.activeTokensOf user.id) now, w.Fits db ∧
      ∀ users, w.onUsers users = some users := by
    intro w hw
    obtain ⟨model, hmodel, rfl⟩ := mem_revokeModels hw
    exact ⟨Option.isSome_iff_exists.mpr
      ⟨model, Lib.Table.get_of_mem (List.mem_of_mem_filter hmodel)⟩, fun _ => rfl⟩
  have hrest : ∀ w ∈ .updateReset token (token.markUsed now) ::
      (revokeModels (db.activeTokensOf user.id) now ++ events),
      w.Fits db ∧ ∀ users, w.onUsers users = some users := by
    intro w hw
    rcases List.mem_cons.mp hw with rfl | hw
    · exact ⟨Option.isSome_iff_exists.mpr ⟨token, hreset⟩, fun _ => rfl⟩
    · rcases List.mem_append.mp hw with hw | hw
      · exact hmodels w hw
      · rcases List.mem_pair.mp hw with rfl | rfl <;> exact ⟨trivial, fun _ => rfl⟩
  obtain ⟨db', hflush, hmem⟩ := flush_saved user (hkey ▸ hload)
    (fun w hw => (hrest w hw).1) (fun w hw => (hrest w hw).2)
  have hsave : SavedOver db user loaded := ⟨hkey ▸ hload, rfl⟩
  have hafter : db.after ports (.resetPassword resetToken newPassword salt, now) = db' := by
    have hassert : PasswordResetToken.assertValid token now = .ok () := by
      rw [PasswordResetToken.assertValid, OneTimeToken.assertValid, if_pos hvalid]
    simp only [Db.after, Command.exec, Command.txn, resetPassword, hpolicy, orRaise, Lib.Txn.exec,
      htoken, hassert, hload]
    rw [saveUser_exec hsave, saveReset, saveRow_exec hreset, revokeAllActiveForUser,
      Lib.Txn.exec, Lib.Txn.exec]
    exact congrArg (fun saved => Option.getD saved db) hflush
  rw [hafter]
  intro hdb
  exact absurd ((hdb _ hmem).mpr hinvited) (by simp [user, User.setPassword, User.revokeAllSessions])

theorem credentialed_after_iff (hdb : db.Credentialed) (a : Command × Timestamp) :
    (db.after ports a).Credentialed ↔ SparesInvited ports db a := by
  refine ⟨fun hafter => ?_, credentialed_after hdb a⟩
  obtain ⟨command, now⟩ := a
  cases command with
  | reactivateUser tenantId userId changedBy =>
    intro u hu htenant hinvited
    exact reactivated_invited hu htenant hinvited (hdb u (Lib.Table.mem_of_get hu)) hafter
  | resetPassword resetToken newPassword salt =>
    intro hpolicy token htoken hvalid u hu hinvited
    exact reset_invited hpolicy htoken hvalid hu hinvited hafter
  | _ => trivial

/-- In every run of identity commands the users have no password exactly while they are invited iff no
    command of the run reactivates an invited user or resets its password. -/
theorem credentials_iff (ports : Ports) (hdb : db.Credentialed)
    (commands : List (Command × Timestamp)) :
    Lib.AllStates (Db.after ports) Db.Credentialed db commands ↔
      Lib.AllSteps (Db.after ports) (SparesInvited ports) db commands := by
  refine Lib.allStates_iff_allSteps (J := fun _ => True) ?_ ?_ trivial hdb
  · exact fun _ a _ h => credentialed_after_iff h a
  · exact fun _ _ _ _ _ => trivial

end Breaks

/-! ### An invited user is reactivated -/

/-- There is a role to invite to. -/
def viewerDb : Db := { aliceDb with roles := Lib.Table.empty.put ⟨.viewer, {.assessmentView}⟩ }

/-- Dan is invited, and reactivated before he accepts. -/
def danReactivated : List (Command × Timestamp) :=
  [(.inviteUser ⟨1⟩ "dan@example.org" "VIEWER" "alice" ⟨⟨4⟩, ⟨20⟩, "welcome"⟩, 0),
    (.reactivateUser ⟨1⟩ ⟨"4", ⟨4⟩⟩ "alice", 1)]

theorem viewerDb_credentialed : viewerDb.Credentialed := by
  intro u hu
  rw [List.mem_singleton.mp hu]
  simp [User.Credentialed, alice]

theorem credentials_iff_sample :
    Lib.AllStates (Db.after plainPorts) Db.Credentialed viewerDb danReactivated ↔
      Lib.AllSteps (Db.after plainPorts) (SparesInvited plainPorts) viewerDb danReactivated :=
  credentials_iff plainPorts viewerDb_credentialed danReactivated

/-- Dan is active and has no password. -/
theorem active_without_password : ¬ ∀ (ports : Ports) (db : Db) (commands : List (Command × Timestamp)),
    db.Credentialed → Lib.AllStates (Db.after ports) Db.Credentialed db commands := by
  intro h
  have hlast := (h plainPorts viewerDb danReactivated viewerDb_credentialed).last
  let dan : User := { (User.invite ⟨4⟩ ⟨1⟩ "dan@example.org" ⟨.viewer, {.assessmentView}⟩ "alice" 0).1
    with status := .active, updatedAt := 1, version := 1 }
  have hdan := hlast dan (List.mem_cons_of_mem _ (List.mem_cons_self ..))
  exact absurd (hdan.mp rfl) (by decide)

end GeoRisk.Identity
