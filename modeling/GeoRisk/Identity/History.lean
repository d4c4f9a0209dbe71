import Mathlib
import GeoRisk.Lib.Runs
import GeoRisk.Identity.Work

/-! Sequential histories: the identity commands one at a time, each at an instant. A history keeps an
    account of the sessions it has issued, a refresh token and an access token each, and its
    invariant ties them to the tables: the refresh token to its row, the access token to the
    generation of its user. -/

namespace GeoRisk.Identity

/-- `get_current_claims`, on the tables as they are. -/
def getCurrentClaims (ports : Ports) (now : Timestamp) (token : String) (db : Db) :
    Except IdentityError AccessTokenClaims :=
  match ports.decodeClaims now token with
  | .error e => .error e
  | .ok claims =>
    if claims.jti ≠ "" ∧ db.isRevoked claims.jti then
      .error ⟨.authenticationFailed, "This session has been logged out"⟩
    else
      match db.users.get claims.userId with
      | none => .error ⟨.userNotFound, s!"User {claims.userId} not found"⟩
      | some user =>
        if !user.isLoginEligible then .error ⟨.userNotActive, "This account is no longer active"⟩
        else if user.tokenGeneration ≠ claims.tokenGeneration then
          .error ⟨.authenticationFailed, "This session has been revoked — please log in again"⟩
        else .ok claims

/-- What `jwt.decode` makes of what `jwt.encode` has signed: it checks `iat` and then `exp`. -/
structure Ports.RoundTrip (ports : Ports) : Prop where
  decode_encode : ∀ p t, ports.decode t (ports.encode p) =
    if t < p.iat then .error .invalidToken
    else if p.exp ≤ t then .error .expiredSignature
    else .ok p

/-- The command from its first query to its end, with nothing else happening. -/
def Command.exec (ports : Ports) (command : Command) (now : Timestamp) (db : Db) :
    Db × Option (Except IdentityError Reply) :=
  (command.txn ports).exec now db

/-- `RegisterTenantHandler.handle`: two transactions. -/
def registerTenant (ports : Ports) (command : RegisterTenant) (draw : RegistrationDraw)
    (now : Timestamp) (db : Db) : Db × Option (Except IdentityError Reply) :=
  match PasswordPolicy.validate command.ownerPassword with
  | .error e => (db, some (.error e))
  | .ok () =>
    match (Command.createTenant command draw).exec ports now db with
    | (db, some (.ok (.tenant tenant))) =>
      match (Command.createOwner tenant command draw).exec ports now db with
      | (db, some (.ok (.user owner))) => (db, some (.ok (.registered tenant owner)))
      | failed => failed
    | failed => failed

/-- Registering a tenant is a history of its transactions. -/
theorem registerTenant_exec (ports : Ports) (command : RegisterTenant) (draw : RegistrationDraw)
    (now : Timestamp) (db : Db) : ∃ commands : List Command,
      (∀ c ∈ commands, c = .createTenant command draw ∨ ∃ t, c = .createOwner t command draw) ∧
      (registerTenant ports command draw now db).1 =
        commands.foldl (fun db c => (c.exec ports now db).1) db := by
  unfold registerTenant
  split
  · exact ⟨[], by simp, rfl⟩
  · split
    · next db₁ tenant h₁ =>
      have hdb₁ : ((Command.createTenant command draw).exec ports now db).1 = db₁ := by rw [h₁]
      refine ⟨[.createTenant command draw, .createOwner tenant command draw], by simp, ?_⟩
      rw [List.foldl_cons, List.foldl_cons, List.foldl_nil, hdb₁]
      split
      · next h₂ => rw [h₂]
      · rfl
    · exact ⟨[.createTenant command draw], by simp, rfl⟩

/-- How a command on its own ends: all its reads are of the tables it commits to. -/
theorem exec_cases (ports : Ports) (command : Command) (now : Timestamp) (db : Db) :
    Lib.Txn.Executed (Flushes ports command) (Quiet command) now db (command.exec ports now db) := by
  have horder : ∀ {reads : List (Timestamp × Db)}, (∀ r ∈ reads, r = (now, db)) → InOrder reads :=
    fun hreads => List.pairwise_of_forall_mem_list fun r hr r' hr' => by
      rw [hreads r hr, hreads r' hr']
      exact .refl db
  have h : Lib.Txn.Executed (CommitsWork ports command) (Quiet command) now db
      (command.exec ports now db) := (command_ends ports command).exec now db (by simp)
  generalize command.exec ports now db = out at h ⊢
  cases h with
  | committed hreads hcommit hwrite => exact .committed hreads (hcommit (horder hreads)) hwrite
  | refused hreads hcommit hwrite => exact .refused hreads (hcommit (horder hreads)) hwrite
  | rolledBack hresult => exact .rolledBack hresult

/-- A user that is there is saved over its row. -/
theorem saveUser_exec {A : Type} {user model : User} {now : Timestamp} {db : Db}
    {next : Timestamp → Write → Lib.Txn Db Timestamp (Except IdentityError A)}
    (h : SavedOver db user model) :
    (saveUser user next).exec now db = (next now (.updateUser model user)).exec now db := by
  obtain ⟨hget, hversion⟩ := h
  simp [saveUser, Lib.Txn.exec, hget, hversion]

theorem saveRow_exec {A Row : Type} {get : Db → Option Row} {insert : Write} {update : Row → Write}
    {model : Row} {now : Timestamp} {db : Db} {next : Timestamp → Write → Lib.Txn Db Timestamp A}
    (h : get db = some model) :
    (saveRow get insert update next).exec now db = (next now (update model)).exec now db := by
  simp [saveRow, Lib.Txn.exec, h]

/-! ### Histories -/

/-- A session as it was issued. -/
structure Issued where
  userId : UserId
  refreshToken : String
  accessToken : String
  at' : Timestamp

/-- The sessions that a command with this reply has issued. -/
def issuedBy (ports : Ports) (db : Db) (now : Timestamp) :
    Command → Option (Except IdentityError Reply) → List Issued
  | .login .., some (.ok (.authenticated s)) =>
    [⟨s.user.id, s.rawRefreshToken, s.accessToken.token, now⟩]
  | .refreshAccessToken refreshToken _, some (.ok (.refreshed s)) =>
    (db.getByTokenHash (ports.hashToken refreshToken)).toList.map fun t =>
      ⟨t.userId, s.rawRefreshToken, s.accessToken.token, now⟩
  | _, _ => []

structure History where
  db : Db
  issued : List Issued

def History.step (ports : Ports) (h : History) (a : Command × Timestamp) : History where
  db := (a.1.exec ports a.2 h.db).1
  issued := h.issued ++ issuedBy ports h.db a.2 a.1 (a.1.exec ports a.2 h.db).2

/-- The history of these commands. -/
def history (ports : Ports) (db : Db) (commands : List (Command × Timestamp)) : History :=
  commands.foldl (History.step ports) ⟨db, []⟩

/-! ### What time leaves standing -/

/-- From the tables at one time of a history to those at a later one: generations only grow, an
    active user stays active or leaves its generation behind, refresh tokens are kept, and the
    denylist too. -/
structure Later (db db' : Db) : Prop where
  users : ∀ id u, db.users.get id = some u → ∃ u', db'.users.get id = some u' ∧
    u.tokenGeneration ≤ u'.tokenGeneration ∧
    (u'.tokenGeneration = u.tokenGeneration → u.status = .active → u'.status = .active)
  tokens : TokensLater db.refreshTokens db'.refreshTokens
  denied : ∀ jti, db.isRevoked jti → db'.isRevoked jti

theorem Later.refl (db : Db) : Later db db :=
  ⟨fun _ u h => ⟨u, h, le_rfl, fun _ h => h⟩, .refl _, fun _ h => h⟩

theorem Later.trans {db db₁ db' : Db} (h : Later db db₁) (h' : Later db₁ db') : Later db db' := by
  refine ⟨fun id u hu => ?_, h.tokens.trans h'.tokens, fun jti hj => h'.denied jti (h.denied jti hj)⟩
  obtain ⟨u₁, hu₁, hgen₁, hactive₁⟩ := h.users id u hu
  obtain ⟨u₂, hu₂, hgen₂, hactive₂⟩ := h'.users id u₁ hu₁
  refine ⟨u₂, hu₂, hgen₁.trans hgen₂, fun heq hactive => ?_⟩
  exact hactive₂ (by omega) (hactive₁ (by omega) hactive)

section Commit

variable {ports : Ports} {command : Command} {reads : List (Timestamp × Db)} {ws : List Write}
  {result : Except IdentityError Reply} {db db' : Db}

/-- A row that was saved as it was read. -/
theorem User.flush_loaded (loaded user : User) :
    loaded.flush user loaded = { user with id := loaded.id, version := loaded.version + 1 } := by
  simp [User.flush]

/-- A command on its own saves a user over the row that it has loaded. -/
theorem Edit.alone {loaded user model : User} (h : Edit ports command reads loaded user)
    (hsaved : ∃ r ∈ reads, SavedOver r.2 user model) (hreads : ∀ r ∈ reads, r.2 = db) :
    db.users.get loaded.id = some loaded ∧ model = loaded := by
  obtain ⟨r, hr, hload⟩ := h.read
  obtain ⟨r', hr', hsave, -⟩ := hsaved
  obtain ⟨hid, -⟩ := h.generation
  rw [hreads r hr] at hload
  rw [hreads r' hr', hid, hload] at hsave
  exact ⟨hload, (Option.some.inj hsave).symm⟩

/-- What a command on its own does to the users. -/
theorem Work.usersLater (h : Work ports command reads ws result)
    (hreads : ∀ r ∈ reads, r.2 = db) (hflush : flush ws db = some db') :
    ∀ id u, db.users.get id = some u → ∃ u', db'.users.get id = some u' ∧
      u.tokenGeneration ≤ u'.tokenGeneration ∧
      (u'.tokenGeneration = u.tokenGeneration → u.status = .active → u'.status = .active) := by
  intro id u hu
  have husers := flush_users hflush
  rcases h.users with hskip | ⟨user, rest, _, rfl, hskip⟩ |
    ⟨loaded, user, model, rest, hedit, hsaved, rfl, hskip⟩
  · rw [foldlM_skip hskip] at husers
    rw [← Option.some.inj husers]
    exact ⟨u, hu, le_rfl, fun _ h => h⟩
  · rw [foldlM_onUsers_head hskip] at husers
    obtain ⟨hfresh, heq⟩ := onUsers_insert husers
    refine ⟨u, ?_, le_rfl, fun _ h => h⟩
    rw [heq, Lib.Table.get_put_of_ne]
    · exact hu
    · rintro rfl
      rw [hu] at hfresh
      cases hfresh
  · obtain ⟨hread, rfl⟩ := hedit.alone hsaved hreads
    obtain ⟨hid, _, hgen, hactive⟩ := hedit.generation
    obtain ⟨current, hcurrent, hput⟩ := flush_updateUser hskip hflush
    rw [hread] at hcurrent
    cases hcurrent
    rw [hput, User.flush_loaded, Lib.Table.get_put]
    split
    · next heq =>
      rw [heq, hread] at hu
      cases hu
      exact ⟨_, rfl, hgen, hactive⟩
    · exact ⟨u, hu, le_rfl, fun _ h => h⟩

/-- A denylist entry stays. -/
theorem flush_denied (hflush : flush ws db = some db') (jti : String) (h : db.isRevoked jti) :
    db'.isRevoked jti := by
  have hkeep : ∀ {ws : List Write} {entries entries' : Lib.Table RevokedAccessToken.jti},
      ws.foldlM Write.onRevoked entries = some entries' → (entries.get jti).isSome →
        (entries'.get jti).isSome := by
    intro ws
    induction ws with
    | nil => intro entries entries' hfold hin; cases hfold; exact hin
    | cons w ws ih =>
      intro entries entries' hfold hin
      obtain ⟨entries₁, h₁, h₂⟩ := Option.bind_eq_some_iff.mp hfold
      refine ih h₂ ?_
      cases w with
      | insertRevoked entry =>
        simp only [Write.onRevoked] at h₁
        split at h₁
        · cases h₁
        · cases h₁
          exact Lib.Table.isSome_get_put _ _ hin
      | updateRevoked model entry =>
        obtain ⟨current, -, rfl⟩ := Option.map_eq_some_iff.mp h₁
        exact Lib.Table.isSome_get_put _ _ hin
      | _ => cases h₁; exact hin
  exact hkeep (flush_revoked hflush) h

theorem Work.later (h : Work ports command reads ws result) (hreads : ∀ r ∈ reads, r.2 = db)
    (hflush : flush ws db = some db') : Later db db' :=
  ⟨h.usersLater hreads hflush, h.tokensLater (.alone hreads) hflush, flush_denied hflush⟩

end Commit

theorem exec_later (ports : Ports) (command : Command) (now : Timestamp) (db : Db) :
    Later db (command.exec ports now db).1 := by
  have h := exec_cases ports command now db
  generalize command.exec ports now db = out at h
  cases h with
  | committed hreads hcommit hwrite =>
    obtain ⟨ws, rfl, hwork⟩ := hcommit
    exact hwork.later (fun r hr => by rw [hreads r hr]) hwrite
  | refused | rolledBack => exact .refl db

theorem exec_sound (ports : Ports) (command : Command) (now : Timestamp) {db : Db} (hdb : db.Sound) :
    (command.exec ports now db).1.Sound := by
  have h := exec_cases ports command now db
  generalize command.exec ports now db = out at h
  cases h with
  | committed hreads hcommit hwrite =>
    obtain ⟨ws, rfl, hwork⟩ := hcommit
    exact hwork.sound (.alone fun r hr => by rw [hreads r hr]) hdb hwrite
  | refused | rolledBack => exact hdb

theorem history_later (ports : Ports) (commands : List (Command × Timestamp)) (h : History) :
    Later h.db (commands.foldl (History.step ports) h).db := by
  induction commands generalizing h with
  | nil => exact .refl _
  | cons a commands ih => exact (exec_later ports a.1 a.2 h.db).trans (ih (h.step ports a))

end GeoRisk.Identity
