import Mathlib
import GeoRisk.Outbox
import GeoRisk.Identity.Writes

/-! The login once more, step by step as it appends its events. A failed login writes nothing but its
    event, so it locks no row: two failed logins for one address draw their sequence numbers without
    waiting for each other. On its own the handler does what `login` does. -/

namespace GeoRisk.Identity

instance : HasOutbox Db IdentityEvent where
  outbox := Db.outbox
  setOutbox events db := { db with outbox := events }
  outbox_setOutbox _ _ := rfl

abbrev IdentityHandler := Handler Db IdentityEvent (Except IdentityError Reply)

section LoginHandler

variable (ports : Ports)

/-- `LoginHandler._record_failure`, and the error that follows. -/
def failureHandler (email reason : String) (error : IdentityError) : IdentityHandler :=
  .appendEvent "LoginAttempt" email (.userLoginFailed ⟨email, reason⟩) none
    (.commit some (.error error))

/-- The rest of a login once the user is saved. -/
def loggedInHandler (user : User) (draw : Draw) (now : Timestamp) (saved : Write) : IdentityHandler :=
  let token := RefreshToken.issue draw.id user.id user.tenantId (ports.hashToken draw.raw) now
  .appendEvent "User" (toString user.id) (.userLoggedIn ⟨user.id, user.tenantId⟩) (some user.tenantId)
    (.appendEvent "RefreshToken" (toString token.id)
      (.refreshTokenIssued ⟨user.id, user.tenantId, token.id⟩) (some user.tenantId)
      (.commit (flush [saved, .insertToken token])
        (.ok (.authenticated ⟨user, draw.raw, ports.issue now draw.jti (claimsFor user)⟩))))

/-- `LoginHandler.handle`. -/
def loginHandler (email password : String) (draw : Draw) : IdentityHandler :=
  .query fun now db =>
    match db.getUserByEmail email with
    | none => failureHandler email "user_not_found"
        ⟨.invalidCredentials, "Invalid email or password"⟩
    | some loaded =>
      if !loaded.isLoginEligible then
        failureHandler email s!"status_{loaded.status.lower}"
          ⟨.userNotActive, "This account is not active"⟩
      else if !loaded.hashedPassword.any (ports.verify password) then
        failureHandler email "wrong_password" ⟨.invalidCredentials, "Invalid email or password"⟩
      else
        let user := loaded.recordLogin now
        .query fun now db =>
          match db.users.get user.id with
          | none => loggedInHandler ports user draw now (.insertUser { user with version := 0 })
          | some model =>
            if model.version ≠ user.version then
              .rollback (.error ⟨.optimisticConcurrency,
                s!"User {user.id} was modified concurrently " ++
                s!"(expected version {user.version}, found {model.version})"⟩)
            else loggedInHandler ports user draw now (.updateUser model user)

end LoginHandler

section Alone

variable {ports : Ports} {db db' : Db}

/-- Only `append_event` writes to the outbox. -/
def Write.LeavesOutbox : Write → Prop
  | .append .. => False
  | _ => True

theorem flush_outbox {ws : List Write} (hws : ∀ w ∈ ws, w.LeavesOutbox)
    (h : flush ws db = some db') : db'.outbox = db.outbox := by
  induction ws generalizing db with
  | nil =>
    cases h
    rfl
  | cons w ws ih =>
    obtain ⟨db₁, h₁, h₂⟩ := Option.bind_eq_some_iff.mp h
    rw [ih (fun w' hw' => hws w' (List.mem_cons_of_mem _ hw')) h₂]
    have hw := hws w (List.mem_cons_self ..)
    cases applied_of_apply h₁ with
    | append => exact hw.elim
    | _ => rfl

theorem failureHandler_exec (email reason : String) (error : IdentityError) (now : Timestamp)
    (db : Db) : ((failureHandler email reason error).txn []).exec now db =
      (recordFailure email reason now error).exec now db := by
  simp [failureHandler, recordFailure, Handler.txn, Lib.Txn.exec, HasOutbox.outbox,
    HasOutbox.setOutbox, flush, Write.apply, Db.append, GeoRisk.appendEvent]

/-- With no other transaction in between, the events are numbered as at the commit. -/
theorem loggedInHandler_exec (user : User) (draw : Draw) (now : Timestamp) (saved : Write)
    (hsaved : saved.LeavesOutbox) (db : Db) :
    ((loggedInHandler ports user draw now saved).txn []).exec now db =
      Lib.Txn.exec now db (.commit (flush [saved,
        .insertToken (RefreshToken.issue draw.id user.id user.tenantId (ports.hashToken draw.raw) now),
        userEvent user (.userLoggedIn ⟨user.id, user.tenantId⟩) now,
        tokenEvent draw.id user.tenantId (.refreshTokenIssued ⟨user.id, user.tenantId, draw.id⟩) now])
        (.ok (.authenticated ⟨user, draw.raw, ports.issue now draw.jti (claimsFor user)⟩))) := by
  let token := RefreshToken.issue draw.id user.id user.tenantId (ports.hashToken draw.raw) now
  let events := [userEvent user (.userLoggedIn ⟨user.id, user.tenantId⟩) now,
    tokenEvent draw.id user.tenantId (.refreshTokenIssued ⟨user.id, user.tenantId, draw.id⟩) now]
  have hsplit : flush ([saved, .insertToken token] ++ events) db =
      (flush [saved, .insertToken token] db).bind (flush events) := List.foldlM_append
  change _ = Lib.Txn.exec now db (.commit (flush ([saved, .insertToken token] ++ events)) _)
  simp only [loggedInHandler, Handler.txn, Lib.Txn.exec]
  rw [hsplit]
  cases hflush : flush [saved, .insertToken token] db with
  | none => rfl
  | some db₁ =>
    have hsame : db₁.outbox = db.outbox := by
      refine flush_outbox (fun w hw => ?_) hflush
      rcases List.mem_pair.mp hw with rfl | rfl
      · exact hsaved
      · trivial
    simp [events, flush, Write.apply, RefreshToken.issue, userEvent, tokenEvent, HasOutbox.outbox,
      HasOutbox.setOutbox, Db.append, GeoRisk.appendEvent, hsame]

theorem loginHandler_exec (email password : String) (draw : Draw) (now : Timestamp) (db : Db) :
    ((loginHandler ports email password draw).txn []).exec now db =
      (login ports email password draw).exec now db := by
  unfold loginHandler login
  simp only [Handler.txn, Lib.Txn.exec]
  cases db.getUserByEmail email with
  | none => exact failureHandler_exec ..
  | some loaded =>
    dsimp only
    split
    · exact failureHandler_exec ..
    · split
      · exact failureHandler_exec ..
      · simp only [saveUser, Handler.txn, Lib.Txn.exec]
        cases db.users.get (loaded.recordLogin now).id with
        | none => exact loggedInHandler_exec _ draw now (.insertUser _) trivial db
        | some model =>
          dsimp only
          split
          · rfl
          · exact loggedInHandler_exec _ draw now (.updateUser _ _) trivial db

end Alone

end GeoRisk.Identity
