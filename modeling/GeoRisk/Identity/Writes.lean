import Mathlib
import GeoRisk.Identity.Chains

/-! What a list of writes does. Whether a write goes through, and what it does, depends on its own
    table alone, so a flush is seen table by table: `flush_view` turns it into the fold of what each
    write does to one table. Whatever the writes of a command, a refresh token once stored keeps its
    hash and its owner, and once revoked stays revoked. -/

namespace GeoRisk.Identity

/-- The refresh token whose rotation the event records. -/
def IdentityEvent.rotated : IdentityEvent → Option RefreshTokenId
  | .refreshTokenRotated e => some e.oldRefreshTokenId
  | _ => none

/-- The refresh token whose rotation the write records. -/
def Write.rotated : Write → Option RefreshTokenId
  | .append _ _ event _ _ => event.rotated
  | _ => none

/-- A write of the outbox, of anything but a rotation. -/
def Write.IsEvent : Write → Prop
  | .append _ _ event _ _ => event.rotated = none
  | _ => False

/-- A write of the denylist. -/
def Write.Denies : Write → Prop
  | .insertRevoked _ | .updateRevoked .. => True
  | _ => False

/-- A write that goes through, and the tables it leaves. -/
inductive Applied (db : Db) : Write → Db → Prop where
  | insertUser {user} (hid : db.users.get user.id = none)
      (hemail : ¬ db.users.rows.any (·.email = user.email)) :
    Applied db (.insertUser user) { db with users := db.users.put user }
  | updateUser {model user current} (hget : db.users.get model.id = some current) :
    Applied db (.updateUser model user)
      { db with users := db.users.put (model.flush user current) }
  | insertToken {token} (hid : db.refreshTokens.get token.id = none)
      (hhash : db.refreshTokens.rows.find? (·.tokenHash = token.tokenHash) = none) :
    Applied db (.insertToken token) { db with refreshTokens := db.refreshTokens.put token }
  | updateToken {model token current} (hget : db.refreshTokens.get model.id = some current) :
    Applied db (.updateToken model token)
      { db with refreshTokens := db.refreshTokens.put (model.flush token current) }
  | insertRevoked {entry} (hjti : db.revokedAccessTokens.get entry.jti = none) :
    Applied db (.insertRevoked entry)
      { db with revokedAccessTokens := db.revokedAccessTokens.put entry }
  | updateRevoked {model entry current}
      (hget : db.revokedAccessTokens.get model.jti = some current) :
    Applied db (.updateRevoked model entry)
      { db with revokedAccessTokens := db.revokedAccessTokens.put (model.flush entry current) }
  | insertReset {token} (hid : db.passwordResetTokens.get token.id = none)
      (hhash : db.passwordResetTokens.rows.find? (·.tokenHash = token.tokenHash) = none) :
    Applied db (.insertReset token)
      { db with passwordResetTokens := db.passwordResetTokens.put token }
  | updateReset {model token current} (hget : db.passwordResetTokens.get model.id = some current) :
    Applied db (.updateReset model token)
      { db with passwordResetTokens := db.passwordResetTokens.put (model.flush token current) }
  | insertInvitation {token} :
    Applied db (.insertInvitation token) { db with invitationTokens := db.invitationTokens.put token }
  | updateInvitation {model token current}
      (hget : db.invitationTokens.get model.id = some current) :
    Applied db (.updateInvitation model token)
      { db with invitationTokens := db.invitationTokens.put (model.flush token current) }
  | insertTenant {tenant} :
    Applied db (.insertTenant tenant) { db with tenants := db.tenants.put tenant }
  | append {aggregateType aggregateId event tenantId now} :
    Applied db (.append aggregateType aggregateId event tenantId now)
      (db.append aggregateType aggregateId event tenantId now)

theorem applied_of_apply {db db' : Db} {w : Write} (h : w.apply db = some db') :
    Applied db w db' := by
  -- an insert is refused when its key or a unique column is in use
  have hinsert : ∀ {α β : Type} {a : Option α} {p : Prop} [Decidable p] {b b' : β},
      (if a.isSome ∨ p then none else some b) = some b' → (a = none ∧ ¬ p) ∧ b = b' := by
    intro α β a p _ b b' h
    split at h
    · cases h
    · next hfree =>
      cases h
      rw [not_or, Option.not_isSome_iff_eq_none] at hfree
      exact ⟨hfree, rfl⟩
  cases w with
  | insertUser user =>
    obtain ⟨⟨hid, hemail⟩, rfl⟩ := hinsert h
    exact .insertUser hid hemail
  | updateUser model user =>
    obtain ⟨current, hget, rfl⟩ := Option.map_eq_some_iff.mp h
    exact .updateUser hget
  | insertToken token =>
    obtain ⟨⟨hid, hhash⟩, rfl⟩ := hinsert h
    exact .insertToken hid (Option.not_isSome_iff_eq_none.mp hhash)
  | updateToken model token =>
    obtain ⟨current, hget, rfl⟩ := Option.map_eq_some_iff.mp h
    exact .updateToken hget
  | insertRevoked entry =>
    change Db.insertRevoked entry db = some db' at h
    unfold Db.insertRevoked at h
    split at h
    · cases h
    · next hfree =>
      cases h
      exact .insertRevoked (Option.not_isSome_iff_eq_none.mp hfree)
  | updateRevoked model entry =>
    obtain ⟨current, hget, rfl⟩ := Option.map_eq_some_iff.mp h
    exact .updateRevoked hget
  | insertReset token =>
    obtain ⟨⟨hid, hhash⟩, rfl⟩ := hinsert h
    exact .insertReset hid (Option.not_isSome_iff_eq_none.mp hhash)
  | updateReset model token =>
    obtain ⟨current, hget, rfl⟩ := Option.map_eq_some_iff.mp h
    exact .updateReset hget
  | insertInvitation token =>
    obtain ⟨_, rfl⟩ := hinsert h
    exact .insertInvitation
  | updateInvitation model token =>
    obtain ⟨current, hget, rfl⟩ := Option.map_eq_some_iff.mp h
    exact .updateInvitation hget
  | insertTenant tenant =>
    obtain ⟨_, rfl⟩ := hinsert h
    exact .insertTenant
  | append =>
    cases h
    exact .append

/-! ### Writes that go through -/

/-- An event, or the update of a row that is there. -/
def Write.Fits (db : Db) : Write → Prop
  | .updateUser model _ => (db.users.get model.id).isSome
  | .updateToken model _ => (db.refreshTokens.get model.id).isSome
  | .updateRevoked model _ => (db.revokedAccessTokens.get model.jti).isSome
  | .updateReset model _ => (db.passwordResetTokens.get model.id).isSome
  | .updateInvitation model _ => (db.invitationTokens.get model.id).isSome
  | .append .. => True
  | _ => False

theorem Write.Fits.applies {db : Db} {w : Write} (h : w.Fits db) :
    ∃ db', w.apply db = some db' := by
  cases w with
  | updateUser | updateToken | updateRevoked | updateReset | updateInvitation =>
    obtain ⟨current, hget⟩ := Option.isSome_iff_exists.mp h
    exact ⟨_, Option.map_eq_some_iff.mpr ⟨current, hget, rfl⟩⟩
  | append => exact ⟨_, rfl⟩
  | _ => exact h.elim

/-- Rows that are there stay there. -/
theorem Write.Fits.after {db db' : Db} {w w' : Write} (h : w.Fits db)
    (happly : w'.apply db = some db') : w.Fits db' := by
  cases applied_of_apply happly <;> cases w <;>
    first
    | exact h
    | exact Lib.Table.isSome_get_put _ _ h

theorem flush_fits {ws : List Write} {db : Db} (h : ∀ w ∈ ws, w.Fits db) :
    ∃ db', flush ws db = some db' := by
  induction ws generalizing db with
  | nil => exact ⟨db, rfl⟩
  | cons w ws ih =>
    obtain ⟨db₁, h₁⟩ := (h w (List.mem_cons_self ..)).applies
    obtain ⟨db', h₂⟩ := ih fun w' hw' => (h w' (List.mem_cons_of_mem _ hw')).after h₁
    exact ⟨db', Option.bind_eq_some_iff.mpr ⟨db₁, h₁, h₂⟩⟩

/-! ### One table at a time -/

/-- What a write does to the users. -/
def Write.onUsers (users : Lib.Table User.id) : Write → Option (Lib.Table User.id)
  | .insertUser user =>
    if (users.get user.id).isSome ∨ users.rows.any (·.email = user.email) then none
    else some (users.put user)
  | .updateUser model user =>
    (users.get model.id).map fun current => users.put (model.flush user current)
  | _ => some users

/-- What a write does to the refresh tokens. -/
def Write.onTokens (tokens : Lib.Table RefreshToken.id) :
    Write → Option (Lib.Table RefreshToken.id)
  | .insertToken token =>
    if (tokens.get token.id).isSome ∨ (tokens.rows.find? (·.tokenHash = token.tokenHash)).isSome
    then none else some (tokens.put token)
  | .updateToken model token =>
    (tokens.get model.id).map fun current => tokens.put (model.flush token current)
  | _ => some tokens

/-- What a write does to the denylist. -/
def Write.onRevoked (entries : Lib.Table RevokedAccessToken.jti) :
    Write → Option (Lib.Table RevokedAccessToken.jti)
  | .insertRevoked entry => if (entries.get entry.jti).isSome then none else some (entries.put entry)
  | .updateRevoked model entry =>
    (entries.get model.jti).map fun current => entries.put (model.flush entry current)
  | _ => some entries

/-- What a write does to the password-reset tokens. -/
def Write.onResets (tokens : Lib.Table (@OneTimeToken.id PasswordResetTokenId)) :
    Write → Option (Lib.Table (@OneTimeToken.id PasswordResetTokenId))
  | .insertReset token =>
    if (tokens.get token.id).isSome ∨ (tokens.rows.find? (·.tokenHash = token.tokenHash)).isSome
    then none else some (tokens.put token)
  | .updateReset model token =>
    (tokens.get model.id).map fun current => tokens.put (model.flush token current)
  | _ => some tokens

/-- Events concern no table but the outbox. -/
theorem Write.IsEvent.skips {w : Write} (h : w.IsEvent) :
    (∀ users, w.onUsers users = some users) ∧ (∀ tokens, w.onTokens tokens = some tokens) ∧
      (∀ tokens, w.onResets tokens = some tokens) ∧ ∀ entries, w.onRevoked entries = some entries := by
  cases w with
  | append => exact ⟨fun _ => rfl, fun _ => rfl, fun _ => rfl, fun _ => rfl⟩
  | _ => exact h.elim

/-- Denials concern no table but the denylist. -/
theorem Write.Denies.skips {w : Write} (h : w.Denies) :
    (∀ users, w.onUsers users = some users) ∧ (∀ tokens, w.onTokens tokens = some tokens) ∧
      ∀ tokens, w.onResets tokens = some tokens := by
  cases w with
  | insertRevoked | updateRevoked => exact ⟨fun _ => rfl, fun _ => rfl, fun _ => rfl⟩
  | _ => exact h.elim

section Views

variable {db db' : Db} {ws : List Write} {w : Write}

/-- A flush seen through one table. -/
theorem flush_view {T : Type} (view : Db → T) {act : T → Write → Option T}
    (hview : ∀ db db' w, Write.apply db w = some db' → act (view db) w = some (view db'))
    (h : flush ws db = some db') : ws.foldlM act (view db) = some (view db') := by
  induction ws generalizing db with
  | nil => cases h; rfl
  | cons w ws ih =>
    obtain ⟨db₁, h₁, h₂⟩ := Option.bind_eq_some_iff.mp h
    rw [List.foldlM_cons, hview db db₁ w h₁]
    exact ih h₂

/-- Writes of other tables. -/
theorem foldlM_skip {T : Type} {act : T → Write → Option T}
    (hws : ∀ w ∈ ws, ∀ t, act t w = some t) (t : T) : ws.foldlM act t = some t := by
  induction ws with
  | nil => rfl
  | cons w ws ih =>
    rw [List.foldlM_cons, hws w (List.mem_cons_self ..)]
    exact ih fun w' hw' => hws w' (List.mem_cons_of_mem _ hw')

theorem flush_users (h : flush ws db = some db') :
    ws.foldlM Write.onUsers db.users = some db'.users := by
  refine flush_view Db.users (fun db db' w hw => ?_) h
  cases applied_of_apply hw <;> simp_all [Write.onUsers, Db.append]

theorem flush_tokens (h : flush ws db = some db') :
    ws.foldlM Write.onTokens db.refreshTokens = some db'.refreshTokens := by
  refine flush_view Db.refreshTokens (fun db db' w hw => ?_) h
  cases applied_of_apply hw <;> simp_all [Write.onTokens, Db.append]

theorem flush_revoked (h : flush ws db = some db') :
    ws.foldlM Write.onRevoked db.revokedAccessTokens = some db'.revokedAccessTokens := by
  refine flush_view Db.revokedAccessTokens (fun db db' w hw => ?_) h
  cases applied_of_apply hw <;> simp_all [Write.onRevoked, Db.append]

theorem flush_resets (h : flush ws db = some db') :
    ws.foldlM Write.onResets db.passwordResetTokens = some db'.passwordResetTokens := by
  refine flush_view Db.passwordResetTokens (fun db db' w hw => ?_) h
  cases applied_of_apply hw <;> simp_all [Write.onResets, Db.append]

/-- They concern other tables than the users. -/
abbrev SkipUsers (ws : List Write) : Prop := ∀ w ∈ ws, ∀ users, w.onUsers users = some users

theorem foldlM_onUsers_head (hws : SkipUsers ws) (users : Lib.Table User.id) :
    (w :: ws).foldlM Write.onUsers users = w.onUsers users := by
  rw [List.foldlM_cons]
  cases hw : w.onUsers users with
  | none => rfl
  | some users' => exact foldlM_skip hws users'

theorem onUsers_insert {users users' : Lib.Table User.id} {user : User}
    (h : Write.onUsers users (.insertUser user) = some users') :
    users.get user.id = none ∧ users' = users.put user := by
  simp only [Write.onUsers] at h
  split at h
  · cases h
  · next hfree =>
    cases h
    exact ⟨Option.not_isSome_iff_eq_none.mp (not_or.mp hfree).1, rfl⟩

/-- A user is saved, and what is written besides concerns other tables. -/
theorem flush_updateUser {model user : User}
    (hws : SkipUsers ws) (h : flush (.updateUser model user :: ws) db = some db') :
    ∃ current, db.users.get model.id = some current ∧
      db'.users = db.users.put (model.flush user current) := by
  have husers := flush_users h
  rw [foldlM_onUsers_head hws] at husers
  obtain ⟨current, hcurrent, hput⟩ := Option.map_eq_some_iff.mp husers
  exact ⟨current, hcurrent, hput.symm⟩

/-- The rotations on record afterwards. -/
theorem flush_rotated (h : flush ws db = some db') (id : RefreshTokenId) :
    (∃ e ∈ db'.outbox, e.payload.rotated = some id) ↔
      (∃ e ∈ db.outbox, e.payload.rotated = some id) ∨ ∃ w ∈ ws, w.rotated = some id := by
  induction ws generalizing db with
  | nil =>
    cases h
    simp
  | cons w ws ih =>
    obtain ⟨db₁, h₁, h₂⟩ := Option.bind_eq_some_iff.mp h
    rw [ih h₂]
    cases applied_of_apply h₁ with
    | append =>
      simp [Db.append, appendEvent, or_and_right, exists_or, Write.rotated, or_assoc]
    | _ => simp [Write.rotated]

/-- Rows stay. -/
structure Db.Grows (db db' : Db) : Prop where
  users : ∀ id, (db.users.get id).isSome → (db'.users.get id).isSome
  refreshTokens : ∀ id, (db.refreshTokens.get id).isSome → (db'.refreshTokens.get id).isSome
  passwordResetTokens : ∀ id, (db.passwordResetTokens.get id).isSome →
    (db'.passwordResetTokens.get id).isSome
  invitationTokens : ∀ id, (db.invitationTokens.get id).isSome →
    (db'.invitationTokens.get id).isSome

theorem Db.Grows.refl (db : Db) : db.Grows db :=
  ⟨fun _ h => h, fun _ h => h, fun _ h => h, fun _ h => h⟩

theorem Db.Grows.trans {db₁ : Db} (h : db.Grows db₁) (h' : db₁.Grows db') : db.Grows db' :=
  ⟨fun id hid => h'.users id (h.users id hid),
    fun id hid => h'.refreshTokens id (h.refreshTokens id hid),
    fun id hid => h'.passwordResetTokens id (h.passwordResetTokens id hid),
    fun id hid => h'.invitationTokens id (h.invitationTokens id hid)⟩

theorem apply_grows (h : w.apply db = some db') : db.Grows db' := by
  cases applied_of_apply h <;>
    exact ⟨fun _ hid => by first | exact hid | exact Lib.Table.isSome_get_put _ _ hid,
      fun _ hid => by first | exact hid | exact Lib.Table.isSome_get_put _ _ hid,
      fun _ hid => by first | exact hid | exact Lib.Table.isSome_get_put _ _ hid,
      fun _ hid => by first | exact hid | exact Lib.Table.isSome_get_put _ _ hid⟩

theorem flush_grows (h : flush ws db = some db') : db.Grows db' := by
  induction ws generalizing db with
  | nil =>
    cases h
    exact .refl _
  | cons w ws ih =>
    obtain ⟨db₁, h₁, h₂⟩ := Option.bind_eq_some_iff.mp h
    exact (apply_grows h₁).trans (ih h₂)

end Views

/-! ### Refresh tokens over time -/

/-- From the refresh tokens at one time to those at a later one: a token keeps its hash and its owner,
    and stays revoked. -/
def TokensLater (tokens tokens' : Lib.Table RefreshToken.id) : Prop :=
  Lib.Table.Kept (fun t t' => t'.tokenHash = t.tokenHash ∧ t'.userId = t.userId ∧
    (t.revokedAt ≠ none → t'.revokedAt ≠ none)) tokens tokens'

/-- It is there, and revoked. -/
def RevokedIn (tokens : Lib.Table RefreshToken.id) (id : RefreshTokenId) : Prop :=
  ∃ t, tokens.get id = some t ∧ t.revokedAt ≠ none

/-- The refresh tokens it inserts are unreplaced, and those it updates are revoked: they are by now, if
    the update leaves that column alone. -/
def Write.Lawful (tokens : Lib.Table RefreshToken.id) : Write → Prop
  | .insertToken token => token.replacedById = none
  | .updateToken model token =>
    token.tokenHash = model.tokenHash ∧ token.userId = model.userId ∧ token.revokedAt ≠ none ∧
      (token.revokedAt = model.revokedAt → RevokedIn tokens model.id)
  | _ => True

section TokensLater

variable {tokens tokens' tokens'' : Lib.Table RefreshToken.id} {w : Write} {ws : List Write}

theorem TokensLater.refl (tokens : Lib.Table RefreshToken.id) : TokensLater tokens tokens :=
  Lib.Table.Kept.refl (fun _ => ⟨rfl, rfl, id⟩) tokens

theorem TokensLater.trans (h : TokensLater tokens tokens') (h' : TokensLater tokens' tokens'') :
    TokensLater tokens tokens'' := by
  refine Lib.Table.Kept.trans ?_ h h'
  rintro a b c ⟨hhash, huser, hrevoked⟩ ⟨hhash', huser', hrevoked'⟩
  exact ⟨hhash'.trans hhash, huser'.trans huser, fun hr => hrevoked' (hrevoked hr)⟩

theorem Write.Lawful.later (hw : w.Lawful tokens) (hlater : TokensLater tokens tokens') :
    w.Lawful tokens' := by
  cases w with
  | updateToken model token =>
    obtain ⟨hhash, huser, hrevoked, hby⟩ := hw
    refine ⟨hhash, huser, hrevoked, fun heq => ?_⟩
    obtain ⟨t, ht, hthere⟩ := hby heq
    obtain ⟨t', ht', -, -, hstays⟩ := hlater _ t ht
    exact ⟨t', ht', hstays hthere⟩
  | insertToken => exact hw
  | _ => trivial

/-- The row that a lawful update leaves. -/
theorem RefreshToken.flush_lawful {model token current : RefreshToken}
    (h : (Write.updateToken model token).Lawful tokens) (hget : tokens.get model.id = some current) :
    (model.flush token current).tokenHash = current.tokenHash ∧
      (model.flush token current).userId = current.userId ∧
      (model.flush token current).revokedAt ≠ none := by
  obtain ⟨hhash, huser, hrevoked, hby⟩ := h
  refine ⟨by simp [RefreshToken.flush, hhash], by simp [RefreshToken.flush, huser], ?_⟩
  simp only [RefreshToken.flush, Lib.flushed]
  split
  · next heq =>
    obtain ⟨t, ht, hthere⟩ := hby heq
    rw [hget] at ht
    cases ht
    exact hthere
  · exact hrevoked

theorem onTokens_later (hw : w.Lawful tokens) (h : w.onTokens tokens = some tokens') :
    TokensLater tokens tokens' := by
  cases w with
  | insertToken token =>
    simp only [Write.onTokens] at h
    split at h
    · cases h
    · next hfree =>
      cases h
      refine Lib.Table.kept_put (fun _ => ⟨rfl, rfl, id⟩) fun old hold => ?_
      exact absurd (Or.inl (by rw [hold]; rfl)) hfree
  | updateToken model token =>
    obtain ⟨current, hcurrent, rfl⟩ := Option.map_eq_some_iff.mp h
    obtain ⟨hhash, huser, hrevoked⟩ := RefreshToken.flush_lawful hw hcurrent
    refine Lib.Table.kept_put (fun _ => ⟨rfl, rfl, id⟩) fun old hold => ?_
    change tokens.get current.id = some old at hold
    rw [Lib.Table.get_of_mem (Lib.Table.mem_of_get hcurrent)] at hold
    cases hold
    exact ⟨hhash, huser, fun _ => hrevoked⟩
  | _ =>
    cases h
    exact TokensLater.refl _

theorem foldlM_onTokens_later (hws : ∀ w ∈ ws, w.Lawful tokens)
    (h : ws.foldlM Write.onTokens tokens = some tokens') : TokensLater tokens tokens' := by
  induction ws generalizing tokens with
  | nil =>
    cases h
    exact TokensLater.refl _
  | cons w ws ih =>
    obtain ⟨tokens₁, h₁, h₂⟩ := Option.bind_eq_some_iff.mp h
    have hfirst := onTokens_later (hws w (List.mem_cons_self ..)) h₁
    exact hfirst.trans (ih (fun w' hw' => (hws w' (List.mem_cons_of_mem _ hw')).later hfirst) h₂)

/-- What was revoked stays so. -/
theorem RevokedIn.later {id : RefreshTokenId} (h : RevokedIn tokens id)
    (hlater : TokensLater tokens tokens') : RevokedIn tokens' id := by
  obtain ⟨t, ht, hrevoked⟩ := h
  obtain ⟨t', ht', -, -, hstays⟩ := hlater id t ht
  exact ⟨t', ht', hstays hrevoked⟩

/-- The tokens that are updated end up revoked. -/
theorem foldlM_onTokens_revokes (hws : ∀ w ∈ ws, w.Lawful tokens)
    (h : ws.foldlM Write.onTokens tokens = some tokens') {model token : RefreshToken}
    (hw : .updateToken model token ∈ ws) : RevokedIn tokens' model.id := by
  induction ws generalizing tokens with
  | nil => cases hw
  | cons w ws ih =>
    obtain ⟨tokens₁, h₁, h₂⟩ := Option.bind_eq_some_iff.mp h
    have hfirst := hws w (List.mem_cons_self ..)
    have hrest : ∀ w' ∈ ws, w'.Lawful tokens₁ := fun w' hw' =>
      (hws w' (List.mem_cons_of_mem _ hw')).later (onTokens_later hfirst h₁)
    rcases List.mem_cons.mp hw with rfl | hw
    · obtain ⟨current, hcurrent, rfl⟩ := Option.map_eq_some_iff.mp h₁
      obtain ⟨-, -, hrevoked⟩ := RefreshToken.flush_lawful hfirst hcurrent
      have hkey : current.id = model.id := Lib.Table.key_of_get hcurrent
      have hthere : RevokedIn (tokens.put (model.flush token current)) model.id := by
        rw [← hkey]
        exact ⟨_, Lib.Table.get_put_self .., hrevoked⟩
      exact hthere.later (foldlM_onTokens_later hrest h₂)
    · exact ih hrest h₂ hw

/-- Tokens come to be by inserts only. -/
theorem foldlM_onTokens_keys (hws : ∀ w ∈ ws, ∀ t, w ≠ .insertToken t)
    (h : ws.foldlM Write.onTokens tokens = some tokens') {id : RefreshTokenId} {t' : RefreshToken}
    (ht' : tokens'.get id = some t') : ∃ t, tokens.get id = some t := by
  induction ws generalizing tokens with
  | nil =>
    cases h
    exact ⟨t', ht'⟩
  | cons w ws ih =>
    obtain ⟨tokens₁, h₁, h₂⟩ := Option.bind_eq_some_iff.mp h
    obtain ⟨t₁, ht₁⟩ := ih (fun w' hw' => hws w' (List.mem_cons_of_mem _ hw')) h₂
    cases w with
    | insertToken token => exact absurd rfl (hws _ (List.mem_cons_self ..) token)
    | updateToken model token =>
      obtain ⟨current, hcurrent, rfl⟩ := Option.map_eq_some_iff.mp h₁
      rw [Lib.Table.get_put] at ht₁
      split at ht₁
      · next hid =>
        have hkey : current.id = model.id := Lib.Table.key_of_get hcurrent
        have hid' : id = model.id := hid.trans hkey
        exact ⟨current, by rw [hid']; exact hcurrent⟩
      · exact ⟨t₁, ht₁⟩
    | _ =>
      cases h₁
      exact ⟨t₁, ht₁⟩

theorem mem_revokeModels {models : List RefreshToken} {now : Timestamp}
    (h : w ∈ revokeModels models now) :
    ∃ model ∈ models, w = .updateToken model { model with revokedAt := some now } := by
  obtain ⟨model, hmodel, rfl⟩ := List.mem_map.mp h
  exact ⟨model, hmodel, rfl⟩

theorem revokeModels_lawful {models : List RefreshToken} (h : ∀ m ∈ models, m.revokedAt = none)
    (now : Timestamp) : ∀ w ∈ revokeModels models now, w.Lawful tokens := by
  intro w hw
  obtain ⟨model, hmodel, rfl⟩ := mem_revokeModels hw
  exact ⟨rfl, rfl, by simp, fun heq => by simp [h model hmodel] at heq⟩

/-- What was selected ends up revoked. -/
theorem revokeModels_revokes {models : List RefreshToken} {now : Timestamp}
    (hmodels : ∀ m ∈ models, m.revokedAt = none)
    (h : (revokeModels models now).foldlM Write.onTokens tokens = some tokens') :
    ∀ m ∈ models, ∀ t', tokens'.get m.id = some t' → t'.revokedAt ≠ none := by
  intro m hm t' ht'
  obtain ⟨t, ht, hrevoked⟩ := foldlM_onTokens_revokes (revokeModels_lawful hmodels now) h
    (List.mem_map.mpr ⟨m, hm, rfl⟩)
  rw [ht'] at ht
  cases ht
  exact hrevoked

end TokensLater

/-! ### Sound tokens -/

section Sound

variable {db db' : Db} {w : Write} {ws : List Write}

/-- Lawful writes leave sound tokens. -/
theorem apply_sound (hdb : db.Sound) (hw : w.Lawful db.refreshTokens) (h : w.apply db = some db') :
    db'.Sound := by
  cases applied_of_apply h with
  | @insertToken token hid hhash =>
    refine hdb.put (fun t ht heq => ?_) fun hne => absurd hw hne
    rw [List.find?_eq_none] at hhash
    exact absurd heq (by simpa using hhash t ht)
  | @updateToken model token current hget =>
    obtain ⟨hhash, -, hrevoked⟩ := RefreshToken.flush_lawful hw hget
    refine hdb.put (fun t ht heq => ?_) fun _ => hrevoked
    rw [hdb.unique t ht current (Lib.Table.mem_of_get hget) (heq.trans hhash)]
    rfl
  | _ => exact ⟨hdb.unique, hdb.revoked⟩

theorem flush_sound (hdb : db.Sound) (hws : ∀ w ∈ ws, w.Lawful db.refreshTokens)
    (h : flush ws db = some db') : db'.Sound := by
  induction ws generalizing db with
  | nil =>
    cases h
    exact hdb
  | cons w ws ih =>
    obtain ⟨db₁, h₁, h₂⟩ := Option.bind_eq_some_iff.mp h
    have hfirst := hws w (List.mem_cons_self ..)
    -- the rest of the writes stay lawful
    have hflush : flush [w] db = some db₁ := by simpa [flush] using h₁
    have hlater : TokensLater db.refreshTokens db₁.refreshTokens :=
      foldlM_onTokens_later (by simpa using hfirst) (flush_tokens hflush)
    exact ih (apply_sound hdb hfirst h₁)
      (fun w' hw' => (hws w' (List.mem_cons_of_mem _ hw')).later hlater) h₂

end Sound

end GeoRisk.Identity
