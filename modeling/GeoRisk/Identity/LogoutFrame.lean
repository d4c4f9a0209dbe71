import Mathlib
import GeoRisk.Identity.ReuseDetection

/-! Does a logout end its own session only? The session of a login is the chain of tokens from the
    login's on. A logout writes to the last of them, but what it leaves looks like a redeemed token:
    whoever presents a token of the session to `RefreshAccessToken` afterwards is taken for a thief,
    and the user's other sessions are ended too.

        logout: revoked_at set ──┐
                                 ├──▶ refresh sees `revoked_at` ──▶ all of the user's tokens revoked
        rotate: revoked_at set ──┘ -/

namespace GeoRisk.Identity

variable {ports : Ports}

/-! ### The tokens of one session -/

/-- A token that was replaced points at a token of the same user. -/
def Linked (tokens : Lib.Table RefreshToken.id) : Prop :=
  ∀ t ∈ tokens.rows, ∀ id, t.replacedById = some id →
    ∃ t', tokens.get id = some t' ∧ t'.userId = t.userId

/-- It replaces no token. -/
def Write.Unlinking : Write → Prop
  | .updateToken model token =>
    token.replacedById = none ∨ token.replacedById = model.replacedById
  | _ => True

section Linked

variable {tokens tokens' : Lib.Table RefreshToken.id} {w : Write} {ws : List Write}

theorem Write.IsEvent.unlinking (h : w.IsEvent) : w.Unlinking := by
  cases w <;> trivial

theorem Write.Denies.unlinking (h : w.Denies) : w.Unlinking := by
  cases w <;> trivial

/-- Putting a row of the same user keeps the links to it. -/
theorem Linked.put {row : RefreshToken} (h : Linked tokens)
    (hrow : ∀ old, tokens.get row.id = some old → row.userId = old.userId)
    (hlink : ∀ id, row.replacedById = some id →
      ∃ t', (tokens.put row).get id = some t' ∧ t'.userId = row.userId) :
    Linked (tokens.put row) := by
  intro t ht id hid
  rcases Lib.Table.mem_put_rows.mp ht with rfl | ⟨hold, _⟩
  · exact hlink id hid
  · obtain ⟨t', ht', huser⟩ := h t hold id hid
    rw [Lib.Table.get_put]
    split
    · next heq => exact ⟨row, rfl, (hrow t' (by rw [← heq]; exact ht')).trans huser⟩
    · exact ⟨t', ht', huser⟩

theorem onTokens_linked (hw : w.Lawful tokens) (hu : w.Unlinking) (h : Linked tokens)
    (happly : w.onTokens tokens = some tokens') : Linked tokens' := by
  cases w with
  | insertToken token =>
    simp only [Write.onTokens] at happly
    split at happly
    · cases happly
    · next hfree =>
      cases happly
      refine h.put (fun old hold => ?_) fun id hid => ?_
      · exact absurd (Or.inl (by rw [hold]; rfl)) hfree
      · rw [show token.replacedById = none from hw] at hid
        cases hid
  | updateToken model token =>
    obtain ⟨current, hcurrent, rfl⟩ := Option.map_eq_some_iff.mp happly
    obtain ⟨-, huser, -⟩ := RefreshToken.flush_lawful hw hcurrent
    have hmem := Lib.Table.mem_of_get hcurrent
    have hget : tokens.get current.id = some current := Lib.Table.get_of_mem hmem
    refine h.put (fun old hold => ?_) fun id hid => ?_
    · rw [show (model.flush token current).id = current.id from rfl, hget] at hold
      cases hold
      exact huser
    · -- the row points where it did, or nowhere
      have hsame : current.replacedById = some id := by
        simp only [RefreshToken.flush, Lib.flushed] at hid
        split at hid
        · exact hid
        · next hne =>
          rcases hu with hnone | heq
          · rw [hnone] at hid
            cases hid
          · exact absurd heq hne
      obtain ⟨t', ht', hsame'⟩ := h current hmem id hsame
      rw [Lib.Table.get_put]
      split
      · exact ⟨_, rfl, rfl⟩
      · exact ⟨t', ht', hsame'.trans huser.symm⟩
  | _ =>
    cases happly
    exact h

theorem foldlM_onTokens_linked (hws : ∀ w ∈ ws, w.Lawful tokens ∧ w.Unlinking) (h : Linked tokens)
    (hfold : ws.foldlM Write.onTokens tokens = some tokens') : Linked tokens' := by
  induction ws generalizing tokens with
  | nil =>
    cases hfold
    exact h
  | cons w ws ih =>
    obtain ⟨tokens₁, h₁, h₂⟩ := Option.bind_eq_some_iff.mp hfold
    obtain ⟨hlawful, hunlinking⟩ := hws w (List.mem_cons_self ..)
    have hlater := onTokens_later hlawful h₁
    refine ih (fun w' hw' => ?_) (onTokens_linked hlawful hunlinking h h₁) h₂
    obtain ⟨hlawful', hunlinking'⟩ := hws w' (List.mem_cons_of_mem _ hw')
    exact ⟨hlawful'.later hlater, hunlinking'⟩

end Linked

section Work

variable {command : Command} {reads : List (Timestamp × Db)} {ws : List Write}
  {result : Except IdentityError Reply} {db : Db}

theorem revokeModels_unlinking {models : List RefreshToken} {now : Timestamp} :
    ∀ w ∈ revokeModels models now, w.Unlinking := by
  intro w hw
  obtain ⟨model, -, rfl⟩ := mem_revokeModels hw
  exact Or.inr rfl

/-- Only a rotation links one token to another. -/
theorem Work.unlinking (h : Work ports command reads ws result)
    (hrotate : ∀ s, result ≠ .ok (.refreshed s)) : ∀ w ∈ ws, w.Unlinking := by
  cases h with
  | rotate => exact absurd rfl (hrotate _)
  | login _ _ _ _ hevents =>
    simpa [Write.Unlinking] using fun w hw => (hevents w hw).unlinking
  | reuse _ _ hevent =>
    intro w hw
    rcases List.mem_append.mp hw with hw | hw
    · exact revokeModels_unlinking w hw
    · rw [List.mem_singleton.mp hw]
      exact hevent.unlinking
  | logout _ _ _ hevent hentry =>
    intro w hw
    rcases List.mem_cons.mp hw with rfl | hw
    · exact Or.inl rfl
    · rcases List.mem_cons.mp hw with rfl | hw
      · exact hevent.unlinking
      · exact (hentry w hw).unlinking
  | revoking hrevoking hevents =>
    intro w hw
    rcases List.mem_append.mp hw with hw | hw
    · rcases List.mem_append.mp hw with hw | hw
      · rcases hrevoking.extra with rfl | ⟨used, token, now, rfl⟩
        · rw [List.mem_singleton.mp hw]
          trivial
        · rcases List.mem_pair.mp hw with rfl | rfl <;> trivial
      · exact revokeModels_unlinking w hw
    · exact (hevents w hw).unlinking
  | logoutAccess _ hentry => exact fun w hw => (hentry w hw).unlinking
  | loginFailed hevent | inviteUser hevent | acceptInvitation _ _ _ _ _ hevent
  | changeUserRole _ _ _ _ _ _ hevent | reactivateUser _ _ _ _ hevent
  | requestPasswordReset _ hevent | createTenant hevent | createOwner hevent =>
    simpa [Write.Unlinking] using hevent.unlinking

/-- A rotation links the token it redeems to the one it issues. -/
theorem rotate_linked {token : RefreshToken} (new : RefreshToken) {now : Timestamp} {event : Write}
    {tokens tokens' : Lib.Table RefreshToken.id} (h : Linked tokens) (htoken : token ∈ tokens.rows)
    (hnew : new.replacedById = none) (huser : new.userId = token.userId)
    (hevent : ∀ tokens, event.onTokens tokens = some tokens)
    (hfold : [.insertToken new, .updateToken token (token.revoke (some new.id) now),
        event].foldlM Write.onTokens tokens = some tokens') : Linked tokens' := by
  obtain ⟨tokens₁, h₁, hfold⟩ := Option.bind_eq_some_iff.mp hfold
  obtain ⟨tokens₂, h₂, hfold⟩ := Option.bind_eq_some_iff.mp hfold
  rw [foldlM_skip (by simpa using hevent)] at hfold
  cases hfold
  have hlinked₁ := onTokens_linked (w := .insertToken new) hnew trivial h h₁
  have hget : tokens.get token.id = some token := Lib.Table.get_of_mem htoken
  simp only [Write.onTokens] at h₁
  split at h₁
  · cases h₁
  next hfree =>
  cases h₁
  -- the new token is not the one that is redeemed
  have hne : token.id ≠ new.id := fun heq => hfree (Or.inl (by rw [← heq, hget]; rfl))
  obtain ⟨current, hcurrent, rfl⟩ := Option.map_eq_some_iff.mp h₂
  rw [Lib.Table.get_put_of_ne _ hne, hget] at hcurrent
  cases hcurrent
  obtain ⟨row, hrow⟩ : ∃ row, row = token.flush (token.revoke (some new.id) now) token := ⟨_, rfl⟩
  have hid : row.id = token.id := by rw [hrow]; rfl
  have hsame : row.userId = token.userId := by simp [hrow, RefreshToken.flush, RefreshToken.revoke]
  have hby : row.replacedById = some new.id := by
    simp [hrow, RefreshToken.flush, RefreshToken.revoke]
  rw [← hrow]
  refine hlinked₁.put (fun old hold => ?_) fun id hlink => ?_
  · rw [hid, Lib.Table.get_put_of_ne _ hne, hget] at hold
    cases hold
    exact hsame
  · obtain rfl : id = new.id := by simpa [hby] using hlink.symm
    refine ⟨new, ?_, huser.trans hsame.symm⟩
    rw [Lib.Table.get_put_of_ne _ (by rw [hid]; exact hne.symm)]
    exact Lib.Table.get_put_self ..

theorem exec_linked (ports : Ports) (command : Command) (now : Timestamp)
    (h : Linked db.refreshTokens) : Linked (command.exec ports now db).1.refreshTokens := by
  have hexec := exec_cases ports command now db
  generalize command.exec ports now db = out at hexec
  cases hexec with
  | refused | rolledBack => exact h
  | @committed reads write result db' hreads hcommit hwrite =>
    obtain ⟨ws, rfl, hwork⟩ := hcommit
    by_cases hrotate : ∃ s, result = .ok (.refreshed s)
    · cases hwork with
      | @rotate raw draw now₁ db₁ now₂ db₂ now₃ db₃ token user model htoken _ _ _ hsave =>
        obtain ⟨rfl⟩ : db₁ = db := congrArg Prod.snd (hreads (now₁, db₁) (by simp))
        obtain ⟨rfl⟩ : db₃ = db := congrArg Prod.snd (hreads (now₃, db₃) (by simp))
        obtain ⟨hmem, -⟩ := getByTokenHash_some htoken
        rw [Lib.Table.get_of_mem hmem] at hsave
        cases hsave
        exact rotate_linked (RefreshToken.issue draw.id token.userId token.tenantId
          (ports.hashToken draw.raw) now₂) h hmem rfl rfl (fun _ => rfl) (flush_tokens hwrite)
      | revoking _ _ hreply =>
        obtain ⟨s, hs⟩ := hrotate
        rcases hreply with rfl | rfl <;> cases hs
      | _ =>
        obtain ⟨s, hs⟩ := hrotate
        cases hs
    · have hunlinking := hwork.unlinking fun s hs => hrotate ⟨s, hs⟩
      have hlawful := hwork.lawful (.alone fun r hr => by rw [hreads r hr])
      exact foldlM_onTokens_linked (fun w hw => ⟨hlawful w hw, hunlinking w hw⟩) h
        (flush_tokens hwrite)

theorem history_linked (ports : Ports) (commands : List (Command × Timestamp)) (h : History)
    (hdb : Linked h.db.refreshTokens) :
    Linked (commands.foldl (History.step ports) h).db.refreshTokens :=
  Lib.inv_foldl (fun _ a hlinked => exec_linked ports a.1 a.2 hlinked) commands hdb

/-- The tokens of a session are of one user. -/
theorem chain_user {r t : RefreshToken} (h : Linked db.refreshTokens)
    (hr : r ∈ db.refreshTokens.rows) (hchain : db.Chain r t) :
    t ∈ db.refreshTokens.rows ∧ t.userId = r.userId := by
  induction hchain with
  | refl => exact ⟨hr, rfl⟩
  | tail _ hstep ih =>
    obtain ⟨id, hid, hget⟩ := hstep
    obtain ⟨hmem, huser⟩ := ih
    obtain ⟨t', ht', huser'⟩ := h _ hmem id hid
    rw [hget] at ht'
    cases ht'
    exact ⟨Lib.Table.mem_of_get hget, huser'.trans huser⟩

end Work

/-! ### Presentations of tokens -/

/-- A token is presented: a refresh token to `RefreshAccessToken` or to a logout, an access token to an
    authenticated route. What the route does for its bearer then is a command of its own. -/
inductive Presentation where
  | refreshAccessToken (refreshToken : String) (draw : Draw)
  | logout (refreshToken : String) (accessTokenClaims : Option AccessTokenClaims)
      (accessTokenExpiresAt : Option Timestamp)
  | authenticatedRoute (accessToken : String)

/-- The tables after it; `get_current_claims` only reads. -/
def Presentation.exec (ports : Ports) (db : Db) : Presentation × Timestamp → Db
  | (.refreshAccessToken refreshToken draw, now) =>
    ((Command.refreshAccessToken refreshToken draw).exec ports now db).1
  | (.logout refreshToken claims expiresAt, now) =>
    ((Command.logout refreshToken claims expiresAt).exec ports now db).1
  | (.authenticatedRoute _, _) => db

/-- The refresh token it presents, if any, is one of the session that starts at `r`. -/
def Presentation.OfSession (ports : Ports) (db : Db) (r : RefreshToken) : Presentation → Prop
  | .refreshAccessToken refreshToken _ | .logout refreshToken _ _ =>
    ∃ t, db.Chain r t ∧ t.tokenHash = ports.hashToken refreshToken
  | .authenticatedRoute _ => True

def Presentation.IsRefresh : Presentation → Prop
  | .refreshAccessToken .. => True
  | _ => False

section Presentations

variable {db : Db} {now : Timestamp} {raw : String}

theorem finishLogout_exec {ws : List Write} {db₁ : Db} (h : flush ws db = some db₁) :
    ((finishLogout ws).exec now db).1 = db₁ := by
  cases ws with
  | nil => exact Option.some.inj h
  | cons w ws =>
    rw [finishLogout, Lib.Txn.exec, h]
    · rfl
    · simp

/-- Whatever it adds to the denylist, a logout leaves the refresh tokens as its first half does. -/
theorem logoutAccessToken_exec {claims : Option AccessTokenClaims} {expiresAt : Option Timestamp}
    {ws : List Write} {db₁ : Db} (h : flush ws db = some db₁)
    (hdenied : db₁.revokedAccessTokens = db.revokedAccessTokens) :
    ((logoutAccessToken claims expiresAt ws).exec now db).1.refreshTokens = db₁.refreshTokens := by
  have hfinish : ((finishLogout ws).exec now db).1.refreshTokens = db₁.refreshTokens := by
    rw [finishLogout_exec h]
  unfold logoutAccessToken
  split
  · next claims expiresAt =>
    split
    · exact hfinish
    · rw [Lib.Txn.exec]
      split
      · exact hfinish
      · next hfree =>
        have hnone : db.revokedAccessTokens.get claims.jti = none := by
          simpa [Db.isRevoked] using hfree
        let entry :=
          RevokedAccessToken.issue claims.jti claims.userId claims.tenantId expiresAt now
        have hinsert : (Write.insertRevoked entry).apply db₁ =
            some { db₁ with revokedAccessTokens := db₁.revokedAccessTokens.put entry } := by
          rw [Write.apply, Db.insertRevoked, if_neg]
          rw [hdenied, show entry.jti = claims.jti from rfl, hnone]
          exact Bool.false_ne_true
        have hflush : flush (ws ++ [.insertRevoked entry]) db =
            some { db₁ with revokedAccessTokens := db₁.revokedAccessTokens.put entry } := by
          rw [flush, List.foldlM_append, show ws.foldlM Write.apply db = some db₁ from h]
          change ((Write.insertRevoked entry).apply db₁).bind some = _
          rw [hinsert]
          rfl
        rw [saveRevoked, saveRow, Lib.Txn.exec,
          show (RevokedAccessToken.issue claims.jti claims.userId claims.tenantId expiresAt
            now).jti = claims.jti from rfl, hnone, Option.elim_none, finishLogout_exec hflush]
  · exact hfinish

/-- A logout with an unrevoked token revokes it. -/
theorem logout_exec {token : RefreshToken} (claims : Option AccessTokenClaims)
    (expiresAt : Option Timestamp) (htoken : db.getByTokenHash (ports.hashToken raw) = some token)
    (hlive : token.revokedAt = none) :
    ((Command.logout raw claims expiresAt).exec ports now db).1.refreshTokens =
      db.refreshTokens.put (token.revoke none now) := by
  have hget : db.refreshTokens.get token.id = some token :=
    Lib.Table.get_of_mem (getByTokenHash_some htoken).1
  have hflush : token.flush (token.revoke none now) token = token.revoke none now := by
    simp [RefreshToken.flush, RefreshToken.revoke]
  have hupdate : db.updateToken token (token.revoke none now) =
      some { db with refreshTokens := db.refreshTokens.put (token.revoke none now) } := by
    rw [Db.updateToken, hget, Option.map_some, hflush]
  let event := tokenEvent token.id token.tenantId
    (.refreshTokenRevoked ⟨token.userId, token.tenantId, token.id, "logout"⟩) now
  obtain ⟨db₁, hwrites, htokens, hdenied⟩ : ∃ db₁,
      flush [.updateToken token (token.revoke none now), event] db = some db₁ ∧
        db₁.refreshTokens = db.refreshTokens.put (token.revoke none now) ∧
        db₁.revokedAccessTokens = db.revokedAccessTokens :=
    ⟨_, Option.bind_eq_some_iff.mpr ⟨_, hupdate, rfl⟩, rfl, rfl⟩
  rw [Command.exec, Command.txn, logout, Lib.Txn.exec, htoken]
  dsimp only
  rw [if_neg (by simp [hlive]), saveToken, saveRow_exec hget]
  exact (logoutAccessToken_exec hwrites hdenied).trans htokens

/-- A logout with a revoked token leaves the refresh tokens as they are. -/
theorem logout_revoked_exec {token : RefreshToken} (claims : Option AccessTokenClaims)
    (expiresAt : Option Timestamp) (htoken : db.getByTokenHash (ports.hashToken raw) = some token)
    (hrevoked : token.revokedAt ≠ none) :
    ((Command.logout raw claims expiresAt).exec ports now db).1.refreshTokens = db.refreshTokens := by
  rw [Command.exec, Command.txn, logout, Lib.Txn.exec, htoken]
  dsimp only
  rw [if_pos (Option.isSome_iff_ne_none.mpr hrevoked)]
  exact logoutAccessToken_exec rfl rfl

/-- A revoked token that is presented again is detected. -/
theorem revoked_reuse {token : RefreshToken} (draw : Draw)
    (htoken : db.getByTokenHash (ports.hashToken raw) = some token)
    (hrevoked : token.revokedAt ≠ none) :
    ReuseDetected ((Command.refreshAccessToken raw draw).exec ports now db).2 := by
  have hexec : (Command.refreshAccessToken raw draw).exec ports now db =
      (reuseDetected token).exec now db := by
    rw [Command.exec, Command.txn, refreshAccessToken, Lib.Txn.exec, htoken]
    dsimp only
    rw [if_pos (Option.isSome_iff_ne_none.mpr hrevoked)]
  have hfits : ∀ w ∈ revokeModels (db.activeTokensOf token.userId) now ++
      [tokenEvent token.id token.tenantId
        (.refreshTokenReuseDetected ⟨token.userId, token.tenantId, token.id⟩) now], w.Fits db := by
    intro w hw
    rcases List.mem_append.mp hw with hw | hw
    · obtain ⟨model, hmodel, rfl⟩ := mem_revokeModels hw
      exact Option.isSome_iff_exists.mpr
        ⟨model, Lib.Table.get_of_mem (List.mem_of_mem_filter hmodel)⟩
    · rw [List.mem_singleton.mp hw]
      trivial
  obtain ⟨db', hdb'⟩ := flush_fits hfits
  rw [hexec, reuseDetected, Lib.Txn.exec, Lib.Txn.exec, hdb']
  exact ⟨_, rfl, rfl⟩

/-- In `db'` every token of the session that started at `r` in `db` is revoked. -/
def SessionOver (db : Db) (r : RefreshToken) (db' : Db) : Prop :=
  ∀ t, db.Chain r t → ∃ t' ∈ db'.refreshTokens.rows, t'.tokenHash = t.tokenHash ∧
    t'.userId = r.userId ∧ t'.revokedAt ≠ none

variable {db' : Db} {r token : RefreshToken}

theorem SessionOver.later (h : SessionOver db r db') {db'' : Db} (hlater : Later db' db'') :
    SessionOver db r db'' := by
  intro t ht
  obtain ⟨t', ht', hhash', huser', hrevoked'⟩ := h t ht
  obtain ⟨t'', ht'', hhash'', huser'', hstays⟩ := hlater.tokens.row ht'
  exact ⟨t'', ht'', hhash''.trans hhash', huser''.trans huser', hstays hrevoked'⟩

/-- The session is over once its unrevoked token is revoked. -/
theorem sessionOver_put (hsound : db.Sound) (hlinked : Linked db.refreshTokens)
    (hr : r ∈ db.refreshTokens.rows) (hsession : db.Chain r token) (hlive : token.revokedAt = none)
    (htokens : db'.refreshTokens = db.refreshTokens.put (token.revoke none now)) :
    SessionOver db r db' := by
  intro t ht
  obtain ⟨hmem, huser⟩ := chain_user hlinked hr ht
  rw [htokens]
  by_cases hid : t.id = token.id
  · refine ⟨token.revoke none now, Lib.Table.mem_put_rows.mpr (Or.inl rfl), ?_, ?_, by
      simp [RefreshToken.revoke]⟩
    · rw [List.inj_on_of_nodup_map db.refreshTokens.nodup hmem (chain_user hlinked hr hsession).1 hid]
      rfl
    · exact (chain_user hlinked hr hsession).2
  · refine ⟨t, Lib.Table.mem_put_rows.mpr (Or.inr ⟨hmem, hid⟩), rfl, huser, fun hnone => hid ?_⟩
    rw [hsound.chain_unique hr ht hsession hnone hlive]

/-- What a token of a session that is over does: to `RefreshAccessToken` it is a reuse, elsewhere it
    leaves the refresh tokens alone. -/
theorem SessionOver.presented (h : SessionOver db r db') (hsound : db'.Sound) {p : Presentation}
    (hp : p.OfSession ports db r) :
    (p.IsRefresh → ∀ t ∈ (Presentation.exec ports db' (p, now)).refreshTokens.rows,
      t.userId = r.userId → t.revokedAt ≠ none) ∧
    (¬ p.IsRefresh →
      (Presentation.exec ports db' (p, now)).refreshTokens = db'.refreshTokens) := by
  have hfound : ∀ {raw : String}, (∃ t, db.Chain r t ∧ t.tokenHash = ports.hashToken raw) →
      ∃ t, db'.getByTokenHash (ports.hashToken raw) = some t ∧ t.userId = r.userId ∧
        t.revokedAt ≠ none := by
    rintro raw ⟨t, ht, hhash⟩
    obtain ⟨t', ht', hhash', huser, hrevoked⟩ := h t ht
    exact ⟨t', hsound.getByTokenHash ht' (hhash'.trans hhash), huser, hrevoked⟩
  cases p with
  | refreshAccessToken raw draw =>
    obtain ⟨t, ht, huser, hrevoked⟩ := hfound hp
    refine ⟨fun _ => ?_, fun hno => absurd trivial hno⟩
    rw [← huser]
    exact (reuse_spec ht (revoked_reuse draw ht hrevoked)).1
  | logout raw claims expiresAt =>
    obtain ⟨t, ht, -, hrevoked⟩ := hfound hp
    exact ⟨fun hrefresh => hrefresh.elim, fun _ => logout_revoked_exec claims expiresAt ht hrevoked⟩
  | authenticatedRoute => exact ⟨fun hrefresh => hrefresh.elim, fun _ => rfl⟩

theorem presentation_later (ports : Ports) (db : Db) (p : Presentation × Timestamp) :
    Later db (Presentation.exec ports db p) ∧ (db.Sound → (Presentation.exec ports db p).Sound) := by
  obtain ⟨p, now⟩ := p
  cases p with
  | refreshAccessToken | logout => exact ⟨exec_later ports _ now db, exec_sound ports _ now⟩
  | authenticatedRoute => exact ⟨.refl db, id⟩

/-- A run of presentations. -/
theorem presentations_later (ports : Ports) (ps : List (Presentation × Timestamp)) (db : Db) :
    Later db (ps.foldl (Presentation.exec ports) db) ∧
      (db.Sound → (ps.foldl (Presentation.exec ports) db).Sound) := by
  induction ps generalizing db with
  | nil => exact ⟨.refl db, id⟩
  | cons p ps ih =>
    obtain ⟨hlater, hsound⟩ := presentation_later ports db p
    obtain ⟨hlater', hsound'⟩ := ih (Presentation.exec ports db p)
    exact ⟨hlater.trans hlater', fun hdb => hsound' (hsound hdb)⟩

/-- Presented elsewhere only, the tokens of a session that is over leave all tokens alone. -/
theorem SessionOver.no_refresh {ps : List (Presentation × Timestamp)} (h : SessionOver db r db')
    (hsound : db'.Sound) (hps : ∀ p ∈ ps, p.1.OfSession ports db r)
    (hno : ∀ p ∈ ps, ¬ p.1.IsRefresh) :
    (ps.foldl (Presentation.exec ports) db').refreshTokens = db'.refreshTokens := by
  induction ps generalizing db' with
  | nil => rfl
  | cons p ps ih =>
    obtain ⟨hlater, hsound'⟩ := presentation_later ports db' p
    have hsame : (Presentation.exec ports db' p).refreshTokens = db'.refreshTokens :=
      (h.presented hsound (hps p (List.mem_cons_self ..))).2 (hno p (List.mem_cons_self ..))
    rw [List.foldl_cons, ih (h.later hlater) (hsound' hsound)
      (fun q hq => hps q (List.mem_cons_of_mem _ hq))
      (fun q hq => hno q (List.mem_cons_of_mem _ hq))]
    exact hsame

/-- One of them presented to `RefreshAccessToken` ends every session of the user. -/
theorem SessionOver.refresh {ps : List (Presentation × Timestamp)} (h : SessionOver db r db')
    (hsound : db'.Sound) (hps : ∀ p ∈ ps, p.1.OfSession ports db r)
    (hrefresh : ∃ p ∈ ps, p.1.IsRefresh) {t : RefreshToken} (ht : t ∈ db'.refreshTokens.rows)
    (huser : t.userId = r.userId) :
    ∃ t', (ps.foldl (Presentation.exec ports) db').refreshTokens.get t.id = some t' ∧
      t'.revokedAt ≠ none := by
  obtain ⟨p, hp, hrefresh⟩ := hrefresh
  obtain ⟨pre, post, rfl⟩ := List.append_of_mem hp
  rw [List.foldl_append, List.foldl_cons]
  obtain ⟨hlater₁, hsound₁⟩ := presentations_later ports pre db'
  obtain ⟨hlater₂, -⟩ := presentation_later ports (pre.foldl (Presentation.exec ports) db') p
  obtain ⟨hlater₃, -⟩ := presentations_later ports post
    (Presentation.exec ports (pre.foldl (Presentation.exec ports) db') p)
  have hended : ∀ t ∈ (Presentation.exec ports (pre.foldl (Presentation.exec ports) db')
      p).refreshTokens.rows, t.userId = r.userId → t.revokedAt ≠ none :=
    ((h.later hlater₁).presented (hsound₁ hsound) (hps p hp)).1 hrefresh
  obtain ⟨t', ht', -, huser', -⟩ :=
    (hlater₁.trans hlater₂).tokens t.id t (Lib.Table.get_of_mem ht)
  have hrevoked := hended t' (Lib.Table.mem_of_get ht') (huser'.trans huser)
  obtain ⟨t'', ht'', -, -, hstays⟩ := hlater₃.tokens t.id t' ht'
  exact ⟨t'', ht'', hstays hrevoked⟩

end Presentations

/-! ### The user's other sessions -/

/-- A token of another session of the same user than the one that starts at `r`, active then. -/
def Db.ActiveElsewhere (db : Db) (r : RefreshToken) (moment : Timestamp) (t : RefreshToken) : Prop :=
  t ∈ db.refreshTokens.rows ∧ t.userId = r.userId ∧ ¬ db.Chain r t ∧ t.isActive moment

/-- From `db` to `db'`, those tokens stay active. -/
def OtherSessionsKept (db db' : Db) (r : RefreshToken) (moment : Timestamp) : Prop :=
  ∀ t, db.ActiveElsewhere r moment t →
    ∃ t', db'.refreshTokens.get t.id = some t' ∧ t'.isActive moment

/-- After a session was logged out, presenting its tokens leaves the user's other sessions active iff
    none is presented to `RefreshAccessToken`, or the user has no other active session. -/
theorem logout_frame_iff (ports : Ports) {db : Db} (hempty : db.refreshTokens = .empty)
    (before : List (Command × Timestamp)) {r token : RefreshToken} (raw : String)
    (claims : Option AccessTokenClaims) (expiresAt : Option Timestamp) (now : Timestamp)
    (hr : r ∈ (history ports db before).db.refreshTokens.rows)
    (htoken : (history ports db before).db.getByTokenHash (ports.hashToken raw) = some token)
    (hsession : (history ports db before).db.Chain r token) (hlive : token.revokedAt = none)
    (presentations : List (Presentation × Timestamp))
    (hpresented : ∀ p ∈ presentations, p.1.OfSession ports (history ports db before).db r)
    (moment : Timestamp) :
    OtherSessionsKept (history ports db before).db
        (presentations.foldl (Presentation.exec ports)
          ((Command.logout raw claims expiresAt).exec ports now (history ports db before).db).1)
        r moment ↔
      (∀ p ∈ presentations, ¬ p.1.IsRefresh) ∨
        ∀ t, ¬ (history ports db before).db.ActiveElsewhere r moment t := by
  have hstart : db.Sound := ⟨by simp [hempty, Lib.Table.empty], by simp [hempty, Lib.Table.empty]⟩
  have hsound := (history_inv ports hstart before).sound
  have hlinked : Linked (history ports db before).db.refreshTokens :=
    history_linked ports before ⟨db, []⟩ (by
      intro t ht
      simp [hempty, Lib.Table.empty] at ht)
  generalize (history ports db before).db = d at hr htoken hsession hpresented hsound hlinked ⊢
  have htokens := @logout_exec _ _ now _ _ claims expiresAt htoken hlive
  have hover := sessionOver_put hsound hlinked hr hsession hlive htokens
  have hsound' := exec_sound ports (.logout raw claims expiresAt) now hsound
  constructor
  · intro hkept
    by_contra hcon
    rw [not_or] at hcon
    have hrefresh : ∃ p ∈ presentations, p.1.IsRefresh := by simpa using hcon.1
    obtain ⟨t, ht⟩ := not_forall_not.mp hcon.2
    obtain ⟨hmem, huser, hother, -⟩ := id ht
    -- the token is there after the logout, and revoked after the refresh
    have hmem' : t ∈ ((Command.logout raw claims expiresAt).exec ports now d).1.refreshTokens.rows := by
      rw [htokens]
      refine Lib.Table.mem_put_rows.mpr (Or.inr ⟨hmem, fun hid => hother ?_⟩)
      rwa [List.inj_on_of_nodup_map d.refreshTokens.nodup hmem (getByTokenHash_some htoken).1 hid]
    obtain ⟨t', ht', hrevoked⟩ := hover.refresh hsound' hpresented hrefresh hmem' huser
    obtain ⟨t'', ht'', hactive⟩ := hkept t ht
    rw [ht'] at ht''
    cases ht''
    unfold RefreshToken.isActive at hactive
    rw [Bool.and_eq_true_iff, Option.isNone_iff_eq_none] at hactive
    exact hrevoked hactive.1
  · rintro (hno | hnone)
    · rintro t ⟨hmem, -, hother, hactive⟩
      refine ⟨t, ?_, hactive⟩
      rw [hover.no_refresh hsound' hpresented hno, htokens, Lib.Table.get_put_of_ne]
      · exact Lib.Table.get_of_mem hmem
      · intro hid
        refine hother ?_
        rwa [List.inj_on_of_nodup_map d.refreshTokens.nodup hmem (getByTokenHash_some htoken).1 hid]
    · exact fun t ht => absurd ht (hnone t)

/-! ### A logged-out token is presented -/

/-- Alice logs in on two devices. -/
def aliceDevices : List (Command × Timestamp) :=
  [(.login "alice@example.org" "secret" ⟨⟨10⟩, "first", "a"⟩, 0),
    (.login "alice@example.org" "secret" ⟨⟨11⟩, "second", "b"⟩, 1)]

/-- The sessions of the two devices. -/
def firstDevice : RefreshToken := RefreshToken.issue ⟨10⟩ ⟨1⟩ ⟨1⟩ "first" 0
def secondDevice : RefreshToken := RefreshToken.issue ⟨11⟩ ⟨1⟩ ⟨1⟩ "second" 1

/-- After the first device has logged out, its token is presented to `RefreshAccessToken`. -/
def replay : List (Presentation × Timestamp) :=
  [(.refreshAccessToken "first" ⟨⟨12⟩, "third", "c"⟩, 3)]

theorem replay_ofSession : ∀ p ∈ replay,
    p.1.OfSession tallyPorts (history tallyPorts aliceDb aliceDevices).db firstDevice := by
  intro p hp
  rw [List.mem_singleton.mp hp]
  exact ⟨firstDevice, .refl, rfl⟩

theorem logout_frame_iff_sample :
    OtherSessionsKept (history tallyPorts aliceDb aliceDevices).db
        (replay.foldl (Presentation.exec tallyPorts) ((Command.logout "first" none none).exec
          tallyPorts 2 (history tallyPorts aliceDb aliceDevices).db).1) firstDevice 3 ↔
      (∀ p ∈ replay, ¬ p.1.IsRefresh) ∨
        ∀ t, ¬ (history tallyPorts aliceDb aliceDevices).db.ActiveElsewhere firstDevice 3 t :=
  logout_frame_iff tallyPorts rfl aliceDevices "first" none none 2
    (List.mem_cons_self ..) (show _ = some firstDevice from rfl) .refl rfl replay replay_ofSession 3

/-- The second device's session ends with the replay. -/
theorem sibling_session_ended : ¬ ∀ (ports : Ports) (db : Db) (before : List (Command × Timestamp))
    (r token : RefreshToken) (raw : String) (claims : Option AccessTokenClaims)
    (expiresAt : Option Timestamp) (now : Timestamp)
    (presentations : List (Presentation × Timestamp)) (moment : Timestamp),
    db.refreshTokens = .empty → r ∈ (history ports db before).db.refreshTokens.rows →
    (history ports db before).db.getByTokenHash (ports.hashToken raw) = some token →
    (history ports db before).db.Chain r token → token.revokedAt = none →
    (∀ p ∈ presentations, p.1.OfSession ports (history ports db before).db r) →
    OtherSessionsKept (history ports db before).db
      (presentations.foldl (Presentation.exec ports)
        ((Command.logout raw claims expiresAt).exec ports now (history ports db before).db).1)
      r moment := by
  intro h
  have hkept := h tallyPorts aliceDb aliceDevices firstDevice firstDevice "first" none none 2 replay 3
    rfl (List.mem_cons_self ..) rfl .refl rfl replay_ofSession
  have hother : ¬ (history tallyPorts aliceDb aliceDevices).db.Chain firstDevice secondDevice := by
    intro hchain
    rcases Relation.ReflTransGen.cases_head hchain with heq | ⟨_, ⟨id, hid, _⟩, _⟩
    · exact absurd heq (by decide)
    · cases hid
  obtain ⟨t', ht', hactive⟩ := hkept secondDevice
    ⟨List.mem_cons_of_mem _ (List.mem_cons_self ..), rfl, hother, by decide⟩
  have hrevoked : some { secondDevice with revokedAt := some 3 } = some t' := ht'
  cases hrevoked
  cases hactive

end GeoRisk.Identity
